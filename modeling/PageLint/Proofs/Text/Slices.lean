import PageLint.Checker
import PageLint.Proofs.Text.Offsets

/-! # Slices

A slice of a text is asked for by offsets. It fails where one of them lies inside of a character or
behind the end, and it does not fail at the offset of a text that is known to stand there. -/

namespace PageLint

/-- Steps that may fail have an answer together where each of them has one. -/
theorem exists_of_bind_eq_ok {ε α β : Type} {x : Except ε α} {f : α → Except ε β} {b : β}
    (h : x >>= f = .ok b) : ∃ a, x = .ok a ∧ f a = .ok b := by
  cases x with
  | error e => cases h
  | ok a => exact ⟨a, rfl, h⟩

theorem exists_of_map_eq_ok {ε α β : Type} {x : Except ε α} {f : α → β} {b : β}
    (h : x.map f = .ok b) : ∃ a, x = .ok a ∧ f a = b := by
  cases x with
  | error e => cases h
  | ok a => exact ⟨a, rfl, Except.ok.inj h⟩

namespace Text

variable {t a b rest : Text} {n m : Nat}

/-! ## What stands at an offset -/

/-- From offset `n` to its end, `t` is `rest`. -/
def StandsAt (t : Text) (n : Nat) (rest : Text) : Prop :=
  ∃ front, t = front ++ rest ∧ size front = n

theorem standsAt_zero (t : Text) : t.StandsAt 0 t := ⟨[], rfl, rfl⟩

theorem standsAt_size (t : Text) : t.StandsAt t.size [] := ⟨t, (List.append_nil t).symm, rfl⟩

namespace StandsAt

theorem isCut (h : t.StandsAt n rest) : t.IsCut n := by
  obtain ⟨front, ht, hn⟩ := h
  exact ⟨front, rest, ht, hn⟩

theorem skip (h : t.StandsAt n (a ++ b)) : t.StandsAt (n + a.size) b := by
  obtain ⟨front, rfl, rfl⟩ := h
  exact ⟨front ++ a, by rw [List.append_assoc], size_append front a⟩

theorem skip_cons {c : Char} (h : t.StandsAt n (c :: b)) : t.StandsAt (n + c.utf8Size) b := by
  have hskip := h.skip (a := [c])
  simpa using hskip

theorem append (h : t.StandsAt n a) (b : Text) : StandsAt (t ++ b) n (a ++ b) := by
  obtain ⟨front, rfl, hn⟩ := h
  exact ⟨front, List.append_assoc _ _ _, hn⟩

theorem isRange (h : t.StandsAt n (a ++ b)) : t.IsRange n (n + a.size) where
  le := Nat.le_add_right _ _
  stop_le := h.skip.isCut.le_size
  start_cut := h.isCut
  stop_cut := h.skip.isCut

/-- A text may end earlier than the one it stands at the end of. -/
theorem suffix (h : t.StandsAt n (a ++ rest)) (hb : b <:+ a) :
    t.StandsAt (n + (a.size - b.size)) (b ++ rest) := by
  obtain ⟨front, rfl⟩ := hb
  rw [List.append_assoc] at h
  have hskip := h.skip
  have hsize : size (front ++ b) - size b = size front := by
    rw [size_append]
    omega
  rwa [hsize]

end StandsAt

theorem IsCut.isRange (hn : t.IsCut n) (hm : t.IsCut m) (h : n ≤ m) : t.IsRange n m :=
  ⟨h, hm.le_size, hn, hm⟩

/-- No cut falls inside a character. -/
theorem not_isCut_inside (a b : Text) {c : Char} {k : Nat} (hpos : 0 < k) (hlt : k < c.utf8Size) :
    ¬ IsCut (a ++ c :: b) (a.size + k) := by
  rintro ⟨front, back, hsplit, hsize⟩
  rcases List.append_eq_append_iff.mp hsplit with ⟨more, rfl, hmore⟩ | ⟨more, rfl, -⟩
  · rw [size_append] at hsize
    cases more with
    | nil =>
        rw [size_nil] at hsize
        omega
    | cons d more =>
        obtain ⟨rfl, -⟩ := List.cons.inj hmore
        rw [size_cons] at hsize
        omega
  · rw [size_append] at hsize
    omega

theorem isCut_size (t : Text) : t.IsCut t.size := ⟨t, [], by simp, rfl⟩

/-! ## Slices that can fail -/

/-- The text from an offset on. -/
def sliceFrom (t : Text) (n : Nat) : Except Fault Text :=
  if t.IsBoundary n then .ok (t.after n) else .error .splitCharacter

/-- The text in front of an offset. -/
def sliceTo (t : Text) (n : Nat) : Except Fault Text :=
  if t.IsBoundary n then .ok (t.before n) else .error .splitCharacter

/-- The text between two offsets. -/
def sliceBetween (t : Text) (n m : Nat) : Except Fault Text :=
  if m < n then .error .invertedRange
  else if t.IsBoundary n ∧ t.IsBoundary m then .ok (t.slice n m)
  else .error .splitCharacter

theorem StandsAt.sliceFrom_eq (h : t.StandsAt n rest) : t.sliceFrom n = .ok rest := by
  have hboundary := isBoundary_iff_isCut.mpr h.isCut
  obtain ⟨front, rfl, rfl⟩ := h
  rw [sliceFrom, ite_cond_eq_true _ _ (eq_true hboundary), after_size_append]

theorem sliceFrom_eq_error (h : ¬ t.IsCut n) : t.sliceFrom n = .error .splitCharacter :=
  if_neg fun hboundary => h (isBoundary_iff_isCut.mp hboundary)

theorem sliceTo_append (a b : Text) : (a ++ b).sliceTo a.size = .ok a := by
  have hboundary := isBoundary_iff_isCut.mpr ⟨a, b, rfl, rfl⟩
  rw [sliceTo, ite_cond_eq_true _ _ (eq_true hboundary), before_size_append]

theorem StandsAt.sliceBetween_eq (h : t.StandsAt n (a ++ b)) :
    t.sliceBetween n (n + a.size) = .ok a := by
  have hstart := isBoundary_iff_isCut.mpr h.isCut
  have hstop := isBoundary_iff_isCut.mpr h.skip.isCut
  have hle : ¬ n + a.size < n := Nat.not_lt.mpr (Nat.le_add_right _ _)
  obtain ⟨front, rfl, rfl⟩ := h
  have hsub : size front + size a - size front = size a := by omega
  rw [sliceBetween, ite_cond_eq_false _ _ (eq_false hle),
    ite_cond_eq_true _ _ (eq_true ⟨hstart, hstop⟩), slice, hsub, after_size_append,
    before_size_append]

end Text

end PageLint
