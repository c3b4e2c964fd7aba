import PageLint.Style.Mask
import PageLint.Proofs.Text.Slices
import PageLint.Proofs.Text.Trimming

/-! # The masked copy of a style sheet

The masked copy has a character of the same size for each character of the source, or blanks for all
bytes of it. So an offset of the copy at which a character other than white space begins or ends is
a cut of the source, while one between two blanks need not be. -/

namespace PageLint.Style

/-- `masked` has a character of the same size, or a blank for each byte, for each of `source`. -/
inductive Masks : Text → Text → Prop where
  | nil : Masks [] []
  | exchange {c d : Char} {source masked : Text} (size_eq : d.utf8Size = c.utf8Size)
      (rest : Masks source masked) : Masks (c :: source) (d :: masked)
  | blank (c : Char) {source masked : Text} (rest : Masks source masked) :
      Masks (c :: source) (blanked c ++ masked)

namespace Masks

variable {source masked front back : Text} {c : Char}

theorem keep (c : Char) (h : Masks source masked) : Masks (c :: source) (c :: masked) :=
  .exchange rfl h

theorem size_replicate (n : Nat) : Text.size (List.replicate n ' ') = n := by
  induction n with
  | zero => rfl
  | succ n ih =>
      have hone : ' '.utf8Size = 1 := rfl
      rw [List.replicate_succ, Text.size_cons, ih, hone, Nat.add_comm]

theorem size_blanked (c : Char) : (blanked c).size = c.utf8Size := by
  unfold blanked
  split
  · rename_i hc
    subst hc
    rfl
  · exact size_replicate _

theorem isBlank_of_mem_blanked {c d : Char} (h : d ∈ blanked c) : Text.isBlank d := by
  unfold blanked at h
  split at h
  · obtain rfl := List.mem_singleton.mp h
    decide
  · obtain rfl := List.eq_of_mem_replicate h
    decide

theorem size_eq (h : Masks source masked) : masked.size = source.size := by
  induction h with
  | nil => rfl
  | exchange size_eq _ ih => rw [Text.size_cons, Text.size_cons, size_eq, ih]
  | blank c _ ih => rw [Text.size_append, size_blanked, Text.size_cons, ih]

/-- A character of the copy that is no white space stands in the place of one of the source. -/
theorem exists_char (h : Masks source masked) (hsplit : masked = front ++ c :: back)
    (hc : Text.isBlank c = false) : ∃ (front' : Text) (d : Char) (back' : Text),
      source = front' ++ d :: back' ∧ front'.size = front.size ∧ d.utf8Size = c.utf8Size := by
  induction h generalizing front with
  | nil => simp at hsplit
  | @exchange a b source masked size_eq rest ih =>
      cases front with
      | nil =>
          obtain ⟨rfl, rfl⟩ := List.cons.inj hsplit
          exact ⟨[], a, source, rfl, rfl, size_eq.symm⟩
      | cons e front =>
          obtain ⟨rfl, hrest⟩ := List.cons.inj hsplit
          obtain ⟨front', d, back', hsource, hsize, hd⟩ := ih hrest
          refine ⟨a :: front', d, back', by rw [hsource, List.cons_append], ?_, hd⟩
          rw [Text.size_cons, Text.size_cons, hsize, size_eq]
  | @blank a source masked rest ih =>
      rcases List.append_eq_append_iff.mp hsplit with ⟨front, rfl, hrest⟩ | ⟨inside, hinside, hrest⟩
      · obtain ⟨front', d, back', hsource, hsize, hd⟩ := ih hrest
        refine ⟨a :: front', d, back', by rw [hsource, List.cons_append], ?_, hd⟩
        rw [Text.size_cons, Text.size_append, size_blanked, hsize]
      · cases inside with
        | nil =>
            have hbehind : masked = [] ++ c :: back := hrest.symm
            obtain ⟨front', d, back', hsource, hsize, hd⟩ := ih hbehind
            refine ⟨a :: front', d, back', by rw [hsource, List.cons_append], ?_, hd⟩
            rw [List.append_nil] at hinside
            rw [Text.size_cons, hsize, ← hinside, size_blanked]
            rfl
        | cons e inside =>
            obtain ⟨rfl, -⟩ := List.cons.inj hrest
            have hmem : c ∈ blanked a := by
              rw [hinside]
              simp
            cases hc.symm.trans (isBlank_of_mem_blanked hmem)

theorem isCut_of_beginsVisibly {n : Nat} {t : Text} (h : Masks source masked)
    (ht : masked.StandsAt n t) (hbegins : t.BeginsVisibly) : source.IsCut n := by
  obtain ⟨front, hmasked, rfl⟩ := ht
  obtain ⟨c, rest, rfl, hc⟩ := hbegins
  obtain ⟨front', d, back', hsource, hsize, -⟩ := h.exists_char hmasked hc
  exact ⟨front', d :: back', hsource, hsize⟩

theorem isCut_of_endsVisibly {n : Nat} {t : Text} (h : Masks source masked)
    (ht : masked.StandsAt n (t ++ back)) (hends : t.EndsVisibly) : source.IsCut (n + t.size) := by
  obtain ⟨front, hmasked, rfl⟩ := ht
  obtain ⟨word, c, rfl, hc⟩ := hends
  have hsplit : masked = (front ++ word) ++ c :: back := by simp [hmasked]
  obtain ⟨front', d, back', hsource, hsize, hd⟩ := h.exists_char hsplit hc
  refine ⟨front' ++ [d], back', by simp [hsource], ?_⟩
  simp only [Text.size_append, Text.size_cons, Text.size_nil] at hsize ⊢
  omega

/-- A piece of the copy that begins and ends with other characters than white space covers
characters of the source. -/
theorem isRange {n : Nat} {t : Text} (h : Masks source masked)
    (ht : masked.StandsAt n (t ++ back)) (hbegins : t.BeginsVisibly) (hends : t.EndsVisibly) :
    source.IsRange n (n + t.size) :=
  (h.isCut_of_beginsVisibly ht (hbegins.append back)).isRange (h.isCut_of_endsVisibly ht hends)
    (Nat.le_add_right _ _)

end Masks

/-! ## Characters of the copy -/

/-- `masked` has the characters of `source`, with blanks for all bytes of some of them and
parentheses for some braces. -/
inductive IsCopy : (source masked : Text) → Prop where
  | nil : IsCopy [] []
  | keep (c : Char) {source masked : Text} (rest : IsCopy source masked) :
      IsCopy (c :: source) (c :: masked)
  | blank (c : Char) {source masked : Text} (rest : IsCopy source masked) :
      IsCopy (c :: source) (blanked c ++ masked)
  | brace {c d : Char} {source masked : Text} (h : c = '{' ∧ d = '(' ∨ c = '}' ∧ d = ')')
      (rest : IsCopy source masked) : IsCopy (c :: source) (d :: masked)

namespace IsCopy

variable {source masked a b front back t : Text} {c : Char} {n : Nat}

theorem append (h : IsCopy a b) (h' : IsCopy source masked) :
    IsCopy (a ++ source) (b ++ masked) := by
  induction h with
  | nil => exact h'
  | keep c _ ih => exact .keep c ih
  | blank c _ ih =>
      rw [List.append_assoc]
      exact .blank c ih
  | brace hbrace _ ih => exact .brace hbrace ih

theorem refl (t : Text) : IsCopy t t := by
  induction t with
  | nil => exact .nil
  | cons c t ih => exact .keep c ih

theorem blanks (t : Text) : IsCopy t (t.flatMap blanked) := by
  induction t with
  | nil => exact .nil
  | cons c t ih => exact .blank c ih

theorem masks (h : IsCopy source masked) : Masks source masked := by
  induction h with
  | nil => exact .nil
  | keep c _ ih => exact .keep c ih
  | blank c _ ih => exact .blank c ih
  | @brace c d _ _ hbrace _ ih =>
      have hsize : d.utf8Size = c.utf8Size := by
        obtain ⟨rfl, rfl⟩ | ⟨rfl, rfl⟩ := hbrace <;> rfl
      exact .exchange hsize ih

/-- The copy and the source fall apart together around a character that is no white space. -/
theorem exists_split (h : IsCopy source masked) (hsplit : masked = front ++ c :: back)
    (hc : Text.isBlank c = false) : ∃ (front' : Text) (d : Char) (back' : Text),
      source = front' ++ d :: back' ∧ IsCopy front' front ∧ IsCopy [d] [c] ∧ IsCopy back' back := by
  induction h generalizing front with
  | nil => simp at hsplit
  | @keep a source masked rest ih =>
      cases front with
      | nil =>
          obtain ⟨rfl, rfl⟩ := List.cons.inj hsplit
          exact ⟨[], a, source, rfl, .nil, .keep a .nil, rest⟩
      | cons e front =>
          obtain ⟨rfl, hrest⟩ := List.cons.inj hsplit
          obtain ⟨front', d, back', rfl, hfront, hd, hback⟩ := ih hrest
          exact ⟨a :: front', d, back', rfl, .keep a hfront, hd, hback⟩
  | @brace a d source masked hbrace rest ih =>
      cases front with
      | nil =>
          obtain ⟨rfl, rfl⟩ := List.cons.inj hsplit
          exact ⟨[], a, source, rfl, .nil, .brace hbrace .nil, rest⟩
      | cons e front =>
          obtain ⟨rfl, hrest⟩ := List.cons.inj hsplit
          obtain ⟨front', d', back', rfl, hfront, hd, hback⟩ := ih hrest
          exact ⟨a :: front', d', back', rfl, .brace hbrace hfront, hd, hback⟩
  | @blank a source masked rest ih =>
      rcases List.append_eq_append_iff.mp hsplit with ⟨front, rfl, hrest⟩ | ⟨inside, hinside, hrest⟩
      · obtain ⟨front', d, back', rfl, hfront, hd, hback⟩ := ih hrest
        exact ⟨a :: front', d, back', rfl, .blank a hfront, hd, hback⟩
      · cases inside with
        | nil =>
            have hbehind : masked = [] ++ c :: back := hrest.symm
            obtain ⟨front', d, back', rfl, hfront, hd, hback⟩ := ih hbehind
            rw [List.append_nil] at hinside
            have hblank := IsCopy.blank a hfront
            rw [List.append_nil, hinside] at hblank
            exact ⟨a :: front', d, back', rfl, hblank, hd, hback⟩
        | cons e inside =>
            obtain ⟨rfl, -⟩ := List.cons.inj hrest
            have hmem : c ∈ blanked a := by
              rw [hinside]
              simp
            cases hc.symm.trans (Masks.isBlank_of_mem_blanked hmem)

/-- A piece of the copy that begins and ends with other characters than white space is the copy of a
piece of the source. -/
theorem piece (h : IsCopy source masked) (hstands : masked.StandsAt n (t ++ back))
    (hbegins : t.BeginsVisibly) (hends : t.EndsVisibly) :
    IsCopy (source.slice n (n + t.size)) t := by
  obtain ⟨front, hmasked, rfl⟩ := hstands
  obtain ⟨c, rest, rfl, hc⟩ := hbegins
  obtain ⟨front', d, rest', rfl, hfront, hd, hrest⟩ := h.exists_split hmasked hc
  have htail : IsCopy (d :: rest') (c :: (rest ++ back)) := hd.append hrest
  obtain ⟨inside, e, hinside, he⟩ := hends
  rw [← List.cons_append, hinside, List.append_assoc, List.singleton_append] at htail
  obtain ⟨inside', e', back', hsplit, hfirst, hlast, -⟩ := htail.exists_split rfl he
  have hpiece : IsCopy (inside' ++ [e']) (c :: rest) := hinside ▸ hfirst.append hlast
  have hslice : Text.slice (front' ++ d :: rest') front.size (front.size + Text.size (c :: rest)) =
      inside' ++ [e'] := by
    rw [Text.slice, ← hfront.masks.size_eq.symm, Text.after_size_append, Nat.add_sub_cancel_left,
      hsplit, hpiece.masks.size_eq, ← List.singleton_append, ← List.append_assoc,
      Text.before_size_append]
  rwa [hslice]

end IsCopy

end PageLint.Style
