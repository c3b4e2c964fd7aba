import PageLint.Text.Basic

/-! # Offsets and the characters around them

A text is cut at an offset when it falls into two texts there, the first of which ends at the
offset. The offsets at which a text can be cut are its boundaries, and clamping finds the last of
them that does not exceed a given number. -/

namespace PageLint.Text

/-! ## Sizes -/

@[simp] theorem size_nil : size [] = 0 := rfl

@[simp] theorem size_cons (c : Char) (t : Text) : size (c :: t) = c.utf8Size + size t := rfl

@[simp] theorem size_append (a b : Text) : size (a ++ b) = size a + size b := by
  induction a with
  | nil => simp
  | cons c a ih => simp [ih, Nat.add_assoc]

theorem eq_nil_of_size_eq_zero {t : Text} (h : t.size = 0) : t = [] := by
  cases t with
  | nil => rfl
  | cons c t =>
      have hpos := Char.utf8Size_pos c
      rw [size_cons] at h
      omega

theorem utf8ByteSize_ofList (t : Text) : (String.ofList t).utf8ByteSize = t.size := by
  induction t with
  | nil => rfl
  | cons c t ih =>
      have hsplit : String.ofList (c :: t) = String.singleton c ++ String.ofList t := by
        rw [String.singleton_eq_ofList, ← String.ofList_append, List.singleton_append]
      rw [hsplit, String.utf8ByteSize_append, String.utf8ByteSize_singleton, ih, size_cons]

/-! ## Cuts -/

/-- `t` falls into two texts at offset `n`. -/
def IsCut (t : Text) (n : Nat) : Prop := ∃ front back, t = front ++ back ∧ size front = n

/-- The bytes from `start` up to `stop` are characters of `t`. -/
structure IsRange (t : Text) (start stop : Nat) : Prop where
  le : start ≤ stop
  stop_le : stop ≤ t.size
  start_cut : t.IsCut start
  stop_cut : t.IsCut stop

theorem isCut_zero (t : Text) : t.IsCut 0 := ⟨[], t, rfl, rfl⟩

theorem IsCut.le_size {t : Text} {n : Nat} (h : t.IsCut n) : n ≤ t.size := by
  obtain ⟨front, back, rfl, rfl⟩ := h
  simp

theorem isRange_append (a b c : Text) : IsRange (a ++ b ++ c) (size a) (size (a ++ b)) where
  le := by simp
  stop_le := by simp
  start_cut := ⟨a, b ++ c, by simp, rfl⟩
  stop_cut := ⟨a ++ b, c, rfl, rfl⟩

/-! ## Both sides of an offset -/

/-- Up to an offset behind `a`, all of `a` is in front. -/
theorem before_append_add (a b : Text) (k : Nat) :
    before (a ++ b) (size a + k) = a ++ before b k := by
  induction a with
  | nil => simp
  | cons c a ih =>
      have hle : c.utf8Size ≤ c.utf8Size + size a + k := by omega
      have hsub : c.utf8Size + size a + k - c.utf8Size = size a + k := by omega
      simp [before, hle, hsub, ih]

theorem after_append_add (a b : Text) (k : Nat) :
    after (a ++ b) (size a + k) = after b k := by
  induction a with
  | nil => simp
  | cons c a ih =>
      have hle : c.utf8Size ≤ c.utf8Size + size a + k := by omega
      have hsub : c.utf8Size + size a + k - c.utf8Size = size a + k := by omega
      simp [after, hle, hsub, ih]

@[simp] theorem before_zero (t : Text) : before t 0 = [] := by
  cases t with
  | nil => rfl
  | cons c t =>
      have hpos := c.utf8Size_pos
      simp [before, Nat.not_le.mpr hpos]

@[simp] theorem after_zero (t : Text) : after t 0 = t := by
  cases t with
  | nil => rfl
  | cons c t =>
      have hpos := c.utf8Size_pos
      simp [after, Nat.not_le.mpr hpos]

@[simp] theorem before_size_append (a b : Text) : before (a ++ b) (size a) = a := by
  simpa using before_append_add a b 0

@[simp] theorem after_size_append (a b : Text) : after (a ++ b) (size a) = b := by
  simpa using after_append_add a b 0

theorem before_append_after (t : Text) (n : Nat) : before t n ++ after t n = t := by
  induction t generalizing n with
  | nil => rfl
  | cons c t ih =>
      by_cases h : c.utf8Size ≤ n
      · simp [before, after, h, ih]
      · simp [before, after, h]

/-! ## Clamping -/

theorem size_before (t : Text) (n : Nat) : size (before t n) = clamp t n := by
  induction t generalizing n with
  | nil => rfl
  | cons c t ih =>
      by_cases h : c.utf8Size ≤ n
      · simp [before, clamp, h, ih]
      · simp [before, clamp, h]

theorem isCut_clamp (t : Text) (n : Nat) : t.IsCut (t.clamp n) :=
  ⟨before t n, after t n, (before_append_after t n).symm, size_before t n⟩

/-- Clamping leaves the offset of a cut as it is. -/
theorem clamp_of_isCut {t : Text} {n : Nat} (h : t.IsCut n) : t.clamp n = n := by
  obtain ⟨front, back, rfl, rfl⟩ := h
  rw [← size_before, before_size_append]

theorem isBoundary_iff_isCut {t : Text} {n : Nat} : t.IsBoundary n ↔ t.IsCut n := by
  refine ⟨?_, clamp_of_isCut⟩
  intro h
  have hcut := isCut_clamp t n
  rwa [h] at hcut

/-- What stands in front of a cut, and its size. -/
theorem IsCut.size_before_eq {t : Text} {n : Nat} (h : t.IsCut n) : size (before t n) = n := by
  rw [size_before, clamp_of_isCut h]

/-! ## Pieces between two cuts -/

/-- The text in front of a cut is made of the text in front of an earlier cut and of the piece
between the two. -/
theorem before_eq_append_slice {t : Text} {n m : Nat} (h : t.IsCut n) (hle : n ≤ m) :
    before t m = before t n ++ slice t n m := by
  obtain ⟨front, back, rfl, rfl⟩ := h
  obtain ⟨k, rfl⟩ := Nat.exists_eq_add_of_le hle
  simp [slice, before_append_add]

end PageLint.Text
