import PageLint.Text.Classes

/-! # ASCII characters

The classes of ASCII characters lie in front of code point 128, so that a fact about them is one
about few characters. -/

namespace PageLint.Text

/-- What holds of the ASCII characters one by one holds of every ASCII character. -/
theorem forall_ascii {P : Char → Prop} (h : ∀ n < 128, P (Char.ofNat n)) {c : Char}
    (hc : c.toNat < 128) : P c := by
  have hp := h c.toNat hc
  rwa [Char.ofNat_toNat] at hp

theorem toNat_lt_of_le {c last : Char} (h : c ≤ last) (hlast : last.toNat < 128) :
    c.toNat < 128 := by
  rw [Char.le_def, UInt32.le_iff_toNat_le] at h
  exact Nat.lt_of_le_of_lt h hlast

theorem toNat_lt_of_isAsciiLetter {c : Char} (h : isAsciiLetter c) : c.toNat < 128 := by
  simp only [isAsciiLetter, Bool.or_eq_true, Bool.and_eq_true, decide_eq_true_eq] at h
  rcases h with h | h
  · exact toNat_lt_of_le h.2 (by decide)
  · exact toNat_lt_of_le h.2 (by decide)

theorem toNat_lt_of_isAsciiDigit {c : Char} (h : isAsciiDigit c) : c.toNat < 128 := by
  simp only [isAsciiDigit, Bool.and_eq_true, decide_eq_true_eq] at h
  exact toNat_lt_of_le h.2 (by decide)

theorem toNat_lt_of_isAsciiBlank {c : Char} (h : isAsciiBlank c) : c.toNat < 128 := by
  simp only [isAsciiBlank, Bool.or_eq_true, Bool.and_eq_true, decide_eq_true_eq] at h
  rcases h with rfl | h
  · decide
  · exact toNat_lt_of_le h.2 (by decide)

end PageLint.Text
