import PageLint.Markup.Token
import PageLint.Proofs.Text.Ascii
import PageLint.Proofs.Text.Offsets

/-! # Tag names

A tag name is a run of ASCII characters, of one byte each, and folding its case gives a tag name of
the same size again. -/

namespace PageLint.Markup

/-! ## Name characters -/

theorem toNat_lt_of_isNameChar {c : Char} (h : isNameChar c) : c.toNat < 128 := by
  simp only [isNameChar, Bool.or_eq_true, decide_eq_true_eq] at h
  rcases h with ((((h | h) | rfl) | rfl) | rfl) | rfl
  · exact Text.toNat_lt_of_isAsciiLetter h
  · exact Text.toNat_lt_of_isAsciiDigit h
  all_goals decide

theorem isNameChar_of_isNameStart {c : Char} (h : isNameStart c) : isNameChar c := by
  unfold isNameStart at h
  simp [isNameChar, h]

theorem isNameChar_toLower {c : Char} (h : isNameChar c) : isNameChar c.toLower :=
  Text.forall_ascii (P := fun c => isNameChar c → isNameChar c.toLower) (by decide)
    (toNat_lt_of_isNameChar h) h

theorem isNameStart_toLower {c : Char} (h : isNameStart c) : isNameStart c.toLower :=
  Text.forall_ascii (P := fun c => isNameStart c → isNameStart c.toLower) (by decide)
    (toNat_lt_of_isNameChar (isNameChar_of_isNameStart h)) h

theorem toLower_toLower {c : Char} (h : isNameChar c) : c.toLower.toLower = c.toLower :=
  Text.forall_ascii (P := fun c => c.toLower.toLower = c.toLower) (by decide)
    (toNat_lt_of_isNameChar h)

theorem utf8Size_of_isNameChar {c : Char} (h : isNameChar c) : c.utf8Size = 1 := by
  have hlt := toNat_lt_of_isNameChar h
  rw [Char.utf8Size_eq_one_iff, UInt32.le_iff_toNat_le]
  exact Nat.le_of_lt_succ hlt

/-- The characters of names take one byte each. -/
theorem size_eq_length {t : Text} (h : ∀ c ∈ t, isNameChar c) : t.size = t.length := by
  induction t with
  | nil => rfl
  | cons c t ih =>
      have hc := utf8Size_of_isNameChar (h c (by simp))
      have hrest := ih fun d hd => h d (by simp [hd])
      simp only [Text.size_cons, List.length_cons]
      omega

/-! ## Names -/

/-- A tag name as it is written. -/
structure Name where
  first : Char
  rest : Text
  first_start : isNameStart first
  rest_chars : rest.all isNameChar

namespace Name

def text (name : Name) : Text := name.first :: name.rest

/-- The name with its letters in lower case, as elements are called. -/
def folded (name : Name) : String := foldName name.text

/-- The name written in lower case. -/
def lower (name : Name) : Name where
  first := name.first.toLower
  rest := name.rest.map Char.toLower
  first_start := isNameStart_toLower name.first_start
  rest_chars := by
    refine List.all_eq_true.mpr fun c hc => ?_
    obtain ⟨d, hd, rfl⟩ := List.mem_map.mp hc
    exact isNameChar_toLower (List.all_eq_true.mp name.rest_chars d hd)

theorem isNameChar_of_mem_text {name : Name} {c : Char} (h : c ∈ name.text) : isNameChar c := by
  rcases List.mem_cons.mp h with rfl | h
  · exact isNameChar_of_isNameStart name.first_start
  · exact List.all_eq_true.mp name.rest_chars c h

theorem size_text (name : Name) : name.text.size = name.text.length :=
  size_eq_length fun _ hc => isNameChar_of_mem_text hc

theorem text_lower (name : Name) : name.lower.text = name.text.map Char.toLower := rfl

theorem size_text_lower (name : Name) : name.lower.text.size = name.text.size := by
  rw [size_text, size_text, text_lower, List.length_map]

theorem folded_toList (name : Name) : name.folded.toList = name.lower.text := by
  rw [folded, foldName, String.toList_ofList]
  rfl

@[simp] theorem utf8ByteSize_folded (name : Name) : name.folded.utf8ByteSize = name.text.size := by
  rw [folded, foldName, Text.utf8ByteSize_ofList]
  exact name.size_text_lower

@[simp] theorem folded_lower (name : Name) : name.lower.folded = name.folded := by
  have htwice : name.lower.text.map Char.toLower = name.text.map Char.toLower := by
    rw [text_lower, List.map_map]
    exact List.map_congr_left fun c hc => toLower_toLower (isNameChar_of_mem_text hc)
  exact congrArg String.ofList htwice

end Name

end PageLint.Markup
