import PageLint.Proofs.Style.Color

/-! # Replacements for values

What is suggested in place of a value is accepted there: a named color as it stands in the table,
and a number with the unit that it lacks. -/

namespace PageLint.Style

/-! ## Colors -/

/-- The table has its names in lower case. -/
theorem lower_of_mem_names : ∀ name ∈ Color.names, Text.lower name.toList = name.toList := by
  decide +kernel

theorem checkColor_of_mem_names {name : String} (h : name ∈ Color.names) :
    checkColor name.toList = .valid := by
  have hlisted : (Color.keywords ++ Color.names).contains
      (String.ofList (Text.lower name.toList)) = true := by
    rw [lower_of_mem_names name h, String.ofList_toList, List.contains_iff_mem]
    exact List.mem_append_right _ h
  unfold checkColor
  dsimp only
  rw [hlisted, Bool.true_or, if_pos rfl]

/-- No color is suggested but the closest named one. -/
theorem checkColor_cases (value : Text) :
    checkColor value = .valid ∨ checkColor value = .invalid none ∨
      checkColor value = .invalid ((Color.nearest? (Text.lower value)).map (·.toList)) := by
  unfold checkColor
  dsimp only
  split
  · exact .inl rfl
  · split
    · split
      · exact .inl rfl
      · exact .inr (.inl rfl)
    · split
      · exact .inr (.inr rfl)
      · exact .inr (.inl rfl)

theorem checkColor_replacement {value replacement : Text}
    (h : checkColor value = .invalid (some replacement)) : checkColor replacement = .valid := by
  rcases checkColor_cases value with hcheck | hcheck | hcheck
  · cases hcheck.symm.trans h
  · cases hcheck.symm.trans h
  · rw [hcheck, Verdict.invalid.injEq, Option.map_eq_some_iff] at h
    obtain ⟨name, hname, rfl⟩ := h
    obtain ⟨⟨earlier, later, hsplit, -⟩, -⟩ := Color.nearest?_eq_some_iff.mp hname
    exact checkColor_of_mem_names (by simp [hsplit])

/-! ## Lengths -/

section

variable {t unit : Text}

/-- Digits end in front of a unit. -/
theorem dropWhile_isDigit_append (h : t.dropWhile Text.isDigit = [])
    (hunit : ∀ c ∈ unit.head?, Text.isDigit c = false) :
    (t ++ unit).dropWhile Text.isDigit = unit := by
  rw [List.dropWhile_append_of_pos (List.dropWhile_eq_nil_iff.mp h)]
  cases unit with
  | nil => rfl
  | cons c unit => rw [List.dropWhile_cons_of_neg (by simpa using hunit c rfl)]

/-- A unit can be put behind a number that has none. -/
theorem dropDigits?_append (h : dropDigits? t = some [])
    (hunit : ∀ c ∈ unit.head?, Text.isDigit c = false ∧ c ≠ '.') :
    dropDigits? (t ++ unit) = some unit := by
  have hdigit : ∀ c ∈ unit.head?, Text.isDigit c = false := fun c hc => (hunit c hc).1
  cases t with
  | nil => cases h
  | cons c rest =>
      unfold dropDigits? at h ⊢
      rw [List.cons_append]
      dsimp only at h ⊢
      split at h
      · rename_i hc
        rw [if_pos hc, ← List.cons_append]
        split at h
        · rename_i fraction hpoint
          rw [List.dropWhile_append, hpoint]
          exact congrArg some (dropWhile_isDigit_append (Option.some.inj h) hdigit)
        · have hnone := Option.some.inj h
          rw [dropWhile_isDigit_append hnone hdigit]
          split
          · exact absurd rfl (hunit '.' rfl).2
          · rfl
      · rename_i hc
        split at h
        · rename_i hpoint
          rw [Bool.and_eq_true] at hpoint
          have hhead : (rest ++ unit).head?.any Text.isDigit = true := by
            cases rest with
            | nil => cases hpoint.2
            | cons d rest => exact hpoint.2
          rw [if_neg hc, hpoint.1, hhead, Bool.and_self, if_pos rfl]
          exact congrArg some (dropWhile_isDigit_append (Option.some.inj h) hdigit)
        · cases h

theorem dropNumber?_append (h : dropNumber? t = some [])
    (hunit : ∀ c ∈ unit.head?, Text.isDigit c = false ∧ c ≠ '.') :
    dropNumber? (t ++ unit) = some unit := by
  unfold dropNumber? at h
  split at h
  · exact dropDigits?_append h hunit
  · exact dropDigits?_append h hunit
  · rename_i hplus hminus
    have hne : t ≠ [] := by
      rintro rfl
      cases h
    obtain ⟨c, rest, rfl⟩ := List.exists_cons_of_ne_nil hne
    have hsign : dropNumber? (c :: rest ++ unit) = dropDigits? (c :: rest ++ unit) := by
      unfold dropNumber?
      split
      · rename_i u hcons
        obtain ⟨rfl, -⟩ := List.cons.inj hcons
        exact absurd rfl (hplus rest)
      · rename_i u hcons
        obtain ⟨rfl, -⟩ := List.cons.inj hcons
        exact absurd rfl (hminus rest)
      · rfl
    rw [hsign]
    exact dropDigits?_append h hunit

theorem isMeasure_append (h : isNumber t = true) : isMeasure (t ++ "px".toList) = true := by
  have hunit : ∀ c ∈ "px".toList.head?, Text.isDigit c = false ∧ c ≠ '.' := by
    rintro c ⟨⟩
    exact ⟨by decide +kernel, by decide⟩
  have hrest := dropNumber?_append (beq_iff_eq.mp h) hunit
  unfold isMeasure
  rw [hrest]
  decide

end

theorem checkLength_of_isMeasure {value : Text} (h : isMeasure value = true) :
    checkLength value = .valid := by
  unfold checkLength
  rw [h, Bool.or_true, Bool.true_or, if_pos rfl]

theorem checkLength_replacement {value replacement : Text}
    (h : checkLength value = .invalid (some replacement)) : checkLength replacement = .valid := by
  unfold checkLength at h
  split at h
  · cases h
  · split at h
    · rename_i hnumber
      split at h
      · cases h
      · obtain rfl := Option.some.inj (Verdict.invalid.inj h)
        exact checkLength_of_isMeasure (isMeasure_append hnumber)
    · cases h

/-! ## Both kinds of values -/

/-- What is suggested in place of a value is accepted. -/
theorem ValueKind.check_replacement (kind : ValueKind) {value replacement : Text}
    (h : kind.check value = .invalid (some replacement)) : kind.check replacement = .valid := by
  cases kind with
  | color => exact checkColor_replacement h
  | length => exact checkLength_replacement h

/-- A misspelt color, and a number with a sign, a point in front and a digit of another script. -/
theorem ValueKind.check_replacement_unitless :
    (color.check "Reed".toList = .invalid (some "red".toList) ∧
        color.check "red".toList = .valid) ∧
      length.check "-.٣".toList = .invalid (some "-.٣px".toList) ∧
        length.check "-.٣px".toList = .valid := by
  have hcolor : color.check "Reed".toList = .invalid (some "red".toList) := by decide +kernel
  have hlength : length.check "-.٣".toList = .invalid (some "-.٣px".toList) := by decide +kernel
  exact ⟨⟨hcolor, ValueKind.check_replacement .color hcolor⟩, hlength,
    ValueKind.check_replacement .length hlength⟩

end PageLint.Style
