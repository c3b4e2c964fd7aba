import PageLint.Proofs.Style.Mask
import PageLint.Proofs.Text.Names
import PageLint.Proofs.Text.Trimming
import PageLint.Style.Symbol

/-! # Symbols of a masked style sheet

A symbol stands at its offset, alone or with its mark. Its characters are no white space, so it
covers characters of the source as well. -/

namespace PageLint.Style.Symbol

variable {source masked t : Text}

/-! ## Names -/

/-- The text is not empty and holds characters of names only. -/
structure IsName (t : Text) : Prop where
  nonempty : t ≠ []
  chars : ∀ c ∈ t, isNameChar c

theorem isBlank_of_isNameChar {c : Char} (h : isNameChar c) : Text.isBlank c = false := by
  simp only [isNameChar, Bool.or_eq_true, decide_eq_true_eq] at h
  rcases h with h | rfl
  · exact Text.isBlank_of_isWord h
  · decide

theorem isNameChar_of_isNameStart {c : Char} (h : isNameStart c) : isNameChar c := by
  simp only [isNameStart, Bool.or_eq_true, decide_eq_true_eq] at h
  rcases h with h | rfl
  · simp [isNameChar, Text.isWord, h]
  · decide

theorem IsName.isBlank_of_mem (h : IsName t) {mark : Text}
    (hmark : ∀ c ∈ mark, Text.isBlank c = false) : ∀ c ∈ mark ++ t, Text.isBlank c = false := by
  intro c hc
  rcases List.mem_append.mp hc with hc | hc
  · exact hmark c hc
  · exact isBlank_of_isNameChar (h.chars c hc)

theorem isName_takeWhile (h : t.head?.any isNameChar) : IsName (t.takeWhile isNameChar) where
  nonempty := by
    cases t with
    | nil => cases h
    | cons c t =>
        have hc : isNameChar c = true := h
        simp [hc]
  chars := fun c hc => List.all_eq_true.mp List.all_takeWhile c hc

theorem isName_of_looseName? {name rest : Text} (h : looseName? t = some (name, rest)) :
    t = name ++ rest ∧ IsName name := by
  unfold looseName? at h
  split at h
  · rename_i hhead
    obtain ⟨rfl, rfl⟩ := Prod.mk.inj (Option.some.inj h)
    exact ⟨List.takeWhile_append_dropWhile.symm, isName_takeWhile hhead⟩
  · cases h

/-- A name that starts with a letter is a name. -/
theorem looseName?_of_name? {found : Text × Text} (h : name? t = some found) :
    looseName? t = some found := by
  unfold name? at h
  split at h
  · rename_i hhead
    have hloose : t.head?.any isNameChar := by
      cases t with
      | nil => cases hhead
      | cons c t => exact isNameChar_of_isNameStart hhead
    rw [looseName?, ite_cond_eq_true _ _ (eq_true hloose)]
    exact h
  · cases h

/-! ## Patterns -/

theorem exists_of_marked {mark : Char} {before : Option Char} {name : Text} {len : Nat}
    (h : marked mark before t = some (name, len)) :
    ∃ rest, t = (mark :: name) ++ rest ∧ IsName name := by
  simp only [marked, Option.bind_eq_bind, Option.bind_eq_some_iff, Text.took, Option.pure_def,
    Option.some.injEq, Prod.mk.injEq, Prod.exists] at h
  obtain ⟨behind, hmark, name, rest, hname, rfl, -⟩ := h
  obtain ⟨rfl, hvalid⟩ := isName_of_looseName? (looseName?_of_name? hname)
  exact ⟨rest, (Text.eq_append_of_dropWord? hmark).trans (by simp), hvalid⟩

theorem exists_of_ruleName {rule : String} {mark : Text} {before : Option Char}
    {front name : Text} {len : Nat} (h : ruleName rule mark before t = some ((front, name), len)) :
    ∃ head rest, front = head ++ mark ∧ t = head ++ (mark ++ (name ++ rest)) ∧ IsName name := by
  simp only [ruleName, Option.bind_eq_bind, Option.bind_eq_some_iff, Text.took, Option.pure_def,
    Option.some.injEq, Prod.mk.injEq, Prod.exists] at h
  obtain ⟨behind, hrule, spaced, hblanks, named, hmark, name, rest, hname, ⟨rfl, rfl⟩, -⟩ := h
  obtain ⟨rfl, hvalid⟩ := isName_of_looseName? hname
  obtain ⟨run, -, -, rfl⟩ := Text.exists_of_dropBlanks? hblanks
  obtain rfl := Text.eq_append_of_dropWord? hmark
  have ht : t = (rule.toList ++ run) ++ (mark ++ (name ++ rest)) := by
    rw [Text.eq_append_of_dropWord? hrule, List.append_assoc]
  refine ⟨rule.toList ++ run, rest, ?_, ht, hvalid⟩
  have hlength : t.length - (name ++ rest).length = (rule.toList ++ run ++ mark).length := by
    simp only [ht, List.length_append]
    omega
  rw [hlength, ht, ← List.append_assoc, List.take_left]

/-! ## Places -/

/-- The mark belongs to a use that is found by it. -/
theorem exists_of_mem_uses {mark : Char} {n : Nat} {s : Symbol} (h : s ∈ uses mark n t) :
    ∃ front rest, t = front ++ ((mark :: s.name) ++ rest) ∧ IsName s.name ∧
      s.start = n + front.size ∧ s.stop = s.start + Text.size (mark :: s.name) := by
  obtain ⟨⟨k, name⟩, hmem, rfl⟩ := List.mem_map.mp h
  obtain ⟨front, behind, before, len, rfl, rfl, hmatch⟩ := Text.exists_of_mem_matchesFrom hmem
  obtain ⟨rest, rfl, hname⟩ := exists_of_marked hmatch
  exact ⟨front, rest, rfl, hname, rfl, rfl⟩

/-- The mark stands in front of a symbol that is found by its rule. -/
theorem exists_of_mem_ruleUses {rule : String} {mark : Text} {s : Symbol}
    (h : s ∈ ruleUses rule mark t) :
    ∃ n rest, t.StandsAt n (mark ++ (s.name ++ rest)) ∧ IsName s.name ∧
      s.start = n + mark.size ∧ s.stop = n + mark.size + s.name.size := by
  obtain ⟨⟨k, front, name⟩, hmem, rfl⟩ := List.mem_map.mp h
  obtain ⟨front', behind, before, len, rfl, rfl, hmatch⟩ := Text.exists_of_mem_matchesFrom hmem
  obtain ⟨head, rest, rfl, rfl, hname⟩ := exists_of_ruleName hmatch
  refine ⟨front'.size + head.size, rest, ?_, hname, ?_, ?_⟩
  · exact ⟨front' ++ head, by rw [List.append_assoc], Text.size_append _ _⟩
  · simp only [Text.size_append, Nat.zero_add, Nat.add_assoc]
  · simp only [Text.size_append, Nat.zero_add, Nat.add_assoc]

/-! ## Characters of the source -/

/-- A name with its mark covers characters of the source. -/
theorem isRange_of_isName {n : Nat} {mark name back : Text} (hmasks : Masks source masked)
    (ht : masked.StandsAt n ((mark ++ name) ++ back)) (hname : IsName name)
    (hmark : ∀ c ∈ mark, Text.isBlank c = false) :
    source.IsRange n (n + Text.size (mark ++ name)) := by
  have hne : mark ++ name ≠ [] := List.append_ne_nil_of_right_ne_nil _ hname.nonempty
  have hvisible := hname.isBlank_of_mem hmark
  exact hmasks.isRange ht (Text.beginsVisibly_of_forall hne hvisible)
    (Text.endsVisibly_of_forall hne hvisible)

theorem isRange_of_mem_uses {mark : Char} {n : Nat} {back : Text} {s : Symbol}
    (hmasks : Masks source masked) (ht : masked.StandsAt n (t ++ back))
    (hmark : Text.isBlank mark = false) (h : s ∈ uses mark n t) :
    source.IsRange s.start s.stop := by
  obtain ⟨front, rest, rfl, hname, hstart, hstop⟩ := exists_of_mem_uses h
  have hstands : masked.StandsAt s.start (([mark] ++ s.name) ++ (rest ++ back)) := by
    rw [hstart]
    rw [List.append_assoc, List.append_assoc] at ht
    exact ht.skip
  rw [hstop]
  exact isRange_of_isName hmasks hstands hname (by simpa using hmark)

theorem isRange_of_mem_ruleUses {rule : String} {mark : Text} {s : Symbol}
    (hmasks : Masks source masked) (h : s ∈ ruleUses rule mark masked) :
    source.IsRange s.start s.stop := by
  obtain ⟨n, rest, ht, hname, hstart, hstop⟩ := exists_of_mem_ruleUses h
  have hstands : masked.StandsAt (n + mark.size) (([] ++ s.name) ++ rest) := ht.skip
  rw [hstop, hstart]
  exact isRange_of_isName hmasks hstands hname (by simp)

theorem isRange_of_mem_undefinedPlaceholders {s : Symbol} (hmasks : Masks source masked)
    (h : s ∈ undefinedPlaceholders masked) : source.IsRange s.start s.stop := by
  obtain ⟨s, hmem, rfl⟩ := List.mem_map.mp h
  obtain ⟨n, rest, ht, hname, hstart, hstop⟩ := exists_of_mem_ruleUses (List.mem_filter.mp hmem).1
  have hone : Text.size ['%'] = 1 := rfl
  have hsub : s.start - 1 = n := by omega
  have hend : s.stop = n + Text.size (['%'] ++ s.name) := by
    rw [hstop, Text.size_append, Nat.add_assoc]
  have hmark : ∀ c ∈ ['%'], Text.isBlank c = false := by
    intro c hc
    obtain rfl := List.mem_singleton.mp hc
    decide
  rw [← List.append_assoc] at ht
  rw [hsub, hend]
  exact isRange_of_isName hmasks ht hname hmark

end PageLint.Style.Symbol
