import PageLint.Style.Check
import PageLint.Proofs.Engine.Exactness
import PageLint.Proofs.Style.Declarations
import PageLint.Proofs.Style.Masking
import PageLint.Proofs.Style.Symbols

/-! # Spans in a style sheet

Every diagnostic of a style sheet, and every edit that it suggests, covers characters of the style
sheet, although all but those of comments are found in the masked copy. -/

namespace PageLint.Style

variable {source masked : Text}

theorem Issue.liesIn_report (i : Issue) {start stop : Nat} {edits : List Edit}
    (h : source.IsRange start stop) (hedits : ∀ e ∈ edits, e.LiesIn source) :
    (i.report start stop edits).LiesIn source :=
  .of_report rfl rfl rfl h hedits

/-! ## Comments -/

theorem isCut_of_openComment? {start depth : Nat} (h : openComment? source = some (start, depth)) :
    source.IsCut start := by
  obtain ⟨-, -, hsound⟩ := masking_mask source
  unfold openComment? at h
  split at h
  · rename_i hmode
    obtain ⟨rfl, rfl⟩ := Prod.mk.inj (Option.some.inj h)
    exact hsound.comment _ _ hmode
  · cases h

theorem liesIn_commentIssues (source : Text) : ∀ d ∈ commentIssues source, d.LiesIn source := by
  intro d hd
  unfold commentIssues at hd
  split at hd
  · cases hd
  · rename_i start depth hopen
    obtain rfl := List.mem_singleton.mp hd
    have hstart := isCut_of_openComment? hopen
    exact Issue.liesIn_report _ (hstart.isRange (Text.isCut_size source) hstart.le_size)
      (by simpa using Edit.liesIn_insert_end source _)

/-! ## Braces -/

/-- A brace stands at the offset. -/
def IsBraceAt (masked : Text) (n : Nat) : Prop :=
  ∃ c back, (c = '{' ∨ c = '}') ∧ masked.StandsAt n ([c] ++ back)

theorem IsBraceAt.isRange {n : Nat} (h : IsBraceAt masked n) (hmasks : Masks source masked) :
    source.IsRange n (n + 1) := by
  obtain ⟨c, back, hbrace, hstands⟩ := h
  obtain ⟨hsize, hblank⟩ : Text.size [c] = 1 ∧ Text.isBlank c = false := by
    rcases hbrace with rfl | rfl <;> decide
  have hrange := hmasks.isRange hstands ⟨c, [], rfl, hblank⟩ ⟨[], c, rfl, hblank⟩
  rwa [hsize] at hrange

theorem isBraceAt_bracesFrom {n : Nat} {stack : List Nat} {t : Text} (h : masked.StandsAt n t)
    (hstack : ∀ k ∈ stack, IsBraceAt masked k) :
    (∀ k ∈ (bracesFrom n stack t).strays, IsBraceAt masked k) ∧
      ∀ k ∈ (bracesFrom n stack t).unclosed, IsBraceAt masked k := by
  induction t generalizing n stack with
  | nil => exact ⟨by simp [bracesFrom], hstack⟩
  | cons c t ih =>
      have hrest : ∀ stack : List Nat, (∀ k ∈ stack, IsBraceAt masked k) →
          (∀ k ∈ (bracesFrom (n + c.utf8Size) stack t).strays, IsBraceAt masked k) ∧
            ∀ k ∈ (bracesFrom (n + c.utf8Size) stack t).unclosed, IsBraceAt masked k :=
        fun stack => ih h.skip_cons
      rw [bracesFrom.eq_def]
      dsimp only
      split
      · rename_i hopen
        exact hrest _ (List.forall_mem_cons.mpr ⟨⟨c, t, .inl hopen, h⟩, hstack⟩)
      · split
        · rename_i hclose
          cases stack with
          | nil =>
              obtain ⟨hstrays, hunclosed⟩ := hrest [] (by simp)
              exact ⟨List.forall_mem_cons.mpr ⟨⟨c, t, .inr hclose, h⟩, hstrays⟩, hunclosed⟩
          | cons top stack => exact hrest _ (List.forall_mem_cons.mp hstack).2
        · exact hrest _ hstack

theorem liesIn_braceIssues (hmasks : Masks source masked) :
    ∀ d ∈ braceIssues masked, d.LiesIn source := by
  have hnone : ∀ k ∈ ([] : List Nat), IsBraceAt masked k := by simp
  obtain ⟨hstrays, hunclosed⟩ := isBraceAt_bracesFrom (Text.standsAt_zero masked) hnone
  intro d hd
  unfold braceIssues at hd
  rcases List.mem_append.mp hd with hd | hd
  · obtain ⟨n, hn, rfl⟩ := List.mem_map.mp hd
    have hrange := (hstrays n hn).isRange hmasks
    exact Issue.liesIn_report _ hrange (by simpa [Edit.LiesIn, Edit.delete] using hrange)
  · split at hd
    · cases hd
    · rename_i first hfirst
      obtain rfl := List.mem_singleton.mp hd
      have hrange := (hunclosed first (List.mem_of_getLast? hfirst)).isRange hmasks
      rw [hmasks.size_eq]
      exact Issue.liesIn_report _ hrange (by simpa using Edit.liesIn_insert_end source _)

/-! ## Declarations -/

section

variable {d : Declaration}

/-- A piece of a value that begins and ends visibly covers characters of the source. -/
theorem Declaration.IsOf.isRange (h : d.IsOf masked) (hmasks : Masks source masked)
    {front part back : Text} (hsplit : d.value = front ++ (part ++ back))
    (hbegins : part.BeginsVisibly) (hends : part.EndsVisibly) :
    source.IsRange (d.valueStart + front.size) (d.valueStart + front.size + part.size) := by
  obtain ⟨⟨behind, hvalue⟩, -, -⟩ := h.value
  rw [hsplit, List.append_assoc, List.append_assoc] at hvalue
  exact hmasks.isRange hvalue.skip hbegins hends

theorem Declaration.IsOf.isRange_value (h : d.IsOf masked) (hmasks : Masks source masked) :
    source.IsRange d.valueStart (d.valueStart + d.value.size) := by
  obtain ⟨⟨back, hstands⟩, hbegins, hends⟩ := h.value
  exact hmasks.isRange hstands hbegins hends

theorem liesIn_importantIssues (h : d.IsOf masked) (hmasks : Masks source masked) :
    ∀ x ∈ importantIssues d, x.LiesIn source := by
  have hrange := h.isRange_value hmasks
  intro x hx
  simp only [importantIssues] at hx
  split at hx
  · obtain rfl := List.mem_singleton.mp hx
    exact Issue.liesIn_report _ hrange (by simpa [Edit.LiesIn] using hrange)
  · cases hx

theorem isRange_of_invalidCharacter? {n : Nat} {c : Char} (h : d.IsOf masked)
    (hmasks : Masks source masked) (hfound : invalidCharacter? d = some (n, c)) :
    source.IsRange n (n + c.utf8Size) := by
  have hinvalid : isValueChar c = false := by simpa using List.find?_some hfound
  have hblank : Text.isBlank c = false := by
    simp only [isValueChar, Bool.or_eq_false_iff] at hinvalid
    exact hinvalid.1.2
  obtain ⟨front, back, hsplit, rfl⟩ :=
    Text.exists_of_mem_offsetsFrom (List.mem_of_find?_eq_some hfound)
  exact h.isRange hmasks hsplit ⟨c, [], rfl, hblank⟩ ⟨[], c, rfl, hblank⟩

theorem isRange_core (h : d.IsOf masked) (hmasks : Masks source masked) (hne : core d.value ≠ []) :
    source.IsRange d.valueStart (d.valueStart + (core d.value).size) := by
  obtain ⟨run, hrun⟩ := Text.exists_trimEnd_append (d.value.takeWhile (· != '!'))
  have hsplit : d.value = [] ++ (core d.value ++ (run ++ d.value.dropWhile (· != '!'))) := by
    rw [List.nil_append, ← List.append_assoc, core, ← hrun, List.takeWhile_append_dropWhile]
  obtain ⟨-, hbegins, -⟩ := h.value
  rw [hsplit, List.nil_append] at hbegins
  exact h.isRange hmasks hsplit (hbegins.of_append hne) (Text.endsVisibly_trimEnd hne)

theorem liesIn_valueIssues (validators : Validators) (h : d.IsOf masked)
    (hmasks : Masks source masked) : ∀ x ∈ valueIssues validators d, x.LiesIn source := by
  intro x hx
  simp only [valueIssues] at hx
  split at hx
  · cases hx
  · split at hx
    · cases hx
    · rename_i hcore
      split at hx
      · cases hx
      · obtain rfl := List.mem_singleton.mp hx
        have hne : core d.value ≠ [] := by
          intro hnil
          rw [hnil] at hcore
          exact hcore rfl
        have hrange := isRange_core h hmasks hne
        refine Issue.liesIn_report _ hrange fun e he => ?_
        obtain ⟨text, -, rfl⟩ := List.mem_map.mp he
        exact hrange

theorem liesIn_declarationIssues (validators : Validators) (seen : List String)
    (h : d.IsOf masked) (hmasks : Masks source masked) :
    ∀ x ∈ declarationIssues validators seen d, x.LiesIn source := by
  intro x hx
  unfold declarationIssues at hx
  rcases List.mem_append.mp hx with hx | hx
  · rcases List.mem_append.mp hx with hx | hx
    · split at hx
      · obtain rfl := List.mem_singleton.mp hx
        obtain ⟨word, back, hsize, hstands, hbegins, hends⟩ := h.property
        have hrange := hmasks.isRange hstands hbegins hends
        rw [hsize] at hrange
        exact Issue.liesIn_report _ hrange (by simp)
      · cases hx
    · exact liesIn_importantIssues h hmasks x hx
  · split at hx
    · rename_i n c hfound
      obtain rfl := List.mem_singleton.mp hx
      have hrange := isRange_of_invalidCharacter? h hmasks hfound
      exact Issue.liesIn_report _ hrange (by simpa [Edit.LiesIn, Edit.delete] using hrange)
    · exact liesIn_valueIssues validators h hmasks x hx

end

theorem liesIn_declarationsIssues (validators : Validators) {seen : List String}
    {ds : List Declaration} (h : ∀ d ∈ ds, d.IsOf masked) (hmasks : Masks source masked) :
    ∀ x ∈ declarationsIssues validators seen ds, x.LiesIn source := by
  induction ds generalizing seen with
  | nil => simp [declarationsIssues]
  | cons d ds ih =>
      obtain ⟨hd, hds⟩ := List.forall_mem_cons.mp h
      intro x hx
      rcases List.mem_append.mp hx with hx | hx
      · exact liesIn_declarationIssues validators seen hd hmasks x hx
      · exact ih hds x hx

/-! ## Symbols -/

theorem liesIn_symbolIssues (hmasks : Masks source masked) {ds : List Declaration}
    (h : ∀ d ∈ ds, d.IsOf masked) : ∀ x ∈ symbolIssues masked ds, x.LiesIn source := by
  have hreport : ∀ (issue : Text → Issue) (s : Symbol), source.IsRange s.start s.stop →
      ((issue s.name).report s.start s.stop).LiesIn source :=
    fun issue s hs => Issue.liesIn_report _ hs (by simp)
  have hwhole : masked.StandsAt 0 (masked ++ []) := by simpa using Text.standsAt_zero masked
  have hsass : ∀ s ∈ Symbol.undefinedSassVariables masked, source.IsRange s.start s.stop :=
    fun s hs => Symbol.isRange_of_mem_uses hmasks hwhole (by decide) (List.mem_filter.mp hs).1
  have hmixins : ∀ s ∈ Symbol.undefinedMixins masked, source.IsRange s.start s.stop :=
    fun s hs => Symbol.isRange_of_mem_ruleUses hmasks (List.mem_filter.mp hs).1
  have hless : ∀ s ∈ Symbol.undefinedLessVariables masked ds, source.IsRange s.start s.stop := by
    intro s hs
    obtain ⟨d, hd, hs⟩ := List.mem_flatMap.mp hs
    obtain ⟨⟨back, hstands⟩, -, -⟩ := (h d hd).value
    exact Symbol.isRange_of_mem_uses hmasks hstands (by decide) (List.mem_filter.mp hs).1
  intro x hx
  simp only [symbolIssues, List.mem_append, List.mem_map] at hx
  obtain ((⟨s, hs, rfl⟩ | ⟨s, hs, rfl⟩) | ⟨s, hs, rfl⟩) | ⟨s, hs, rfl⟩ := hx
  · exact hreport _ s (hsass s hs)
  · exact hreport _ s (hmixins s hs)
  · exact hreport _ s (Symbol.isRange_of_mem_undefinedPlaceholders hmasks hs)
  · exact hreport _ s (hless s hs)

/-! ## Style sheets -/

theorem liesIn_structureIssues (source : Text) :
    ∀ d ∈ structureIssues source, d.LiesIn source := by
  obtain ⟨-, hmasks, -⟩ := masking_mask source
  intro d hd
  rcases List.mem_append.mp hd with hd | hd
  · exact liesIn_commentIssues source d hd
  · exact liesIn_braceIssues hmasks d hd

theorem liesIn_contentIssues (validators : Validators) (source : Text) :
    ∀ d ∈ contentIssues validators source, d.LiesIn source := by
  obtain ⟨-, hmasks, -⟩ := masking_mask source
  have hds : ∀ d ∈ declarations (mask source), d.IsOf (mask source) :=
    fun d hd => isOf_of_mem_declarations hd
  intro d hd
  rcases List.mem_append.mp hd with hd | hd
  · exact liesIn_declarationsIssues validators hds hmasks d hd
  · exact liesIn_symbolIssues hmasks hds d hd

end PageLint.Style
