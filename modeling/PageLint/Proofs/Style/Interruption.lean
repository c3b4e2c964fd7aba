import PageLint.Proofs.Engine.Deadlines
import PageLint.Style.Check

/-! # Style sheets out of time

Comments and braces are looked at whatever the deadline is. What is reported of the first
declarations is the first part of what is reported of all. -/

namespace PageLint.Style

variable {c : Context}

theorem isPrefix_declarationsIssues (validators : Validators) {ds ds' : List Declaration}
    (h : ds <+: ds') (seen : List String) :
    declarationsIssues validators seen ds <+: declarationsIssues validators seen ds' := by
  induction ds generalizing seen ds' with
  | nil => exact List.nil_prefix
  | cons d ds ih =>
      obtain ⟨rest, rfl⟩ := h
      exact (List.prefix_append_right_inj _).mpr (ih (List.prefix_append ds rest) _)

theorem contentInTime_isPartOf (validators : Validators) (d : Deadline) (source : Text) :
    (contentInTime validators d source).IsPartOf (contentIssues validators source) := by
  have hpart : (d.reach 64 (fun _ => true) 0 (declarations (mask source))).IsPartOf
      (declarations (mask source)) := d.reach_isPartOf 0 _
  unfold contentInTime contentIssues
  dsimp only
  generalize d.reach 64 (fun _ => true) 0 (declarations (mask source)) = reached at hpart ⊢
  obtain ⟨found, left⟩ := reached
  cases left with
  | none =>
      have hfront := isPrefix_declarationsIssues validators hpart.isPrefix []
      exact ⟨hfront.trans (List.prefix_append _ _), fun h => absurd rfl h⟩
  | some d' =>
      obtain rfl : found = declarations (mask source) := hpart.whole (by simp)
      exact ⟨List.prefix_rfl, fun _ => rfl⟩

theorem contentInTime_never (validators : Validators) (source : Text) :
    contentInTime validators .never source = ⟨contentIssues validators source, some .never⟩ := by
  simp only [contentInTime, Deadline.reach_never]
  rfl

theorem check_never (validators : Validators) (source : Text) (h : c.deadline = .never) :
    check validators source c =
      { diagnostics := structureIssues source ++ contentIssues validators source } := by
  simp only [check, h, Deadline.poll?_never, contentInTime_never]
  rfl

/-- With any deadline, the issues are those of the structure and a first part of the others. -/
theorem exists_diagnostics_check (validators : Validators) (source : Text) (c : Context) :
    ∃ t : Timed (List Diagnostic), t.IsPartOf (contentIssues validators source) ∧
      check validators source c =
        { diagnostics := structureIssues source ++ t.found, interrupted := t.left?.isNone } := by
  unfold check
  cases c.deadline.poll? with
  | none =>
      refine ⟨⟨[], none⟩, ⟨List.nil_prefix, fun h => absurd rfl h⟩, ?_⟩
      rw [List.append_nil]
      rfl
  | some d => exact ⟨_, contentInTime_isPartOf validators d source, rfl⟩

/-- With any deadline, a check finds the first part of what it finds in all. -/
theorem starts_check (validators : Validators) (source : Text) (c : Context) :
    (check validators source c).Starts
      { diagnostics := structureIssues source ++ contentIssues validators source } := by
  obtain ⟨t, hpart, hcheck⟩ := exists_diagnostics_check validators source c
  rw [hcheck]
  exact hpart.starts (structureIssues source)

end PageLint.Style
