import PageLint.Standard
import Mathlib.Data.List.Infix

/-! # What the options select

A checker asks the options for its time budget and for what a text may leave out. Everything else in
the options selects among what was found: a report is the one under options that select nothing,
without the diagnostics that are switched off, ignored or below the level, up to the greatest number
of them. Severities chosen for rules are in force before the level is asked for, and only what is
left is counted. -/

namespace PageLint

/-! ## Words for the options -/

/-- The options that reach a checker, with all others as they are by default. -/
def Options.scanning (o : Options) : Options where
  timeout := o.timeout
  allowPartial := o.allowPartial
  script := o.script

def Level.Admits (l : Level) (s : Severity) : Prop :=
  match l with
  | .error => s = .error
  | .warning => s = .error ∨ s = .warning
  | .suggestion | .all => True

namespace Diagnostic

/-- The severity of a diagnostic under options that may give another one to its rule. -/
def severityUnder (o : Options) (d : Diagnostic) : Severity :=
  match d.rule with
  | none => d.severity
  | some rule =>
    match o.rules.severity.lookup rule with
    | none => d.severity
    | some chosen => chosen

/-- The options have nothing against the diagnostic. -/
structure IsSelected (o : Options) (d : Diagnostic) : Prop where
  enabled : ∀ rule, d.rule = some rule → rule ∉ o.rules.disabled
  heard : ∀ pattern ∈ o.ignorePatterns, ¬ pattern.toList <:+: d.message.toList
  admitted : o.severityLevel.Admits (d.severityUnder o)

/-- The diagnostic as a report under the options has it. -/
def under (o : Options) (d : Diagnostic) : Diagnostic := { d with severity := d.severityUnder o }

end Diagnostic

/-! ## The stages -/

theorem Text.contains_iff (t needle : Text) : t.contains needle = true ↔ needle <:+: t := by
  induction t with
  | nil => simp [contains]
  | cons c t ih =>
      rw [contains, Bool.or_eq_true, List.isPrefixOf_iff_prefix, ih, List.infix_cons_iff]

theorem Level.admits_iff (l : Level) (s : Severity) : l.admits s = true ↔ l.Admits s := by
  cases l <;> cases s <;> simp [admits, Admits, Severity.rank]

namespace Diagnostic

variable {o : Options} {d : Diagnostic}

theorem override_eq (o : Options) (d : Diagnostic) : d.override o = d.under o := by
  unfold override under severityUnder Options.severityOf? Overrides.find?
  cases d.rule with
  | none => rfl
  | some rule => cases hchosen : o.rules.severity.lookup rule <;> simp [hchosen]

theorem isEnabled_iff :
    d.isEnabled o = true ↔ ∀ rule, d.rule = some rule → rule ∉ o.rules.disabled := by
  cases hrule : d.rule <;> simp [isEnabled, Options.isEnabled, hrule]

theorem not_isIgnored_iff {patterns : List String} :
    d.isIgnored patterns = false ↔
      ∀ pattern ∈ patterns, ¬ pattern.toList <:+: d.message.toList := by
  simp only [isIgnored, List.any_eq_false, Text.contains_iff]

/-- The three filters ask for one thing together. A severity of its own changes neither the rule nor
the message, so the first two may as well be asked behind it. -/
theorem isSelected_iff :
    (d.isEnabled o && !(d.under o).isIgnored o.ignorePatterns &&
      o.severityLevel.admits (d.under o).severity) = true ↔ d.IsSelected o := by
  have hmessage : (d.under o).isIgnored o.ignorePatterns = d.isIgnored o.ignorePatterns := rfl
  rw [Bool.and_eq_true, Bool.and_eq_true, Bool.not_eq_true', hmessage, isEnabled_iff,
    not_isIgnored_iff, Level.admits_iff]
  constructor
  · rintro ⟨⟨henabled, hheard⟩, hadmitted⟩
    exact ⟨henabled, hheard, hadmitted⟩
  · rintro ⟨henabled, hheard, hadmitted⟩
    exact ⟨⟨henabled, hheard⟩, hadmitted⟩

instance (o : Options) (d : Diagnostic) : Decidable (d.IsSelected o) :=
  decidable_of_iff _ isSelected_iff

end Diagnostic

theorem select_eq (o : Options) (ds : List Diagnostic) :
    select o ds = truncate o.maxErrors ((ds.filter (·.IsSelected o)).map (·.under o)) := by
  have hkept : (dropIgnored o.ignorePatterns (applyRules o ds)).filter
      (fun d => o.severityLevel.admits d.severity) =
        (ds.filter (·.IsSelected o)).map (·.under o) := by
    simp only [dropIgnored, applyRules, Diagnostic.override_eq, List.filter_map, List.filter_filter]
    refine congrArg (List.map _) (List.filter_congr fun d _ => ?_)
    rw [Bool.eq_iff_iff, decide_eq_true_iff, ← Diagnostic.isSelected_iff]
    simp only [Function.comp_apply, Bool.and_eq_true, and_comm]
  exact congrArg (truncate o.maxErrors) hkept

/-- Options that select nothing leave a list of diagnostics as it is. -/
theorem select_scanning (o : Options) (ds : List Diagnostic) : select o.scanning ds = ds := by
  have hseverity : ∀ d : Diagnostic, d.severityUnder o.scanning = d.severity := by
    intro d
    unfold Diagnostic.severityUnder
    cases d.rule <;> rfl
  have hunder : ∀ d : Diagnostic, d.under o.scanning = d := by
    intro d
    rw [Diagnostic.under, hseverity]
  have hselected : ∀ d : Diagnostic, d.IsSelected o.scanning := fun d =>
    ⟨fun _ _ => List.not_mem_nil, fun _ h => absurd h List.not_mem_nil, trivial⟩
  rw [select_eq]
  simp only [hselected, hunder, decide_true, List.filter_true, List.map_id']
  rfl

/-! ## Engines -/

namespace Engine

variable {e : Engine} {source : Text} {l : Language} {o : Options} {clock : Deadline} {r : Report}

/-- What an engine reports is nothing, or what a checker for the language has found. -/
theorem check_eq_ok_iff :
    e.check source l o clock = .ok r ↔
      e.checker? l = none ∧ r = {} ∨
        ∃ c f, e.checker? l = some c ∧ c.check source (o.context clock) = .ok f ∧
          r = f.report source o := by
  unfold check
  cases e.checker? l with
  | none => simp [eq_comm]
  | some c => cases hf : c.check source (o.context clock) <;> simp [Except.map, hf, eq_comm]

end Engine

/-- The checker asks for no more of the options than what reaches it. -/
def Checker.Scans (c : Checker) : Prop :=
  ∀ (source : Text) (o : Options) (clock : Deadline),
    c.check source (o.scanning.context clock) = c.check source (o.context clock)

theorem Engine.scans_standard : ∀ c ∈ standard.checkers, c.Scans := by
  intro c hc source o clock
  have hdeadline : (o.scanning.context clock).deadline = (o.context clock).deadline := rfl
  have hscript : (o.scanning.context clock).script = (o.context clock).script := rfl
  simp only [standard, List.mem_cons, List.not_mem_nil, or_false] at hc
  rcases hc with rfl | rfl | rfl
  · rfl
  · rfl
  · simp only [Script.checker, Script.check, hdeadline, hscript]

theorem Tally.of_eq (ds : List Diagnostic) :
    (Tally.of ds).errors = (ds.filter (·.severity = .error)).length ∧
      (Tally.of ds).warnings = (ds.filter (·.severity = .warning)).length ∧
      (Tally.of ds).suggestions = (ds.filter (·.severity = .suggestion)).length ∧
      (Tally.of ds).errors + (Tally.of ds).warnings + (Tally.of ds).suggestions = ds.length := by
  refine ⟨List.countP_eq_length_filter, List.countP_eq_length_filter,
    List.countP_eq_length_filter, ?_⟩
  induction ds with
  | nil => rfl
  | cons d ds ih =>
      simp only [of, List.countP_cons, List.length_cons] at ih ⊢
      cases d.severity <;> simp <;> omega

/-- A report of the standard engine holds what it holds under the options that reach the checkers:
of that, the first diagnostics that all other options leave, with the severities that these give
them. Its tally counts the diagnostics of each severity. -/
theorem Engine.check_selected {source : Text} {l : Language} {o : Options} {clock : Deadline}
    {r : Report} (h : standard.check source l o clock = .ok r) :
    ∃ base kept, standard.check source l o.scanning clock = .ok base ∧
      kept = (base.diagnostics.filter (·.IsSelected o)).map
        (fun d => { d with severity := d.severityUnder o }) ∧
      (r.diagnostics = match o.maxErrors with
        | none => kept
        | some n => kept.take n) ∧
      r.tally.errors = (r.diagnostics.filter (·.severity = .error)).length ∧
      r.tally.warnings = (r.diagnostics.filter (·.severity = .warning)).length ∧
      r.tally.suggestions = (r.diagnostics.filter (·.severity = .suggestion)).length ∧
      r.tally.errors + r.tally.warnings + r.tally.suggestions = r.diagnostics.length := by
  rcases check_eq_ok_iff.mp h with ⟨hnone, rfl⟩ | ⟨c, f, hc, hf, rfl⟩
  · refine ⟨{}, [], check_eq_ok_iff.mpr (.inl ⟨hnone, rfl⟩), rfl, ?_, Tally.of_eq []⟩
    cases o.maxErrors <;> simp
  · have hmem : c ∈ standard.checkers := List.mem_of_find?_eq_some hc
    have hscanned : c.check source (o.scanning.context clock) = .ok f := by
      rw [scans_standard c hmem, hf]
    refine ⟨f.report source o.scanning, _,
      check_eq_ok_iff.mpr (.inr ⟨c, f, hc, hscanned, rfl⟩), rfl, ?_, Tally.of_eq _⟩
    have hbase : (f.report source o.scanning).diagnostics =
        f.diagnostics.map (·.anchor source) := select_scanning o _
    rw [hbase]
    exact select_eq o _

/-- Options that switch one rule off, ignore a message, and raise duplicates to errors, the only
level that they admit. -/
def Options.choosy : Options where
  ignorePatterns := ["closing"]
  severityLevel := .error
  maxErrors := some 1
  rules := { disabled := ["invalid-value"], severity := [("duplicate-property", .error)] }

/-- A value that is no color, two duplicates and a stray brace. -/
def Style.fourIssues : Text := "a\x7bcolor:reddd;color:red;color:red\x7d\x7d".toList

theorem Engine.check_selected_choosy :
    ∃ r, standard.check Style.fourIssues .style .choosy = .ok r ∧
      r.diagnostics.map (fun d => (d.message, d.severity)) =
        [("Duplicate property: color", .error)] ∧
      ∃ base kept, standard.check Style.fourIssues .style Options.choosy.scanning = .ok base ∧
        kept = (base.diagnostics.filter (·.IsSelected .choosy)).map
          (fun d => { d with severity := d.severityUnder .choosy }) ∧
        kept.length = 2 ∧ r.diagnostics = kept.take 1 := by
  have hcheck : standard.check Style.fourIssues .style .choosy = .ok _ := rfl
  obtain ⟨base, kept, hbase, hkept, hfirst, -⟩ := check_selected hcheck
  refine ⟨_, hcheck, by decide +kernel, base, kept, hbase, hkept, ?_, hfirst⟩
  obtain rfl := Except.ok.inj hbase
  rw [hkept]
  decide +kernel

end PageLint
