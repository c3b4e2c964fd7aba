import PageLint.Proofs.Style.Interruption
import Mathlib.Data.Finset.Card

/-! # Repeated properties

A property is reported as a duplicate wherever it stands behind another declaration of it, whatever
the blocks of the two are. -/

namespace PageLint.Style

variable (validators : Validators) (source : Text) (seen : List String)

/-! ## Reports -/

/-- The issue is that a property is a duplicate. -/
def Issue.isDuplicate : Issue → Bool
  | duplicateProperty _ => true
  | _ => false

/-- A warning that a property is a duplicate. -/
def isDuplicateWarning (d : Diagnostic) : Bool :=
  d.rule == some "duplicate-property" && d.severity == .warning

theorem isDuplicateWarning_report (i : Issue) (start stop : Nat) (edits : List Edit) :
    isDuplicateWarning (i.report start stop edits) = i.isDuplicate := by
  cases i <;> rfl

/-- The warning for a declaration. -/
def duplicateWarning (d : Declaration) : Diagnostic :=
  (Issue.duplicateProperty d.property).report d.propertyStart
    (d.propertyStart + d.property.utf8ByteSize)

/-- The declarations whose property is among those seen before or stands in front of them. -/
def repeated (seen : List String) : List Declaration → List Declaration
  | [] => []
  | d :: ds =>
    (if seen.contains d.property then [d] else []) ++ repeated (d.property :: seen) ds

theorem duplicates_declarationIssues (d : Declaration) :
    (declarationIssues validators seen d).filter isDuplicateWarning =
      (if seen.contains d.property then [d] else []).map duplicateWarning := by
  unfold declarationIssues importantIssues valueIssues
  dsimp only
  repeat' split
  all_goals simp [isDuplicateWarning_report, Issue.isDuplicate, duplicateWarning]

theorem duplicates_declarationsIssues (ds : List Declaration) :
    (declarationsIssues validators seen ds).filter isDuplicateWarning =
      (repeated seen ds).map duplicateWarning := by
  induction ds generalizing seen with
  | nil => rfl
  | cons d ds ih =>
      rw [declarationsIssues, List.filter_append, duplicates_declarationIssues, ih, repeated,
        List.map_append]

theorem duplicates_structureIssues : (structureIssues source).filter isDuplicateWarning = [] := by
  unfold structureIssues commentIssues braceIssues
  dsimp only
  repeat' split
  all_goals simp [List.filter_map, Function.comp_def, isDuplicateWarning_report, Issue.isDuplicate]

theorem duplicates_symbolIssues (masked : Text) (ds : List Declaration) :
    (symbolIssues masked ds).filter isDuplicateWarning = [] := by
  rw [symbolIssues]
  simp [List.filter_map, Function.comp_def, isDuplicateWarning_report, Issue.isDuplicate]

/-- With time for all of the check, every repeated declaration is warned of, and nothing else. -/
theorem duplicates_check {o : Context} (h : o.deadline = .never) :
    (check validators source o).diagnostics.filter isDuplicateWarning =
      (repeated [] (declarations (mask source))).map duplicateWarning := by
  rw [check_never validators source h]
  dsimp only
  rw [contentIssues, List.filter_append, List.filter_append, duplicates_structureIssues,
    duplicates_declarationsIssues, duplicates_symbolIssues, List.nil_append, List.append_nil]

/-! ## How many -/

/-- Every declaration is either repeated or the first one of a new property. -/
theorem length_repeated_add_card (ds : List Declaration) :
    (repeated seen ds).length + (seen ++ ds.map (·.property)).toFinset.card =
      ds.length + seen.toFinset.card := by
  induction ds generalizing seen with
  | nil => simp [repeated]
  | cons d ds ih =>
      have hrest := ih (d.property :: seen)
      -- The properties are the same ones, with the first of them seen or not.
      have hsame : (seen ++ (d :: ds).map (·.property)).toFinset =
          (d.property :: seen ++ ds.map (·.property)).toFinset :=
        List.toFinset_eq_of_perm _ _ List.perm_middle
      rw [hsame, repeated, List.length_append, List.length_cons]
      rw [List.toFinset_cons (l := seen)] at hrest
      split
      · rename_i hseen
        rw [Finset.insert_eq_of_mem (by simpa using hseen)] at hrest
        rw [List.length_singleton]
        omega
      · rename_i hnew
        rw [Finset.card_insert_of_notMem (by simpa using hnew)] at hrest
        rw [List.length_nil]
        omega

/-- All declarations but one of each property are repeated. -/
theorem length_repeated_add_length_dedup (ds : List Declaration) :
    (repeated [] ds).length + (ds.map (·.property)).dedup.length = ds.length := by
  have hcount := length_repeated_add_card [] ds
  rw [List.nil_append, List.card_toFinset] at hcount
  simpa using hcount

end PageLint.Style
