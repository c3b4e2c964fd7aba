import PageLint.Checker

/-! # Deadlines

What a list is cut to in time is its first part, and all of it if time is left at the end. A
deadline that never comes leaves everything. What a check finds with a deadline is compared with
what it finds in all. -/

namespace PageLint

/-- What was found in time is the first part of `full`, and all of it if time is left. -/
structure Timed.IsPartOf {α : Type} (t : Timed (List α)) (full : List α) : Prop where
  isPrefix : t.found <+: full
  whole : t.left? ≠ none → t.found = full

namespace Deadline

variable {α : Type} {stride : Nat} {counts : α → Bool}

theorem reach_isPartOf (d : Deadline) (count : Nat) (l : List α) :
    (d.reach stride counts count l).IsPartOf l := by
  induction l generalizing d count with
  | nil => exact ⟨List.prefix_rfl, fun _ => rfl⟩
  | cons a l ih =>
      rw [reach]
      split
      · exact ⟨List.nil_prefix, fun h => absurd rfl h⟩
      · rename_i d' _
        obtain ⟨hfront, hwhole⟩ := ih d' (if counts a then count + 1 else count)
        exact ⟨List.cons_prefix_cons.mpr ⟨rfl, hfront⟩, fun h => congrArg (a :: ·) (hwhole h)⟩

@[simp] theorem reach_never (count : Nat) (l : List α) :
    never.reach stride counts count l = ⟨l, some never⟩ := by
  induction l generalizing count with
  | nil => rfl
  | cons a l ih => simp only [reach, pollAt_never, ih]

end Deadline

/-- `early` is what is found with a deadline, `full` what is found in all: `early` says that there
may be more unless it is the whole itself. -/
structure Findings.Admits (early full : Findings) : Prop where
  complete : full.interrupted = false
  eq_of_complete : early.interrupted = false → early = full

/-- The same, and what is found is found from the front. -/
structure Findings.Starts (early full : Findings) : Prop extends Admits early full where
  diagnostics : early.diagnostics <+: full.diagnostics

/-- Findings in time, behind some that are found in any case. -/
theorem Timed.IsPartOf.starts {t : Timed (List Diagnostic)} {full : List Diagnostic}
    (h : t.IsPartOf full) (front : List Diagnostic) :
    Findings.Starts { diagnostics := front ++ t.found, interrupted := t.left?.isNone }
      { diagnostics := front ++ full } where
  complete := rfl
  eq_of_complete hcomplete := by
    have hdone : t.left?.isNone = false := hcomplete
    have hleft : t.left? ≠ none :=
      Option.isSome_iff_ne_none.mp (Option.isNone_eq_false_iff.mp hdone)
    rw [h.whole hleft, hdone]
  diagnostics := (List.prefix_append_right_inj front).mpr h.isPrefix

end PageLint
