import PageLint.Proofs.Script.Resolution

/-! # Walks in time

A walk over a tree asks for the time at some of the nodes that it visits. Whether it comes to its
end depends on the number of its visits alone, and a walk that comes to its end has done all it had
to do. -/

namespace PageLint.Script

namespace Step

/-- Steps, one after the other and each with what is done inside of it. -/
@[elab_as_elim]
theorem list_induction {motive : List Step → Prop} (nil : motive [])
    (act : ∀ a rest, motive rest → motive (.act a :: rest))
    (scope : ∀ kind body rest, motive body → motive rest → motive (.scope kind body :: rest))
    (exported : ∀ body rest, motive body → motive rest → motive (.exported body :: rest))
    (visit : ∀ body rest, motive body → motive rest → motive (.visit body :: rest)) :
    ∀ steps, motive steps
  | [] => nil
  | .act a :: rest => act a rest (list_induction nil act scope exported visit rest)
  | .scope kind body :: rest =>
      scope kind body rest (list_induction nil act scope exported visit body)
        (list_induction nil act scope exported visit rest)
  | .exported body :: rest =>
      exported body rest (list_induction nil act scope exported visit body)
        (list_induction nil act scope exported visit rest)
  | .visit body :: rest =>
      visit body rest (list_induction nil act scope exported visit body)
        (list_induction nil act scope exported visit rest)

mutual

/-- The number of visits to nodes. -/
def toVisits : Step → Nat
  | act _ => 0
  | scope _ body | exported body => visits body
  | visit body => visits body + 1

def visits : List Step → Nat
  | [] => 0
  | s :: rest => s.toVisits + visits rest

end

theorem visits_append (as bs : List Step) : visits (as ++ bs) = visits as + visits bs := by
  induction as with
  | nil => rw [List.nil_append, visits, Nat.zero_add]
  | cons s as ih => rw [List.cons_append, visits, ih, visits, Nat.add_assoc]

end Step

/-! ## The time that remains -/

namespace Stopwatch

/-- What remains behind so many visits. -/
def behind (w : Option Stopwatch) : Nat → Option Stopwatch
  | 0 => w
  | n + 1 => behind (w.bind visit?) n

theorem behind_none (n : Nat) : behind none n = none := by
  induction n with
  | zero => rfl
  | succ n ih => exact ih

theorem behind_add (w : Option Stopwatch) (m n : Nat) :
    behind w (m + n) = behind (behind w m) n := by
  induction m generalizing w with
  | zero => rw [Nat.zero_add, behind]
  | succ m ih => rw [Nat.succ_add, behind, ih, behind]

/-- Fewer visits take no more time. -/
theorem behind_ne_none {w : Option Stopwatch} {m n : Nat} (h : behind w n ≠ none) (hle : m ≤ n) :
    behind w m ≠ none := by
  intro hnone
  obtain ⟨k, rfl⟩ := Nat.exists_eq_add_of_le hle
  exact h (by rw [behind_add, hnone, behind_none])

theorem behind_never (visited n : Nat) :
    behind (some ⟨.never, visited⟩) n = some ⟨.never, visited + n⟩ := by
  induction n generalizing visited with
  | zero => rfl
  | succ n ih =>
      have hvisit : (⟨.never, visited⟩ : Stopwatch).visit? = some ⟨.never, visited + 1⟩ := by
        simp [visit?]
      rw [behind, Option.bind_some, hvisit, ih, Nat.add_assoc, Nat.add_comm 1 n]

end Stopwatch

namespace Step

open Stopwatch (behind)

/-- What remains of the time depends on the number of visits alone. -/
theorem snd_allInTime (w : Option Stopwatch) (steps : List Step) :
    (allInTime w steps).2 = behind w (visits steps) := by
  induction steps using list_induction generalizing w with
  | nil => rfl
  | act a rest ih => exact (ih w).trans (by rw [visits, toVisits, Nat.zero_add])
  | scope kind body rest ihBody ihRest | exported body rest ihBody ihRest =>
      rw [visits, toVisits, Stopwatch.behind_add, ← ihBody, ← ihRest]
      rfl
  | visit body rest ihBody ihRest =>
      rw [visits, toVisits, Stopwatch.behind_add, behind]
      simp only [allInTime, inTime]
      cases hvisit : w.bind (·.visit?) with
      | none => rw [Stopwatch.behind_none, ihRest]
      | some w' => rw [← ihBody, ihRest]

/-- Where time is left behind some steps, there was time in front of them. -/
theorem ne_none_of_allInTime {w : Option Stopwatch} {steps : List Step}
    (h : (allInTime w steps).2 ≠ none) : w ≠ none := by
  rintro rfl
  rw [snd_allInTime, Stopwatch.behind_none] at h
  exact h rfl

/-- A walk that has time left at its end has done all that it had to do. -/
theorem fst_allInTime {w : Option Stopwatch} {steps : List Step}
    (h : (allInTime w steps).2 ≠ none) : (allInTime w steps).1 = actions steps := by
  induction steps using list_induction generalizing w with
  | nil => rfl
  | act a rest ih => exact congrArg (a :: ·) (ih h)
  | scope kind body rest ihBody ihRest =>
      have hbody := ihBody (ne_none_of_allInTime h)
      have hrest := ihRest h
      rw [actions, toActions, ← hbody, ← hrest]
      rfl
  | exported body rest ihBody ihRest =>
      have hbody := ihBody (ne_none_of_allInTime h)
      have hrest := ihRest h
      rw [actions, toActions, ← hbody, ← hrest]
      rfl
  | visit body rest ihBody ihRest =>
      rw [actions, toActions]
      simp only [allInTime, inTime] at h ⊢
      cases hvisit : w.bind (·.visit?) with
      | none =>
          rw [hvisit] at h
          exact absurd rfl (ne_none_of_allInTime h)
      | some w' =>
          rw [hvisit] at h
          rw [ihBody (ne_none_of_allInTime h), ihRest h]

end Step

/-! ## Programs -/

variable {d : Deadline} {source : Text} {root : Node}

/-- A walk that was cut short reports what it has found on the way. -/
theorem nameIssuesInTime_of_none (h : (root.actionsInTime source d).2 = none) :
    nameIssuesInTime d source root =
      ⟨(Walk.run {} (root.actionsInTime source d).1).found.toList, none⟩ := by
  simp only [nameIssuesInTime, h]

/-- A walk that comes to its end reports all that there is to report. -/
theorem nameIssuesInTime_of_some {w : Stopwatch} (h : (root.actionsInTime source d).2 = some w) :
    nameIssuesInTime d source root = ⟨nameIssues source root, some w.deadline⟩ := by
  have hleft : (root.actionsInTime source d).2 ≠ none := by simp [h]
  have hall : (root.actionsInTime source d).1 = root.actions source := Step.fst_allInTime hleft
  simp only [nameIssuesInTime, h, hall, nameIssues]

theorem left?_nameIssuesInTime (d : Deadline) (source : Text) (root : Node) :
    (nameIssuesInTime d source root).left? = (root.actionsInTime source d).2.map (·.deadline) := by
  cases h : (root.actionsInTime source d).2 with
  | none =>
      rw [nameIssuesInTime_of_none h]
      rfl
  | some w =>
      rw [nameIssuesInTime_of_some h]
      rfl

theorem nameIssuesInTime_never (source : Text) (root : Node) :
    nameIssuesInTime .never source root = ⟨nameIssues source root, some .never⟩ :=
  nameIssuesInTime_of_some ((Step.snd_allInTime _ _).trans (Stopwatch.behind_never 0 _))

/-- A walk that was cut short reports second declarations and debugger statements only. -/
theorem rule_of_mem_nameIssuesInTime (h : (root.actionsInTime source d).2 = none) :
    ∀ x ∈ (nameIssuesInTime d source root).found,
      x.rule = some "no-redeclare" ∨ x.rule = some "no-debugger" := by
  rw [nameIssuesInTime_of_none h]
  exact (Walk.Sound.start.run _).rule_of_mem_found

/-- A variable that is declared twice, with a debugger statement behind 256 numbers in its first
value. -/
def declaredTwice : Node where
  kind := .program
  isNamed := true
  start := 0
  stop := 600
  children :=
    [{ kind := .lexicalDeclaration, isNamed := true, start := 0, stop := 600
       children := [declarator 4 numbers, declarator 552 (number 556)] }]
where
  number (start : Nat) : Node :=
    { kind := .number, isNamed := true, roles := [.value], start, stop := start + 1 }
  numbers : Node :=
    { kind := .other "array", isNamed := true, roles := [.value], start := 8, stop := 550
      children := (List.range 256).map (fun n => number (9 + 2 * n)) ++
        [{ kind := .debuggerStatement, isNamed := true, start := 523, stop := 532 }] }
  declarator (start : Nat) (value : Node) : Node :=
    { kind := .variableDeclarator, isNamed := true, start, stop := value.stop
      children := [.word "a" start [.name], value] }

/-- A walk that was cut short need not report the first part of all that there is to report: what is
inside of the node where the time is up is left out, and what is behind it in the same statement is
not. -/
theorem exists_not_isPrefix_nameIssuesInTime :
    ∃ d source root, (nameIssuesInTime d source root).left? = none ∧
      ¬ (nameIssuesInTime d source root).found <+: nameIssues source root :=
  ⟨.after 0, [], declaredTwice, by decide +kernel⟩

end PageLint.Script
