/-!
The time budget of one call. A check cannot tell how long it takes: now and then it asks whether its
time is up, and once that is so, it ends.
-/
namespace PageLint

/-- A time budget, told by the answers to the question whether it is used up. -/
inductive Deadline where
  | never
  /-- So many answers are no. All that follow are yes. -/
  | after (answers : Nat)
  deriving DecidableEq, Repr

/-- What was found in time. -/
structure Timed (α : Type) where
  found : α
  /-- What remains of the budget; nothing if the time was up before the end. -/
  left? : Option Deadline

namespace Deadline

/-- Asks whether the time is up, and gives what remains of the budget if it is not. -/
def poll? : Deadline → Option Deadline
  | never => some never
  | after 0 => none
  | after (n + 1) => some (after n)

@[simp] theorem poll?_never : never.poll? = some never := rfl

/-- Asks only where the count is a multiple of `stride`. -/
def pollAt (stride count : Nat) (d : Deadline) : Option Deadline :=
  if count % stride = 0 then d.poll? else some d

@[simp] theorem pollAt_never (stride count : Nat) : never.pollAt stride count = some never := by
  simp [pollAt]

/-- The items of a list that are come to in time. It is asked for in front of each item that has a
multiple of `stride` items that count in front of it, with `count` of them in front of the list. -/
def reach (stride : Nat) (counts : α → Bool) (d : Deadline) (count : Nat) :
    List α → Timed (List α)
  | [] => ⟨[], some d⟩
  | a :: rest =>
    match d.pollAt stride count with
    | none => ⟨[], none⟩
    | some d =>
      let later := d.reach stride counts (if counts a then count + 1 else count) rest
      { later with found := a :: later.found }

end Deadline

end PageLint
