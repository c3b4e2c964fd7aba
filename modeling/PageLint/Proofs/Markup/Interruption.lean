import PageLint.Markup.Check
import PageLint.Proofs.Engine.Deadlines

/-! # Documents out of time

A check that runs out of time has walked over the first tokens of the document. What it reports of
them is the first part of what it reports in all. -/

namespace PageLint.Markup

variable {d : Deadline} {source : Text} {c : Context}

theorem walk_append (size : Nat) (stack : List OpenElement) (front back : List Token) :
    (walk size stack (front ++ back)).1 = (walk size stack front).1 ++
      (walk size (walk size stack front).2 back).1 := by
  induction front generalizing stack with
  | nil => rfl
  | cons t front ih => simp only [List.cons_append, walk, ih, List.append_assoc]

theorem tokensInTime_never (source : Text) :
    tokensInTime .never source = ⟨tokens source, some .never⟩ := by
  simp only [tokensInTime, Deadline.reach_never]
  rfl

theorem tokensInTime_isPartOf (d : Deadline) (source : Text) :
    (tokensInTime d source).IsPartOf (tokens source) :=
  have hreached := d.reach_isPartOf 0 (brackets source)
  ⟨hreached.isPrefix.filterMap id, fun h => congrArg (List.filterMap id) (hreached.whole h)⟩

theorem check_never (source : Text) (h : c.deadline = .never) :
    check source c = { diagnostics := issues source c.allowPartial (tokens source) } := by
  simp only [check, h, tokensInTime_never]

/-- With any deadline, a check finds the first part of what it finds in all. -/
theorem starts_check (source : Text) (c : Context) :
    (check source c).Starts
      { diagnostics := issues source c.allowPartial (tokens source) } := by
  have hpart := tokensInTime_isPartOf c.deadline source
  unfold check
  generalize tokensInTime c.deadline source = read at hpart ⊢
  obtain ⟨found, left⟩ := read
  cases left with
  | none =>
      obtain ⟨back, hback⟩ := hpart.isPrefix
      refine ⟨⟨rfl, fun h => nomatch h⟩, ?_⟩
      rw [issues, ← hback, walk_append, List.append_assoc, List.append_assoc]
      exact List.prefix_append _ _
  | some d =>
      obtain rfl : found = tokens source := hpart.whole (by simp)
      exact ⟨⟨rfl, fun _ => rfl⟩, List.prefix_rfl⟩

end PageLint.Markup
