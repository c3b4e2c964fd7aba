import PageLint.Proofs.Engine.Selection
import PageLint.Proofs.Markup.Interruption
import PageLint.Proofs.Script.Interruption
import PageLint.Proofs.Style.Interruption

/-! # Checks out of time

A check that ends because its time is up admits that there may be more. What it has found is the
first part of what the whole check finds, but for a script that is cut short on the walk over its
names. The options select from the front of what was found, so the same holds of reports. -/

namespace PageLint

/-! ## Time budgets -/

def Options.untimed (o : Options) : Options := { o with timeout := none }

/-- So many milliseconds. -/
def Options.timed (o : Options) (ms : Nat) : Options := { o with timeout := some ms }

/-- No time at all. -/
def Options.hurried (o : Options) : Options := { o with timeout := some 0 }

/-! ## Checkers -/

/-- The time is up at once, or a script is read before it is. -/
def Deadline.KeepsOrder (d : Deadline) (l : Language) (source : Text) : Prop :=
  l = .script → d.poll? = none ∨ Script.ReadsInTime d source

theorem Deadline.keepsOrder_zero (l : Language) (source : Text) : (after 0).KeepsOrder l source :=
  fun _ => .inl rfl

/-- Out of time, the checker admits that there may be more. What it has found it has found from the
front, if the deadline keeps the order. -/
def Checker.Stops (k : Checker) : Prop :=
  ∀ (source : Text) (o : Options) (f : Findings), k.check source o.untimed.context = .ok f →
    ∀ (ms : Nat) (clock : Deadline),
      ∃ early, k.check source ((o.timed ms).context clock) = .ok early ∧ early.Admits f ∧
        (((o.timed ms).deadline clock).KeepsOrder k.language source → early.Starts f)

theorem Engine.stops_standard : ∀ k ∈ standard.checkers, k.Stops := by
  intro k hk source o f hf ms clock
  simp only [standard, List.mem_cons, List.not_mem_nil, or_false] at hk
  rcases hk with rfl | rfl | rfl
  · obtain rfl := Except.ok.inj hf
    have hstarts := Markup.starts_check source ((o.timed ms).context clock)
    rw [Markup.check_never source rfl]
    exact ⟨_, rfl, hstarts.toAdmits, fun _ => hstarts⟩
  · obtain rfl := Except.ok.inj hf
    have hstarts := Style.starts_check .standard source ((o.timed ms).context clock)
    rw [Style.check_never .standard source rfl]
    exact ⟨_, rfl, hstarts.toAdmits, fun _ => hstarts⟩
  · have hnever : (o.untimed.context).deadline = .never := rfl
    have hscript : ((o.timed ms).context clock).script = (o.untimed.context).script := rfl
    simp only [Script.checker] at hf ⊢
    obtain ⟨early, hearly, hadmits, hstarts⟩ := Script.exists_check hnever hscript hf
    exact ⟨early, hearly, hadmits, fun horder => hstarts (horder rfl)⟩

/-! ## Reports -/

variable {o : Options} {ds ds' : List Diagnostic}

theorem truncate_prefix (limit : Option Nat) (h : ds <+: ds') :
    truncate limit ds <+: truncate limit ds' := by
  cases limit with
  | none => exact h
  | some n => exact h.take n

/-- What the options leave of the first part of a list comes first in what they leave of it. -/
theorem select_prefix (o : Options) (h : ds <+: ds') : select o ds <+: select o ds' := by
  rw [select_eq, select_eq]
  exact truncate_prefix o.maxErrors ((h.filter _).map _)

theorem Findings.Starts.report {early full : Findings} (h : early.Starts full) (source : Text)
    (o : Options) :
    (early.report source o).diagnostics <+: (full.report source o).diagnostics :=
  select_prefix o (h.diagnostics.map _)

/-- With any time budget and any clock, the standard engine has a report if it has one with all the
time it needs, and it reports the whole unless it says otherwise. -/
theorem Engine.exists_check_timed {source : Text} {l : Language} {o : Options} {r : Report}
    (h : standard.check source l o.untimed = .ok r) (ms : Nat) (clock : Deadline) :
    ∃ early, standard.check source l (o.timed ms) clock = .ok early ∧ r.interrupted = false ∧
      (early.interrupted = false → early = r) ∧
      (((o.timed ms).deadline clock).KeepsOrder l source →
        early.diagnostics <+: r.diagnostics) := by
  rcases check_eq_ok_iff.mp h with ⟨hnone, rfl⟩ | ⟨k, f, hk, hf, rfl⟩
  · exact ⟨{}, check_eq_ok_iff.mpr (.inl ⟨hnone, rfl⟩), rfl, fun _ => rfl, fun _ => List.prefix_rfl⟩
  · have hlanguage : k.language = l := by simpa using List.find?_some hk
    obtain ⟨early, hearly, hadmits, hstarts⟩ :=
      stops_standard k (List.mem_of_find?_eq_some hk) source o f hf ms clock
    rw [hlanguage] at hstarts
    refine ⟨early.report source (o.timed ms),
      check_eq_ok_iff.mpr (.inr ⟨k, early, hk, hearly, rfl⟩), hadmits.complete,
      fun hcomplete => ?_, fun horder => (hstarts horder).report source o⟩
    rw [hadmits.eq_of_complete hcomplete]
    rfl

/-- With no time at all, the standard engine reports the first part of what it reports with all the
time it needs, and the whole of it unless it admits that there may be more. With any time budget and
whatever the clock says, it has a report, and the same is true of it, but that the diagnostics of a
script need not be the first ones if the time is up on the walk over its names. -/
theorem Engine.check_hurried {source : Text} {l : Language} {o : Options} {r : Report}
    (h : standard.check source l o.untimed = .ok r) :
    (∃ early, standard.check source l o.hurried = .ok early ∧
      early.diagnostics <+: r.diagnostics ∧ r.interrupted = false ∧
      (early.interrupted = false → early = r)) ∧
    ∀ (ms : Nat) (clock : Deadline), ∃ early,
      standard.check source l (o.timed ms) clock = .ok early ∧
        (early.interrupted = false → early = r) ∧
        (((o.timed ms).deadline clock).KeepsOrder l source →
          early.diagnostics <+: r.diagnostics) := by
  constructor
  · obtain ⟨early, hearly, hfull, heq, hfront⟩ := exists_check_timed h 0 .never
    exact ⟨early, hearly, hfront (Deadline.keepsOrder_zero l source), hfull, heq⟩
  · intro ms clock
    obtain ⟨early, hearly, -, heq, hfront⟩ := exists_check_timed h ms clock
    exact ⟨early, hearly, heq, hfront⟩

/-- Out of time, the stray brace has been found and the declarations have not been looked at,
whether there is no time at all or the time is up at the first declaration. If it is not up there,
it is not asked for again. -/
theorem Engine.check_hurried_fourIssues :
    ∃ r, standard.check Style.fourIssues .style (Options.untimed { maxErrors := some 2 }) = .ok r ∧
      (∃ early,
        standard.check Style.fourIssues .style (Options.hurried { maxErrors := some 2 }) =
          .ok early ∧
        early.diagnostics <+: r.diagnostics ∧ r.interrupted = false ∧
        (early.interrupted = false → early = r) ∧
        early.diagnostics.length = 1 ∧ r.diagnostics.length = 2) ∧
      (∃ early,
        standard.check Style.fourIssues .style (Options.timed { maxErrors := some 2 } 5)
          (.after 1) = .ok early ∧
        early.diagnostics <+: r.diagnostics ∧ early.interrupted = true ∧
        early.diagnostics.length = 1) ∧
      standard.check Style.fourIssues .style (Options.timed { maxErrors := some 2 } 5) (.after 2) =
        .ok r := by
  have hcheck : standard.check Style.fourIssues .style (Options.untimed { maxErrors := some 2 }) =
      .ok _ := rfl
  obtain ⟨⟨early, hearly, hfront, hcomplete, heq⟩, htimed⟩ := check_hurried hcheck
  obtain ⟨cut, hcut, -, hcutFront⟩ := htimed 5 (.after 1)
  obtain ⟨full, hfull, hsame, -⟩ := htimed 5 (.after 2)
  refine ⟨_, hcheck, ⟨early, hearly, hfront, hcomplete, heq, ?_, by decide +kernel⟩,
    ⟨cut, hcut, hcutFront (by intro hl; cases hl), ?_⟩, ?_⟩
  · obtain rfl := Except.ok.inj hearly
    decide +kernel
  · obtain rfl := Except.ok.inj hcut
    decide +kernel
  · have hdone : full.interrupted = false := by
      obtain rfl := Except.ok.inj hfull
      decide +kernel
    rw [hfull, hsame hdone]

end PageLint
