import PageLint.Proofs.Engine.Deadlines
import PageLint.Proofs.Script.Reports
import PageLint.Proofs.Script.Visits

/-! # Scripts out of time

The pass over the bare text is cut short with a first part of what it would find. So is a whole
check, once the names are resolved; where the walk that resolves them is cut short, nothing is
reported but second declarations and debugger statements. -/

namespace PageLint.Script

/-! ## The pass over the bare text -/

namespace Pass

variable {p q : Pass}

/-- What becomes of a pass from `p` with the deadline `d`, if it comes to `full` with all the time
it needs. -/
inductive EndsInTime (d : Deadline) (p : Pass) (full : Except Fault Pass) :
    Except Fault (Timed Pass) → Prop where
  | whole (d' : Deadline) (never : d = .never → d' = .never) :
      EndsInTime d p full (full.map fun q => ⟨q, some d'⟩)
  /-- It is cut short with a part of what it would find. -/
  | cut (q : Pass) (comes : d ≠ .never) (finds : p.Finds q) (more : ∀ r, full = .ok r → q.Finds r) :
      EndsInTime d p full (.ok ⟨q, none⟩)

theorem EndsInTime.behind {d d' : Deadline} {full : Except Fault Pass}
    {early : Except Fault (Timed Pass)} (h : EndsInTime d' q full early) (hfinds : p.Finds q)
    (hnever : d = .never → d' = .never) : EndsInTime d p full early := by
  cases h with
  | whole d'' never => exact .whole d'' fun hd => never (hnever hd)
  | cut q' comes finds more => exact .cut q' (mt hnever comes) (hfinds.trans finds) more

theorem ne_never_of_askedAt {d : Deadline} {due n size : Nat} (h : askedAt d due n size = none) :
    d ≠ .never := by
  rintro rfl
  unfold askedAt at h
  split at h <;> cases h

theorem eq_never_of_askedAt {d d' : Deadline} {due due' n size : Nat}
    (h : askedAt d due n size = some (d', due')) (hd : d = .never) : d' = .never := by
  subst hd
  unfold askedAt at h
  split at h
  all_goals
    cases h
    rfl

theorem endsInTime_run (d : Deadline) (due : Nat) (p : Pass) (n : Nat) (t : Text) :
    EndsInTime d p (p.run n t) (p.runInTime d due n t) := by
  induction p, n, t using Pass.run.induct generalizing d due with
  | case1 p n =>
      rw [runInTime, Pass.run]
      exact .whole d id
  | case2 p n c t hstarts word rest ih =>
      rw [runInTime]
      cases hask : askedAt d due n c.utf8Size with
      | none => exact .cut p (ne_never_of_askedAt hask) (.refl p) fun _ => finds_run
      | some asked =>
          obtain ⟨d', due'⟩ := asked
          simp only [hstarts, ↓reduceIte]
          rw [Pass.run, ite_cond_eq_true _ _ (eq_true hstarts)]
          exact (ih d' due').behind (finds_word p word n rest) (eq_never_of_askedAt hask)
  | case3 p n c t hstarts ih =>
      rw [runInTime]
      cases hask : askedAt d due n c.utf8Size with
      | none => exact .cut p (ne_never_of_askedAt hask) (.refl p) fun _ => finds_run
      | some asked =>
          obtain ⟨d', due'⟩ := asked
          simp only [hstarts, Bool.false_eq_true, ↓reduceIte]
          rw [Pass.run, ite_cond_eq_false _ _ (eq_false hstarts)]
          cases hmark : p.mark c with
          | error fault => exact .whole d id
          | ok next => exact (ih next d' due').behind (finds_mark hmark) (eq_never_of_askedAt hask)

end Pass

/-- In time, the bare text shows what it shows in all, or a first part of what it shows where it
stands. -/
theorem textIssuesInTime_cases (d : Deadline) (source : Text) :
    (∃ d', (d = .never → d' = .never) ∧
      textIssuesInTime d source = (textIssues source).map fun ds => ⟨ds, some d'⟩) ∨
    (d ≠ .never ∧ ∃ found, textIssuesInTime d source = .ok ⟨found, none⟩ ∧
      (∀ x ∈ found, Shows Issue.isLocal x) ∧ ∀ ds, textIssues source = .ok ds → found <+: ds) := by
  unfold textIssuesInTime
  cases hpoll : d.poll? with
  | none =>
      refine .inr ⟨?_, _, rfl, fun x hx => shows_of_mem_equalityIssues hx, fun ds hds => ?_⟩
      · rintro rfl
        cases hpoll
      · obtain ⟨pass, -, hds⟩ := exists_of_bind_eq_ok hds
        obtain rfl := Except.ok.inj hds
        rw [List.append_assoc]
        exact List.prefix_append _ _
  | some d' =>
      have hnever : d = .never → d' = .never := by
        rintro rfl
        exact (Option.some.inj hpoll).symm
      have hends := Pass.endsInTime_run d' 4096 {} 0 source
      unfold textIssues
      dsimp only
      generalize Pass.runInTime d' 4096 {} 0 source = early, Pass.run {} 0 source = full at hends
      cases hends with
      | whole d'' never =>
          refine .inl ⟨d'', fun hd => never (hnever hd), ?_⟩
          cases full <;> rfl
      | cut q comes finds more =>
          refine .inr ⟨mt hnever comes, _, rfl, List.forall_mem_append.mpr ⟨?_, ?_⟩,
            fun ds hds => ?_⟩
          · exact fun x hx => shows_of_mem_equalityIssues hx
          · exact fun x hx => finds.shows x (List.mem_reverse.mp hx)
          · obtain ⟨r, hr, hds⟩ := exists_of_bind_eq_ok hds
            obtain rfl := Except.ok.inj hds
            have hfound := List.reverse_prefix.mpr (more r hr).isSuffix
            rw [List.append_assoc]
            exact (List.prefix_append_right_inj _).mpr (hfound.trans (List.prefix_append _ _))

theorem textIssuesInTime_never (source : Text) :
    textIssuesInTime .never source = (textIssues source).map fun ds => ⟨ds, some .never⟩ := by
  rcases textIssuesInTime_cases .never source with ⟨d', hnever, heq⟩ | ⟨hcomes, -⟩
  · rw [heq, hnever rfl]
  · exact absurd rfl hcomes

/-- As far as there is time, the bare text shows a first part of what it shows in all. -/
theorem exists_textIssuesInTime (d : Deadline) {source : Text} {ds : List Diagnostic}
    (h : textIssues source = .ok ds) :
    ∃ t, textIssuesInTime d source = .ok t ∧ t.IsPartOf ds := by
  rcases textIssuesInTime_cases d source with ⟨d', -, heq⟩ | ⟨-, found, heq, -, hfound⟩
  · exact ⟨⟨ds, some d'⟩, by rw [heq, h]; rfl, List.prefix_rfl, fun _ => rfl⟩
  · exact ⟨⟨found, none⟩, heq, hfound ds h, fun hleft => absurd rfl hleft⟩

theorem shows_of_mem_textIssues {source : Text} {ds : List Diagnostic}
    (h : textIssues source = .ok ds) : ∀ x ∈ ds, Shows Issue.isTextual x := by
  obtain ⟨pass, first, -, rfl, hfirst⟩ := exists_of_textIssues h
  refine List.forall_mem_append.mpr ⟨?_, Pass.shows_of_mem_undeclaredIssues⟩
  exact fun x hx => (hfirst x hx).imp Issue.isTextual_of_isLocal

theorem shows_of_mem_textIssuesInTime {d : Deadline} {source : Text} {t : Timed (List Diagnostic)}
    (h : textIssuesInTime d source = .ok t) : ∀ x ∈ t.found, Shows Issue.isTextual x := by
  rcases textIssuesInTime_cases d source with ⟨d', -, heq⟩ | ⟨-, found, heq, hlocal, -⟩
  · cases htext : textIssues source with
    | error fault =>
        rw [htext] at heq
        cases h.symm.trans heq
    | ok ds =>
        rw [htext] at heq
        cases h.symm.trans heq
        exact shows_of_mem_textIssues htext
  · cases h.symm.trans heq
    exact fun x hx => (hlocal x hx).imp Issue.isTextual_of_isLocal

/-! ## The tree -/

theorem readIssuesInTime_never (source : Text) :
    readIssuesInTime .never source = ⟨readIssues source, some .never⟩ := by
  unfold readIssuesInTime readIssues
  cases (Reading.tree? source).bind Node.ofTree? with
  | none => rfl
  | some root =>
      dsimp only
      unfold treeIssuesInTime treeIssues
      split
      · rfl
      · exact nameIssuesInTime_never source root

/-- Reading a script comes to its end with all that there is to show, or it is cut short on the walk
over its names. -/
theorem readIssuesInTime_cases (d : Deadline) (source : Text) :
    (∃ d', readIssuesInTime d source = ⟨readIssues source, some d'⟩) ∨
      ((readIssuesInTime d source).left? = none ∧ ∀ x ∈ (readIssuesInTime d source).found,
        x.rule = some "no-redeclare" ∨ x.rule = some "no-debugger") := by
  unfold readIssuesInTime readIssues
  cases (Reading.tree? source).bind Node.ofTree? with
  | none => exact .inl ⟨d, rfl⟩
  | some root =>
      dsimp only
      unfold treeIssuesInTime treeIssues
      split
      · exact .inl ⟨d, rfl⟩
      · cases hleft : (root.actionsInTime source d).2 with
        | none =>
            refine .inr ⟨?_, rule_of_mem_nameIssuesInTime hleft⟩
            rw [nameIssuesInTime_of_none hleft]
        | some w => exact .inl ⟨w.deadline, nameIssuesInTime_of_some hleft⟩

/-- The script is read, and its names are resolved, before the time is up. -/
def ReadsInTime (d : Deadline) (source : Text) : Prop :=
  ∃ d', d.poll? = some d' ∧ (readIssuesInTime d' source).left? ≠ none

/-! ## Checks -/

/-- What a check adds to what it has found is kept in front of what a longer text adds. -/
theorem isPrefix_withoutRepeats {ds ds' : List Diagnostic} (h : ds <+: ds')
    (seen : List (Option String × Nat × Nat)) :
    withoutRepeats seen ds <+: withoutRepeats seen ds' := by
  induction ds generalizing seen ds' with
  | nil => exact List.nil_prefix
  | cons d ds ih =>
      obtain ⟨rest, rfl⟩ := h
      rw [List.cons_append, withoutRepeats, withoutRepeats]
      split
      · exact ih (List.prefix_append ds rest) seen
      · exact List.cons_prefix_cons.mpr ⟨rfl, ih (List.prefix_append ds rest) _⟩

theorem check_never (source : Text) {c : Context} (h : c.deadline = .never) :
    check source c =
      if c.script.heuristics then
        (textIssues source).map fun more =>
          { diagnostics := readIssues source ++ withoutRepeats ((readIssues source).map key) more }
      else .ok { diagnostics := readIssues source } := by
  simp only [check, h, Deadline.poll?_never, readIssuesInTime_never, withText,
    textIssuesInTime_never]
  cases textIssues source <;> rfl

/-- Without any time, nothing is found. -/
theorem check_of_poll_eq_none (source : Text) {c : Context} (h : c.deadline.poll? = none) :
    check source c = .ok { interrupted := true } := by
  simp only [check, h]

theorem check_of_not_readsInTime {source : Text} {c : Context} {d : Deadline}
    (hpoll : c.deadline.poll? = some d) (h : (readIssuesInTime d source).left? = none) :
    check source c =
      .ok { diagnostics := (readIssuesInTime d source).found, interrupted := true } := by
  simp only [check, hpoll, h]

theorem check_of_readsInTime {source : Text} {c : Context} {d d' : Deadline}
    (hpoll : c.deadline.poll? = some d)
    (h : readIssuesInTime d source = ⟨readIssues source, some d'⟩) :
    check source c =
      if c.script.heuristics then withText d' source (readIssues source)
      else .ok { diagnostics := readIssues source } := by
  simp only [check, hpoll, h]

/-- What the bare text adds to what was found in the tree. -/
theorem exists_of_withText {d : Deadline} {source : Text} {found : List Diagnostic} {f : Findings}
    (h : withText d source found = .ok f) :
    ∃ more, f.diagnostics = found ++ more ∧ ∀ x ∈ more, Shows Issue.isTextual x := by
  unfold withText at h
  split at h
  · obtain rfl := Except.ok.inj h
    exact ⟨[], (List.append_nil _).symm, by simp⟩
  · obtain ⟨more, hmore, hf⟩ := exists_of_bind_eq_ok h
    obtain rfl := Except.ok.inj hf
    exact ⟨_, rfl, fun x hx =>
      shows_of_mem_textIssuesInTime hmore x ((withoutRepeats_sublist _ _).subset hx)⟩

/-- A check shows what reading shows and then what the bare text shows. If there is no time to read
the script, it shows second declarations and debugger statements at most. -/
theorem check_cases {source : Text} {c : Context} {f : Findings} (h : check source c = .ok f) :
    (ReadsInTime c.deadline source ∧ ∃ more, f.diagnostics = readIssues source ++ more ∧
        ∀ x ∈ more, Shows Issue.isTextual x) ∨
      (¬ ReadsInTime c.deadline source ∧
        ∀ x ∈ f.diagnostics, x.rule = some "no-redeclare" ∨ x.rule = some "no-debugger") := by
  cases hpoll : c.deadline.poll? with
  | none =>
      rw [check_of_poll_eq_none source hpoll] at h
      obtain rfl := Except.ok.inj h
      refine .inr ⟨?_, by simp⟩
      rintro ⟨d, hd, -⟩
      cases hpoll.symm.trans hd
  | some d =>
      rcases readIssuesInTime_cases d source with ⟨d', heq⟩ | ⟨hleft, hrules⟩
      · refine .inl ⟨⟨d, hpoll, by simp [heq]⟩, ?_⟩
        rw [check_of_readsInTime hpoll heq] at h
        split at h
        · exact exists_of_withText h
        · obtain rfl := Except.ok.inj h
          exact ⟨[], by rw [List.append_nil], by simp⟩
      · rw [check_of_not_readsInTime hpoll hleft] at h
        refine .inr ⟨?_, ?_⟩
        · rintro ⟨d', hd', hleft'⟩
          obtain rfl := Option.some.inj (hpoll.symm.trans hd')
          exact hleft' hleft
        · generalize readIssuesInTime d source = read at hrules h
          obtain rfl := Except.ok.inj h
          exact hrules

/-- With any deadline, what the bare text adds is the first part of what it adds in all. -/
theorem exists_withText (d : Deadline) {source : Text} {more : List Diagnostic}
    (h : textIssues source = .ok more) (found : List Diagnostic) :
    ∃ early, withText d source found = .ok early ∧
      early.Starts { diagnostics := found ++ withoutRepeats (found.map key) more } := by
  unfold withText
  cases d.poll? with
  | none =>
      exact ⟨_, rfl, ⟨rfl, fun h => nomatch h⟩, List.prefix_append _ _⟩
  | some d' =>
      obtain ⟨t, ht, hpart⟩ := exists_textIssuesInTime d' h
      have hnew : Timed.IsPartOf ⟨withoutRepeats (found.map key) t.found, t.left?⟩
          (withoutRepeats (found.map key) more) :=
        ⟨isPrefix_withoutRepeats hpart.isPrefix _,
          fun hleft => congrArg (withoutRepeats (found.map key)) (hpart.whole hleft)⟩
      simp only [ht]
      exact ⟨_, rfl, hnew.starts found⟩

/-- With any deadline, a check has an answer if it has one with all the time it needs. It is the
first part of that one, unless there is some time but not enough to resolve the names. -/
theorem exists_check {source : Text} {c c' : Context} {f : Findings} (hnever : c.deadline = .never)
    (hscript : c'.script = c.script) (h : check source c = .ok f) :
    ∃ early, check source c' = .ok early ∧ early.Admits f ∧
      (c'.deadline.poll? = none ∨ ReadsInTime c'.deadline source → early.Starts f) := by
  have hfull : f.interrupted = false := by
    rw [check_never source hnever] at h
    split at h
    · obtain ⟨more, -, rfl⟩ := exists_of_map_eq_ok h
      rfl
    · exact congrArg Findings.interrupted (Except.ok.inj h).symm
  cases hpoll : c'.deadline.poll? with
  | none =>
      refine ⟨_, check_of_poll_eq_none source hpoll, ⟨hfull, fun h => nomatch h⟩, fun _ => ?_⟩
      exact ⟨⟨hfull, fun h => nomatch h⟩, List.nil_prefix⟩
  | some d =>
      rcases readIssuesInTime_cases d source with ⟨d', heq⟩ | ⟨hleft, -⟩
      · suffices ∃ early, check source c' = .ok early ∧ early.Starts f by
          obtain ⟨early, hearly, hstarts⟩ := this
          exact ⟨early, hearly, hstarts.toAdmits, fun _ => hstarts⟩
        rw [check_of_readsInTime hpoll heq, hscript]
        rw [check_never source hnever] at h
        split at h
        · obtain ⟨more, hmore, rfl⟩ := exists_of_map_eq_ok h
          rw [if_pos ‹_›]
          exact exists_withText d' hmore _
        · rw [if_neg ‹_›]
          exact ⟨f, h, ⟨hfull, fun _ => rfl⟩, List.prefix_rfl⟩
      · refine ⟨_, check_of_not_readsInTime hpoll hleft, ⟨hfull, fun h => nomatch h⟩, ?_⟩
        rintro (hnone | ⟨d', hd', hleft'⟩)
        · cases hnone
        · obtain rfl := Option.some.inj (hpoll.symm.trans hd')
          exact absurd hleft hleft'

end PageLint.Script
