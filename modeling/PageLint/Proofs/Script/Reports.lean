import PageLint.Proofs.Script.Resolution
import PageLint.Proofs.Text.Names
import PageLint.Script.Check

/-! # What reports say

A name without a meaning is reported by a message that no other issue has. So the messages of a
check tell which names have no meaning; the pass over the bare text adds nothing to them, nor to the
reports of what is unused. -/

namespace PageLint.Script

/-! ## Messages -/

namespace Issue

/-- A name has no meaning. -/
def isUndefined : Issue → Bool
  | undefinedFunction _ | undefinedVariable _ => true
  | _ => false

theorem isUndefined_iff_message {i : Issue} :
    i.isUndefined = true ↔ "Undefined ".toList <+: i.message.toList := by
  unfold message
  cases i <;> simp only [String.toList_append, String.toList_ofList]
  all_goals simp [isUndefined]

/-- No other issue has the message of a name without a meaning. -/
theorem eq_of_message {i j : Issue} (hj : j.isUndefined = true) (h : i.message = j.message) :
    i = j := by
  have hi : i.isUndefined = true := by
    rw [isUndefined_iff_message, h, ← isUndefined_iff_message]
    exact hj
  have hlist := congrArg String.toList h
  unfold message at hlist
  cases i with
  | undefinedFunction name =>
      cases j with
      | undefinedFunction other =>
          simp only [String.toList_append, String.toList_ofList] at hlist
          rw [List.append_cancel_left hlist]
      | undefinedVariable other => simp [String.toList_append] at hlist
      | _ => cases hj
  | undefinedVariable name =>
      cases j with
      | undefinedFunction other => simp [String.toList_append] at hlist
      | undefinedVariable other =>
          simp only [String.toList_append, String.toList_ofList] at hlist
          rw [List.append_cancel_left hlist]
      | _ => cases hj
  | _ => cases hi

/-- The issue shows in the bare text. -/
def isTextual : Issue → Bool
  | redeclared _ | looseEquality | looseInequality | strayAwait | undeclaredSource _ => true
  | _ => false

/-- The issue shows in the bare text where it stands, and not only at the end of the text. -/
def isLocal : Issue → Bool
  | redeclared _ | looseEquality | looseInequality | strayAwait => true
  | _ => false

theorem isTextual_of_isLocal (i : Issue) (h : i.isLocal = true) : i.isTextual = true := by
  cases i <;> first | rfl | cases h

theorem isUndefined_of_isTextual (i : Issue) (h : i.isTextual = true) :
    (!i.isUndefined) = true := by
  cases i <;> first | rfl | cases h

end Issue

/-- The diagnostic is about an issue of some kind. -/
def Shows (kind : Issue → Bool) (d : Diagnostic) : Prop :=
  ∃ i : Issue, kind i = true ∧ d.message = i.message ∧ d.rule = some i.rule

theorem Shows.imp {kind kind' : Issue → Bool} {d : Diagnostic} (h : Shows kind d)
    (himp : ∀ i, kind i = true → kind' i = true) : Shows kind' d := by
  obtain ⟨i, hi, hmessage, hrule⟩ := h
  exact ⟨i, himp i hi, hmessage, hrule⟩

/-- The name is reported to have no meaning. -/
def ReportsUndefined (ds : List Diagnostic) (name : Text) : Prop :=
  ∃ d ∈ ds, d.message = (Issue.undefinedVariable name).message ∨
    d.message = (Issue.undefinedFunction name).message

instance (ds : List Diagnostic) (name : Text) : Decidable (ReportsUndefined ds name) :=
  inferInstanceAs (Decidable (∃ d ∈ ds, _))

/-- Diagnostics about something else do not say so. -/
theorem reportsUndefined_append {ds more : List Diagnostic} {name : Text}
    (h : ∀ d ∈ more, Shows (!·.isUndefined) d) :
    ReportsUndefined (ds ++ more) name ↔ ReportsUndefined ds name := by
  constructor
  · rintro ⟨d, hd, hmessage⟩
    rcases List.mem_append.mp hd with hd | hd
    · exact ⟨d, hd, hmessage⟩
    · obtain ⟨i, hi, hshown, -⟩ := h d hd
      rw [hshown] at hmessage
      rcases hmessage with hmessage | hmessage <;>
        simp [Issue.eq_of_message rfl hmessage, Issue.isUndefined] at hi
  · rintro ⟨d, hd, hmessage⟩
    exact ⟨d, List.mem_append_left more hd, hmessage⟩

theorem reportsUndefined_perm {ds ds' : List Diagnostic} {name : Text} (h : ds.Perm ds') :
    ReportsUndefined ds name ↔ ReportsUndefined ds' name := by
  simp only [ReportsUndefined, h.mem_iff]

/-! ## The names of a program -/

/-- What is found while the program is walked over. -/
theorem Walk.shows_run {w : Walk} (h : w.Sound) (hfound : ∀ d ∈ w.found, Shows (!·.isUndefined) d)
    (as : List Action) : ∀ d ∈ (w.run as).found, Shows (!·.isUndefined) d := by
  induction as using Action.list_induction generalizing w with
  | nil => exact hfound
  | declare name kind start stop removal rest ih =>
      rw [run_declare]
      refine ih (h.declare name kind start stop removal) ?_
      rcases declare_cases h.reachable.isBinding name kind start stop removal with
        ⟨-, heq⟩ | ⟨-, old, heq⟩ <;> rw [heq]
      · exact hfound
      · intro d hd
        rcases Array.mem_push.mp hd with hd | rfl
        · exact hfound d hd
        · refine ⟨redeclaration old kind name, ?_, rfl, rfl⟩
          unfold redeclaration
          split <;> rfl
  | use name role start stop rest ih => exact ih (h.record name role start stop) hfound
  | scope kind body rest ihBody ihRest =>
      exact ihRest ((h.enter kind).run body).leave (ihBody (h.enter kind) hfound)
  | exported body rest ihBody ihRest =>
      exact ihRest (((h.exporting true).run body).exporting false)
        (ihBody (h.exporting true) hfound)
  | debugger start stop rest ih =>
      refine ih (h.halt start stop) fun d hd => ?_
      rcases Array.mem_push.mp hd with hd | rfl
      · exact hfound d hd
      · exact ⟨.debuggerStatement, rfl, rfl, rfl⟩

theorem Declaration.shows_report? {d : Declaration} {r : Diagnostic} (h : d.report? = some r) :
    Shows (!·.isUndefined) r := by
  unfold report? at h
  split at h
  · obtain rfl := Option.some.inj h
    refine ⟨d.unusedIssue, ?_, rfl, rfl⟩
    unfold unusedIssue
    split <;> rfl
  · cases h

theorem Use.eq_of_issue? {s : Scopes} {u : Use} {i : Issue} (h : u.issue? s = some i) :
    i = .undefinedVariable u.name ∨ i = .undefinedFunction u.name := by
  unfold issue? at h
  split at h
  · cases h
  · split at h
    · cases h
    all_goals
      obtain rfl := Option.some.inj h
      simp

/-- The reports of a program's names tell the names of its uses without a meaning. -/
theorem reportsUndefined_nameIssues (source : Text) (root : Node) (name : Text) :
    ReportsUndefined (nameIssues source root) name ↔
      ∃ i ∈ (root.walk source).uses.toList.filterMap (·.issue? (root.walk source).scopes),
        i = .undefinedVariable name ∨ i = .undefinedFunction name := by
  have hfound : ∀ d ∈ (root.walk source).found.toList, Shows (!·.isUndefined) d :=
    fun d hd => Walk.shows_run .start (by simp) _ d (Array.mem_def.mpr hd)
  have hdeclarations : ∀ d ∈ ((root.walk source).scopes.readAll
      (root.walk source).uses.toList).declarations.toList.filterMap (·.report?),
      Shows (!·.isUndefined) d := by
    intro d hd
    obtain ⟨declaration, -, hdeclaration⟩ := List.mem_filterMap.mp hd
    exact declaration.shows_report? hdeclaration
  rw [nameIssues_eq, reportsUndefined_append hdeclarations,
    reportsUndefined_perm List.perm_append_comm, reportsUndefined_append hfound]
  constructor
  · rintro ⟨d, hd, hmessage⟩
    obtain ⟨u, hu, hreport⟩ := List.mem_filterMap.mp hd
    obtain ⟨i, hissue, rfl⟩ := Option.map_eq_some_iff.mp hreport
    exact ⟨i, List.mem_filterMap.mpr ⟨u, hu, hissue⟩,
      hmessage.imp (Issue.eq_of_message rfl) (Issue.eq_of_message rfl)⟩
  · rintro ⟨i, hi, hname⟩
    obtain ⟨u, hu, hissue⟩ := List.mem_filterMap.mp hi
    refine ⟨i.report u.start u.stop, List.mem_filterMap.mpr ⟨u, hu, ?_⟩, ?_⟩
    · rw [Use.report?, hissue, Option.map_some]
    · exact hname.imp (congrArg Issue.message) (congrArg Issue.message)

/-! ## The bare text -/

theorem shows_of_mem_equalityIssues {source : Text} {d : Diagnostic}
    (h : d ∈ equalityIssues source) : Shows Issue.isLocal d := by
  obtain ⟨⟨n, found⟩, hmem, hd⟩ := List.mem_filterMap.mp h
  obtain ⟨issue, rfl, rfl⟩ := Option.map_eq_some_iff.mp hd
  obtain ⟨-, t, before, len, -, -, hmatch⟩ := Text.exists_of_mem_matchesFrom hmem
  refine ⟨issue, ?_, rfl, rfl⟩
  unfold equality at hmatch
  split at hmatch
  · split at hmatch <;> simp at hmatch
    simp [← hmatch.1, Issue.isLocal]
  · split at hmatch <;> simp at hmatch
    simp [← hmatch.1, Issue.isLocal]
  · cases hmatch

namespace Pass

variable {p q : Pass}

/-- From `p` to `q`, the pass has found what shows where it stands, and has forgotten nothing. -/
def Finds (p q : Pass) : Prop :=
  ∃ news, q.found = news ++ p.found ∧ ∀ d ∈ news, Shows Issue.isLocal d

theorem Finds.of_found_eq (h : q.found = p.found) : p.Finds q := ⟨[], by simp [h], by simp⟩

theorem Finds.refl (p : Pass) : p.Finds p := .of_found_eq rfl

theorem Finds.trans {r : Pass} (h : p.Finds q) (h' : q.Finds r) : p.Finds r := by
  obtain ⟨news, hq, hnews⟩ := h
  obtain ⟨more, hr, hmore⟩ := h'
  exact ⟨more ++ news, by rw [hr, hq, List.append_assoc], List.forall_mem_append.mpr ⟨hmore, hnews⟩⟩

/-- A pass from the start shows nothing but what it adds. -/
theorem Finds.shows (h : Finds {} p) : ∀ d ∈ p.found, Shows Issue.isLocal d := by
  obtain ⟨news, hp, hnews⟩ := h
  rw [hp, List.append_nil]
  exact hnews

theorem Finds.isSuffix (h : p.Finds q) : p.found <:+ q.found := by
  obtain ⟨news, hq, -⟩ := h
  exact ⟨news, hq.symm⟩

/-- Everything is as it was, except for the place of the pass. -/
structure Keeps (p q : Pass) : Prop where
  found : q.found = p.found
  known : q.known = p.known
  patterns : q.patterns = p.patterns

theorem keeps_endStatement (p : Pass) (c : Char) (isNested : Bool) :
    p.Keeps (p.endStatement c isNested) := by
  unfold endStatement
  split <;> exact ⟨rfl, rfl, rfl⟩

theorem keeps_openBlock (h : p.openBlock = .ok q) : p.Keeps q := by
  obtain ⟨kind, -, hopened⟩ := exists_of_bind_eq_ok h
  obtain rfl := Except.ok.inj hopened
  obtain ⟨hfound, hknown, hpatterns⟩ := keeps_endStatement
    { p with block := ⟨kind, p.parens, []⟩, outer := p.block :: p.outer } '{' p.isInParentheses
  exact ⟨hfound, hknown, hpatterns⟩

theorem keeps_closeBlock (p : Pass) : p.Keeps p.closeBlock := by
  unfold closeBlock
  cases houter : p.outer with
  | nil => exact keeps_endStatement p '}' _
  | cons b outer =>
      obtain ⟨hfound, hknown, hpatterns⟩ :=
        keeps_endStatement { p with block := b, outer } '}' _
      exact ⟨hfound, hknown, hpatterns⟩

/-- A single character shows nothing and introduces nothing. -/
theorem keeps_mark {c : Char} (h : p.mark c = .ok q) : p.Keeps q := by
  unfold mark at h
  split at h
  · exact keeps_openBlock h
  · split at h
    · obtain rfl := Except.ok.inj h
      exact keeps_closeBlock p
    · split at h
      · obtain rfl := Except.ok.inj h
        exact keeps_endStatement p _ _
      · obtain rfl := Except.ok.inj h
        exact ⟨rfl, rfl, rfl⟩

theorem found_learn (p : Pass) (name : Text) : (p.learn name).found = p.found := by
  unfold learn
  split <;> rfl

theorem found_destructure (p : Pass) (n : Nat) (rest : Text) :
    (p.destructure n rest).found = p.found := by
  unfold destructure
  split
  · split <;> rfl
  · rfl

theorem finds_declare (p : Pass) (n : Nat) (name : Text) : p.Finds (p.declare n name) := by
  unfold declare
  split
  · exact .refl p
  · dsimp only
    split
    · refine ⟨[(Issue.redeclared name).report n (n + name.size)], ?_, ?_⟩
      · exact congrArg (_ :: ·) (found_learn p name)
      · exact List.forall_mem_singleton.mpr ⟨.redeclared name, rfl, rfl, rfl⟩
    · exact .of_found_eq (found_learn p name)

theorem shows_awaitIssues (p : Pass) (n : Nat) :
    ∀ d ∈ p.awaitIssues n, Shows Issue.isLocal d := by
  unfold awaitIssues
  split
  · simp
  · simp only [List.forall_mem_singleton]
    exact ⟨.strayAwait, rfl, rfl, rfl⟩

theorem finds_meet (p : Pass) (word : String) (n stop : Nat) (rest : Text) :
    p.Finds (p.meet word n stop rest) := by
  unfold meet
  split
  · exact ⟨p.awaitIssues n, rfl, shows_awaitIssues p n⟩
  · split
    · exact finds_declare p _ _
    · exact .of_found_eq (found_destructure p _ _)
  · split
    · exact finds_declare p _ _
    · exact .of_found_eq (found_destructure p _ _)
  · split
    · exact finds_declare p _ _
    · exact .refl p
  · split
    · exact .of_found_eq (found_learn p _)
    · exact .of_found_eq (found_destructure p _ _)
  · split
    · exact .of_found_eq (found_learn p _)
    · exact .refl p
  · split
    · exact .of_found_eq rfl
    · exact .refl p
  · exact .refl p

theorem finds_word (p : Pass) (word : Text) (n : Nat) (rest : Text) :
    p.Finds (p.word word n rest) := by
  unfold Pass.word
  dsimp only
  split
  · exact .of_found_eq rfl
  · exact (finds_meet p _ _ _ _).trans (.of_found_eq rfl)

theorem finds_mark {c : Char} (h : p.mark c = .ok q) : p.Finds q :=
  .of_found_eq (keeps_mark h).found

theorem finds_run {n : Nat} {t : Text} (h : p.run n t = .ok q) : p.Finds q := by
  induction p, n, t using Pass.run.induct with
  | case1 p n =>
      rw [Pass.run] at h
      obtain rfl := Except.ok.inj h
      exact .refl p
  | case2 p n c t hstarts word rest ih =>
      rw [Pass.run, ite_cond_eq_true _ _ (eq_true hstarts)] at h
      exact (finds_word p word n rest).trans (ih h)
  | case3 p n c t hstarts ih =>
      rw [Pass.run, ite_cond_eq_false _ _ (eq_false hstarts)] at h
      obtain ⟨next, hmark, hrest⟩ := exists_of_bind_eq_ok h
      exact (finds_mark hmark).trans (ih next hrest)

end Pass

/-- The bare text shows what it shows where it stands, and then what the whole pass tells. -/
theorem exists_of_textIssues {source : Text} {ds : List Diagnostic}
    (h : textIssues source = .ok ds) :
    ∃ (pass : Pass) (first : List Diagnostic), Pass.run {} 0 source = .ok pass ∧
      ds = first ++ pass.undeclaredIssues ∧ ∀ d ∈ first, Shows Issue.isLocal d := by
  obtain ⟨pass, hpass, hds⟩ := exists_of_bind_eq_ok h
  obtain rfl := Except.ok.inj hds
  refine ⟨pass, _, hpass, rfl, List.forall_mem_append.mpr ⟨?_, ?_⟩⟩
  · exact fun d hd => shows_of_mem_equalityIssues hd
  · exact fun d hd => (Pass.finds_run hpass).shows d (List.mem_reverse.mp hd)

theorem Pass.shows_of_mem_undeclaredIssues {pass : Pass} :
    ∀ d ∈ pass.undeclaredIssues, Shows Issue.isTextual d := by
  intro d hd
  obtain ⟨pattern, -, rfl⟩ := List.mem_map.mp hd
  exact ⟨.undeclaredSource pattern.source, rfl, rfl, rfl⟩

theorem withoutRepeats_sublist (seen : List (Option String × Nat × Nat)) (ds : List Diagnostic) :
    (withoutRepeats seen ds).Sublist ds := by
  induction ds generalizing seen with
  | nil => exact .slnil
  | cons d ds ih =>
      rw [withoutRepeats]
      split
      · exact (ih _).cons d
      · exact (ih _).cons_cons d

end PageLint.Script
