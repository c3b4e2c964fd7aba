import Mathlib.Data.List.Lex
import Mathlib.Order.Bounds.Basic
import PageLint.Proofs.Script.Unused

/-! # The first defect of a tree

The search for what is wrong with a tree does not look into a node whose flag says that nothing is.
Where the flags are right, it misses nothing by that: it finds the defect that comes first in the
text. So a script with defects has a single report of them. -/

namespace PageLint.Script

namespace Node

variable {root n c m : Node} {i : Nat} {p q : List Nat}

/-- The node is a stretch that no rule covers, or it is missing from the text. -/
def IsDefect (n : Node) : Prop := n.kind = .error ∨ n.isMissing = true

instance (n : Node) : Decidable n.IsDefect := inferInstanceAs (Decidable (_ ∨ _))

/-- The node at an address, which has the number of a child for each step down. The order of lists is
the order of the text: the address of a node comes before those of the nodes inside of it, and these
come before those of its later siblings and of the nodes inside of them. -/
def at? (n : Node) : List Nat → Option Node
  | [] => some n
  | i :: p => n.children[i]?.bind (·.at? p)

def IsDefectAt (n : Node) (p : List Nat) : Prop := ∃ m, n.at? p = some m ∧ m.IsDefect

/-- The node is a defect, or one is inside of it. -/
def HasDefect (n : Node) : Prop := ∃ p, n.IsDefectAt p

/-- The flags in a tree are right. Those of nodes that are defects themselves may say anything: the
search never asks for them, and a stretch of characters that make no token has none. -/
def FlagsInside (n : Node) : Prop :=
  ∀ p m, n.at? p = some m → ¬ m.IsDefect → (m.hasError = true ↔ m.HasDefect)

/-- The flags in a tree are right, and so is that of its root, whatever this is. -/
structure IsFlagged (root : Node) : Prop where
  top : root.hasError = true ↔ root.HasDefect
  inside : root.FlagsInside

/-! ## Addresses -/

theorem isDefectAt_nil : n.IsDefectAt [] ↔ n.IsDefect := by
  simp [IsDefectAt, at?]

theorem at?_cons_eq_some_iff :
    n.at? (i :: p) = some m ↔ ∃ c, n.children[i]? = some c ∧ c.at? p = some m := by
  rw [at?, Option.bind_eq_some_iff]

theorem isDefectAt_cons :
    n.IsDefectAt (i :: p) ↔ ∃ c, n.children[i]? = some c ∧ c.IsDefectAt p := by
  constructor
  · rintro ⟨m, hm, hdefect⟩
    obtain ⟨c, hc, hm⟩ := at?_cons_eq_some_iff.mp hm
    exact ⟨c, hc, m, hm, hdefect⟩
  · rintro ⟨c, hc, m, hm, hdefect⟩
    exact ⟨m, at?_cons_eq_some_iff.mpr ⟨c, hc, hm⟩, hdefect⟩

theorem IsDefect.hasDefect (h : n.IsDefect) : n.HasDefect := ⟨[], isDefectAt_nil.mpr h⟩

/-- A defect is found at the node or inside of one of its children. -/
theorem hasDefect_iff : n.HasDefect ↔ n.IsDefect ∨ ∃ c ∈ n.children, c.HasDefect := by
  constructor
  · intro h
    obtain ⟨p, hp⟩ := h
    cases p with
    | nil => exact .inl (isDefectAt_nil.mp hp)
    | cons i p =>
        obtain ⟨c, hc, hp⟩ := isDefectAt_cons.mp hp
        exact .inr ⟨c, List.mem_of_getElem? hc, p, hp⟩
  · rintro (hn | ⟨c, hc, p, hp⟩)
    · exact hn.hasDefect
    · obtain ⟨i, hi⟩ := List.getElem?_of_mem hc
      exact ⟨i :: p, isDefectAt_cons.mpr ⟨c, hi, hp⟩⟩

/-! ## Flags -/

theorem FlagsInside.of_mem_children (h : n.FlagsInside) (hc : c ∈ n.children) :
    c.FlagsInside := by
  intro p m hm
  obtain ⟨i, hi⟩ := List.getElem?_of_mem hc
  exact h (i :: p) m (at?_cons_eq_some_iff.mpr ⟨c, hi, hm⟩)

theorem FlagsInside.hasDefect_iff (h : n.FlagsInside) :
    n.HasDefect ↔ n.IsDefect ∨ n.hasError = true := by
  by_cases hn : n.IsDefect
  · simp [hn, hn.hasDefect]
  · rw [h [] n rfl hn, or_iff_right hn]

/-- Where the flags are right inside of the children, these tell whether a defect is there. -/
theorem hasDefect_iff_of_children (hn : ¬ n.IsDefect) (h : ∀ c ∈ n.children, c.FlagsInside) :
    n.HasDefect ↔ ∃ c ∈ n.children, c.IsDefect ∨ c.hasError = true := by
  rw [hasDefect_iff, or_iff_right hn]
  apply exists_congr
  intro c
  exact and_congr_right fun hc => (h c hc).hasDefect_iff

/-- Whether the flags are right can be told from each node and its children. -/
theorem flagsInside_iff :
    n.FlagsInside ↔
      (¬ n.IsDefect →
        (n.hasError = true ↔ ∃ c ∈ n.children, c.IsDefect ∨ c.hasError = true)) ∧
      ∀ c ∈ n.children, c.FlagsInside := by
  constructor
  · intro h
    have hinside : ∀ c ∈ n.children, c.FlagsInside := fun c hc => h.of_mem_children hc
    refine ⟨fun hn => ?_, hinside⟩
    rw [h [] n rfl hn, hasDefect_iff_of_children hn hinside]
  · rintro ⟨hflag, hinside⟩ p m hm hdefect
    cases p with
    | nil =>
        obtain rfl : n = m := Option.some.inj hm
        rw [hflag hdefect, hasDefect_iff_of_children hdefect hinside]
    | cons i p =>
        obtain ⟨c, hc, hm⟩ := at?_cons_eq_some_iff.mp hm
        exact hinside c (List.mem_of_getElem? hc) p m hm hdefect

mutual

def decidableFlagsInside (n : Node) : Decidable n.FlagsInside :=
  match n with
  | .mk kind isNamed roles start stop text isMissing hasError children =>
    have := decidableAllFlagsInside children
    decidable_of_iff _
      (flagsInside_iff
        (n := .mk kind isNamed roles start stop text isMissing hasError children)).symm

def decidableAllFlagsInside : (cs : List Node) → Decidable (∀ c ∈ cs, c.FlagsInside)
  | [] => isTrue (List.forall_mem_nil _)
  | c :: rest =>
    have := decidableFlagsInside c
    have := decidableAllFlagsInside rest
    decidable_of_iff _ List.forall_mem_cons.symm

end

instance (n : Node) : Decidable n.FlagsInside := decidableFlagsInside n

theorem isFlagged_iff : root.IsFlagged ↔
    root.FlagsInside ∧ (root.IsDefect → root.hasError = true) := by
  constructor
  · intro h
    exact ⟨h.inside, fun hroot => h.top.mpr hroot.hasDefect⟩
  · rintro ⟨hinside, hroot⟩
    refine ⟨?_, hinside⟩
    rw [hinside.hasDefect_iff, or_iff_right_of_imp hroot]

instance (root : Node) : Decidable root.IsFlagged := decidable_of_iff _ isFlagged_iff.symm

/-! ## The first defect -/

theorem isLeast_nil (h : n.IsDefect) : IsLeast {q | n.IsDefectAt q} [] :=
  ⟨isDefectAt_nil.mpr h, fun q _ => le_of_not_gt (List.not_lt_nil q)⟩

/-- The first defect in a child is the first one of all if the node is none itself and there is none
in an earlier child. -/
theorem isLeast_cons {front back : List Node} (hn : ¬ n.IsDefect)
    (hsplit : n.children = front ++ c :: back) (hfront : ∀ d ∈ front, ¬ d.HasDefect)
    (hp : IsLeast {q | c.IsDefectAt q} p) :
    IsLeast {q | n.IsDefectAt q} (front.length :: p) := by
  have hchild : n.children[front.length]? = some c := by simp [hsplit]
  refine ⟨isDefectAt_cons.mpr ⟨c, hchild, hp.1⟩, fun q hq => ?_⟩
  cases q with
  | nil => exact absurd (isDefectAt_nil.mp hq) hn
  | cons i q =>
      obtain ⟨d, hd, hq⟩ := isDefectAt_cons.mp hq
      rcases lt_trichotomy i front.length with hlt | rfl | hgt
      · rw [hsplit, List.getElem?_append_left hlt] at hd
        exact absurd ⟨q, hq⟩ (hfront d (List.mem_of_getElem? hd))
      · obtain rfl : c = d := Option.some.inj (hchild.symm.trans hd)
        exact List.cons_le_cons _ (hp.2 hq)
      · exact le_of_lt (List.Lex.rel hgt)

/-! ## The search -/

/-- Nodes, from the children on. -/
@[elab_as_elim]
theorem children_induction {motive : Node → Prop}
    (node : ∀ n : Node, (∀ c ∈ n.children, motive c) → motive n) (n : Node) : motive n :=
  node n fun c hc =>
    have := sizeOf_lt_of_mem_children hc
    children_induction node c
termination_by sizeOf n

theorem firstErrorIn?_eq (cs : List Node) : firstErrorIn? cs = cs.findSome? firstError? := by
  induction cs with
  | nil => rfl
  | cons c rest ih =>
      rw [firstErrorIn?, List.findSome?_cons, ih]
      cases firstError? c <;> rfl

theorem firstError?_eq (n : Node) : n.firstError? =
    if n.IsDefect then some n
    else if n.hasError then n.children.findSome? firstError?
    else none := by
  cases n with
  | mk kind isNamed roles start stop text isMissing hasError children =>
      rw [firstError?, firstErrorIn?_eq]
      cases hasError <;> simp [IsDefect]

/-- A search that finds nothing has missed nothing. -/
theorem not_hasDefect_of_firstError? (h : n.FlagsInside) (hnone : n.firstError? = none) :
    ¬ n.HasDefect := by
  induction n using children_induction with
  | node n ih =>
      rw [firstError?_eq] at hnone
      split at hnone
      · cases hnone
      · rename_i hn
        split at hnone
        · rw [hasDefect_iff, or_iff_right hn]
          rintro ⟨c, hc, hdefect⟩
          have hchild := List.findSome?_eq_none_iff.mp hnone c hc
          exact ih c hc (h.of_mem_children hc) hchild hdefect
        · -- the flag says that there is nothing to look for, and it is right
          rwa [← h [] n rfl hn]

/-- What a search finds has the first address of all defects. -/
theorem exists_isLeast_of_firstError? (h : n.FlagsInside) (hm : n.firstError? = some m) :
    ∃ p, IsLeast {q | n.IsDefectAt q} p ∧ n.at? p = some m := by
  induction n using children_induction with
  | node n ih =>
      rw [firstError?_eq] at hm
      split at hm
      · rename_i hn
        obtain rfl : n = m := Option.some.inj hm
        exact ⟨[], isLeast_nil hn, rfl⟩
      · rename_i hn
        split at hm
        · obtain ⟨front, c, back, hsplit, hc, hfront⟩ := List.findSome?_eq_some_iff.mp hm
          have hmem : c ∈ n.children := by simp [hsplit]
          obtain ⟨p, hp, hat⟩ := ih c hmem (h.of_mem_children hmem) hc
          refine ⟨front.length :: p, isLeast_cons hn hsplit ?_ hp, ?_⟩
          · intro d hd
            have hearlier : d ∈ n.children := by simp [hsplit, hd]
            exact not_hasDefect_of_firstError? (h.of_mem_children hearlier) (hfront d hd)
          · exact at?_cons_eq_some_iff.mpr ⟨c, by simp [hsplit], hat⟩
        · cases hm

theorem firstError?_eq_some_iff (h : n.FlagsInside) :
    n.firstError? = some m ↔ ∃ p, IsLeast {q | n.IsDefectAt q} p ∧ n.at? p = some m := by
  refine ⟨exists_isLeast_of_firstError? h, ?_⟩
  rintro ⟨p, hp, hat⟩
  cases hfound : n.firstError? with
  | none => exact absurd ⟨p, hp.1⟩ (not_hasDefect_of_firstError? h hfound)
  | some k =>
      obtain ⟨q, hq, hk⟩ := exists_isLeast_of_firstError? h hfound
      obtain rfl := hp.unique hq
      exact hk.symm.trans hat

theorem isSome_firstError?_iff (h : n.FlagsInside) : n.firstError?.isSome = true ↔ n.HasDefect := by
  constructor
  · intro hsome
    obtain ⟨m, hm⟩ := Option.isSome_iff_exists.mp hsome
    obtain ⟨p, hp, -⟩ := exists_isLeast_of_firstError? h hm
    exact ⟨p, hp.1⟩
  · intro hdefect
    rw [Option.isSome_iff_ne_none]
    exact fun hnone => not_hasDefect_of_firstError? h hnone hdefect

end Node

/-! ## Reports -/

/-- The report is about an error in the tree. -/
def isErrorReport (d : Diagnostic) : Bool := d.rule == some "syntax-error"

theorem Node.rule_errorIssue (source : Text) (n : Node) :
    (n.errorIssue source).rule = "syntax-error" := by
  unfold errorIssue
  split
  · rfl
  · dsimp only
    split <;> rfl

theorem isErrorReport_of_mem_nameIssues {source : Text} {root : Node} :
    ∀ d ∈ nameIssues source root, isErrorReport d = false := by
  have hsound : (root.walk source).Sound := Walk.Sound.start.run _
  intro d hd
  rw [nameIssues_eq, List.mem_append, List.mem_append] at hd
  rcases hd with (hd | hd) | hd
  · rcases hsound.rule_of_mem_found d hd with hrule | hrule <;> simp [isErrorReport, hrule]
  · rcases rule_of_mem_uses d hd with hrule | hrule <;> simp [isErrorReport, hrule]
  · simp [isErrorReport, rule_of_mem_declarations d hd]

theorem Shows.isErrorReport_eq {d : Diagnostic} (h : Shows Issue.isTextual d) :
    isErrorReport d = false := by
  obtain ⟨i, hi, -, hrule⟩ := h
  rw [isErrorReport, hrule]
  cases i <;> first | rfl | cases hi

/-- A tree with a flag at its root shows its first defect and nothing else. -/
theorem exists_treeIssues_eq {root : Node} (h : root.IsFlagged) (hflag : root.hasError = true)
    (source : Text) : ∃ n, root.firstError? = some n ∧
      treeIssues source root = [(n.errorIssue source).report n.start n.stop] := by
  have hsome := (Node.isSome_firstError?_iff h.inside).mpr (h.top.mp hflag)
  obtain ⟨n, hn⟩ := Option.isSome_iff_exists.mp hsome
  refine ⟨n, hn, ?_⟩
  rw [treeIssues, if_pos hflag, syntaxIssues, hn]
  rfl

theorem countP_treeIssues {root : Node} (h : root.IsFlagged) (source : Text) :
    (treeIssues source root).countP isErrorReport = if root.hasError then 1 else 0 := by
  by_cases hflag : root.hasError = true
  · obtain ⟨n, -, heq⟩ := exists_treeIssues_eq h hflag source
    have hreport : isErrorReport ((n.errorIssue source).report n.start n.stop) = true :=
      beq_iff_eq.mpr (congrArg some (n.rule_errorIssue source))
    rw [heq, if_pos hflag, List.countP_singleton, if_pos hreport]
  · rw [treeIssues, if_neg hflag, if_neg hflag, List.countP_eq_zero]
    intro d hd
    simp [isErrorReport_of_mem_nameIssues d hd]

/-- Names are not looked at where the tree has an error, so the time for them does not run out. -/
theorem readsInTime_of_hasError {source : Text} {root : Node} {d : Deadline}
    (htree : (Reading.tree? source).bind Node.ofTree? = some root) (hflag : root.hasError = true)
    (hpoll : d.poll? ≠ none) : ReadsInTime d source := by
  obtain ⟨d', hd'⟩ := Option.ne_none_iff_exists'.mp hpoll
  refine ⟨d', hd', ?_⟩
  unfold readIssuesInTime
  simp [htree, treeIssuesInTime, hflag]

/-- The search finds the defect with the first address of all, and it finds one exactly if the root
has the flag. Then the tree shows this defect and nothing else, and one of the reports of a check is
about an error in the tree, unless the time is up before the check begins. Without the flag none of
them is. -/
theorem Node.firstError?_isLeast {root : Node} (h : root.IsFlagged) :
    (∀ n, root.firstError? = some n ↔
      ∃ p, IsLeast {q | root.IsDefectAt q} p ∧ root.at? p = some n) ∧
    (root.firstError?.isSome = true ↔ root.hasError = true) ∧
    (root.hasError = true → ∀ source, ∃ n, root.firstError? = some n ∧
      treeIssues source root = [(n.errorIssue source).report n.start n.stop]) ∧
    ∀ (source : Text) (o : Context) (f : Findings),
      (Reading.tree? source).bind Node.ofTree? = some root → o.deadline.poll? ≠ none →
        check source o = .ok f →
          f.diagnostics.countP isErrorReport = if root.hasError then 1 else 0 := by
  refine ⟨fun n => Node.firstError?_eq_some_iff h.inside, ?_, exists_treeIssues_eq h, ?_⟩
  · rw [h.top, Node.isSome_firstError?_iff h.inside]
  · intro source o f htree hpoll hcheck
    rcases check_cases hcheck with ⟨-, more, hfound, hmore⟩ | ⟨hcut, hrules⟩
    · have htext : more.countP isErrorReport = 0 := by
        rw [List.countP_eq_zero]
        intro d hd
        simp [(hmore d hd).isErrorReport_eq]
      rw [hfound, List.countP_append, htext, Nat.add_zero, readIssues_eq_treeIssues htree]
      exact countP_treeIssues h source
    · have hflag : root.hasError = false := by
        rw [← Bool.not_eq_true]
        exact fun herror => hcut (readsInTime_of_hasError htree herror hpoll)
      rw [hflag, if_neg Bool.false_ne_true, List.countP_eq_zero]
      intro d hd
      rcases hrules d hd with hrule | hrule <;> simp [isErrorReport, hrule]

/-- A character that is no token, and behind it a parenthesis without its partner. -/
def strayCharacter : Text := "a; b #; f(;".toList

def strayCharacterFindings : Findings where
  diagnostics := [(Issue.unexpectedToken ['#']).report 5 6]

/-- The text is read and checked. The search stops at the stray character, though the last statement
has a defect too. -/
theorem evaluated_strayCharacter :
    ((Reading.tree? strayCharacter).bind Node.ofTree?).isSome = true ∧
      (Node.ofSource strayCharacter).IsFlagged ∧
      (Node.ofSource strayCharacter).hasError = true ∧
      (Node.ofSource strayCharacter).firstError?.map (·.start) = some 5 ∧
      ((Node.ofSource strayCharacter).at? [2, 0, 1, 1]).any (·.isMissing) = true ∧
      check strayCharacter {} = .ok strayCharacterFindings := by
  decide +kernel

theorem Node.firstError?_isLeast_strayCharacter :
    (Node.ofSource strayCharacter).IsFlagged ∧
      (Node.ofSource strayCharacter).hasError = true ∧
      (Reading.tree? strayCharacter).bind Node.ofTree? = some (Node.ofSource strayCharacter) ∧
      ({} : Context).deadline.poll? ≠ none ∧ check strayCharacter {} = .ok strayCharacterFindings ∧
      ((Node.ofSource strayCharacter).at? [2, 0, 1, 1]).any (·.isMissing) = true ∧
      (∃ p n, IsLeast {q | (Node.ofSource strayCharacter).IsDefectAt q} p ∧
        (Node.ofSource strayCharacter).at? p = some n ∧ n.start = 5 ∧
        treeIssues strayCharacter (Node.ofSource strayCharacter) =
          [(n.errorIssue strayCharacter).report n.start n.stop]) ∧
      strayCharacterFindings.diagnostics.countP isErrorReport = 1 := by
  obtain ⟨hread, hflagged, herror, hstart, hmissing, hcheck⟩ := evaluated_strayCharacter
  have htree := Node.tree?_ofSource hread
  obtain ⟨hfirst, -, hissues, hcount⟩ := Node.firstError?_isLeast hflagged
  obtain ⟨n, hn, hsingle⟩ := hissues herror strayCharacter
  obtain ⟨p, hleast, hat⟩ := (hfirst n).mp hn
  have hplace : n.start = 5 := by
    rw [hn, Option.map_some] at hstart
    exact Option.some.inj hstart
  have hpoll : ({} : Context).deadline.poll? ≠ none := by decide
  have hone := hcount strayCharacter {} strayCharacterFindings htree hpoll hcheck
  rw [herror] at hone
  exact ⟨hflagged, herror, htree, hpoll, hcheck, hmissing,
    ⟨p, n, hleast, hat, hplace, hsingle⟩, hone⟩

end PageLint.Script
