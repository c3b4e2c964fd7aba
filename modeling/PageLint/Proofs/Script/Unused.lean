import PageLint.Proofs.Script.Interruption
import PageLint.Proofs.Script.Removal
import PageLint.Repair

/-! # Removing what is unused

A declaration counts as unused where nothing reads it, though something may still write to it. When
the fixes of such reports are applied, a name that is written to is left without a declaration, and
a second check reports it. No other name loses its meaning. -/

namespace PageLint.Script

open PageLint.Script.Action (deletes without)

/-- The tree of a script that has no errors. -/
structure Node.IsProgram (source : Text) (root : Node) : Prop where
  tree : (Reading.tree? source).bind Node.ofTree? = some root
  complete : root.hasError = false

/-- The tree of a script. What is not read is an error as a whole. -/
def Node.ofSource (source : Text) : Node :=
  ((Reading.tree? source).bind Node.ofTree?).getD
    { kind := .error, isNamed := false, start := 0, stop := 0 }

theorem Node.tree?_ofSource {source : Text}
    (h : ((Reading.tree? source).bind Node.ofTree?).isSome = true) :
    (Reading.tree? source).bind Node.ofTree? = some (ofSource source) := by
  obtain ⟨root, hroot⟩ := Option.isSome_iff_exists.mp h
  unfold ofSource
  rw [hroot, Option.getD_some]

theorem Node.isProgram_ofSource {source : Text}
    (h : ((Reading.tree? source).bind Node.ofTree?).any (!·.hasError) = true) :
    (ofSource source).IsProgram source := by
  have htree := tree?_ofSource (Option.isSome_of_any h)
  rw [htree] at h
  exact ⟨htree, by simpa using h⟩

theorem readIssues_eq_treeIssues {source : Text} {root : Node}
    (h : (Reading.tree? source).bind Node.ofTree? = some root) :
    readIssues source = treeIssues source root := by
  unfold readIssues
  simp only [h]

theorem Node.IsProgram.readIssues_eq {source : Text} {root : Node} (h : root.IsProgram source) :
    readIssues source = nameIssues source root := by
  rw [readIssues_eq_treeIssues h.tree, treeIssues, h.complete]
  rfl

/-- Whether a program is read in time depends on the number of its visits. -/
theorem Node.IsProgram.readsInTime_iff {source : Text} {root : Node} (h : root.IsProgram source)
    (d : Deadline) :
    ReadsInTime d source ↔ ∃ d', d.poll? = some d' ∧
      Stopwatch.behind (some ⟨d', 0⟩) (Step.visits (root.partSteps source)) ≠ none := by
  refine exists_congr fun d' => and_congr_right fun _ => not_congr ?_
  have hread : readIssuesInTime d' source = nameIssuesInTime d' source root := by
    unfold readIssuesInTime
    simp only [h.tree, treeIssuesInTime, h.complete, Bool.false_eq_true, ↓reduceIte]
  rw [hread, left?_nameIssuesInTime, Option.map_eq_none_iff, Node.actionsInTime,
    Step.snd_allInTime]

/-- The edits of the reports of unused names. -/
def unusedEdits (ds : List Diagnostic) : List Edit :=
  (ds.filter isUnusedReport).filterMap (·.firstEdit?)

/-- No two declarations of a program could be removed by the same edit. -/
def Node.HasDistinctRemovals (source : Text) (root : Node) : Prop :=
  ((root.walk source).scopes.declarations.toList.filterMap (·.removal)).Nodup

instance (source : Text) (root : Node) : Decidable (root.HasDistinctRemovals source) :=
  inferInstanceAs (Decidable (List.Nodup _))

/-- A use that gives a value to a name. The declaration that it means is deleted, and nothing that
is left declares the name for it. -/
structure Use.IsOrphaned (cut : List Edit) (as : List Action) (u : Use) : Prop where
  role : u.role = .write
  declared : ∃ (id : Nat) (d : Declaration), u.target? (Walk.run {} as).scopes = some id ∧
    (Walk.run {} as).scopes.declarations[id]? = some d ∧ deletes cut d.removal = true
  alone : u.target? (Walk.run {} (without cut as)).scopes = none
  notAmbient : isAmbient u.name = false

/-! ## Deleted declarations -/

section

variable {source : Text} {root : Node} {cut : List Edit}

theorem exists_of_deletes {cut : List Edit} {removal : Option (Nat × Nat)}
    (h : deletes cut removal = true) :
    ∃ range : Nat × Nat, removal = some range ∧ Edit.delete range.1 range.2 ∈ cut := by
  cases removal with
  | none => cases h
  | some range => exact ⟨range, rfl, by simpa [deletes] using h⟩

theorem Declaration.firstEdit?_unused (d : Declaration) :
    d.unused.firstEdit? = d.removal.map fun (start, stop) => .delete start stop := by
  cases hremoval : d.removal <;>
    simp [unused, Issue.report, Diagnostic.ofRule, Diagnostic.firstEdit?, hremoval]

/-- What the edits delete are unused declarations. -/
def Node.RemovesUnused (source : Text) (root : Node) (cut : List Edit) : Prop :=
  ∀ removal, deletes cut removal = true →
    ∃ (id : Nat) (d : Declaration), (root.walk source).scopes.declarations[id]? = some d ∧
      d.removal = removal ∧
      d.IsUnusedIn (root.walk source).scopes (root.walk source).uses.toList id

theorem removesUnused_unusedEdits (source : Text) (root : Node) {more : List Diagnostic}
    (hmore : ∀ d ∈ more, Shows Issue.isTextual d) :
    root.RemovesUnused source (unusedEdits (nameIssues source root ++ more)) := by
  intro removal h
  have hsound : (root.walk source).Sound := Walk.Sound.start.run _
  have hnone : more.filter isUnusedReport = [] := by
    refine List.filter_eq_nil_iff.mpr fun d hd => ?_
    obtain ⟨i, hi, -, hrule⟩ := hmore d hd
    cases i <;> simp_all [isUnusedReport, Issue.isTextual, Issue.rule]
  obtain ⟨⟨start, stop⟩, rfl, hdelete⟩ := exists_of_deletes h
  rw [unusedEdits, List.filter_append, hnone, List.append_nil, filter_isUnusedReport,
    filterMap_report?_readAll hsound.reachable.isTree
      (fun u hu => hsound.used u (Array.mem_def.mpr hu)) hsound.unread,
    List.mem_filterMap] at hdelete
  obtain ⟨r, hr, hedit⟩ := hdelete
  obtain ⟨⟨d, id⟩, hd, rfl⟩ := List.mem_map.mp hr
  obtain ⟨hd, hunused⟩ := List.mem_filter.mp hd
  rw [Declaration.firstEdit?_unused, Option.map_eq_some_iff] at hedit
  obtain ⟨⟨start', stop'⟩, hremoval, hsame⟩ := hedit
  obtain ⟨rfl, rfl, -⟩ := Edit.mk.inj hsame
  exact ⟨id, d, by simpa using List.mem_zipIdx_iff_getElem?.mp hd, hremoval, by simpa using hunused⟩

/-- What has the same removal is the same declaration. -/
theorem Node.HasDistinctRemovals.eq (h : root.HasDistinctRemovals source) {id id' : Nat}
    {d d' : Declaration} (hd : (root.walk source).scopes.declarations[id]? = some d)
    (hd' : (root.walk source).scopes.declarations[id']? = some d') (hsame : d.removal = d'.removal)
    (hsome : d.removal.isSome) : id = id' := by
  obtain ⟨range, hrange⟩ := Option.isSome_iff_exists.mp hsome
  have hapart := List.pairwise_iff_getElem.mp (List.pairwise_filterMap.mp h)
  rw [← Array.getElem?_toList] at hd hd'
  obtain ⟨hid, rfl⟩ := List.getElem?_eq_some_iff.mp hd
  obtain ⟨hid', rfl⟩ := List.getElem?_eq_some_iff.mp hd'
  rcases Nat.lt_trichotomy id id' with hlt | heq | hlt
  · exact absurd rfl (hapart id id' hid hid' hlt range hrange range (hsame ▸ hrange))
  · exact heq
  · exact absurd rfl (hapart id' id hid' hid hlt range (hsame ▸ hrange) range hrange)

/-- Nothing reads a declaration that is deleted. -/
theorem Node.RemovesUnused.not_reads (h : root.RemovesUnused source cut)
    (hdistinct : root.HasDistinctRemovals source) {id : Nat} {d : Declaration}
    (hd : (root.walk source).scopes.declarations[id]? = some d)
    (hdeletes : deletes cut d.removal = true) {u : Use}
    (hu : u ∈ (root.walk source).uses.toList) : ¬ u.Reads (root.walk source).scopes id := by
  obtain ⟨id', d', hd', hremoval, hunused⟩ := h d.removal hdeletes
  have hsome : d.removal.isSome := by
    obtain ⟨range, hrange, -⟩ := exists_of_deletes hdeletes
    simp [hrange]
  obtain rfl := hdistinct.eq hd hd' hremoval.symm hsome
  exact hunused.unread u hu

/-! ## Names that lose their meaning -/

theorem Use.issue?_ne_none_iff {s : Scopes} {u : Use} :
    u.issue? s ≠ none ↔ u.target? s = none ∧ isAmbient u.name = false ∧ u.role ≠ .probe := by
  unfold issue?
  cases htarget : u.target? s <;> cases hambient : isAmbient u.name <;> cases hrole : u.role <;>
    simp

/-- A use has no meaning in what remains of a program if it had none before, or if it is a write to
what is deleted. -/
theorem Use.issue?_without (h : root.RemovesUnused source cut)
    (hdistinct : root.HasDistinctRemovals source) {u : Use}
    (hu : u ∈ (root.walk source).uses.toList) :
    u.issue? (Walk.run {} (without cut (root.actions source))).scopes ≠ none ↔
      u.issue? (root.walk source).scopes ≠ none ∨ u.IsOrphaned cut (root.actions source) := by
  have hsound : (root.walk source).Sound := Walk.Sound.start.run _
  have hrest : (Walk.run {} (without cut (root.actions source))).Sound := Walk.Sound.start.run _
  have hthins := Walk.thins_start cut (root.actions source)
  have hframe := hsound.used u (Array.mem_def.mpr hu)
  rw [issue?_ne_none_iff, issue?_ne_none_iff]
  constructor
  · rintro ⟨hnone, hambient, hprobe⟩
    cases htarget : u.target? (root.walk source).scopes with
    | none => exact .inl ⟨rfl, hambient, hprobe⟩
    | some id =>
        -- what it meant is deleted, so nothing reads that, and this use cannot either
        obtain ⟨d, hd, hdeletes⟩ :=
          hthins.exists_deletes hsound hrest hframe htarget hnone
        have hwrite : u.role = .write := by
          by_contra hread
          refine h.not_reads hdistinct hd hdeletes hu ?_
          rw [reads_iff hsound.reachable.isTree hframe]
          exact ⟨by simpa [isRead] using hread, htarget⟩
        exact .inr ⟨hwrite, ⟨id, d, htarget, hd, hdeletes⟩, hnone, hambient⟩
  · rintro (⟨hnone, hambient, hprobe⟩ | horphaned)
    · exact ⟨hthins.target?_eq_none hsound hrest hframe hnone, hambient, hprobe⟩
    · exact ⟨horphaned.alone, horphaned.notAmbient, by simp [horphaned.role]⟩

theorem exists_issue_iff {uses : List Use} {s : Scopes} {name : Text} :
    (∃ i ∈ uses.filterMap (·.issue? s), i = .undefinedVariable name ∨ i = .undefinedFunction name) ↔
      ∃ u ∈ uses, u.name = name ∧ u.issue? s ≠ none := by
  constructor
  · rintro ⟨i, hi, hname⟩
    obtain ⟨u, hu, hissue⟩ := List.mem_filterMap.mp hi
    refine ⟨u, hu, ?_, by simp [hissue]⟩
    rcases Use.eq_of_issue? hissue with rfl | rfl <;> simpa using hname
  · rintro ⟨u, hu, rfl, hsome⟩
    obtain ⟨i, hissue⟩ := Option.ne_none_iff_exists'.mp hsome
    exact ⟨i, List.mem_filterMap.mpr ⟨u, hu, hissue⟩, Use.eq_of_issue? hissue⟩

/-- The names without a meaning in what remains of a program. -/
theorem reportsUndefined_without (h : root.RemovesUnused source cut)
    (hdistinct : root.HasDistinctRemovals source) {root' : Node}
    (hwithout : root.Without source cut root') (output name : Text) :
    ReportsUndefined (nameIssues output root') name ↔
      ReportsUndefined (nameIssues source root) name ∨
        ∃ u ∈ (root.walk source).uses.toList, u.name = name ∧
          u.IsOrphaned cut (root.actions source) := by
  have hthins := Walk.thins_start cut (root.actions source)
  have hissues := Walk.issues_perm (hwithout.actions_alike output)
  rw [hthins.uses] at hissues
  simp only [reportsUndefined_nameIssues, Node.walk, ← hissues.mem_iff, exists_issue_iff]
  simp only [← exists_or, ← and_or_left]
  refine exists_congr fun u => and_congr_right fun hu => and_congr_right fun _ => ?_
  exact Use.issue?_without h hdistinct hu

end

/-! ## Checks -/

/-- When the fixes for unused names are applied to a program, and what remains of it has the tree of
the program without the statements that they delete, a second check reports a name as undefined if
the first one did, or if the program gives a value to it and only unused declarations that the fixes
delete have a meaning for it. -/
theorem check_withoutUnused {source : Text} {o : Context} {f f' : Findings} {root root' : Node}
    (hroot : root.IsProgram source) (hdistinct : root.HasDistinctRemovals source)
    (hcheck : check source o = .ok f)
    (hwithout : root.Without source (unusedEdits f.diagnostics) root')
    (hroot' : root'.IsProgram
      (Repair.applyFixes source (f.diagnostics.filter isUnusedReport)).output)
    (hcheck' : check (Repair.applyFixes source (f.diagnostics.filter isUnusedReport)).output o =
      .ok f') (name : Text) :
    ReportsUndefined f'.diagnostics name ↔
      ReportsUndefined f.diagnostics name ∨
        ∃ u ∈ (root.walk source).uses.toList, u.name = name ∧
          u.IsOrphaned (unusedEdits f.diagnostics) (root.actions source) := by
  rcases check_cases hcheck with ⟨hread, more, hfound, hmore⟩ | ⟨-, hrules⟩
  · -- what remains has no more visits, so there is time to read it as well
    have hread' : ReadsInTime o.deadline
        (Repair.applyFixes source (f.diagnostics.filter isUnusedReport)).output := by
      obtain ⟨d, hpoll, hleft⟩ := (hroot.readsInTime_iff o.deadline).mp hread
      exact (hroot'.readsInTime_iff o.deadline).mpr
        ⟨d, hpoll, Stopwatch.behind_ne_none hleft (hwithout.visits_le _)⟩
    obtain ⟨-, more', hfound', hmore'⟩ := (check_cases hcheck').resolve_right (absurd hread' ·.1)
    rw [hroot.readIssues_eq] at hfound
    rw [hroot'.readIssues_eq] at hfound'
    rw [hfound] at hwithout ⊢
    have hother : ∀ {ds : List Diagnostic}, (∀ d ∈ ds, Shows Issue.isTextual d) →
        ∀ d ∈ ds, Shows (!·.isUndefined) d :=
      fun h d hd => (h d hd).imp Issue.isUndefined_of_isTextual
    rw [hfound', reportsUndefined_append (hother hmore), reportsUndefined_append (hother hmore')]
    exact reportsUndefined_without (removesUnused_unusedEdits source root hmore) hdistinct hwithout
      _ name
  · -- nothing is reported to be unused, so nothing is deleted
    have hnone : f.diagnostics.filter isUnusedReport = [] := by
      refine List.filter_eq_nil_iff.mpr fun d hd => ?_
      rcases hrules d hd with hrule | hrule <;> simp [isUnusedReport, hrule]
    have houtput : (Repair.applyFixes source []).output = source := by
      simp [Repair.applyFixes, Repair.applyEdits, Repair.ordered, Repair.accepted]
    rw [hnone, houtput, hcheck] at hcheck'
    obtain rfl := Except.ok.inj hcheck'
    refine ⟨.inl, fun h => h.resolve_right ?_⟩
    rintro ⟨u, -, -, horphaned⟩
    obtain ⟨id, d, -, -, hdeletes⟩ := horphaned.declared
    obtain ⟨range, -, hmem⟩ := exists_of_deletes hdeletes
    rw [unusedEdits, hnone] at hmem
    cases hmem

/-! ## A name that is only written -/

/-- A variable that gets a second value and is never read. -/
def assigned : Text := "let n = 0;\nn = 5;".toList

/-- The rest of it, without the declaration. -/
def strayWrite : Text := "n = 5;".toList

/-- The variable is reported as unused, and its fix deletes the first line. -/
def assignedFindings : Findings where
  diagnostics := [(Issue.unusedVariable ['n']).report 4 5 [.delete 0 11]]

/-- Without that line, the name is reported as undefined. -/
def strayWriteFindings : Findings where
  diagnostics := [(Issue.undefinedVariable ['n']).report 0 1]

/-- Both programs are read and checked. -/
theorem evaluated_assigned :
    ((Reading.tree? assigned).bind Node.ofTree?).any (!·.hasError) = true ∧
      (Node.ofSource assigned).HasDistinctRemovals assigned ∧
      check assigned {} = .ok assignedFindings ∧
      (Node.ofSource assigned).Without assigned (unusedEdits assignedFindings.diagnostics)
        (Node.ofSource strayWrite) ∧
      (Repair.applyFixes assigned (assignedFindings.diagnostics.filter isUnusedReport)).output =
        strayWrite ∧
      ((Reading.tree? strayWrite).bind Node.ofTree?).any (!·.hasError) = true ∧
      check strayWrite {} = .ok strayWriteFindings := by
  decide +kernel

theorem check_withoutUnused_assigned :
    (Node.ofSource assigned).IsProgram assigned ∧
      (Node.ofSource assigned).HasDistinctRemovals assigned ∧
      check assigned {} = .ok assignedFindings ∧
      (Node.ofSource assigned).Without assigned (unusedEdits assignedFindings.diagnostics)
        (Node.ofSource strayWrite) ∧
      (Node.ofSource strayWrite).IsProgram
        (Repair.applyFixes assigned (assignedFindings.diagnostics.filter isUnusedReport)).output ∧
      check (Repair.applyFixes assigned (assignedFindings.diagnostics.filter isUnusedReport)).output
        {} = .ok strayWriteFindings ∧
      (ReportsUndefined strayWriteFindings.diagnostics ['n'] ↔
        ReportsUndefined assignedFindings.diagnostics ['n'] ∨
          ∃ u ∈ ((Node.ofSource assigned).walk assigned).uses.toList, u.name = ['n'] ∧
            u.IsOrphaned (unusedEdits assignedFindings.diagnostics)
              ((Node.ofSource assigned).actions assigned)) := by
  obtain ⟨hread, hdistinct, hcheck, hwithout, houtput, hread', hcheck'⟩ := evaluated_assigned
  have hprogram := Node.isProgram_ofSource hread
  have hprogram' : (Node.ofSource strayWrite).IsProgram
      (Repair.applyFixes assigned (assignedFindings.diagnostics.filter isUnusedReport)).output := by
    rw [houtput]
    exact Node.isProgram_ofSource hread'
  rw [← houtput] at hcheck'
  exact ⟨hprogram, hdistinct, hcheck, hwithout, hprogram', hcheck',
    check_withoutUnused hprogram hdistinct hcheck hwithout hprogram' hcheck' ['n']⟩

/-- The fix of the unused variable leaves its name undefined, which it was not before. -/
theorem reportsUndefined_strayWrite :
    ∃ (root : Node) (f f' : Findings), root.IsProgram assigned ∧ check assigned {} = .ok f ∧
      check (Repair.applyFixes assigned (f.diagnostics.filter isUnusedReport)).output {} = .ok f' ∧
      ReportsUndefined f'.diagnostics ['n'] ∧ ¬ ReportsUndefined f.diagnostics ['n'] := by
  obtain ⟨hread, -, hcheck, -, houtput, -, hcheck'⟩ := evaluated_assigned
  rw [← houtput] at hcheck'
  exact ⟨Node.ofSource assigned, assignedFindings, strayWriteFindings,
    Node.isProgram_ofSource hread, hcheck, hcheck', by decide, by decide⟩

end PageLint.Script
