import PageLint.Proofs.Script.Walk

/-! # What names are reported

A use is reported when no frame from its own outwards binds its name, and a declaration when none of
the uses that ask for a value means it. Both are looked for in all of the program: where a use
stands in front of the declaration, they still belong together. -/

namespace PageLint.Script

variable {s : Scopes} {u : Use} {id : Nat}

/-- Of what does not answer, nothing is left. -/
theorem filterMap_eq_map_filter {α β : Type} {f : α → Option β} {p : α → Prop} [DecidablePred p]
    {g : α → β} {l : List α} (h : ∀ a ∈ l, f a = if p a then some (g a) else none) :
    l.filterMap f = (l.filter p).map g := by
  rw [← List.filterMap_eq_map, List.filterMap_filter]
  apply List.filterMap_congr
  simpa using h

/-! ## Uses -/

namespace Use

/-- A name without a meaning, of which something else is asked than its type. -/
structure IsUndefined (s : Scopes) (u : Use) : Prop where
  unbound : ∀ fs, s.Chain u.frame fs → ∀ f ∈ fs, s.bound? f u.name = none
  notAmbient : isAmbient u.name = false
  notProbe : u.role ≠ .probe

/-- The report of an undefined name. -/
def undefined (u : Use) : Diagnostic :=
  (if u.role = .call then Issue.undefinedFunction u.name
    else Issue.undefinedVariable u.name).report u.start u.stop

/-- The use asks for the value of the declaration that the nearest frame has for the name. -/
def Reads (s : Scopes) (u : Use) (id : Nat) : Prop :=
  u.role ≠ .write ∧ ∃ f, s.Reaches u.frame u.name f ∧ s.bound? f u.name = some id

theorem target?_eq_none_iff (h : s.IsTree) (hu : u.frame < s.frames.size) :
    u.target? s = none ↔ ∀ fs, s.Chain u.frame fs → ∀ f ∈ fs, s.bound? f u.name = none := by
  constructor
  · intro hnone fs hchain
    exact (Scopes.lookup_eq_none_iff h hchain).mp hnone
  · intro hunbound
    obtain ⟨fs, hchain⟩ := h.exists_chain hu
    exact (Scopes.lookup_eq_none_iff h hchain).mpr (hunbound fs hchain)

theorem isUndefined_iff (h : s.IsTree) (hu : u.frame < s.frames.size) :
    u.IsUndefined s ↔ u.target? s = none ∧ isAmbient u.name = false ∧ u.role ≠ .probe := by
  rw [target?_eq_none_iff h hu]
  constructor
  · intro hundefined
    exact ⟨hundefined.unbound, hundefined.notAmbient, hundefined.notProbe⟩
  · rintro ⟨hunbound, hambient, hprobe⟩
    exact ⟨hunbound, hambient, hprobe⟩

theorem report?_of_isUndefined (h : s.IsTree) (hu : u.frame < s.frames.size)
    (hundefined : u.IsUndefined s) : u.report? s = some u.undefined := by
  obtain ⟨htarget, hambient, hprobe⟩ := (isUndefined_iff h hu).mp hundefined
  unfold report? issue? undefined
  rw [htarget, hambient]
  cases hrole : u.role <;> simp_all

theorem report?_of_not_isUndefined (h : s.IsTree) (hu : u.frame < s.frames.size)
    (hdefined : ¬ u.IsUndefined s) : u.report? s = none := by
  rw [isUndefined_iff h hu] at hdefined
  unfold report? issue?
  split
  · rfl
  · rename_i hneither
    simp only [Bool.or_eq_true, not_or, Bool.not_eq_true, Option.isSome_eq_false_iff,
      Option.isNone_iff_eq_none] at hneither
    cases hrole : u.role with
    | probe => rfl
    | read => exact absurd ⟨hneither.1, hneither.2, by simp [hrole]⟩ hdefined
    | write => exact absurd ⟨hneither.1, hneither.2, by simp [hrole]⟩ hdefined
    | call => exact absurd ⟨hneither.1, hneither.2, by simp [hrole]⟩ hdefined

open Classical in
/-- Each use of an undefined name is reported once, in order, and no other use is. -/
theorem filterMap_report? (h : s.IsTree) {uses : List Use}
    (huses : ∀ u ∈ uses, u.frame < s.frames.size) :
    uses.filterMap (·.report? s) = (uses.filter (·.IsUndefined s)).map undefined := by
  apply filterMap_eq_map_filter
  intro u hu
  split
  · rename_i hundefined
    exact report?_of_isUndefined h (huses u hu) hundefined
  · rename_i hdefined
    exact report?_of_not_isUndefined h (huses u hu) hdefined

theorem reads_iff (h : s.IsTree) (hu : u.frame < s.frames.size) :
    u.Reads s id ↔ u.isRead = true ∧ u.target? s = some id := by
  rw [Reads, isRead, bne_iff_ne, target?, Scopes.lookup_eq_some_iff h hu]

end Use

/-! ## Declarations -/

/-- What counts the reads changes nothing else. -/
theorem Scopes.declarations_foldl_read (s : Scopes) (ids : List Nat) (id : Nat) :
    (ids.foldl Scopes.read s).declarations[id]? =
      s.declarations[id]?.map fun d => { d with reads := d.reads + ids.count id } := by
  induction ids generalizing s with
  | nil => simp
  | cons first ids ih =>
      rw [List.foldl_cons, ih, Scopes.read, Array.getElem?_modify]
      by_cases hid : first = id
      · subst hid
        cases s.declarations[first]? <;> simp [Nat.add_comm, Nat.add_left_comm]
      · simp [hid]

namespace Declaration

/-- A declaration of the program's own that is of no use to it. Its number is `id`. -/
structure IsUnusedIn (s : Scopes) (uses : List Use) (d : Declaration) (id : Nat) : Prop where
  kind : d.kind = .var ∨ d.kind = .lexical ∨ d.kind = .constant ∨ d.kind = .imported
  notExported : d.isExported = false
  notMarked : d.name.head? ≠ some '_'
  unread : ∀ u ∈ uses, ¬ u.Reads s id

/-- The report of an unused name. -/
def unused (d : Declaration) : Diagnostic :=
  d.unusedIssue.report d.start d.stop
    (d.removal.toList.map fun (start, stop) => .delete start stop)

theorem reportsUnused_iff (kind : BindingKind) :
    kind.reportsUnused = true ↔
      kind = .var ∨ kind = .lexical ∨ kind = .constant ∨ kind = .imported := by
  cases kind <;> simp [BindingKind.reportsUnused]

end Declaration

/-- The declarations that the uses ask for the value of, one for each use. -/
def targets (s : Scopes) (uses : List Use) : List Nat :=
  (uses.filter (·.isRead)).filterMap (·.target? s)

theorem count_targets_eq_zero_iff (h : s.IsTree) {uses : List Use}
    (huses : ∀ u ∈ uses, u.frame < s.frames.size) (id : Nat) :
    (targets s uses).count id = 0 ↔ ∀ u ∈ uses, ¬ u.Reads s id := by
  simp only [List.count_eq_zero, targets, List.mem_filterMap, List.mem_filter, not_exists,
    not_and]
  constructor
  · intro hnone u hu hreads
    obtain ⟨hread, htarget⟩ := (Use.reads_iff h (huses u hu)).mp hreads
    exact hnone u ⟨hu, hread⟩ htarget
  · rintro hunread u ⟨hu, hread⟩ htarget
    exact hunread u hu ((Use.reads_iff h (huses u hu)).mpr ⟨hread, htarget⟩)

theorem toList_declarations_readAll (s : Scopes) (uses : List Use) :
    (s.readAll uses).declarations.toList = s.declarations.toList.zipIdx.map fun (d, id) =>
      { d with reads := d.reads + (targets s uses).count id } := by
  apply List.ext_getElem?
  intro id
  rw [Array.getElem?_toList, List.getElem?_map, List.getElem?_zipIdx, Array.getElem?_toList,
    Nat.zero_add]
  have hfold := s.declarations_foldl_read (targets s uses) id
  rw [Scopes.readAll, ← targets, hfold, Option.map_map]
  rfl

theorem isUnused_iff {uses : List Use} {d : Declaration} {reads : Nat} (hzero : d.reads = 0)
    (hreads : reads = 0 ↔ ∀ u ∈ uses, ¬ u.Reads s id) :
    ({ d with reads := d.reads + reads } : Declaration).isUnused = true ↔
      d.IsUnusedIn s uses id := by
  simp only [Declaration.isUnused, Bool.and_eq_true, beq_iff_eq, Bool.not_eq_true', bne_iff_ne,
    Declaration.reportsUnused_iff, hzero, Nat.zero_add, hreads]
  constructor
  · rintro ⟨⟨⟨hkind, hunread⟩, hexported⟩, hmarked⟩
    exact ⟨hkind, hexported, hmarked, hunread⟩
  · rintro ⟨hkind, hexported, hmarked, hunread⟩
    exact ⟨⟨⟨hkind, hunread⟩, hexported⟩, hmarked⟩

open Classical in
/-- Each unused declaration is reported once, in order, and no other declaration is. -/
theorem filterMap_report?_readAll (h : s.IsTree) {uses : List Use}
    (huses : ∀ u ∈ uses, u.frame < s.frames.size) (hunread : ∀ d ∈ s.declarations, d.reads = 0) :
    (s.readAll uses).declarations.toList.filterMap (·.report?) =
      (s.declarations.toList.zipIdx.filter fun (d, id) => d.IsUnusedIn s uses id).map
        fun (d, _) => d.unused := by
  rw [toList_declarations_readAll, List.filterMap_map]
  apply filterMap_eq_map_filter
  rintro ⟨d, id⟩ hmem
  have hd : s.declarations[id]? = some d := by
    simpa using List.mem_zipIdx_iff_getElem?.mp hmem
  have hreads := hunread d (Array.mem_of_getElem? hd)
  have hunused := isUnused_iff hreads (count_targets_eq_zero_iff h huses id)
  simp only [Function.comp_apply, Declaration.report?, hunused]
  rfl

/-! ## The program -/

/-- What a program's actions do to names that are not there yet. -/
def Node.walk (source : Text) (root : Node) : Walk := Walk.run {} (root.actions source)

theorem nameIssues_eq (source : Text) (root : Node) :
    nameIssues source root =
      (root.walk source).found.toList ++
        (root.walk source).uses.toList.filterMap (·.report? (root.walk source).scopes) ++
        ((root.walk source).scopes.readAll
          (root.walk source).uses.toList).declarations.toList.filterMap (·.report?) := rfl

/-- A name has no meaning. -/
def isUndefinedReport (d : Diagnostic) : Bool :=
  d.rule == some "no-undef" || d.rule == some "no-undef-call"

/-- A name is of no use. -/
def isUnusedReport (d : Diagnostic) : Bool := d.rule == some "no-unused-vars"

theorem Use.rule_of_report? {d : Diagnostic} (h : u.report? s = some d) :
    d.rule = some "no-undef" ∨ d.rule = some "no-undef-call" := by
  obtain ⟨i, hissue, rfl⟩ := Option.map_eq_some_iff.mp h
  unfold issue? at hissue
  split at hissue
  · cases hissue
  · split at hissue
    · cases hissue
    · obtain rfl := Option.some.inj hissue
      exact .inr rfl
    all_goals
      obtain rfl := Option.some.inj hissue
      exact .inl rfl

theorem Declaration.rule_of_report? {d : Declaration} {r : Diagnostic} (h : d.report? = some r) :
    r.rule = some "no-unused-vars" := by
  unfold report? unusedIssue at h
  split at h
  · obtain rfl := Option.some.inj h
    split <;> rfl
  · cases h

theorem filter_between {p : Diagnostic → Bool} {front kept back : List Diagnostic}
    (hfront : ∀ d ∈ front, p d = false) (hkept : ∀ d ∈ kept, p d = true)
    (hback : ∀ d ∈ back, p d = false) : (front ++ kept ++ back).filter p = kept := by
  rw [List.filter_append, List.filter_append, List.filter_eq_self.mpr hkept,
    List.filter_eq_nil_iff.mpr fun d hd => by simp [hfront d hd],
    List.filter_eq_nil_iff.mpr fun d hd => by simp [hback d hd]]
  simp

/-! Each kind of report has rules of its own. -/

theorem Walk.Sound.rule_of_mem_found {w : Walk} (h : w.Sound) :
    ∀ d ∈ w.found.toList, d.rule = some "no-redeclare" ∨ d.rule = some "no-debugger" :=
  fun d hd => h.found d (Array.mem_def.mpr hd)

theorem rule_of_mem_uses {uses : List Use} :
    ∀ d ∈ uses.filterMap (·.report? s),
      d.rule = some "no-undef" ∨ d.rule = some "no-undef-call" := by
  intro d hd
  obtain ⟨u, -, hu⟩ := List.mem_filterMap.mp hd
  exact Use.rule_of_report? hu

theorem rule_of_mem_declarations {declarations : List Declaration} :
    ∀ d ∈ declarations.filterMap (·.report?), d.rule = some "no-unused-vars" := by
  intro d hd
  obtain ⟨declaration, -, hdeclaration⟩ := List.mem_filterMap.mp hd
  exact Declaration.rule_of_report? hdeclaration

theorem filter_isUndefinedReport (source : Text) (root : Node) :
    (nameIssues source root).filter isUndefinedReport =
      (root.walk source).uses.toList.filterMap (·.report? (root.walk source).scopes) := by
  have hsound : (root.walk source).Sound := Walk.Sound.start.run _
  rw [nameIssues_eq]
  refine filter_between ?_ ?_ ?_ <;> intro d hd
  · rcases hsound.rule_of_mem_found d hd with hrule | hrule <;> simp [isUndefinedReport, hrule]
  · rcases rule_of_mem_uses d hd with hrule | hrule <;> simp [isUndefinedReport, hrule]
  · simp [isUndefinedReport, rule_of_mem_declarations d hd]

theorem filter_isUnusedReport (source : Text) (root : Node) :
    (nameIssues source root).filter isUnusedReport =
      ((root.walk source).scopes.readAll
        (root.walk source).uses.toList).declarations.toList.filterMap (·.report?) := by
  have hsound : (root.walk source).Sound := Walk.Sound.start.run _
  rw [nameIssues_eq, ← List.append_nil (_ ++ _)]
  refine filter_between ?_ ?_ (by simp) <;> intro d hd
  · rcases List.mem_append.mp hd with hd | hd
    · rcases hsound.rule_of_mem_found d hd with hrule | hrule <;> simp [isUnusedReport, hrule]
    · rcases rule_of_mem_uses d hd with hrule | hrule <;> simp [isUnusedReport, hrule]
  · simp [isUnusedReport, rule_of_mem_declarations d hd]

/-! A bare name is used as one to call, or as one to ask for its type. -/

theorem Node.usage_eq {n : Node} (h : n.text ≠ []) (role : UseRole) :
    n.usage role = [.act (.use n.text role n.start n.stop)] := by
  rw [usage, List.isEmpty_eq_false_iff.mpr h]
  rfl

theorem Node.outline_eq (source : Text) (parent : Kind) (n : Node) :
    outline source parent n = Step.actions (visited source parent n) := by
  rw [outline, steps, Step.actions, Step.toActions, Step.actions, List.append_nil]

theorem Node.outline_call (source : Text) (parent : Kind) {n c : Node} (hkind : n.kind = .call)
    (hcallee : n.child? .callee = some c) (hname : c.isIdentifier) (htext : c.text ≠ []) :
    ∃ rest, outline source parent n = .use c.text .call c.start c.stop :: rest := by
  have hfirst : (n.onChild .callee fun c _ =>
      if c.isIdentifier then c.usage .call else steps source .call c) =
        [.act (.use c.text .call c.start c.stop)] := by
    unfold onChild
    split
    · rename_i d hd
      obtain rfl := Option.some.inj (hcallee.symm.trans hd)
      simp only [hname, ↓reduceIte, usage_eq htext]
    · rename_i hnone
      cases hcallee.symm.trans hnone
  rw [outline_eq, visited.eq_def, hkind]
  simp only [hfirst, Step.actions_append]
  exact ⟨_, rfl⟩

theorem Node.outline_probed (source : Text) (parent : Kind) {n c : Node} (hkind : n.kind = .unary)
    (hprobed : n.probed? = some c) (htext : c.text ≠ []) :
    outline source parent n = [.use c.text .probe c.start c.stop] := by
  rw [outline_eq, visited.eq_def, hkind]
  simp only [hprobed, usage_eq htext]
  rfl

open Classical in
/-- Inside of an open frame, any node leaves the frames open that were open before it. A bare name
that is called, or asked for its type, is used as such. What is reported as undefined are the uses
of undefined names, and what is reported as unused are the unused declarations, each once and in the
order of the program. -/
theorem nameIssues_exact (source : Text) (root : Node) :
    (∀ w : Walk, w.scopes.active ≠ [] → ∀ parent n,
      (w.run (Node.outline source parent n)).scopes.active = w.scopes.active) ∧
    (∀ parent n c, n.kind = .call → n.child? .callee = some c → c.isIdentifier → c.text ≠ [] →
      ∃ rest, Node.outline source parent n = .use c.text .call c.start c.stop :: rest) ∧
    (∀ parent n c, n.kind = .unary → n.probed? = some c → c.text ≠ [] →
      Node.outline source parent n = [.use c.text .probe c.start c.stop]) ∧
    (nameIssues source root).filter isUndefinedReport =
      ((root.walk source).uses.toList.filter (·.IsUndefined (root.walk source).scopes)).map
        Use.undefined ∧
    (nameIssues source root).filter isUnusedReport =
      ((root.walk source).scopes.declarations.toList.zipIdx.filter fun (d, id) =>
        d.IsUnusedIn (root.walk source).scopes (root.walk source).uses.toList id).map
          fun (d, _) => d.unused := by
  have hsound : (root.walk source).Sound := Walk.Sound.start.run _
  have huses : ∀ u ∈ (root.walk source).uses.toList,
      u.frame < (root.walk source).scopes.frames.size :=
    fun u hu => hsound.used u (Array.mem_def.mpr hu)
  rw [filter_isUndefinedReport, filter_isUnusedReport,
    Use.filterMap_report? hsound.reachable.isTree huses,
    filterMap_report?_readAll hsound.reachable.isTree huses hsound.unread]
  exact ⟨fun w hw parent n => Walk.active_run hw _,
    fun parent n c => Node.outline_call source parent,
    fun parent n c => Node.outline_probed source parent, rfl, rfl⟩

/-- The tree of a name. -/
def Node.word (text : String) (start : Nat) (roles : List Role := []) : Node where
  kind := .identifier
  isNamed := true
  roles
  start
  stop := start + text.length
  text := text.toList

/-- The tree of `f()`. -/
def callF : Node where
  kind := .call
  isNamed := true
  start := 0
  stop := 3
  children := [.word "f" 0 [.callee]]

/-- The tree of `typeof x`. -/
def typeofX : Node where
  kind := .unary
  isNamed := true
  start := 4
  stop := 12
  children :=
    [{ Node.word "typeof" 4 [.operator] with kind := .other "typeof", isNamed := false },
      .word "x" 11 [.argument]]

/-- A program that gives two names a meaning, and reads one of them to call a third one. -/
def callFOfB : Text := "let a, b; f(b)".toList

/-- The tree of that program. -/
def callFOfBTree : Node where
  kind := .program
  isNamed := true
  start := 0
  stop := 14
  children :=
    [{ kind := .lexicalDeclaration, isNamed := true, start := 0, stop := 9
       children := [declarator "a" 4, declarator "b" 7] },
      { kind := .call, isNamed := true, start := 10, stop := 14
        children :=
          [.word "f" 10 [.callee],
            { kind := .other "arguments", isNamed := true, start := 11, stop := 14
              children := [.word "b" 12] }] }]
where
  declarator (name : String) (start : Nat) : Node :=
    { kind := .variableDeclarator, isNamed := true, start, stop := start + 1
      children := [.word name start [.name]] }

/-- The uses of names in it. -/
def callFOfBUses : List Use := [⟨['f'], 0, .call, 10, 11⟩, ⟨['b'], 0, .read, 12, 13⟩]

def declarationOfA : Declaration where
  name := ['a']
  kind := .lexical
  start := 4
  stop := 5

def declarationOfB : Declaration where
  name := ['b']
  kind := .lexical
  start := 7
  stop := 8

/-- What a walk over it knows of its names. -/
def callFOfBScopes : Scopes where
  frames := #[{ kind := .program, parent := none, names := [(['b'], 1), (['a'], 0)] }]
  declarations := #[declarationOfA, declarationOfB]

theorem walk_callFOfBTree :
    (callFOfBTree.walk callFOfB).uses.toList = callFOfBUses ∧
      (callFOfBTree.walk callFOfB).scopes = callFOfBScopes := by
  decide +kernel

/-- Of the uses, the call of `f` has no meaning; of the declarations, that of `a` has no use. -/
theorem nameIssues_exact_callF :
    ({} : Walk).scopes.active ≠ [] ∧ callF.kind = .call ∧
      callF.child? .callee = some (.word "f" 0 [.callee]) ∧ typeofX.kind = .unary ∧
      typeofX.probed? = some (.word "x" 11 [.argument]) ∧
      (({} : Walk).run (Node.outline [] .program callF)).scopes.active = [0] ∧
      (∃ rest, Node.outline [] .program callF = .use ['f'] .call 0 1 :: rest) ∧
      Node.outline [] .program typeofX = [.use ['x'] .probe 11 12] ∧
      (nameIssues callFOfB callFOfBTree).filter isUndefinedReport =
        [(Issue.undefinedFunction ['f']).report 10 11] ∧
      (nameIssues callFOfB callFOfBTree).filter isUnusedReport =
        [(Issue.unusedVariable ['a']).report 4 5] := by
  obtain ⟨hactive, hcall, hprobe, -, -⟩ := nameIssues_exact [] callF
  obtain ⟨-, -, -, hundefined, hunused⟩ := nameIssues_exact callFOfB callFOfBTree
  obtain ⟨huses, hscopes⟩ := walk_callFOfBTree
  have htree : callFOfBScopes.IsTree :=
    hscopes ▸ (Walk.Sound.start.run (callFOfBTree.actions callFOfB)).reachable.isTree
  rw [huses, hscopes] at hundefined hunused
  refine ⟨by simp, rfl, rfl, rfl, rfl, hactive {} (by simp) .program callF,
    hcall .program callF (.word "f" 0 [.callee]) rfl rfl rfl (by decide),
    hprobe .program typeofX (.word "x" 11 [.argument]) rfl rfl (by decide),
    hundefined.trans ?_, hunused.trans ?_⟩
  · have hf : Use.IsUndefined callFOfBScopes ⟨['f'], 0, .call, 10, 11⟩ :=
      (Use.isUndefined_iff htree (by decide)).mpr (by decide +kernel)
    have hb : ¬ Use.IsUndefined callFOfBScopes ⟨['b'], 0, .read, 12, 13⟩ :=
      (Use.isUndefined_iff htree (by decide)).not.mpr (by decide +kernel)
    simp [callFOfBUses, hf, hb, Use.undefined]
  · have hreads : ∀ id, (targets callFOfBScopes callFOfBUses).count id = 0 ↔
        ∀ u ∈ callFOfBUses, ¬ u.Reads callFOfBScopes id :=
      count_targets_eq_zero_iff htree (by decide)
    have ha : declarationOfA.IsUnusedIn callFOfBScopes callFOfBUses 0 :=
      ⟨.inr (.inl rfl), rfl, by decide, (hreads 0).mp (by decide +kernel)⟩
    have hb : ¬ declarationOfB.IsUnusedIn callFOfBScopes callFOfBUses 1 :=
      fun hunread => absurd ((hreads 1).mpr hunread.unread) (by decide +kernel)
    have hdeclarations : callFOfBScopes.declarations.toList.zipIdx =
        [(declarationOfA, 0), (declarationOfB, 1)] := rfl
    simp only [hdeclarations, List.filter_cons, List.filter_nil, ha, hb, decide_true, decide_false,
      ↓reduceIte, Bool.false_eq_true, List.map_cons, List.map_nil]
    rfl

end PageLint.Script
