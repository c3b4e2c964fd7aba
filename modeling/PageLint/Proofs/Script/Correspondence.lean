import PageLint.Script.Outline
import Mathlib.Data.List.Forall2

/-! # Trees that correspond

What a tree does to names is put together from what its parts do. So a relation between steps holds
of the walks over two trees, if it holds of the same word at two places and goes through lists,
frames and visits, and if the trees have corresponding parts. Declarations that stand among
statements of the first tree can be without a counterpart. -/

namespace PageLint.Script

/-- `R` holds of the same action at two places of the text, and goes through lists, frames and
visits. -/
structure Step.IsCongruence (R : List Step → List Step → Prop) : Prop where
  nil : R [] []
  append : ∀ {as bs cs ds : List Step}, R as bs → R cs ds → R (as ++ cs) (bs ++ ds)
  declare : ∀ (name : Text) (kind : BindingKind) (start stop start' stop' : Nat),
    R [.act (.declare name kind start stop none)] [.act (.declare name kind start' stop' none)]
  use : ∀ (name : Text) (role : UseRole) (start stop start' stop' : Nat),
    R [.act (.use name role start stop)] [.act (.use name role start' stop')]
  scope : ∀ (kind : FrameKind) {body body' : List Step}, R body body' →
    R [.scope kind body] [.scope kind body']
  exported : ∀ {body body' : List Step}, R body body' → R [.exported body] [.exported body']
  debugger : ∀ start stop start' stop' : Nat,
    R [.act (.debugger start stop)] [.act (.debugger start' stop')]
  visit : ∀ {body body' : List Step}, R body body' → R [.visit body] [.visit body']

/-- A statement that declares names with `let`, `const` or `var`. -/
def Kind.isDeclaration : Kind → Bool
  | .lexicalDeclaration | .variableDeclaration => true
  | _ => false

namespace Node

/-- Nodes that `Q` relates have children that it relates. The statements of a node may be asked for
together only, and those without a counterpart do nothing that `R` would miss. -/
structure IsSimulation (source source' : Text) (Q : Node → Node → Prop)
    (R : List Step → List Step → Prop) : Prop extends Step.IsCongruence R where
  kind_eq : ∀ {n m : Node}, Q n m → m.kind = n.kind
  roles_eq : ∀ {n m : Node}, Q n m → m.roles = n.roles
  text_eq : ∀ {n m : Node}, Q n m → m.text = n.text
  child? : ∀ {n m : Node} (role : Role), Q n m → (role = .body → holdsStatements n.kind = false) →
    Option.Rel Q (n.child? role) (m.child? role)
  parts : ∀ {n m : Node} {f g : Node → List Step}, Q n m →
    (∀ c ∈ n.parts, ∀ d, Q c d → R (f c) (g d)) →
    (∀ c ∈ n.parts, holdsStatements n.kind = true → c.kind.isDeclaration = true →
      R (steps source n.kind c) [] → R (f c) []) →
    R (n.parts.flatMap f) (m.parts.flatMap g)
  removable : ∀ {n m : Node}, Q n m → ∀ (parent : Kind) (value value' : Option Node) (name : Text)
    (kind : BindingKind) (start stop start' stop' : Nat), n.kind.isDeclaration = true →
    R [.act (.declare name kind start stop (n.removal? source parent value))]
      [.act (.declare name kind start' stop' (m.removal? source' parent value'))]

theorem onParts_eq (n : Node) (f : Node → List Step) :
    (n.onParts fun c _ => f c) = n.parts.flatMap f := by
  unfold onParts
  simp

/-- A declaration is no pattern. -/
theorem bindings_of_isDeclaration (source : Text) (parent : Kind) (kind : BindingKind) {n : Node}
    (h : n.kind.isDeclaration = true) :
    bindings source parent kind n = steps source parent n := by
  rw [bindings.eq_def]
  cases hkind : n.kind <;> simp_all [Kind.isDeclaration]

theorem flatMap_filter {α β : Type} (p : α → Bool) (f : α → List β) (l : List α) :
    (l.filter p).flatMap f = l.flatMap fun a => if p a then f a else [] := by
  induction l with
  | nil => rfl
  | cons a l ih =>
      rw [List.filter_cons, List.flatMap_cons, ← ih]
      split <;> simp

theorem flatMap_filterMap {α β γ : Type} (p : α → Option β) (f : β → List γ) (l : List α) :
    (l.filterMap p).flatMap f = l.flatMap fun a => (p a).toList.flatMap f := by
  rw [List.filterMap_eq_flatMap_toList, List.flatMap_assoc]

/-- The first child with a role has a counterpart where all children have one. -/
theorem find?_rel {Q : Node → Node → Prop} (hroles : ∀ c d, Q c d → d.roles = c.roles)
    {role : Role} {l l' : List Node} (h : List.Forall₂ Q l l') :
    Option.Rel Q (l.find? (·.roles.contains role)) (l'.find? (·.roles.contains role)) := by
  induction h with
  | nil => exact .none
  | @cons c d l l' hcd _ ih =>
      rw [List.find?_cons, List.find?_cons, hroles c d hcd]
      split
      · exact .some hcd
      · exact ih

namespace IsSimulation

variable {source source' : Text} {Q : Node → Node → Prop} {R : List Step → List Step → Prop}
  {n m : Node}

/-! ## Children -/

theorem isIdentifier_eq (sim : IsSimulation source source' Q R) (h : Q n m) :
    m.isIdentifier = n.isIdentifier := by
  rw [isIdentifier, sim.kind_eq h, isIdentifier]

theorem child?_cases (sim : IsSimulation source source' Q R) (h : Q n m) (role : Role)
    (hrole : role = .body → holdsStatements n.kind = false) :
    (n.child? role = none ∧ m.child? role = none) ∨
      ∃ c d, n.child? role = some c ∧ m.child? role = some d ∧ Q c d := by
  have hrel := sim.child? role h hrole
  generalize n.child? role = c?, m.child? role = d? at hrel
  cases hrel with
  | none => exact .inl ⟨rfl, rfl⟩
  | @some c d hcd => exact .inr ⟨c, d, rfl, rfl, hcd⟩

/-- What is asked for by its role does what its counterpart does. -/
theorem onChild (sim : IsSimulation source source' Q R) (h : Q n m) (role : Role)
    (hrole : role = .body → holdsStatements n.kind = false)
    {f : (c : Node) → sizeOf c < sizeOf n → List Step}
    {g : (c : Node) → sizeOf c < sizeOf m → List Step}
    (hfg : ∀ c d hc hd, Q c d → R (f c hc) (g d hd)) : R (n.onChild role f) (m.onChild role g) := by
  unfold Node.onChild
  rcases sim.child?_cases h role hrole with ⟨hn, hm⟩ | ⟨c, d, hn, hm, hcd⟩
  · split
    · rename_i hc
      cases hn.symm.trans hc
    · split
      · rename_i hd
        cases hm.symm.trans hd
      · exact sim.nil
  · split
    · rename_i c' hc
      obtain rfl := Option.some.inj (hn.symm.trans hc)
      split
      · rename_i d' hd
        obtain rfl := Option.some.inj (hm.symm.trans hd)
        exact hfg c d _ _ hcd
      · rename_i hd
        cases hm.symm.trans hd
    · rename_i hc
      cases hn.symm.trans hc

/-- The parts of a node that holds no statements all have counterparts. -/
theorem partsOf (sim : IsSimulation source source' Q R) (h : Q n m)
    (hkind : holdsStatements n.kind = false) {f g : Node → List Step}
    (hfg : ∀ c ∈ n.parts, ∀ d, Q c d → R (f c) (g d)) :
    R (n.parts.flatMap f) (m.parts.flatMap g) :=
  sim.parts h hfg fun _ _ hholds => by simp [hkind] at hholds

theorem onParts (sim : IsSimulation source source' Q R) (h : Q n m)
    (hkind : holdsStatements n.kind = false) {f g : Node → List Step}
    (hfg : ∀ c d, sizeOf c < sizeOf n → Q c d → R (f c) (g d)) :
    R (n.onParts fun c _ => f c) (m.onParts fun c _ => g c) := by
  rw [onParts_eq, onParts_eq]
  exact sim.partsOf h hkind fun c hc d => hfg c d (sizeOf_lt_of_mem_parts hc)

/-! ## Words -/

theorem declaration (sim : IsSimulation source source' Q R) (h : Q n m) (kind : BindingKind) :
    R (n.declaration kind) (m.declaration kind) := by
  rw [Node.declaration, Node.declaration, sim.text_eq h]
  split
  · exact sim.nil
  · exact sim.declare _ _ _ _ _ _

theorem usage (sim : IsSimulation source source' Q R) (h : Q n m) (role : UseRole) :
    R (n.usage role) (m.usage role) := by
  rw [Node.usage, Node.usage, sim.text_eq h]
  split
  · exact sim.nil
  · exact sim.use _ _ _ _ _ _

theorem ownName (sim : IsSimulation source source' Q R) (h : Q n m) (kind : BindingKind) :
    R (n.ownName kind) (m.ownName kind) :=
  sim.onChild h .name (by simp) fun _ _ _ _ hcd => sim.declaration hcd kind

theorem map_text_child? (sim : IsSimulation source source' Q R) (h : Q n m) {role : Role}
    (hrole : role ≠ .body) : (m.child? role).map (·.text) = (n.child? role).map (·.text) := by
  rcases sim.child?_cases h role (absurd · hrole) with ⟨hn, hm⟩ | ⟨c, d, hn, hm, hcd⟩ <;>
    rw [hn, hm]
  rw [Option.map_some, Option.map_some, sim.text_eq hcd]

theorem any_text_child? (sim : IsSimulation source source' Q R) (h : Q n m) {role : Role}
    (hrole : role ≠ .body) (word : Text) :
    (m.child? role).any (·.text = word) = (n.child? role).any (·.text = word) := by
  have hany : ∀ k : Node, (k.child? role).any (·.text = word) =
      ((k.child? role).map (·.text)).any (· = word) := by
    intro k
    rw [Option.any_map]
  rw [hany, hany, sim.map_text_child? h hrole]

theorem announced_eq (sim : IsSimulation source source' Q R) (h : Q n m) :
    m.announced = n.announced := by
  rw [announced, announced, sim.kind_eq h, sim.any_text_child? h (by simp)]

theorem loopBinding?_eq (sim : IsSimulation source source' Q R) (h : Q n m) :
    m.loopBinding? = n.loopBinding? := by
  have hmap : ∀ k : Node, k.loopBinding? = ((k.child? .keyword).map (·.text)).map fun word =>
      if word = "var".toList then .var
      else if word = "const".toList then .constant
      else .lexical := by
    intro k
    rw [loopBinding?, Option.map_map]
    rfl
  rw [hmap, hmap, sim.map_text_child? h (by simp)]

theorem targetRole_eq (sim : IsSimulation source source' Q R) (h : Q n m) :
    m.targetRole = n.targetRole := by
  rw [targetRole, targetRole, sim.kind_eq h]

theorem isElementName_eq (sim : IsSimulation source source' Q R) (h : Q n m) :
    m.isElementName = n.isElementName := by
  rw [isElementName, isElementName, sim.roles_eq h, sim.isIdentifier_eq h, sim.text_eq h]

/-! ## Names that are picked out -/

theorem toList_filter (sim : IsSimulation source source' Q R) {c? d? : Option Node}
    (h : Option.Rel Q c? d?) {f : Node → List Step} (hf : ∀ c d, Q c d → R (f c) (f d)) :
    R ((c?.filter isIdentifier).toList.flatMap f) ((d?.filter isIdentifier).toList.flatMap f) := by
  cases h with
  | none => exact sim.nil
  | @some c d hcd =>
      rw [Option.filter_some, Option.filter_some, sim.isIdentifier_eq hcd]
      split
      · simpa using hf c d hcd
      · exact sim.nil

theorem probed?_rel (sim : IsSimulation source source' Q R) (h : Q n m) :
    Option.Rel Q n.probed? m.probed? := by
  rw [probed?, probed?, sim.any_text_child? h (by simp)]
  split
  · have hrel := sim.child? .argument h (by simp)
    generalize n.child? .argument = c?, m.child? .argument = d? at hrel
    cases hrel with
    | none => exact .none
    | @some c d hcd =>
        rw [Option.filter_some, Option.filter_some, sim.isIdentifier_eq hcd]
        split
        · exact .some hcd
        · exact .none
  · exact .none

/-- The name that a part of a clause gives: its alias, or else its own. -/
theorem alias_rel (sim : IsSimulation source source' Q R) (h : Q n m) :
    Option.Rel Q ((n.child? .alias).orElse fun _ => n.child? .name)
      ((m.child? .alias).orElse fun _ => m.child? .name) := by
  rcases sim.child?_cases h .alias (by simp) with ⟨hn, hm⟩ | ⟨c, d, hn, hm, hcd⟩ <;> rw [hn, hm]
  · exact sim.child? .name h (by simp)
  · exact .some hcd

theorem importedNames (sim : IsSimulation source source' Q R) (h : Q n m) {f : Node → List Step}
    (hf : ∀ c d, Q c d → R (f c) (f d)) :
    R (n.importedNames.flatMap f) (m.importedNames.flatMap f) := by
  rw [Node.importedNames, Node.importedNames, sim.kind_eq h]
  split
  · simpa using hf n m h
  · rename_i hkind
    rw [flatMap_filter, flatMap_filter]
    refine sim.partsOf h (by rw [hkind]; rfl) fun c _ d hcd => ?_
    rw [sim.isIdentifier_eq hcd]
    split
    · exact hf c d hcd
    · exact sim.nil
  · rename_i hkind
    rw [flatMap_filterMap, flatMap_filterMap]
    refine sim.partsOf h (by rw [hkind]; rfl) fun c _ d hcd => ?_
    exact sim.toList_filter (sim.alias_rel hcd) hf
  · exact sim.nil

theorem imports (sim : IsSimulation source source' Q R) (h : Q n m)
    (hkind : holdsStatements n.kind = false) : R n.imports m.imports := by
  simp only [Node.imports, List.flatMap_assoc, flatMap_filter]
  refine sim.partsOf h hkind fun clause _ clause' hclause => ?_
  rw [sim.kind_eq hclause]
  split
  · rename_i hclauseKind
    have hholds : holdsStatements clause.kind = false := by rw [of_decide_eq_true hclauseKind]; rfl
    rw [List.flatMap_assoc, List.flatMap_assoc]
    exact sim.partsOf hclause hholds fun part _ part' hpart =>
      sim.importedNames hpart fun _ _ hcd => sim.declaration hcd .imported
  · exact sim.nil

theorem exportedNames (sim : IsSimulation source source' Q R) (h : Q n m)
    (hkind : holdsStatements n.kind = false) : R n.exportedNames m.exportedNames := by
  have hsource : (m.child? .source).isSome = (n.child? .source).isSome := by
    rw [← Option.isSome_map, sim.map_text_child? h (by simp), Option.isSome_map]
  rw [Node.exportedNames, Node.exportedNames, hsource]
  split
  · exact sim.nil
  · simp only [List.flatMap_assoc, flatMap_filter]
    refine sim.partsOf h hkind fun clause _ clause' hclause => ?_
    rw [sim.kind_eq hclause]
    split
    · rename_i hclauseKind
      have hholds : holdsStatements clause.kind = false := by
        rw [of_decide_eq_true hclauseKind]; rfl
      rw [flatMap_filterMap, flatMap_filterMap]
      exact sim.partsOf hclause hholds fun spec _ spec' hspec =>
        sim.toList_filter (sim.child? .name hspec (by simp)) fun _ _ hcd => sim.usage hcd .read
    · exact sim.nil

/-! ## Trees -/

/-- Corresponding nodes that are smaller than `size` do what `R` relates. -/
def Below (source source' : Text) (Q : Node → Node → Prop) (R : List Step → List Step → Prop)
    (size : Nat) : Prop :=
  ∀ c d, sizeOf c < size → Q c d →
    (∀ parent, R (steps source parent c) (steps source' parent d)) ∧
      ∀ parent kind, R (bindings source parent kind c) (bindings source' parent kind d)

theorem partSteps (sim : IsSimulation source source' Q R) {size : Nat}
    (ih : Below source source' Q R size) (hsize : sizeOf n ≤ size) (h : Q n m) :
    R (partSteps source n) (partSteps source' m) := by
  rw [Node.partSteps, Node.partSteps, onParts_eq, onParts_eq, sim.kind_eq h]
  refine sim.parts h (fun c hc d hcd => ?_) fun _ _ _ _ hgone => hgone
  exact (ih c d (Nat.lt_of_lt_of_le (sizeOf_lt_of_mem_parts hc) hsize) hcd).1 n.kind

theorem functionBody (sim : IsSimulation source source' Q R)
    (ih : Below source source' Q R (sizeOf n)) (h : Q n m)
    (hkind : holdsStatements n.kind = false) :
    R (functionBody source n) (functionBody source' m) := by
  rw [Node.functionBody, Node.functionBody, sim.kind_eq h]
  refine sim.append (sim.append ?_ ?_) ?_
  · exact sim.onChild h .parameter (by simp) fun c d hc _ hcd =>
      (ih c d hc hcd).2 n.kind .parameter
  · refine sim.onChild h .parameters (by simp) fun ps qs hps _ hpq => ?_
    rw [onParts_eq, onParts_eq, sim.kind_eq hpq]
    refine sim.parts hpq (fun c hc d hcd => ?_) fun c _ _ hdeclaration hgone => ?_
    · exact (ih c d (Nat.lt_trans (sizeOf_lt_of_mem_parts hc) hps) hcd).2 ps.kind .parameter
    · rwa [bindings_of_isDeclaration source ps.kind .parameter hdeclaration]
  · refine sim.onChild h .body (fun _ => hkind) fun c d hc _ hcd => ?_
    rw [sim.kind_eq hcd]
    split
    · exact sim.partSteps ih (Nat.le_of_lt hc) hcd
    · exact (ih c d hc hcd).1 n.kind

theorem classHead (sim : IsSimulation source source' Q R)
    (ih : Below source source' Q R (sizeOf n)) (h : Q n m)
    (hkind : holdsStatements n.kind = false) : R (classHead source n) (classHead source' m) := by
  rw [Node.classHead, Node.classHead, sim.kind_eq h]
  refine sim.onParts h hkind fun c d hc hcd => ?_
  rw [sim.kind_eq hcd]
  split
  · exact (ih c d hc hcd).1 n.kind
  · exact sim.nil

theorem classBody (sim : IsSimulation source source' Q R)
    (ih : Below source source' Q R (sizeOf n)) (h : Q n m)
    (hkind : holdsStatements n.kind = false) : R (classBody source n) (classBody source' m) := by
  rw [Node.classBody, Node.classBody]
  refine sim.onParts h hkind fun c d hc hcd => ?_
  rw [sim.kind_eq hcd]
  split
  · exact sim.partSteps ih (Nat.le_of_lt hc) hcd
  · exact sim.nil

theorem loop (sim : IsSimulation source source' Q R) (ih : Below source source' Q R (sizeOf n))
    (h : Q n m) (hkind : holdsStatements n.kind = false) : R (loop source n) (loop source' m) := by
  rw [Node.loop, Node.loop, sim.kind_eq h, sim.loopBinding?_eq h]
  refine sim.append (sim.append ?_ ?_) ?_
  · refine sim.onChild h .left (by simp) fun c d hc _ hcd => ?_
    split
    · rename_i kind _
      exact (ih c d hc hcd).2 n.kind kind
    · rw [sim.isIdentifier_eq hcd]
      split
      · exact sim.usage hcd .write
      · exact (ih c d hc hcd).1 n.kind
  · exact sim.onChild h .right (by simp) fun c d hc _ hcd => (ih c d hc hcd).1 n.kind
  · exact sim.onChild h .body (fun _ => hkind) fun c d hc _ hcd => (ih c d hc hcd).1 n.kind

/-- What a declaration does: each declarator has a single name or a pattern, and its value may use
other names. -/
theorem declarators (sim : IsSimulation source source' Q R)
    (ih : Below source source' Q R (sizeOf n)) (h : Q n m) (parent : Kind)
    (hkind : n.kind.isDeclaration = true) :
    R (visited source parent n) (visited source' parent m) := by
  have hholds : holdsStatements n.kind = false := by
    cases hn : n.kind <;> simp_all [Kind.isDeclaration, holdsStatements]
  have hdeclarator : ∀ d e, sizeOf d < sizeOf n → Q d e →
      R (if d.kind = .variableDeclarator then
          d.onChild .name fun c _ =>
            (if c.isIdentifier then
              c.declaration n.announced (n.removal? source parent (d.child? .value))
            else bindings source d.kind n.announced c) ++
              d.onChild .value fun v _ => steps source d.kind v
        else [])
        (if e.kind = .variableDeclarator then
          e.onChild .name fun c _ =>
            (if c.isIdentifier then
              c.declaration m.announced (m.removal? source' parent (e.child? .value))
            else bindings source' e.kind m.announced c) ++
              e.onChild .value fun v _ => steps source' e.kind v
        else []) := by
    intro d e hd hde
    rw [sim.kind_eq hde, sim.announced_eq h]
    split
    · refine sim.onChild hde .name (by simp) fun c c' hc _ hcc => sim.append ?_ ?_
      · rw [sim.isIdentifier_eq hcc]
        split
        · rw [Node.declaration, Node.declaration, sim.text_eq hcc]
          split
          · exact sim.nil
          · exact sim.removable h _ _ _ _ _ _ _ _ _ hkind
        · exact (ih c c' (Nat.lt_trans hc hd) hcc).2 d.kind n.announced
      · exact sim.onChild hde .value (by simp) fun v v' hv _ hvv =>
          (ih v v' (Nat.lt_trans hv hd) hvv).1 d.kind
    · exact sim.nil
  have hparts := sim.onParts h hholds hdeclarator
  rw [visited.eq_def source parent n, visited.eq_def source' parent m, sim.kind_eq h]
  cases hn : n.kind
  case lexicalDeclaration | variableDeclaration => exact hparts
  all_goals simp [hn, Kind.isDeclaration] at hkind

theorem visited (sim : IsSimulation source source' Q R) (ih : Below source source' Q R (sizeOf n))
    (h : Q n m) (parent : Kind) : R (visited source parent n) (visited source' parent m) := by
  have hparts := sim.partSteps ih (Nat.le_refl _) h
  have hdeclarators := sim.declarators ih h parent
  have hbody := sim.functionBody ih h
  have hhead := sim.classHead ih h
  have hclass := sim.classBody ih h
  have hchild : ∀ role, role ≠ .body → R (n.onChild role fun c _ => Node.steps source n.kind c)
      (m.onChild role fun c _ => Node.steps source' n.kind c) :=
    fun role hrole => sim.onChild h role (absurd · hrole) fun c d hc _ hcd =>
      (ih c d hc hcd).1 n.kind
  have honParts : holdsStatements n.kind = false → ∀ f g : Node → List Step,
      (∀ c d, sizeOf c < sizeOf n → Q c d → R (f c) (g d)) →
        R (n.onParts fun c _ => f c) (m.onParts fun c _ => g c) :=
    fun hkind f g hfg => sim.onParts h hkind hfg
  rw [visited.eq_def source parent n, visited.eq_def source' parent m] at hdeclarators ⊢
  rw [sim.kind_eq h] at hdeclarators ⊢
  cases hkind : n.kind <;>
    simp only [hkind] at hdeclarators hbody hhead hclass hchild honParts ⊢
  case lexicalDeclaration | variableDeclaration => exact hdeclarators rfl
  case functionDeclaration | generatorDeclaration =>
    exact sim.append (sim.ownName h .function) (sim.scope .function (hbody rfl))
  case functionExpression | generatorExpression =>
    exact sim.scope .function (sim.append (sim.ownName h .function) (hbody rfl))
  case arrowFunction => exact sim.scope .function (hbody rfl)
  case methodDefinition =>
    refine sim.append (sim.onChild h .name (by simp) fun c d hc _ hcd => ?_)
      (sim.scope .function (hbody rfl))
    rw [sim.kind_eq hcd]
    split
    · exact (ih c d hc hcd).1 _
    · exact sim.nil
  case classDeclaration =>
    exact sim.append (sim.append (sim.ownName h .classLike) (hhead rfl))
      (sim.scope .block (hclass rfl))
  case classExpression =>
    exact sim.append (hhead rfl)
      (sim.scope .block (sim.append (sim.ownName h .classLike) (hclass rfl)))
  case block | switchBody | forStatement => exact sim.scope .block hparts
  case forInStatement => exact sim.scope .block (sim.loop ih h (by rw [hkind]; rfl))
  case catchClause =>
    refine sim.scope .block (sim.append ?_ ?_)
    · exact sim.onChild h .parameter (by simp) fun c d hc _ hcd => (ih c d hc hcd).2 _ .caught
    · exact sim.onChild h .body (fun _ => by rw [hkind]; rfl) fun c d hc _ hcd =>
        sim.partSteps ih (Nat.le_of_lt hc) hcd
  case importStatement => exact sim.imports h (by rw [hkind]; rfl)
  case exportStatement =>
    refine sim.append (sim.append ?_ (hchild .value (by simp)))
      (sim.exportedNames h (by rw [hkind]; rfl))
    exact sim.onChild h .declaration (by simp) fun c d hc _ hcd =>
      sim.exported ((ih c d hc hcd).1 _)
  case debuggerStatement => exact sim.debugger _ _ _ _
  case identifier | shorthandProperty => exact sim.usage h .read
  case call =>
    refine sim.append (sim.onChild h .callee (by simp) fun c d hc _ hcd => ?_)
      (honParts rfl _ _ fun c d hc hcd => ?_)
    · rw [sim.isIdentifier_eq hcd]
      split
      · exact sim.usage hcd .call
      · exact (ih c d hc hcd).1 _
    · rw [sim.roles_eq hcd]
      split
      · exact sim.nil
      · exact (ih c d hc hcd).1 _
  case assignment | augmentedAssignment =>
    refine sim.append (sim.onChild h .left (by simp) fun c d hc _ hcd => ?_)
      (hchild .right (by simp))
    rw [sim.isIdentifier_eq hcd, sim.targetRole_eq h]
    split
    · exact sim.usage hcd n.targetRole
    · exact (ih c d hc hcd).1 _
  case unary =>
    have hprobed := sim.probed?_rel h
    generalize n.probed? = c?, m.probed? = d? at hprobed
    cases hprobed with
    | none => exact hparts
    | some hcd => exact sim.usage hcd .probe
  case elementOpening | elementClosing | selfClosingElement =>
    refine honParts rfl _ _ fun c d hc hcd => ?_
    rw [sim.isElementName_eq hcd]
    split
    · exact sim.nil
    · exact (ih c d hc hcd).1 _
  case error => exact sim.nil
  all_goals exact hparts

theorem steps (sim : IsSimulation source source' Q R) (ih : Below source source' Q R (sizeOf n))
    (h : Q n m) (parent : Kind) : R (steps source parent n) (steps source' parent m) := by
  rw [Node.steps, Node.steps]
  exact sim.visit (sim.visited ih h parent)

theorem bindings (sim : IsSimulation source source' Q R) (ih : Below source source' Q R (sizeOf n))
    (h : Q n m) (parent : Kind) (kind : BindingKind) :
    R (bindings source parent kind n) (bindings source' parent kind m) := by
  have hsteps := sim.steps ih h parent
  have hchild : ∀ role, role ≠ .body →
      R (n.onChild role fun c _ => Node.bindings source n.kind kind c)
        (m.onChild role fun c _ => Node.bindings source' n.kind kind c) :=
    fun role hrole => sim.onChild h role (absurd · hrole) fun c d hc _ hcd =>
      (ih c d hc hcd).2 n.kind kind
  have hpattern : holdsStatements n.kind = false →
      R (n.onParts fun c _ => Node.bindings source n.kind kind c)
        (m.onParts fun c _ => Node.bindings source' n.kind kind c) :=
    fun hkind => sim.onParts h hkind fun c d hc hcd => (ih c d hc hcd).2 n.kind kind
  rw [bindings.eq_def source parent kind n, bindings.eq_def source' parent kind m, sim.kind_eq h]
  cases hkind : n.kind <;> simp only [hkind] at hchild hpattern ⊢
  case identifier | shorthandPattern => exact sim.declaration h kind
  case objectPattern | arrayPattern | restPattern => exact hpattern rfl
  case pairPattern =>
    refine sim.append (sim.onChild h .key (by simp) fun c d hc _ hcd => ?_)
      (hchild .value (by simp))
    rw [sim.kind_eq hcd]
    split
    · exact (ih c d hc hcd).1 _
    · exact sim.nil
  case assignmentPattern | objectAssignmentPattern =>
    refine sim.append (hchild .left (by simp)) ?_
    exact sim.onChild h .right (by simp) fun c d hc _ hcd => (ih c d hc hcd).1 _
  case undefinedWord | error => exact sim.nil
  all_goals exact hsteps

theorem below (sim : IsSimulation source source' Q R) (size : Nat) :
    Below source source' Q R size := by
  induction size with
  | zero => intro c d hc; exact absurd hc (Nat.not_lt_zero _)
  | succ size ih =>
      intro c d hc hcd
      have hbelow : Below source source' Q R (sizeOf c) :=
        fun e f he hef => ih e f (Nat.lt_of_lt_of_le he (Nat.le_of_lt_succ hc)) hef
      exact ⟨sim.steps hbelow hcd, sim.bindings hbelow hcd⟩

/-- `R` relates the walks over corresponding programs. -/
theorem program (sim : IsSimulation source source' Q R) (h : Q n m) :
    R (Node.partSteps source n) (Node.partSteps source' m) :=
  sim.partSteps (sim.below (sizeOf n)) (Nat.le_refl _) h

end IsSimulation

end Node

end PageLint.Script
