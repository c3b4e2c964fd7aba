import PageLint.Proofs.Script.Reordering
import PageLint.Proofs.Script.Thinning
import PageLint.Proofs.Script.Visits

/-! # Statements that are taken out

Where edits delete statements that do nothing but declare a name, the tree of what remains does what
the tree of the whole did, without these declarations. -/

namespace PageLint.Script

namespace Node

/-- The edits delete this statement. -/
def isCut (source : Text) (cut : List Edit) (n : Node) : Bool :=
  n.kind.isDeclaration && Action.deletes cut (some (n.removal source))

/-- A statement of a node of kind `parent` that does nothing but declare one name, and that can go
without a trace. -/
structure OnlyDeclares (source : Text) (parent : Kind) (n : Node) : Prop where
  among : holdsStatements parent = true
  roles : ∀ role ∈ n.roles, role = .body
  outline : ∃ name kind start stop,
    outline source parent n = [.declare name kind start stop (some (n.removal source))]

/-- `m` is `n`, at another place of the text, without the statements that the edits delete. -/
inductive Without (source : Text) (cut : List Edit) : Node → Node → Prop where
  | node {n m : Node} (stays : n.isCut source cut = false) (kind : m.kind = n.kind)
      (isNamed : m.isNamed = n.isNamed) (roles : m.roles = n.roles) (text : m.text = n.text)
      (gone : ∀ c ∈ n.children, c.isCut source cut = true → c.OnlyDeclares source n.kind)
      (children : List.Forall₂ (Without source cut)
        (n.children.filter fun c => !c.isCut source cut) m.children) : Without source cut n m

/-! ## Deciding what is taken out -/

/-- The only action of a node is the declaration that it is removed with. -/
def isSingle (source : Text) (parent : Kind) (n : Node) : Bool :=
  match Node.outline source parent n with
  | [.declare _ _ _ _ (some range)] => range = n.removal source
  | _ => false

theorem onlyDeclares_iff {source : Text} {parent : Kind} {n : Node} :
    n.OnlyDeclares source parent ↔ holdsStatements parent = true ∧
      (∀ role ∈ n.roles, role = .body) ∧ n.isSingle source parent = true := by
  unfold isSingle
  constructor
  · rintro ⟨hamong, hroles, name, kind, start, stop, houtline⟩
    refine ⟨hamong, hroles, ?_⟩
    simp [houtline]
  · rintro ⟨hamong, hroles, houtline⟩
    refine ⟨hamong, hroles, ?_⟩
    split at houtline
    · rename_i name kind start stop range heq
      exact ⟨name, kind, start, stop, by rw [heq, of_decide_eq_true houtline]⟩
    · cases houtline

instance (source : Text) (parent : Kind) (n : Node) : Decidable (n.OnlyDeclares source parent) :=
  decidable_of_iff' _ onlyDeclares_iff

mutual

/-- Decides `Without`. -/
def isWithout (source : Text) (cut : List Edit) : Node → Node → Bool
  | n@{ kind, isNamed, roles, text, children, .. }, m =>
    !n.isCut source cut && m.kind = kind && m.isNamed = isNamed && m.roles = roles &&
      m.text = text && areWithout source cut kind children m.children

/-- The same of the children of a node of kind `parent`. -/
def areWithout (source : Text) (cut : List Edit) (parent : Kind) : List Node → List Node → Bool
  | [], l' => l'.isEmpty
  | c :: l, l' =>
    if c.isCut source cut then c.OnlyDeclares source parent && areWithout source cut parent l l'
    else match l' with
      | [] => false
      | d :: l' => isWithout source cut c d && areWithout source cut parent l l'

end

theorem areWithout_iff {source : Text} {cut : List Edit} {parent : Kind} {l l' : List Node}
    (ih : ∀ c ∈ l, ∀ d, isWithout source cut c d = true ↔ Without source cut c d) :
    areWithout source cut parent l l' = true ↔
      (∀ c ∈ l, c.isCut source cut = true → c.OnlyDeclares source parent) ∧
        List.Forall₂ (Without source cut) (l.filter fun c => !c.isCut source cut) l' := by
  induction l generalizing l' with
  | nil => cases l' <;> simp [areWithout]
  | cons c l ihRest =>
      rw [List.forall_mem_cons] at ih ⊢
      unfold areWithout
      rw [List.filter_cons]
      cases hcut : c.isCut source cut with
      | true => simp [ihRest ih.2, and_assoc]
      | false =>
          cases l' with
          | nil => simp
          | cons d l' => simp [ihRest ih.2, ih.1 d, and_left_comm]

theorem isWithout_iff {source : Text} {cut : List Edit} (n m : Node) :
    isWithout source cut n m = true ↔ Without source cut n m := by
  have hchildren : areWithout source cut n.kind n.children m.children = true ↔ _ :=
    areWithout_iff fun c hc d =>
      have := sizeOf_lt_of_mem_children hc
      isWithout_iff c d
  have hunfold : isWithout source cut n m = (!n.isCut source cut && m.kind = n.kind &&
      m.isNamed = n.isNamed && m.roles = n.roles && m.text = n.text &&
        areWithout source cut n.kind n.children m.children) := by
    cases n
    rw [isWithout]
  simp only [hunfold, Bool.and_eq_true, Bool.not_eq_true', decide_eq_true_eq, hchildren]
  constructor
  · rintro ⟨⟨⟨⟨⟨hstays, hkind⟩, hnamed⟩, hroles⟩, htext⟩, hgone, hall⟩
    exact .node hstays hkind hnamed hroles htext hgone hall
  · rintro ⟨hstays, hkind, hnamed, hroles, htext, hgone, hall⟩
    exact ⟨⟨⟨⟨⟨hstays, hkind⟩, hnamed⟩, hroles⟩, htext⟩, hgone, hall⟩
termination_by sizeOf n

instance (source : Text) (cut : List Edit) (n m : Node) : Decidable (Without source cut n m) :=
  decidable_of_iff _ (isWithout_iff n m)

namespace Without

open PageLint.Script.Action (Alike without deletes)

variable {source source' : Text} {cut : List Edit} {n m : Node}

theorem stays (h : Without source cut n m) : n.isCut source cut = false := by
  cases h with
  | node stays => exact stays

theorem kind_eq (h : Without source cut n m) : m.kind = n.kind := by
  cases h with
  | node _ kind => exact kind

theorem isNamed_eq (h : Without source cut n m) : m.isNamed = n.isNamed := by
  cases h with
  | node _ _ isNamed => exact isNamed

theorem roles_eq (h : Without source cut n m) : m.roles = n.roles := by
  cases h with
  | node _ _ _ roles => exact roles

theorem text_eq (h : Without source cut n m) : m.text = n.text := by
  cases h with
  | node _ _ _ _ text => exact text

theorem gone (h : Without source cut n m) :
    ∀ c ∈ n.children, c.isCut source cut = true → c.OnlyDeclares source n.kind := by
  cases h with
  | node _ _ _ _ _ gone => exact gone

theorem children (h : Without source cut n m) :
    List.Forall₂ (Without source cut) (n.children.filter fun c => !c.isCut source cut)
      m.children := by
  cases h with
  | node _ _ _ _ _ _ children => exact children

/-- What is asked for by its part stays. -/
theorem child?_rel (h : Without source cut n m) (role : Role)
    (hrole : role = .body → holdsStatements n.kind = false) :
    Option.Rel (Without source cut) (n.child? role) (m.child? role) := by
  have hstays : ∀ c ∈ n.children, c.roles.contains role = true → c.isCut source cut = false := by
    intro c hc hcontains
    by_contra hcut
    have honly := h.gone c hc (by simpa using hcut)
    have hbody := honly.roles role (by simpa using hcontains)
    simpa [hrole hbody] using honly.among
  have hfind : n.child? role =
      (n.children.filter fun c => !c.isCut source cut).find? (·.roles.contains role) := by
    rw [Node.child?, List.find?_filter, ← List.head?_filter, ← List.head?_filter]
    refine congrArg List.head? (List.filter_congr fun c hc => ?_)
    cases hcontains : c.roles.contains role
    · simp
    · simp [hstays c hc hcontains]
  rw [hfind]
  exact find?_rel (fun _ _ => roles_eq) h.children

section

variable {R : List Step → List Step → Prop} {f g : Node → List Step}

/-- What nodes do one after the other, if nothing is left of what those do that are gone. -/
theorem flatMap_rel (hR : Step.IsCongruence R) {l l' : List Node}
    (h : List.Forall₂ (Without source cut) (l.filter fun c => !c.isCut source cut) l')
    (hfg : ∀ c ∈ l, ∀ d, Without source cut c d → R (f c) (g d))
    (hgone : ∀ c ∈ l, c.isCut source cut = true → R (f c) []) :
    R (l.flatMap f) (l'.flatMap g) := by
  induction l generalizing l' with
  | nil =>
      obtain rfl := List.forall₂_nil_left_iff.mp h
      exact hR.nil
  | cons c l ih =>
      rw [List.forall_mem_cons] at hfg hgone
      rw [List.filter_cons] at h
      rw [List.flatMap_cons]
      cases hcut : c.isCut source cut with
      | true =>
          simp only [hcut, Bool.not_true, Bool.false_eq_true, ↓reduceIte] at h
          exact hR.append (hgone.1 hcut) (ih h hfg.2 hgone.2)
      | false =>
          simp only [hcut, Bool.not_false, ↓reduceIte] at h
          obtain ⟨d, rest, hcd, hrest, rfl⟩ := List.forall₂_cons_left_iff.mp h
          rw [List.flatMap_cons]
          exact hR.append (hfg.1 d hcd) (ih hrest hfg.2 hgone.2)

theorem parts_rel (hR : Step.IsCongruence R) (h : Without source cut n m)
    (hfg : ∀ c ∈ n.parts, ∀ d, Without source cut c d → R (f c) (g d))
    (hgone : ∀ c ∈ n.parts, c.isCut source cut = true → R (f c) []) :
    R (n.parts.flatMap f) (m.parts.flatMap g) := by
  have hnamed : ∀ c ∈ n.children, c.isNamed = true → c ∈ n.parts :=
    fun c hc hc' => List.mem_filter.mpr ⟨hc, hc'⟩
  rw [Node.parts, Node.parts, flatMap_filter, flatMap_filter]
  refine flatMap_rel hR h.children (fun c hc d hcd => ?_) fun c hc hcut => ?_
  · rw [hcd.isNamed_eq]
    split
    · rename_i hc'
      exact hfg c (hnamed c hc hc') d hcd
    · exact hR.nil
  · split
    · rename_i hc'
      exact hgone c (hnamed c hc hc') hcut
    · exact hR.nil

end

/-! ## What remains is done -/

theorem isCongruence_alike (cut : List Edit) : Step.IsCongruence fun as bs =>
    Alike (without cut (Step.actions as)) (Step.actions bs) where
  nil := by simpa only [Step.actions, without] using Alike.nil
  append h h' := by
    rw [Step.actions_append, Step.actions_append, Action.without_append]
    exact h.append h'
  declare name kind _ _ _ _ := by
    have hstays : deletes cut none = false := rfl
    simpa only [Step.actions, Step.toActions, List.append_nil, without, hstays, Bool.false_eq_true,
      ↓reduceIte] using Alike.declare name kind _ _ _ _ _ _ .nil
  use name role _ _ _ _ := by
    simpa only [Step.actions, Step.toActions, List.append_nil, without]
      using Alike.use name role _ _ _ _ .nil
  scope kind _ _ inside := by
    simpa only [Step.actions, Step.toActions, List.append_nil, without]
      using Alike.scope kind inside .nil
  exported inside := by
    simpa only [Step.actions, Step.toActions, List.append_nil, without]
      using Alike.exported inside .nil
  debugger _ _ _ _ := by
    simpa only [Step.actions, Step.toActions, List.append_nil, without]
      using Alike.debugger _ _ _ _ .nil
  visit inside := by
    simpa only [Step.actions, Step.toActions, List.append_nil] using inside

/-- Statements that are gone did nothing but what is taken out. -/
theorem alike_nil_of_isCut {c : Node} (h : Without source cut n m) (hc : c ∈ n.parts)
    (hcut : c.isCut source cut = true) :
    holdsStatements n.kind = true ∧ c.kind.isDeclaration = true ∧
      Alike (without cut (outline source n.kind c)) [] := by
  have honly := h.gone c (List.mem_of_mem_filter hc) hcut
  obtain ⟨name, kind, start, stop, houtline⟩ := honly.outline
  obtain ⟨hdeclaration, hdeletes⟩ := Bool.and_eq_true_iff.mp hcut
  refine ⟨honly.among, hdeclaration, ?_⟩
  rw [houtline, without, ite_cond_eq_true _ _ (eq_true hdeletes), without]
  exact .nil

theorem isSimulation (source source' : Text) (cut : List Edit) :
    IsSimulation source source' (Without source cut) fun as bs =>
      Alike (without cut (Step.actions as)) (Step.actions bs) where
  toIsCongruence := isCongruence_alike cut
  kind_eq := kind_eq
  roles_eq := roles_eq
  text_eq := text_eq
  child? role h hrole := h.child?_rel role hrole
  parts h hfg hgone := h.parts_rel (isCongruence_alike cut) hfg fun c hc hcut =>
    have ⟨hamong, hdeclaration, houtline⟩ := h.alike_nil_of_isCut hc hcut
    hgone c hc hamong hdeclaration houtline
  removable {n m} h parent value value' name kind start stop start' stop' hkind := by
    have hstays : deletes cut (n.removal? source parent value) = false := by
      unfold removal?
      split
      · simpa [isCut, hkind] using h.stays
      · rfl
    simp only [Step.actions, Step.toActions, List.append_nil]
    rw [without, ite_cond_eq_false _ _ (eq_false (by simp [hstays])), without]
    exact .declare name kind _ _ _ _ _ _ .nil

/-- What remains of a program does what the program did, without the declarations. -/
theorem actions_alike (source' : Text) (h : Without source cut n m) :
    Alike (without cut (n.actions source)) (m.actions source') :=
  (isSimulation source source' cut).program h

/-! ## Fewer visits -/

theorem isCongruence_visits :
    Step.IsCongruence fun as bs => Step.visits bs ≤ Step.visits as where
  nil := Nat.le_refl _
  append h h' := by
    rw [Step.visits_append, Step.visits_append]
    exact Nat.add_le_add h h'
  declare _ _ _ _ _ _ := Nat.le_refl _
  use _ _ _ _ _ _ := Nat.le_refl _
  scope _ _ _ h := h
  exported h := h
  debugger _ _ _ _ := Nat.le_refl _
  visit h := Nat.succ_le_succ h

/-- A walk over what remains of a program visits no more nodes than one over the program. -/
theorem visits_le (source' : Text) (h : Without source cut n m) :
    Step.visits (partSteps source' m) ≤ Step.visits (partSteps source n) := by
  have sim : IsSimulation source source' (Without source cut) fun as bs =>
      Step.visits bs ≤ Step.visits as :=
    { toIsCongruence := isCongruence_visits
      kind_eq := kind_eq
      roles_eq := roles_eq
      text_eq := text_eq
      child? := fun role h hrole => h.child?_rel role hrole
      parts := fun h hfg _ => h.parts_rel isCongruence_visits hfg fun _ _ _ => Nat.zero_le _
      removable := fun _ _ _ _ _ _ _ _ _ _ _ => Nat.le_refl _ }
  exact sim.program h

end Without

end Node

end PageLint.Script
