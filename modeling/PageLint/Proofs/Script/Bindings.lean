import PageLint.Proofs.Script.Frames

/-! # Names in frames

Whatever is opened, closed and declared, every declaration belongs to one frame, and a new one
changes the searches that get as far as its frame, and no others. -/

namespace PageLint.Script.Scopes

variable {s : Scopes} {f g : Nat} {n m : Text}

/-! ## Names and declarations -/

/-- Names and declarations belong together one to one. -/
structure IsBinding (s : Scopes) : Prop where
  bound : ∀ id d, s.declarations[id]? = some d → ∃ f, s.bound? f d.name = some id
  declared : ∀ f n id, s.bound? f n = some id → ∃ d, s.declarations[id]? = some d ∧ d.name = n
  single : ∀ f g n m id, s.bound? f n = some id → s.bound? g m = some id → f = g

namespace IsBinding

theorem not_bound_new : ({} : Scopes).bound? f n = none := by
  unfold bound?
  cases f <;> rfl

theorem new : IsBinding {} where
  bound := by
    intro id d h
    simp at h
  declared := by
    intro f n id h
    simp [not_bound_new] at h
  single := by
    intro f g n m id h
    simp [not_bound_new] at h

/-- A change that keeps what is bound, and the names of the declarations. -/
theorem congr {t : Scopes} (h : s.IsBinding) (hbound : ∀ f n, t.bound? f n = s.bound? f n)
    (hname : ∀ id : Nat, t.declarations[id]?.map Declaration.name =
      s.declarations[id]?.map Declaration.name) : t.IsBinding where
  bound := by
    intro id d hd
    have hd' := hname id
    rw [hd, Option.map_some, eq_comm, Option.map_eq_some_iff] at hd'
    obtain ⟨e, he, hed⟩ := hd'
    obtain ⟨f, hf⟩ := h.bound id e he
    exact ⟨f, by rw [hbound, ← hed, hf]⟩
  declared := by
    intro f n id hf
    rw [hbound] at hf
    obtain ⟨e, he, hen⟩ := h.declared f n id hf
    have hd := hname id
    rw [he, Option.map_some, Option.map_eq_some_iff] at hd
    obtain ⟨d, hd, hde⟩ := hd
    exact ⟨d, hd, hde.trans hen⟩
  single := by
    intro f g n m id hf hg
    rw [hbound] at hf hg
    exact h.single f g n m id hf hg

theorem id_lt (h : s.IsBinding) {id : Nat} (hbound : s.bound? f n = some id) :
    id < s.declarations.size := by
  obtain ⟨d, hd, -⟩ := h.declared f n id hbound
  exact (Array.getElem?_eq_some_iff.mp hd).1

theorem bind (h : s.IsBinding) {d : Declaration} (hg : g < s.frames.size)
    (hfresh : s.bound? g d.name = none) : (s.bind g d).IsBinding := by
  have hdecls : ∀ id : Nat, (s.bind g d).declarations[id]? =
      if id = s.declarations.size then some d else s.declarations[id]? :=
    fun id => Array.getElem?_push
  refine ⟨?_, ?_, ?_⟩
  · intro id e he
    rw [hdecls] at he
    split at he
    · rename_i hid
      obtain rfl := Option.some.inj he
      exact ⟨g, by rw [bound?_bind hg, hid]; simp⟩
    · obtain ⟨f, hf⟩ := h.bound id e he
      have hold : ¬ (f = g ∧ e.name = d.name) := by
        rintro ⟨rfl, hname⟩
        rw [hname, hfresh] at hf
        cases hf
      exact ⟨f, by rw [bound?_bind hg, ite_cond_eq_false _ _ (eq_false hold), hf]⟩
  · intro f n id hf
    rw [bound?_bind hg] at hf
    rw [hdecls]
    split at hf
    · rename_i hnew
      obtain rfl := Option.some.inj hf
      exact ⟨d, by simp, hnew.2.symm⟩
    · have hne := Nat.ne_of_lt (h.id_lt hf)
      simpa [hne] using h.declared f n id hf
  · intro f g' n m id hf hg'
    rw [bound?_bind hg] at hf hg'
    split at hf <;> split at hg'
    · rename_i hf' hg''
      rw [hf'.1, hg''.1]
    · obtain rfl := Option.some.inj hf
      exact absurd (h.id_lt hg') (Nat.lt_irrefl _)
    · obtain rfl := Option.some.inj hg'
      exact absurd (h.id_lt hf) (Nat.lt_irrefl _)
    · exact h.single f g' n m id hf hg'

theorem push (h : s.IsBinding) (kind : FrameKind) : (s.push kind).IsBinding :=
  h.congr (fun _ _ => bound?_push kind) fun _ => rfl

theorem pop (h : s.IsBinding) : s.pop.IsBinding :=
  h.congr (fun _ _ => bound?_pop) fun _ => by rw [declarations_pop]

theorem read (h : s.IsBinding) (id : Nat) : (s.read id).IsBinding := by
  refine h.congr (fun _ _ => rfl) fun k => ?_
  unfold Scopes.read
  rw [Array.getElem?_modify]
  split
  · cases s.declarations[k]? <;> rfl
  · rfl

end IsBinding

/-! ## Declaring a name -/

theorem declare_eq_error_iff {d : Declaration} {id : Nat} :
    s.declare g d = .error id ↔ s.bound? g d.name = some id := by
  unfold declare
  cases h : s.bound? g d.name <;> simp

theorem declare_eq_ok_iff {d : Declaration} {id : Nat} {t : Scopes} :
    s.declare g d = .ok (id, t) ↔
      s.bound? g d.name = none ∧ id = s.declarations.size ∧ t = s.bind g d := by
  unfold declare
  cases h : s.bound? g d.name <;> simp [eq_comm]

theorem chain_bind {d : Declaration} {fs : List Nat} (h : s.Chain f fs) :
    (s.bind g d).Chain f fs :=
  h.congr (by simp [bind]) fun _ _ => parent?_bind d

/-- A search for the new name that gets as far as its frame ends there. -/
theorem lookup_bind_of_reaches (h : s.IsTree) (hf : f < s.frames.size) (hg : g < s.frames.size)
    {d : Declaration} (hreach : s.Reaches f d.name g) :
    (s.bind g d).lookup f d.name = some s.declarations.size := by
  obtain ⟨inner, outer, hchain, hinner⟩ := hreach
  have hf' : f < (s.bind g d).frames.size := by simpa [bind] using hf
  have happart : g ∉ inner := by
    intro hmem
    have hnodup := h.chain_nodup hchain
    exact (List.nodup_append.mp hnodup).2.2 g hmem g List.mem_cons_self rfl
  rw [lookup_eq_some_iff (h.bind g d) hf']
  refine ⟨g, ⟨inner, outer, chain_bind hchain, ?_⟩, by simp [bound?_bind hg]⟩
  intro i hi
  have hne : i ≠ g := fun he => happart (he ▸ hi)
  simp [bound?_bind hg, hne, hinner i hi]

/-- A search sees no more of the frames than what they bind to the name. -/
theorem findSome?_congr {t : Scopes} {fs : List Nat}
    (h : ∀ i ∈ fs, t.bound? i m = s.bound? i m) :
    fs.findSome? (t.bound? · m) = fs.findSome? (s.bound? · m) := by
  rw [← List.head?_filterMap, ← List.head?_filterMap, List.filterMap_congr h]

/-- Every other search ends where it did. -/
theorem lookup_bind_of_not_reaches (h : s.IsTree) (hf : f < s.frames.size)
    (hg : g < s.frames.size) {d : Declaration} (hreach : ¬ (m = d.name ∧ s.Reaches f m g)) :
    (s.bind g d).lookup f m = s.lookup f m := by
  obtain ⟨fs, hchain⟩ := h.exists_chain hf
  rw [lookup_eq_findSome? h hchain, lookup_eq_findSome? (h.bind g d) (chain_bind hchain)]
  have hother : ∀ i, ¬ (i = g ∧ m = d.name) → (s.bind g d).bound? i m = s.bound? i m := by
    intro i hne
    rw [bound?_bind hg, ite_cond_eq_false _ _ (eq_false hne)]
  by_cases hmem : m = d.name ∧ g ∈ fs
  · obtain ⟨inner, outer, rfl, happart⟩ := List.eq_append_cons_of_mem hmem.2
    have hinner : inner.findSome? ((s.bind g d).bound? · m) = inner.findSome? (s.bound? · m) :=
      findSome?_congr fun i hi => hother i fun he => happart (he.1 ▸ hi)
    -- something in front of `g` binds the name, or else the search would get to `g`
    have hstop : inner.findSome? (s.bound? · m) ≠ none := by
      intro hnone
      exact hreach ⟨hmem.1, inner, outer, hchain, List.findSome?_eq_none_iff.mp hnone⟩
    obtain ⟨id, hid⟩ := Option.ne_none_iff_exists'.mp hstop
    rw [List.findSome?_append, List.findSome?_append, hinner, hid, Option.some_or, Option.some_or]
  · exact findSome?_congr fun i hi => hother i fun he => hmem ⟨he.2, he.1 ▸ hi⟩

/-! ## Runs -/

inductive Operation where
  | push (kind : FrameKind)
  | pop
  | declare (frame : Nat) (d : Declaration)
  | read (id : Nat)
  deriving DecidableEq, Repr

/-- A name can be declared in any frame that there is, open or not. -/
def Operation.IsPossible (s : Scopes) : Operation → Prop
  | .declare frame _ => frame < s.frames.size
  | .push _ | .pop | .read _ => True

/-- A declaration that fails leaves everything as it was. -/
def perform (s : Scopes) : Operation → Scopes
  | .push kind => s.push kind
  | .pop => s.pop
  | .declare frame d =>
    match s.declare frame d with
    | .ok (_, next) => next
    | .error _ => s
  | .read id => s.read id

/-- What operations make of new scopes. -/
inductive Reachable : Scopes → Prop where
  | new : Reachable {}
  | step {s : Scopes} (h : Reachable s) (op : Operation) (possible : op.IsPossible s) :
      Reachable (s.perform op)

namespace Reachable

theorem push (h : s.Reachable) (kind : FrameKind) : (s.push kind).Reachable :=
  h.step (.push kind) trivial

theorem pop (h : s.Reachable) : s.pop.Reachable := h.step .pop trivial

theorem read (h : s.Reachable) (id : Nat) : (s.read id).Reachable := h.step (.read id) trivial

theorem bind (h : s.Reachable) {d : Declaration} (hg : g < s.frames.size)
    (hfresh : s.bound? g d.name = none) : (s.bind g d).Reachable := by
  have hstep := h.step (.declare g d) hg
  rwa [perform, declare_eq_ok_iff.mpr ⟨hfresh, rfl, rfl⟩] at hstep

/-- What new scopes have and every operation keeps. A declaration is bound, or nothing happens. -/
@[elab_as_elim]
theorem induct {motive : ∀ s : Scopes, s.Reachable → Prop} (new : motive {} .new)
    (push : ∀ s (h : s.Reachable) kind, motive s h → motive (s.push kind) (h.push kind))
    (pop : ∀ s (h : s.Reachable), motive s h → motive s.pop h.pop)
    (bind : ∀ s (h : s.Reachable) g d (hg : g < s.frames.size) (hfresh : s.bound? g d.name = none),
      motive s h → motive (s.bind g d) (h.bind hg hfresh))
    (read : ∀ s (h : s.Reachable) id, motive s h → motive (s.read id) (h.read id))
    {s : Scopes} (h : s.Reachable) : motive s h := by
  induction h with
  | new => exact new
  | @step s h op possible ih =>
      cases op with
      | push kind => exact push s h kind ih
      | pop => exact pop s h ih
      | read id => exact read s h id ih
      | declare g d =>
          cases hbound : s.bound? g d.name with
          | none =>
              have hperform : s.perform (.declare g d) = s.bind g d := by
                rw [perform, declare_eq_ok_iff.mpr ⟨hbound, rfl, rfl⟩]
              simpa only [hperform] using bind s h g d possible hbound ih
          | some id =>
              have hperform : s.perform (.declare g d) = s := by
                rw [perform, declare_eq_error_iff.mpr hbound]
              simpa only [hperform] using ih

theorem isTree (h : s.Reachable) : s.IsTree := by
  induction h using induct with
  | new => exact .new
  | push s h kind ih => exact ih.push kind
  | pop s h ih => exact ih.pop
  | bind s h g d hg hfresh ih => exact ih.bind g d
  | read s h id ih => exact ih.read id

theorem isBinding (h : s.Reachable) : s.IsBinding := by
  induction h using induct with
  | new => exact .new
  | push s h kind ih => exact ih.push kind
  | pop s h ih => exact ih.pop
  | bind s h g d hg hfresh ih => exact ih.bind hg hfresh
  | read s h id ih => exact ih.read id

end Reachable

/-- How frames, names and declarations hang together. -/
structure IsLawful (s : Scopes) : Prop where
  /-- The outermost open frame is that of the whole program. -/
  open_root : s.active.getLast? = some 0
  /-- Every other open frame has the one that is open around it for a parent. -/
  open_parent : s.active.IsChain fun inner outer => s.parent? inner = some outer
  root : s.parent? 0 = none
  parent_lt : ∀ f, 0 < f → f < s.frames.size → ∃ p, s.parent? f = some p ∧ p < f
  declared_once : ∀ id d, s.declarations[id]? = some d →
    ∃ f, s.bound? f d.name = some id ∧ ∀ g m, s.bound? g m = some id → g = f ∧ m = d.name
  nearestFunction : s.isFunction s.nearestFunction ∧ ∃ inner outer,
    s.Chain s.current (inner ++ s.nearestFunction :: outer) ∧ ∀ g ∈ inner, ¬ s.isFunction g
  lookup_some : ∀ f < s.frames.size, ∀ n id,
    s.lookup f n = some id ↔ ∃ g, s.Reaches f n g ∧ s.bound? g n = some id
  lookup_none : ∀ f < s.frames.size, ∀ n,
    s.lookup f n = none ↔ ∃ fs, s.Chain f fs ∧ ∀ g ∈ fs, s.bound? g n = none
  /-- A name that is there already stays with its declaration. -/
  declare_error : ∀ g d id, s.declare g d = .error id ↔ s.bound? g d.name = some id
  perform_error : ∀ g d id, s.declare g d = .error id → s.perform (.declare g d) = s
  /-- A new declaration is found by the searches that get to its frame. -/
  declare_ok : ∀ g < s.frames.size, ∀ d id t, s.declare g d = .ok (id, t) →
    s.declarations[id]? = none ∧ t.declarations[id]? = some d ∧
      ∀ f < s.frames.size, ∀ m,
        (m = d.name ∧ s.Reaches f m g → t.lookup f m = some id) ∧
          (¬ (m = d.name ∧ s.Reaches f m g) → t.lookup f m = s.lookup f m)

theorem Reachable.isLawful (h : s.Reachable) : s.IsLawful where
  open_root := h.isTree.getLast?_active
  open_parent := h.isTree.open_chain.isChain
  root := h.isTree.root
  parent_lt := h.isTree.parent_lt
  declared_once := by
    intro id d hd
    obtain ⟨f, hf⟩ := h.isBinding.bound id d hd
    refine ⟨f, hf, fun g m hg => ⟨h.isBinding.single g f m d.name id hg hf, ?_⟩⟩
    obtain ⟨e, he, rfl⟩ := h.isBinding.declared g m id hg
    rw [Option.some.inj (he.symm.trans hd)]
  nearestFunction := by
    obtain ⟨hfunction, inner, outer, hactive, hinner⟩ := h.isTree.nearestFunction_eq
    exact ⟨hfunction, inner, outer, hactive ▸ h.isTree.open_chain, hinner⟩
  lookup_some := fun f hf n id => lookup_eq_some_iff h.isTree hf
  lookup_none := by
    intro f hf n
    constructor
    · intro hnone
      obtain ⟨fs, hchain⟩ := h.isTree.exists_chain hf
      exact ⟨fs, hchain, (lookup_eq_none_iff h.isTree hchain).mp hnone⟩
    · rintro ⟨fs, hchain, hnone⟩
      exact (lookup_eq_none_iff h.isTree hchain).mpr hnone
  declare_error := fun g d id => declare_eq_error_iff
  perform_error := by
    intro g d id herror
    rw [perform, herror]
  declare_ok := by
    intro g hg d id t hok
    obtain ⟨-, rfl, rfl⟩ := declare_eq_ok_iff.mp hok
    refine ⟨by simp, by simp [Scopes.bind], fun f hf m => ⟨?_, ?_⟩⟩
    · rintro ⟨rfl, hreach⟩
      exact lookup_bind_of_reaches h.isTree hf hg hreach
    · exact lookup_bind_of_not_reaches h.isTree hf hg

/-- The declaration of a name by `let`. -/
def letX : Declaration where
  name := ['x']
  kind := .lexical
  start := 4
  stop := 5

/-- A name in a function and again in a closed block of it; a third declaration fails. -/
def shadowed : Scopes :=
  [.push .function, .push .block, .declare 1 letX, .pop, .declare 2 letX, .declare 1 letX,
    .read 1].foldl perform {}

theorem Reachable.isLawful_shadowed :
    shadowed.Reachable ∧ shadowed.frames.size = 3 ∧ shadowed.active = [1, 0] ∧
      shadowed.bound? 1 ['x'] = some 0 ∧ shadowed.bound? 2 ['x'] = some 1 ∧ shadowed.IsLawful := by
  have hreach : shadowed.Reachable := by
    have hfunction := Reachable.new.step (.push .function) trivial
    have hblock := hfunction.step (.push .block) trivial
    have houter := hblock.step (.declare 1 letX) (by decide : 1 < 3)
    have hclosed := houter.step .pop trivial
    have hinner := hclosed.step (.declare 2 letX) (by decide : 2 < 3)
    have hfailed := hinner.step (.declare 1 letX) (by decide : 1 < 3)
    exact hfailed.step (.read 1) trivial
  exact ⟨hreach, rfl, rfl, rfl, rfl, hreach.isLawful⟩

end PageLint.Script.Scopes
