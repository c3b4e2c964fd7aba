import PageLint.Script.Scope
import Mathlib.Data.List.Chain

/-! # Frames

The frames form a tree with the whole program at its root, and the open ones lead to that root. A
search for a name follows the frames outwards and ends at the nearest one that binds it. -/

namespace PageLint.Script.Scopes

variable {s : Scopes} {f g : Nat} {n m : Text}

/-! ## Parents and bindings after an operation -/

/-- The frame around a frame. -/
def parent? (s : Scopes) (frame : Nat) : Option Nat := s.frames[frame]?.bind (·.parent)

theorem parent?_push (kind : FrameKind) :
    (s.push kind).parent? f = if f = s.frames.size then some s.current else s.parent? f := by
  unfold parent? push
  rw [Array.getElem?_push]
  split <;> rfl

/-- A new frame binds nothing. -/
@[simp] theorem bound?_push (kind : FrameKind) : (s.push kind).bound? f n = s.bound? f n := by
  unfold bound? push
  rw [Array.getElem?_push]
  split
  · rename_i h
    subst h
    simp
  · rfl

@[simp] theorem frames_pop : s.pop.frames = s.frames := by
  unfold pop
  split <;> rfl

@[simp] theorem declarations_pop : s.pop.declarations = s.declarations := by
  unfold pop
  split <;> rfl

@[simp] theorem parent?_pop : s.pop.parent? f = s.parent? f := by
  rw [parent?, frames_pop, parent?]

@[simp] theorem bound?_pop : s.pop.bound? f n = s.bound? f n := by
  rw [bound?, frames_pop, bound?]

theorem isFunction_push (kind : FrameKind) :
    (s.push kind).isFunction f = if f = s.frames.size then kind != .block else s.isFunction f := by
  unfold isFunction push
  rw [Array.getElem?_push]
  split <;> rfl

@[simp] theorem isFunction_pop : s.pop.isFunction f = s.isFunction f := by
  rw [isFunction, frames_pop, isFunction]

@[simp] theorem isFunction_bind (d : Declaration) : (s.bind g d).isFunction f = s.isFunction f := by
  unfold isFunction bind
  rw [Array.getElem?_modify]
  split
  · cases s.frames[f]? <;> rfl
  · rfl

@[simp] theorem parent?_bind (d : Declaration) : (s.bind g d).parent? f = s.parent? f := by
  unfold parent? bind
  rw [Array.getElem?_modify]
  split
  · cases s.frames[f]? <;> rfl
  · rfl

theorem bound?_bind (hg : g < s.frames.size) (d : Declaration) :
    (s.bind g d).bound? f n =
      if f = g ∧ n = d.name then some s.declarations.size else s.bound? f n := by
  unfold bound? bind
  rw [Array.getElem?_modify]
  by_cases hf : g = f
  · subst hf
    by_cases hn : n = d.name
    · simp [hn, hg]
    · have hne : (n == d.name) = false := by simpa using hn
      cases hframe : s.frames[g]? <;> simp [hn, List.lookup_cons, hne]
  · simp [hf, Ne.symm hf]

theorem bound?_congr {t : Scopes} (h : t.frames[f]? = s.frames[f]?) :
    t.bound? f n = s.bound? f n := by
  rw [bound?, h, bound?]

theorem bound?_of_size_le (h : s.frames.size ≤ f) : s.bound? f n = none := by
  rw [bound?, Array.getElem?_eq_none h]
  rfl

/-! ## The tree of frames -/

/-- `fs` are the frames from `f` outwards: behind each comes its parent, and the last has none. -/
inductive Chain (s : Scopes) : Nat → List Nat → Prop where
  | root {f : Nat} (exists_frame : f < s.frames.size) (parent : s.parent? f = none) :
      Chain s f [f]
  | inner {f p : Nat} {fs : List Nat} (parent : s.parent? f = some p) (outer : Chain s p fs) :
      Chain s f (f :: fs)

namespace Chain

variable {fs gs : List Nat}

theorem lt_size (h : s.Chain f fs) : ∀ g ∈ fs, g < s.frames.size := by
  induction h with
  | root exists_frame parent => simpa using exists_frame
  | @inner f p fs parent outer ih =>
      intro g hg
      rcases List.mem_cons.mp hg with rfl | hg
      · rw [parent?, Option.bind_eq_some_iff] at parent
        obtain ⟨frame, hframe, -⟩ := parent
        exact (Array.getElem?_eq_some_iff.mp hframe).1
      · exact ih g hg

theorem head?_eq (h : s.Chain f fs) : fs.head? = some f := by
  cases h <;> rfl

/-- There is only one way outwards. -/
theorem unique (h : s.Chain f fs) (h' : s.Chain f gs) : fs = gs := by
  induction h generalizing gs with
  | root _ parent =>
      cases h' with
      | root => rfl
      | inner parent' => simp [parent] at parent'
  | inner parent _ ih =>
      cases h' with
      | root _ parent' => simp [parent] at parent'
      | inner parent' outer =>
          obtain rfl := Option.some.inj (parent.symm.trans parent')
          rw [ih outer]

/-- A chain stays one where its frames keep their parents. -/
theorem congr {t : Scopes} (h : s.Chain f fs) (hsize : s.frames.size ≤ t.frames.size)
    (hparent : ∀ g < s.frames.size, t.parent? g = s.parent? g) : t.Chain f fs := by
  induction h with
  | root exists_frame parent =>
      exact .root (Nat.lt_of_lt_of_le exists_frame hsize) ((hparent _ exists_frame).trans parent)
  | @inner f p fs parent outer ih =>
      have hlt := lt_size (.inner parent outer) f List.mem_cons_self
      exact .inner ((hparent f hlt).trans parent) ih

theorem isChain (h : s.Chain f fs) :
    fs.IsChain fun inner outer => s.parent? inner = some outer := by
  induction h with
  | root => exact .singleton _
  | @inner f p fs parent outer ih =>
      refine List.isChain_cons.mpr ⟨?_, ih⟩
      intro g hg
      rw [outer.head?_eq] at hg
      rwa [← Option.some.inj hg]

theorem parent?_getLast? (h : s.Chain f fs) : ∃ g, fs.getLast? = some g ∧ s.parent? g = none := by
  induction h with
  | @root f _ parent => exact ⟨f, rfl, parent⟩
  | @inner f p fs parent outer ih =>
      obtain ⟨g, hlast, hg⟩ := ih
      exact ⟨g, by simp [List.getLast?_cons, hlast], hg⟩

end Chain

/-- The frames lead to that of the whole program, the open ones one by one. -/
structure IsTree (s : Scopes) : Prop where
  root_mem : 0 < s.frames.size
  root : s.parent? 0 = none
  root_function : s.isFunction 0
  parent_lt : ∀ f, 0 < f → f < s.frames.size → ∃ p, s.parent? f = some p ∧ p < f
  open_chain : s.Chain s.current s.active

namespace IsTree

theorem new : IsTree {} where
  root_mem := by decide
  root := rfl
  root_function := rfl
  parent_lt := by
    intro f hpos hlt
    have hone : f < 1 := hlt
    omega
  open_chain := .root (by decide) rfl

theorem active_eq (h : s.IsTree) : ∃ outer, s.active = s.current :: outer :=
  List.head?_eq_some_iff.mp h.open_chain.head?_eq

theorem current_lt (h : s.IsTree) : s.current < s.frames.size :=
  h.open_chain.lt_size _ (List.mem_of_mem_head? h.open_chain.head?_eq)

/-- A change that leaves parents and open frames alone. -/
theorem congr {t : Scopes} (h : s.IsTree) (hsize : t.frames.size = s.frames.size)
    (hparent : ∀ f, t.parent? f = s.parent? f) (hkind : ∀ f, t.isFunction f = s.isFunction f)
    (hactive : t.active = s.active) : t.IsTree where
  root_mem := hsize ▸ h.root_mem
  root := (hparent 0).trans h.root
  root_function := (hkind 0).trans h.root_function
  parent_lt := by
    intro f hpos hlt
    rw [hparent]
    exact h.parent_lt f hpos (hsize ▸ hlt)
  open_chain := by
    have hcurrent : t.current = s.current := by rw [current, hactive, current]
    rw [hactive, hcurrent]
    exact h.open_chain.congr hsize.ge fun g _ => hparent g

theorem push (h : s.IsTree) (kind : FrameKind) : (s.push kind).IsTree := by
  have hsize : (s.push kind).frames.size = s.frames.size + 1 := by simp [Scopes.push]
  have hold : ∀ g < s.frames.size, (s.push kind).parent? g = s.parent? g := by
    intro g hg
    rw [parent?_push, ite_cond_eq_false _ _ (eq_false (Nat.ne_of_lt hg))]
  refine ⟨by omega, ?_, ?_, ?_, ?_⟩
  · rw [hold 0 h.root_mem, h.root]
  · rw [isFunction_push, ite_cond_eq_false _ _ (eq_false (Nat.ne_of_lt h.root_mem))]
    exact h.root_function
  · intro f hpos hlt
    by_cases hf : f = s.frames.size
    · subst hf
      exact ⟨s.current, by simp [parent?_push], h.current_lt⟩
    · rw [hold f (by omega)]
      exact h.parent_lt f hpos (by omega)
  · have hnew : (s.push kind).parent? s.frames.size = some s.current := by simp [parent?_push]
    exact .inner hnew (h.open_chain.congr (by omega) hold)

theorem pop (h : s.IsTree) : s.pop.IsTree := by
  have hparent : ∀ g < s.frames.size, s.pop.parent? g = s.parent? g := fun g _ => parent?_pop
  refine ⟨by simpa using h.root_mem, by simpa using h.root, by simpa using h.root_function,
    by simpa using h.parent_lt, ?_⟩
  have hopen : s.Chain s.pop.current s.pop.active := by
    have hchain := h.open_chain
    unfold Scopes.pop
    split
    · rename_i f outer rest hactive
      rw [hactive] at hchain
      cases hchain with
      | inner _ houter =>
          obtain rfl : outer = _ := Option.some.inj houter.head?_eq
          exact houter
    · exact hchain
  exact hopen.congr (by simp) hparent

theorem bind (h : s.IsTree) (g : Nat) (d : Declaration) : (s.bind g d).IsTree :=
  h.congr (by simp [Scopes.bind]) (fun _ => parent?_bind d) (fun _ => isFunction_bind d) rfl

theorem read (h : s.IsTree) (id : Nat) : (s.read id).IsTree :=
  h.congr rfl (fun _ => rfl) (fun _ => rfl) rfl

theorem parent?_lt (h : s.IsTree) {p : Nat} (hparent : s.parent? f = some p) : p < f := by
  have hlt : f < s.frames.size := by
    rw [parent?, Option.bind_eq_some_iff] at hparent
    obtain ⟨frame, hframe, -⟩ := hparent
    exact (Array.getElem?_eq_some_iff.mp hframe).1
  have hpos : 0 < f := by
    refine Nat.pos_of_ne_zero ?_
    rintro rfl
    simp [h.root] at hparent
  obtain ⟨q, hq, hqlt⟩ := h.parent_lt f hpos hlt
  obtain rfl := Option.some.inj (hparent.symm.trans hq)
  exact hqlt

/-- From every frame there is a way outwards. -/
theorem exists_chain (h : s.IsTree) (hf : f < s.frames.size) : ∃ fs, s.Chain f fs := by
  induction f using Nat.strong_induction_on with
  | _ f ih =>
      cases hparent : s.parent? f with
      | none => exact ⟨[f], .root hf hparent⟩
      | some p =>
          have hlt := h.parent?_lt hparent
          obtain ⟨fs, houter⟩ := ih p hlt (Nat.lt_trans hlt hf)
          exact ⟨f :: fs, .inner hparent houter⟩

theorem chain_le (h : s.IsTree) {fs : List Nat} (hchain : s.Chain f fs) : ∀ g ∈ fs, g ≤ f := by
  induction hchain with
  | root => simp
  | inner parent outer ih =>
      have hlt := h.parent?_lt parent
      intro g hg
      rcases List.mem_cons.mp hg with rfl | hg
      · exact Nat.le_refl _
      · exact Nat.le_trans (ih g hg) (Nat.le_of_lt hlt)

theorem chain_nodup (h : s.IsTree) {fs : List Nat} (hchain : s.Chain f fs) : fs.Nodup := by
  induction hchain with
  | root => simp
  | inner parent outer ih =>
      refine List.nodup_cons.mpr ⟨?_, ih⟩
      intro hmem
      exact Nat.not_lt.mpr (h.chain_le outer _ hmem) (h.parent?_lt parent)

/-- The open frames end with that of the whole program. -/
theorem getLast?_active (h : s.IsTree) : s.active.getLast? = some 0 := by
  obtain ⟨g, hlast, hparent⟩ := h.open_chain.parent?_getLast?
  have hlt := h.open_chain.lt_size g (List.mem_of_getLast? hlast)
  cases g with
  | zero => exact hlast
  | succ g =>
      obtain ⟨p, hp, -⟩ := h.parent_lt (g + 1) (Nat.succ_pos g) hlt
      simp [hparent] at hp

/-- Declarations with `var` go to the first open frame that is no mere block. -/
theorem nearestFunction_eq (h : s.IsTree) :
    s.isFunction s.nearestFunction ∧ ∃ inner outer,
      s.active = inner ++ s.nearestFunction :: outer ∧ ∀ g ∈ inner, ¬ s.isFunction g := by
  have hroot : 0 ∈ s.active := List.mem_of_getLast? h.getLast?_active
  have hsome : (s.active.find? s.isFunction).isSome :=
    List.find?_isSome.mpr ⟨0, hroot, h.root_function⟩
  obtain ⟨g, hg⟩ := Option.isSome_iff_exists.mp hsome
  obtain ⟨hfunction, inner, outer, hactive, hinner⟩ := List.find?_eq_some_iff_append.mp hg
  have heq : s.nearestFunction = g := by simp [nearestFunction, hg]
  rw [heq]
  exact ⟨hfunction, inner, outer, hactive, fun i hi => by simpa using hinner i hi⟩

theorem nearestFunction_mem (h : s.IsTree) : s.nearestFunction ∈ s.active := by
  obtain ⟨-, inner, outer, hactive, -⟩ := h.nearestFunction_eq
  rw [hactive]
  simp

theorem nearestFunction_lt (h : s.IsTree) : s.nearestFunction < s.frames.size :=
  h.open_chain.lt_size _ h.nearestFunction_mem

end IsTree

/-! ## Searching -/

/-- A search for `n` that starts at `f` gets as far as `g`: no frame on the way binds `n`. -/
def Reaches (s : Scopes) (f : Nat) (n : Text) (g : Nat) : Prop :=
  ∃ inner outer, s.Chain f (inner ++ g :: outer) ∧ ∀ i ∈ inner, s.bound? i n = none

theorem lookup_inner (h : s.IsTree) {p : Nat} (hparent : s.parent? f = some p) (n : Text) :
    s.lookup f n = (s.bound? f n).or (s.lookup p n) := by
  have hlt := h.parent?_lt hparent
  change s.frames[f]?.bind (·.parent) = some p at hparent
  rw [lookup, hparent]
  cases hbound : s.bound? f n <;> simp [hlt]

theorem lookup_root (h : s.IsTree) (n : Text) : s.lookup 0 n = s.bound? 0 n := by
  have hroot := h.root
  change s.frames[0]?.bind (·.parent) = none at hroot
  rw [lookup, hroot]
  cases hbound : s.bound? 0 n <;> simp

theorem lookup_eq_findSome? (h : s.IsTree) {fs : List Nat} (hchain : s.Chain f fs) (n : Text) :
    s.lookup f n = fs.findSome? (s.bound? · n) := by
  induction hchain with
  | @root f exists_frame parent =>
      have hroot : f = 0 := by
        rcases Nat.eq_zero_or_pos f with hzero | hpos
        · exact hzero
        · obtain ⟨p, hp, -⟩ := h.parent_lt f hpos exists_frame
          simp [parent] at hp
      rw [hroot, lookup_root h]
      simp
  | @inner f p fs parent outer ih =>
      rw [lookup_inner h parent, List.findSome?_cons, ← ih]
      cases s.bound? f n <;> rfl

theorem lookup_eq_some_iff (h : s.IsTree) (hf : f < s.frames.size) {id : Nat} :
    s.lookup f n = some id ↔ ∃ g, s.Reaches f n g ∧ s.bound? g n = some id := by
  obtain ⟨fs, hchain⟩ := h.exists_chain hf
  rw [lookup_eq_findSome? h hchain, List.findSome?_eq_some_iff]
  constructor
  · rintro ⟨inner, g, outer, rfl, hbound, hinner⟩
    exact ⟨g, ⟨inner, outer, hchain, hinner⟩, hbound⟩
  · rintro ⟨g, ⟨inner, outer, hchain', hinner⟩, hbound⟩
    exact ⟨inner, g, outer, hchain.unique hchain', hbound, hinner⟩

theorem lookup_eq_none_iff (h : s.IsTree) {fs : List Nat} (hchain : s.Chain f fs) :
    s.lookup f n = none ↔ ∀ g ∈ fs, s.bound? g n = none := by
  rw [lookup_eq_findSome? h hchain, List.findSome?_eq_none_iff]

end PageLint.Script.Scopes
