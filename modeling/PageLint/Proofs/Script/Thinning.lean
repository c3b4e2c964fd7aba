import PageLint.Proofs.Script.Nesting

/-! # Declarations that are taken out

Edits can delete statements that do nothing but declare a name. What remains of the program opens
the same frames and uses the same names in them. A use that had a meaning keeps one, unless its own
declaration was taken out and the frames have no other. -/

namespace PageLint.Script

/-! ## Actions -/

namespace Action

/-- One of the edits deletes the statement that these are the bytes of. -/
def deletes (cut : List Edit) (removal : Option (Nat × Nat)) : Bool :=
  removal.any fun (start, stop) => cut.contains (.delete start stop)

/-- Actions without the declarations that the edits delete. -/
def without (cut : List Edit) : List Action → List Action
  | [] => []
  | .declare name kind start stop removal :: rest =>
    if deletes cut removal then without cut rest
    else .declare name kind start stop removal :: without cut rest
  | .use name role start stop :: rest => .use name role start stop :: without cut rest
  | .scope kind body :: rest => .scope kind (without cut body) :: without cut rest
  | .exported body :: rest => .exported (without cut body) :: without cut rest
  | .debugger start stop :: rest => .debugger start stop :: without cut rest

theorem without_append (cut : List Edit) (as bs : List Action) :
    without cut (as ++ bs) = without cut as ++ without cut bs := by
  induction as with
  | nil => simp only [without, List.nil_append]
  | cons a as ih =>
      cases a <;> simp only [List.cons_append, without, ih]
      split <;> rfl

end Action

/-! ## Frames -/

namespace Scopes

variable {s t r : Scopes}

/-- The same frames, each opened in the same one, and the same of them open. -/
structure SameFrames (s t : Scopes) : Prop where
  active : t.active = s.active
  size : t.frames.size = s.frames.size
  parent : ∀ f, t.parent? f = s.parent? f
  isFunction : ∀ f, t.isFunction f = s.isFunction f

namespace SameFrames

theorem refl (s : Scopes) : s.SameFrames s := ⟨rfl, rfl, fun _ => rfl, fun _ => rfl⟩

theorem symm (h : s.SameFrames t) : t.SameFrames s :=
  ⟨h.active.symm, h.size.symm, fun f => (h.parent f).symm, fun f => (h.isFunction f).symm⟩

theorem trans (h : s.SameFrames t) (h' : t.SameFrames r) : s.SameFrames r :=
  ⟨h'.active.trans h.active, h'.size.trans h.size, fun f => (h'.parent f).trans (h.parent f),
    fun f => (h'.isFunction f).trans (h.isFunction f)⟩

theorem bind (s : Scopes) (g : Nat) (d : Declaration) : s.SameFrames (s.bind g d) :=
  ⟨rfl, by simp [Scopes.bind], fun _ => parent?_bind d, fun _ => isFunction_bind d⟩

theorem current_eq (h : s.SameFrames t) : t.current = s.current := by
  rw [current, h.active, current]

theorem frameFor_eq (h : s.SameFrames t) (kind : BindingKind) :
    t.frameFor kind = s.frameFor kind := by
  have hnearest : t.nearestFunction = s.nearestFunction := by
    rw [nearestFunction, nearestFunction, h.active, funext h.isFunction]
  rw [Walk.frameFor_eq, Walk.frameFor_eq, hnearest, h.current_eq]

theorem push (h : s.SameFrames t) (kind : FrameKind) : (s.push kind).SameFrames (t.push kind) where
  active := by simp [Scopes.push, h.size, h.active]
  size := by simp [Scopes.push, h.size]
  parent f := by rw [parent?_push, parent?_push, h.size, h.current_eq, h.parent]
  isFunction f := by rw [isFunction_push, isFunction_push, h.size, h.isFunction]

theorem pop (h : s.SameFrames t) : s.pop.SameFrames t.pop where
  active := by
    rcases hs : s.active with _ | ⟨f, _ | ⟨g, rest⟩⟩ <;> simp [Scopes.pop, h.active, hs]
  size := by simp [h.size]
  parent f := by rw [parent?_pop, parent?_pop, h.parent]
  isFunction f := by rw [isFunction_pop, isFunction_pop, h.isFunction]

theorem chain (h : s.SameFrames t) {f : Nat} {fs : List Nat} (hchain : s.Chain f fs) :
    t.Chain f fs :=
  hchain.congr h.size.ge fun g _ => h.parent g

end SameFrames

end Scopes

/-! ## Walks -/

namespace Walk

open PageLint.Script.Action (deletes without)

variable {cut : List Edit} {w v : Walk}

theorem sameFrames_declare (h : w.Sound) (name : Text) (kind : BindingKind) (start stop : Nat)
    (removal : Option (Nat × Nat)) :
    w.scopes.SameFrames (w.declare name kind start stop removal).scopes := by
  rcases declare_cases h.reachable.isBinding name kind start stop removal with
    ⟨-, heq⟩ | ⟨-, old, heq⟩ <;> rw [heq]
  · exact .bind _ _ _
  · exact .refl _

/-- What a frame binds after a declaration is the new one, or what it bound before. -/
theorem bound?_declare (h : w.Sound) {name : Text} {kind : BindingKind} {start stop : Nat}
    {removal : Option (Nat × Nat)} {f id : Nat} {n : Text}
    (hbound : (w.declare name kind start stop removal).scopes.bound? f n = some id) :
    (f = w.scopes.frameFor kind ∧ n = name ∧
      (w.declare name kind start stop removal).scopes.declarations[id]? =
        some (w.declaration name kind start stop removal)) ∨
    (w.scopes.bound? f n = some id ∧
      ∀ d, w.scopes.declarations[id]? = some d →
        (w.declare name kind start stop removal).scopes.declarations[id]? = some d) := by
  rcases declare_cases h.reachable.isBinding name kind start stop removal with
    ⟨-, heq⟩ | ⟨-, old, heq⟩ <;> rw [heq] at hbound ⊢
  · rw [Scopes.bound?_bind (h.frameFor_lt kind)] at hbound
    split at hbound
    · rename_i hnew
      obtain rfl := Option.some.inj hbound
      exact .inl ⟨hnew.1, hnew.2, by simp [Scopes.bind]⟩
    · refine .inr ⟨hbound, fun d hd => ?_⟩
      have hlt := h.reachable.isBinding.id_lt hbound
      simp only [Scopes.bind, Array.getElem?_push, Nat.ne_of_lt hlt, ↓reduceIte, hd]
  · exact .inr ⟨hbound, fun d hd => hd⟩

/-- `v` has the frames and the uses of `w`, and all of its declarations but those that the edits
delete. -/
structure Thins (cut : List Edit) (w v : Walk) : Prop where
  frames : w.scopes.SameFrames v.scopes
  uses : v.uses = w.uses
  binds : ∀ f n, v.scopes.Binds f n → w.scopes.Binds f n
  bound : ∀ f n id, w.scopes.bound? f n = some id →
    v.scopes.Binds f n ∨ ∃ d, w.scopes.declarations[id]? = some d ∧ deletes cut d.removal = true

namespace Thins

theorem start (cut : List Edit) : Thins cut {} {} :=
  ⟨.refl _, rfl, fun _ _ hbinds => hbinds,
    fun _ _ _ hbound => .inl (by simp [Scopes.Binds, hbound])⟩

/-- A declaration that stays. -/
theorem declare (h : Thins cut w v) (hw : w.Sound) (hv : v.Sound) (name : Text)
    (kind : BindingKind) (start stop : Nat) (removal : Option (Nat × Nat)) :
    Thins cut (w.declare name kind start stop removal)
      (v.declare name kind start stop removal) where
  frames := ((sameFrames_declare hw name kind start stop removal).symm.trans h.frames).trans
    (sameFrames_declare hv name kind start stop removal)
  uses := by rw [uses_declare, uses_declare, h.uses]
  binds := by
    intro f n hbinds
    rw [binds_declare hv, h.frames.frameFor_eq] at hbinds
    rw [binds_declare hw]
    exact hbinds.imp_left (h.binds f n)
  bound := by
    intro f n id hbound
    rw [binds_declare hv, h.frames.frameFor_eq]
    rcases bound?_declare hw hbound with ⟨hf, hn, -⟩ | ⟨hold, hkept⟩
    · exact .inl (.inr ⟨hf, hn⟩)
    · rcases h.bound f n id hold with hbinds | ⟨d, hd, hdeletes⟩
      · exact .inl (.inl hbinds)
      · exact .inr ⟨d, hkept d hd, hdeletes⟩

/-- A declaration that goes. -/
theorem drop (h : Thins cut w v) (hw : w.Sound) (name : Text) (kind : BindingKind)
    (start stop : Nat) {removal : Option (Nat × Nat)} (hdeletes : deletes cut removal = true) :
    Thins cut (w.declare name kind start stop removal) v where
  frames := (sameFrames_declare hw name kind start stop removal).symm.trans h.frames
  uses := by rw [uses_declare, h.uses]
  binds := by
    intro f n hbinds
    rw [binds_declare hw]
    exact .inl (h.binds f n hbinds)
  bound := by
    intro f n id hbound
    rcases bound?_declare hw hbound with ⟨-, -, hnew⟩ | ⟨hold, hkept⟩
    · exact .inr ⟨_, hnew, hdeletes⟩
    · rcases h.bound f n id hold with hbinds | ⟨d, hd, hd'⟩
      · exact .inl hbinds
      · exact .inr ⟨d, hkept d hd, hd'⟩

theorem record (h : Thins cut w v) (name : Text) (role : UseRole) (start stop : Nat) :
    Thins cut (w.record name role start stop) (v.record name role start stop) where
  frames := h.frames
  uses := by rw [Walk.record, Walk.record, h.uses, h.frames.current_eq]
  binds := h.binds
  bound := h.bound

theorem enter (h : Thins cut w v) (kind : FrameKind) : Thins cut (w.enter kind) (v.enter kind) where
  frames := h.frames.push kind
  uses := h.uses
  binds f n := by simpa only [Scopes.Binds, Walk.enter, Scopes.bound?_push] using h.binds f n
  bound f n id hbound := by
    simp only [Scopes.Binds, Walk.enter, Scopes.bound?_push] at hbound ⊢
    exact h.bound f n id hbound

theorem leave (h : Thins cut w v) : Thins cut w.leave v.leave where
  frames := h.frames.pop
  uses := h.uses
  binds f n := by simpa only [Scopes.Binds, Walk.leave, Scopes.bound?_pop] using h.binds f n
  bound f n id := by
    simpa only [Scopes.Binds, Walk.leave, Scopes.bound?_pop, Scopes.declarations_pop]
      using h.bound f n id

theorem exporting (h : Thins cut w v) (b : Bool) : Thins cut (w.exporting b) (v.exporting b) :=
  ⟨h.frames, h.uses, h.binds, h.bound⟩

theorem halt (h : Thins cut w v) (start stop : Nat) :
    Thins cut (w.halt start stop) (v.halt start stop) :=
  ⟨h.frames, h.uses, h.binds, h.bound⟩

theorem run (h : Thins cut w v) (hw : w.Sound) (hv : v.Sound) (as : List Action) :
    Thins cut (w.run as) (v.run (without cut as)) := by
  -- by the actions of the whole program; only a declaration can be without a counterpart
  induction as using Action.list_induction generalizing w v with
  | nil =>
      rw [without]
      exact h
  | declare name kind start stop removal rest ih =>
      have hnext := hw.declare name kind start stop removal
      rw [without]
      split
      · rename_i hdeletes
        exact ih (h.drop hw name kind start stop hdeletes) hnext hv
      · exact ih (h.declare hw hv name kind start stop removal) hnext
          (hv.declare name kind start stop removal)
  | use name role start stop rest ih =>
      rw [without]
      exact ih (h.record name role start stop) (hw.record name role start stop)
        (hv.record name role start stop)
  | scope kind body rest ihBody ihRest =>
      have hbody := ihBody (h.enter kind) (hw.enter kind) (hv.enter kind)
      rw [without]
      exact ihRest hbody.leave ((hw.enter kind).run body).leave
        ((hv.enter kind).run (without cut body)).leave
  | exported body rest ihBody ihRest =>
      have hbody := ihBody (h.exporting true) (hw.exporting true) (hv.exporting true)
      rw [without]
      exact ihRest (hbody.exporting false) (((hw.exporting true).run body).exporting false)
        (((hv.exporting true).run (without cut body)).exporting false)
  | debugger start stop rest ih =>
      rw [without]
      exact ih (h.halt start stop) (hw.halt start stop) (hv.halt start stop)

/-! ## Uses -/

/-- What has no meaning gets none. -/
theorem target?_eq_none (h : Thins cut w v) (hw : w.Sound) (hv : v.Sound) {u : Use}
    (hu : u.frame < w.scopes.frames.size) (hnone : u.target? w.scopes = none) :
    u.target? v.scopes = none := by
  rw [Use.target?_eq_none_iff hw.reachable.isTree hu] at hnone
  rw [Use.target?_eq_none_iff hv.reachable.isTree (h.frames.size ▸ hu)]
  intro fs hchain f hf
  have hunbound := hnone fs (h.frames.symm.chain hchain) f hf
  by_contra hbinds
  exact h.binds f u.name hbinds hunbound

/-- What loses its meaning is meant by a declaration that is gone. -/
theorem exists_deletes (h : Thins cut w v) (hw : w.Sound) (hv : v.Sound) {u : Use}
    (hu : u.frame < w.scopes.frames.size) {id : Nat} (hsome : u.target? w.scopes = some id)
    (hnone : u.target? v.scopes = none) :
    ∃ d, w.scopes.declarations[id]? = some d ∧ deletes cut d.removal = true := by
  obtain ⟨f, ⟨inner, outer, hchain, -⟩, hbound⟩ :=
    (Scopes.lookup_eq_some_iff hw.reachable.isTree hu).mp hsome
  have hunbound := (Use.target?_eq_none_iff hv.reachable.isTree (h.frames.size ▸ hu)).mp hnone _
    (h.frames.chain hchain) f (by simp)
  exact (h.bound f u.name id hbound).resolve_left fun hbinds => hbinds hunbound

end Thins

/-- The walk over what remains of a program. -/
theorem thins_start (cut : List Edit) (as : List Action) :
    Thins cut (Walk.run {} as) (Walk.run {} (without cut as)) :=
  (Thins.start cut).run .start .start as

end Walk

end PageLint.Script
