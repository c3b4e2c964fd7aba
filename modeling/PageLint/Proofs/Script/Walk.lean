import PageLint.Script.Resolution
import PageLint.Proofs.Script.Bindings

/-! # Walks

A walk leaves the frames open that were open before it, declares names in frames that are there, and
reports nothing but second declarations and debugger statements. -/

namespace PageLint.Script

/-- Actions, one after the other and each with what happens inside of it. -/
@[elab_as_elim]
theorem Action.list_induction {motive : List Action → Prop} (nil : motive [])
    (declare : ∀ name kind start stop removal rest, motive rest →
      motive (.declare name kind start stop removal :: rest))
    (use : ∀ name role start stop rest, motive rest → motive (.use name role start stop :: rest))
    (scope : ∀ kind body rest, motive body → motive rest → motive (.scope kind body :: rest))
    (exported : ∀ body rest, motive body → motive rest → motive (.exported body :: rest))
    (debugger : ∀ start stop rest, motive rest → motive (.debugger start stop :: rest)) :
    ∀ as, motive as
  | [] => nil
  | .declare name kind start stop removal :: rest =>
      declare name kind start stop removal rest
        (list_induction nil declare use scope exported debugger rest)
  | .use name role start stop :: rest =>
      use name role start stop rest (list_induction nil declare use scope exported debugger rest)
  | .scope kind body :: rest =>
      scope kind body rest (list_induction nil declare use scope exported debugger body)
        (list_induction nil declare use scope exported debugger rest)
  | .exported body :: rest =>
      exported body rest (list_induction nil declare use scope exported debugger body)
        (list_induction nil declare use scope exported debugger rest)
  | .debugger start stop :: rest =>
      debugger start stop rest (list_induction nil declare use scope exported debugger rest)

namespace Walk

variable {w : Walk} {as : List Action}

/-! ## One action -/

/-- What the walk declares. -/
def declaration (w : Walk) (name : Text) (kind : BindingKind) (start stop : Nat)
    (removal : Option (Nat × Nat)) : Declaration where
  name
  kind
  start
  stop
  removal
  isExported := w.isExporting && w.scopes.frameFor kind == 0

theorem declare_fresh {name : Text} {kind : BindingKind}
    (h : w.scopes.bound? (w.scopes.frameFor kind) name = none) (start stop : Nat)
    (removal : Option (Nat × Nat)) :
    w.declare name kind start stop removal =
      { w with
        scopes := w.scopes.bind (w.scopes.frameFor kind)
          (w.declaration name kind start stop removal) } := by
  have hok := Scopes.declare_eq_ok_iff (d := w.declaration name kind start stop removal).mpr
    ⟨h, rfl, rfl⟩
  unfold declare
  rw [declaration] at hok
  simp only [hok]
  rfl

theorem declare_bound {name : Text} {kind : BindingKind} {id : Nat} {old : Declaration}
    (h : w.scopes.bound? (w.scopes.frameFor kind) name = some id)
    (hold : w.scopes.declarations[id]? = some old) (start stop : Nat)
    (removal : Option (Nat × Nat)) :
    w.declare name kind start stop removal =
      { w with found := w.found.push ((redeclaration old.kind kind name).report start stop) } := by
  have herror := Scopes.declare_eq_error_iff (d := w.declaration name kind start stop removal).mpr h
  unfold declare
  rw [declaration] at herror
  simp only [herror, hold]

/-- A declaration is stored in its frame, or reported because the frame has the name already. -/
theorem declare_cases (h : w.scopes.IsBinding) (name : Text) (kind : BindingKind)
    (start stop : Nat) (removal : Option (Nat × Nat)) :
    (w.scopes.bound? (w.scopes.frameFor kind) name = none ∧
      w.declare name kind start stop removal =
        { w with
          scopes := w.scopes.bind (w.scopes.frameFor kind)
            (w.declaration name kind start stop removal) }) ∨
    (w.scopes.bound? (w.scopes.frameFor kind) name ≠ none ∧ ∃ old : BindingKind,
      w.declare name kind start stop removal =
        { w with found := w.found.push ((redeclaration old kind name).report start stop) }) := by
  cases hbound : w.scopes.bound? (w.scopes.frameFor kind) name with
  | none => exact .inl ⟨rfl, declare_fresh hbound start stop removal⟩
  | some id =>
      obtain ⟨old, hold, -⟩ := h.declared _ _ _ hbound
      exact .inr ⟨by simp, old.kind, declare_bound hbound hold start stop removal⟩

def record (w : Walk) (name : Text) (role : UseRole) (start stop : Nat) : Walk :=
  { w with uses := w.uses.push ⟨name, w.scopes.current, role, start, stop⟩ }

def enter (w : Walk) (kind : FrameKind) : Walk := { w with scopes := w.scopes.push kind }

def leave (w : Walk) : Walk := { w with scopes := w.scopes.pop }

def exporting (w : Walk) (b : Bool) : Walk := { w with isExporting := b }

def halt (w : Walk) (start stop : Nat) : Walk :=
  { w with
    found := w.found.push (Issue.debuggerStatement.report start stop [.delete start stop]) }

@[simp] theorem run_nil : w.run [] = w := rfl

@[simp] theorem run_declare (name : Text) (kind : BindingKind) (start stop : Nat)
    (removal : Option (Nat × Nat)) :
    w.run (.declare name kind start stop removal :: as) =
      (w.declare name kind start stop removal).run as := rfl

@[simp] theorem run_use (name : Text) (role : UseRole) (start stop : Nat) :
    w.run (.use name role start stop :: as) = (w.record name role start stop).run as := rfl

@[simp] theorem run_scope (kind : FrameKind) (body : List Action) :
    w.run (.scope kind body :: as) = ((w.enter kind).run body).leave.run as := rfl

@[simp] theorem run_exported (body : List Action) :
    w.run (.exported body :: as) =
      (((w.exporting true).run body).exporting false).run as := rfl

@[simp] theorem run_debugger (start stop : Nat) :
    w.run (.debugger start stop :: as) = (w.halt start stop).run as := rfl

/-! ## All actions -/

/-- What every walk keeps: uses stand in frames that are there, nothing is read yet, and what is
found are second declarations and debugger statements. -/
structure Sound (w : Walk) : Prop where
  reachable : w.scopes.Reachable
  used : ∀ u ∈ w.uses, u.frame < w.scopes.frames.size
  unread : ∀ d ∈ w.scopes.declarations, d.reads = 0
  found : ∀ d ∈ w.found, d.rule = some "no-redeclare" ∨ d.rule = some "no-debugger"

namespace Sound

theorem start : Sound {} where
  reachable := .new
  used := by simp
  unread := by simp
  found := by simp

theorem frameFor_lt (h : w.Sound) (kind : BindingKind) :
    w.scopes.frameFor kind < w.scopes.frames.size := by
  cases kind
  case var => exact h.reachable.isTree.nearestFunction_lt
  all_goals exact h.reachable.isTree.current_lt

theorem rule_redeclaration (old kind : BindingKind) (name : Text) :
    (redeclaration old kind name).rule = "no-redeclare" := by
  unfold redeclaration
  split <;> rfl

theorem declare (h : w.Sound) (name : Text) (kind : BindingKind) (start stop : Nat)
    (removal : Option (Nat × Nat)) : (w.declare name kind start stop removal).Sound := by
  rcases declare_cases h.reachable.isBinding name kind start stop removal with
    ⟨hfresh, heq⟩ | ⟨-, old, heq⟩
  · rw [heq]
    refine ⟨?_, ?_, ?_, h.found⟩
    · exact h.reachable.bind (h.frameFor_lt kind) hfresh
    · simpa [Scopes.bind] using h.used
    · intro d hd
      rcases Array.mem_push.mp hd with hd | rfl
      · exact h.unread d hd
      · rfl
  · rw [heq]
    refine ⟨h.reachable, h.used, h.unread, ?_⟩
    intro d hd
    rcases Array.mem_push.mp hd with hd | rfl
    · exact h.found d hd
    · exact .inl (congrArg some (rule_redeclaration old kind name))

theorem record (h : w.Sound) (name : Text) (role : UseRole) (start stop : Nat) :
    (w.record name role start stop).Sound where
  reachable := h.reachable
  used := by
    intro u hu
    rcases Array.mem_push.mp hu with hu | rfl
    · exact h.used u hu
    · exact h.reachable.isTree.current_lt
  unread := h.unread
  found := h.found

theorem enter (h : w.Sound) (kind : FrameKind) : (w.enter kind).Sound where
  reachable := h.reachable.push kind
  used := by
    intro u hu
    have hlt := h.used u hu
    have hsize : (w.enter kind).scopes.frames.size = w.scopes.frames.size + 1 := by
      simp [Walk.enter, Scopes.push]
    omega
  unread := h.unread
  found := h.found

theorem leave (h : w.Sound) : w.leave.Sound where
  reachable := h.reachable.pop
  used := by simpa [Walk.leave] using h.used
  unread := by simpa [Walk.leave] using h.unread
  found := h.found

theorem exporting (h : w.Sound) (b : Bool) : (w.exporting b).Sound :=
  ⟨h.reachable, h.used, h.unread, h.found⟩

theorem halt (h : w.Sound) (start stop : Nat) : (w.halt start stop).Sound where
  reachable := h.reachable
  used := h.used
  unread := h.unread
  found := by
    intro d hd
    rcases Array.mem_push.mp hd with hd | rfl
    · exact h.found d hd
    · exact .inr rfl

theorem run (h : w.Sound) (as : List Action) : (w.run as).Sound := by
  induction as using Action.list_induction generalizing w with
  | nil => exact h
  | declare name kind start stop removal rest ih =>
      exact ih (h.declare name kind start stop removal)
  | use name role start stop rest ih => exact ih (h.record name role start stop)
  | scope kind body rest ihBody ihRest => exact ihRest (ihBody (h.enter kind)).leave
  | exported body rest ihBody ihRest => exact ihRest ((ihBody (h.exporting true)).exporting false)
  | debugger start stop rest ih => exact ih (h.halt start stop)

end Sound

/-! ## Open frames -/

theorem active_declare (w : Walk) (name : Text) (kind : BindingKind) (start stop : Nat)
    (removal : Option (Nat × Nat)) :
    (w.declare name kind start stop removal).scopes.active = w.scopes.active := by
  simp only [declare]
  split
  · rename_i hdeclare
    obtain ⟨-, -, rfl⟩ := Scopes.declare_eq_ok_iff.mp hdeclare
    rfl
  · split <;> rfl

/-- To leave a frame is to be in the frames that were open around it. -/
theorem active_leave {f : Nat} {outer : List Nat} (h : w.scopes.active = f :: outer)
    (hne : outer ≠ []) : w.leave.scopes.active = outer := by
  obtain ⟨g, rest, rfl⟩ := List.exists_cons_of_ne_nil hne
  simp [leave, Scopes.pop, h]

/-- Whatever happens inside of an open frame, the same frames are open behind it. -/
theorem active_run (h : w.scopes.active ≠ []) (as : List Action) :
    (w.run as).scopes.active = w.scopes.active := by
  induction as using Action.list_induction generalizing w with
  | nil => rfl
  | declare name kind start stop removal rest ih =>
      have hactive := active_declare w name kind start stop removal
      rw [run_declare, ih (by rwa [hactive]), hactive]
  | use name role start stop rest ih => exact ih h
  | scope kind body rest ihBody ihRest =>
      have hbody : ((w.enter kind).run body).scopes.active =
          w.scopes.frames.size :: w.scopes.active := ihBody (by simp [enter, Scopes.push])
      have hleave := active_leave hbody h
      rw [run_scope, ihRest (by rwa [hleave]), hleave]
  | exported body rest ihBody ihRest =>
      have hbody : (((w.exporting true).run body).exporting false).scopes.active =
          w.scopes.active := ihBody h
      rw [run_exported, ihRest (by rwa [hbody]), hbody]
  | debugger start stop rest ih => exact ih h

end Walk

end PageLint.Script
