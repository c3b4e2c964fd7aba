import PageLint.Proofs.Script.Nesting
import Mathlib.Data.List.Dedup

/-! # Second declarations

A frame has each of its names once, and every further declaration of such a name is reported. So
there are as many reports as there are declarations beyond the names of all scopes. -/

namespace PageLint.Script

/-! ## Names of a frame -/

namespace Scopes

variable {s : Scopes} {f g : Nat} {n : Text}

/-- The names of a frame, the last one first. -/
def names (s : Scopes) (f : Nat) : List Text := (s.frames[f]?.elim [] (·.names)).map Prod.fst

theorem lookup_ne_none_iff {α β : Type} [BEq α] [LawfulBEq α] (a : α) (l : List (α × β)) :
    l.lookup a ≠ none ↔ a ∈ l.map Prod.fst := by
  rw [Ne, List.lookup_eq_none_iff]
  simp

theorem binds_iff_mem_names : s.Binds f n ↔ n ∈ s.names f := by
  unfold Binds bound? names
  cases s.frames[f]? with
  | none => simp
  | some frame => exact lookup_ne_none_iff n frame.names

theorem names_of_size_le (h : s.frames.size ≤ f) : s.names f = [] := by
  rw [names, Array.getElem?_eq_none h]
  rfl

theorem names_push (kind : FrameKind) : (s.push kind).names f = s.names f := by
  unfold names push
  rw [Array.getElem?_push]
  split
  · rename_i hf
    rw [hf, Array.getElem?_eq_none (Nat.le_refl _)]
    rfl
  · rfl

theorem names_pop : s.pop.names f = s.names f := by
  rw [names, frames_pop, names]

theorem names_bind (hg : g < s.frames.size) (d : Declaration) :
    (s.bind g d).names f = if f = g then d.name :: s.names f else s.names f := by
  unfold names bind
  rw [Array.getElem?_modify]
  by_cases hf : f = g
  · subst hf
    simp [hg]
  · simp [hf, Ne.symm hf]

/-- No frame has a name twice. -/
theorem Reachable.names_nodup (h : s.Reachable) : ∀ f, (s.names f).Nodup := by
  induction h using Reachable.induct with
  | new => intro f; cases f <;> simp [names]
  | push s h kind ih => simpa only [names_push] using ih
  | pop s h ih => simpa only [names_pop] using ih
  | read s h id ih => exact ih
  | bind s h g d hg hfresh ih =>
      intro f
      rw [names_bind hg]
      split
      · rename_i hf
        have hnew : d.name ∉ s.names g := fun hmem => binds_iff_mem_names.mpr hmem hfresh
        exact hf ▸ List.nodup_cons.mpr ⟨hnew, ih g⟩
      · exact ih f

theorem Reachable.length_names (h : s.Reachable) {l : List Text}
    (hl : ∀ n, s.Binds f n ↔ n ∈ l) : (s.names f).length = l.dedup.length := by
  refine List.Perm.length_eq ((List.perm_ext_iff_of_nodup (h.names_nodup f) l.nodup_dedup).mpr ?_)
  intro n
  rw [← binds_iff_mem_names, hl, List.mem_dedup]

/-- How many names the open frames have. -/
def openNames (s : Scopes) : Nat := (s.active.map fun f => (s.names f).length).sum

theorem sum_names_bind (hg : g < s.frames.size) (d : Declaration) (fs : List Nat) :
    (fs.map fun f => ((s.bind g d).names f).length).sum =
      (fs.map fun f => (s.names f).length).sum + fs.count g := by
  induction fs with
  | nil => rfl
  | cons f fs ih =>
      rw [List.map_cons, List.sum_cons, ih, names_bind hg, List.map_cons, List.sum_cons,
        List.count_cons]
      by_cases hf : f = g
      · simp only [hf, ↓reduceIte, List.length_cons, beq_self_eq_true]
        omega
      · simp only [hf, ↓reduceIte, beq_eq_false_iff_ne.mpr hf, Bool.false_eq_true]
        omega

theorem openNames_bind (h : s.IsTree) (hg : g ∈ s.active) (d : Declaration) :
    (s.bind g d).openNames = s.openNames + 1 := by
  have hlt := h.open_chain.lt_size g hg
  have hcount := List.count_eq_one_of_mem (h.chain_nodup h.open_chain) hg
  have hsum := sum_names_bind hlt d s.active
  rwa [hcount] at hsum

theorem openNames_push (kind : FrameKind) : (s.push kind).openNames = s.openNames := by
  have hactive : (s.push kind).active = s.frames.size :: s.active := rfl
  simp only [openNames, hactive, names_push, List.map_cons, List.sum_cons,
    names_of_size_le (Nat.le_refl _), List.length_nil, Nat.zero_add]

end Scopes

/-! ## Reports -/

/-- A name is declared a second time. -/
def isRedeclareReport (d : Diagnostic) : Bool := d.rule == some "no-redeclare"

namespace Walk

open PageLint.Script.Action

variable {w : Walk}

def redeclared (w : Walk) : Nat := w.found.toList.countP isRedeclareReport

/-- A declaration gives a name to an open frame, or it is reported. -/
theorem redeclared_declare (h : w.Sound) (name : Text) (kind : BindingKind) (start stop : Nat)
    (removal : Option (Nat × Nat)) :
    (w.declare name kind start stop removal).redeclared +
        (w.declare name kind start stop removal).scopes.openNames =
      w.redeclared + w.scopes.openNames + 1 := by
  rcases declare_cases h.reachable.isBinding name kind start stop removal with
    ⟨-, heq⟩ | ⟨-, old, heq⟩ <;> rw [heq]
  · have hopen := Scopes.openNames_bind h.reachable.isTree (h.frameFor_mem kind)
      (w.declaration name kind start stop removal)
    simp only [redeclared, hopen]
    omega
  · have hreport : isRedeclareReport ((redeclaration old kind name).report start stop) = true := by
      exact beq_iff_eq.mpr (congrArg some (Sound.rule_redeclaration old kind name))
    simp only [redeclared, Array.toList_push, List.countP_append, List.countP_singleton, hreport,
      ↓reduceIte]
    omega

theorem openNames_leave (h : w.Sound) (kind : FrameKind) (body : List Action) :
    ((w.enter kind).run body).scopes.openNames =
      (namesOf kind body).dedup.length + ((w.enter kind).run body).leave.scopes.openNames := by
  obtain ⟨outer, houter⟩ := h.reachable.isTree.active_eq
  have hactive : ((w.enter kind).run body).scopes.active =
      w.scopes.frames.size :: w.scopes.active := active_run (by simp [enter, Scopes.push]) body
  have hleave := active_leave hactive (by simp [houter])
  have hnames := ((h.enter kind).run body).reachable.length_names (binds_scope h kind body)
  have hkept : ∀ f, ((w.enter kind).run body).leave.scopes.names f =
      ((w.enter kind).run body).scopes.names f := fun f => Scopes.names_pop
  simp only [Scopes.openNames, hleave, hactive, List.map_cons, List.sum_cons, hnames, hkept]

/-- Every declaration gives a name to a frame that was open before, or to one that has been left, or
it is reported. -/
theorem redeclared_run (h : w.Sound) (as : List Action) :
    (w.run as).redeclared + (w.run as).scopes.openNames + scopedNames as =
      w.redeclared + w.scopes.openNames + declarations as := by
  induction as using Action.list_induction generalizing w with
  | nil => rw [run_nil, scopedNames, declarations]
  | declare name kind start stop removal rest ih =>
      have hstep := redeclared_declare h name kind start stop removal
      have hrest := ih (h.declare name kind start stop removal)
      rw [run_declare, scopedNames, declarations]
      omega
  | use name role start stop rest ih =>
      rw [scopedNames, declarations]
      exact ih (h.record name role start stop)
  | scope kind body rest ihBody ihRest =>
      have hbody := ihBody (h.enter kind)
      have henter : (w.enter kind).scopes.openNames = w.scopes.openNames :=
        Scopes.openNames_push kind
      have hfound : (w.enter kind).redeclared = w.redeclared := rfl
      have hleave := openNames_leave h kind body
      have hkept : ((w.enter kind).run body).leave.redeclared =
          ((w.enter kind).run body).redeclared := rfl
      have hrest := ihRest ((h.enter kind).run body).leave
      rw [run_scope, scopedNames, declarations]
      omega
  | exported body rest ihBody ihRest =>
      have hbody := ihBody (h.exporting true)
      have hrest := ihRest (((h.exporting true).run body).exporting false)
      rw [run_exported, scopedNames, declarations]
      simp only [exporting, redeclared] at hbody hrest ⊢
      omega
  | debugger start stop rest ih =>
      have hhalt : (w.halt start stop).redeclared = w.redeclared := by
        simp only [redeclared, halt, Array.toList_push, List.countP_append]
        rfl
      have hrest := ih (h.halt start stop)
      have hopen : (w.halt start stop).scopes.openNames = w.scopes.openNames := rfl
      rw [run_debugger, scopedNames, declarations]
      omega

/-- In a whole program there are as many reports as declarations beyond the names of its scopes. -/
theorem redeclared_start (as : List Action) :
    (run {} as).redeclared + (namesOf .program as).dedup.length + scopedNames as =
      declarations as := by
  have hactive : (run {} as).scopes.active = [0] := active_run (by simp) as
  have hnames := (Sound.start.run as).reachable.length_names (binds_start as)
  have hrun := redeclared_run Sound.start as
  have hopen : (run {} as).scopes.openNames = (namesOf .program as).dedup.length := by
    simp [Scopes.openNames, hactive, hnames]
  have hnew : ({} : Walk).redeclared + ({} : Walk).scopes.openNames = 0 := rfl
  omega

end Walk

end PageLint.Script
