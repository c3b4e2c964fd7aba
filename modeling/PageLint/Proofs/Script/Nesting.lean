import PageLint.Proofs.Script.Resolution
import Mathlib.Algebra.Order.Group.Nat
import Mathlib.Algebra.Order.Ring.Nat

/-! # Names by the nesting of scopes

What a program's names mean can be said without frames and their numbers: a scope gives meaning to
the names that are declared in it, and to those that a `var` inside of its blocks declares. A walk
over the program finds the same uses without a meaning, and as many second declarations. -/

namespace PageLint.Script

/-! ## Names of a scope -/

namespace Action

/-- The names, one for each declaration, that actions declare where they stand. -/
def locals : List Action → List Text
  | [] => []
  | .declare name kind _ _ _ :: rest => if kind = .var then locals rest else name :: locals rest
  | .exported body :: rest => locals body ++ locals rest
  | .scope .. :: rest | .use .. :: rest | .debugger .. :: rest => locals rest

/-- The names that actions declare for the function around them; blocks do not keep them. -/
def hoisted : List Action → List Text
  | [] => []
  | .declare name kind _ _ _ :: rest => if kind = .var then name :: hoisted rest else hoisted rest
  | .scope kind body :: rest => (if kind = .block then hoisted body else []) ++ hoisted rest
  | .exported body :: rest => hoisted body ++ hoisted rest
  | .use .. :: rest | .debugger .. :: rest => hoisted rest

/-- The names of a scope of some kind. -/
def namesOf (kind : FrameKind) (body : List Action) : List Text :=
  locals body ++ if kind = .block then [] else hoisted body

/-- What is wrong with a use where the names in `env` have a meaning. -/
def useIssues (env : List Text) (name : Text) (role : UseRole) : List Issue :=
  if name ∈ env ∨ isAmbient name then []
  else match role with
    | .probe => []
    | .call => [.undefinedFunction name]
    | .read | .write => [.undefinedVariable name]

/-- What is wrong with the uses in actions where the names in `env` have a meaning. -/
def undefinedNames (env : List Text) : List Action → List Issue
  | [] => []
  | .use name role _ _ :: rest => useIssues env name role ++ undefinedNames env rest
  | .scope kind body :: rest =>
    undefinedNames (namesOf kind body ++ env) body ++ undefinedNames env rest
  | .exported body :: rest => undefinedNames env body ++ undefinedNames env rest
  | .declare .. :: rest | .debugger .. :: rest => undefinedNames env rest

/-- How many declarations there are. -/
def declarations : List Action → Nat
  | [] => 0
  | .declare .. :: rest => declarations rest + 1
  | .scope _ body :: rest | .exported body :: rest => declarations body + declarations rest
  | .use .. :: rest | .debugger .. :: rest => declarations rest

/-- How many names the scopes in actions have, each scope counted apart. -/
def scopedNames : List Action → Nat
  | [] => 0
  | .scope kind body :: rest =>
    (namesOf kind body).dedup.length + scopedNames body + scopedNames rest
  | .exported body :: rest => scopedNames body + scopedNames rest
  | .declare .. :: rest | .use .. :: rest | .debugger .. :: rest => scopedNames rest

end Action

/-! ## Frames that are left -/

/-- A frame has a name. -/
def Scopes.Binds (s : Scopes) (f : Nat) (n : Text) : Prop := s.bound? f n ≠ none

/-- `t` comes after `s`: frames keep their parents, and those that `s` has left do not change. -/
structure Scopes.Grows (s t : Scopes) : Prop where
  size_le : s.frames.size ≤ t.frames.size
  parent : ∀ f < s.frames.size, t.parent? f = s.parent? f
  kind : ∀ f < s.frames.size, t.isFunction f = s.isFunction f
  closed : ∀ f < s.frames.size, f ∉ s.active → t.frames[f]? = s.frames[f]?
  open_mem : ∀ f < s.frames.size, f ∈ t.active → f ∈ s.active

namespace Scopes.Grows

variable {s t r : Scopes}

theorem refl (s : Scopes) : s.Grows s :=
  ⟨Nat.le_refl _, fun _ _ => rfl, fun _ _ => rfl, fun _ _ _ => rfl, fun _ _ h => h⟩

theorem trans (h : s.Grows t) (h' : t.Grows r) : s.Grows r where
  size_le := Nat.le_trans h.size_le h'.size_le
  parent f hf := (h'.parent f (Nat.lt_of_lt_of_le hf h.size_le)).trans (h.parent f hf)
  kind f hf := (h'.kind f (Nat.lt_of_lt_of_le hf h.size_le)).trans (h.kind f hf)
  closed f hf hleft := by
    have hlt := Nat.lt_of_lt_of_le hf h.size_le
    rw [h'.closed f hlt fun hmem => hleft (h.open_mem f hf hmem), h.closed f hf hleft]
  open_mem f hf hmem :=
    h.open_mem f hf (h'.open_mem f (Nat.lt_of_lt_of_le hf h.size_le) hmem)

theorem push (s : Scopes) (kind : FrameKind) : s.Grows (s.push kind) where
  size_le := by simp [Scopes.push]
  parent f hf := by rw [parent?_push, ite_cond_eq_false _ _ (eq_false (Nat.ne_of_lt hf))]
  kind f hf := by rw [isFunction_push, ite_cond_eq_false _ _ (eq_false (Nat.ne_of_lt hf))]
  closed f hf _ := by
    rw [Scopes.push, Array.getElem?_push, ite_cond_eq_false _ _ (eq_false (Nat.ne_of_lt hf))]
  open_mem f hf hmem := by
    rcases List.mem_cons.mp hmem with rfl | hmem
    · exact absurd hf (Nat.lt_irrefl _)
    · exact hmem

theorem pop (s : Scopes) : s.Grows s.pop where
  size_le := by simp
  parent f _ := parent?_pop
  kind f _ := isFunction_pop
  closed f _ _ := by rw [frames_pop]
  open_mem f _ hmem := by
    unfold Scopes.pop at hmem
    split at hmem
    · rename_i hactive
      rw [hactive]
      exact List.mem_cons_of_mem _ hmem
    · exact hmem

theorem bind {g : Nat} (hopen : g ∈ s.active) (d : Declaration) : s.Grows (s.bind g d) where
  size_le := by simp [Scopes.bind]
  parent f _ := parent?_bind d
  kind f _ := isFunction_bind d
  closed f _ hleft := by
    have hne : g ≠ f := fun he => hleft (he ▸ hopen)
    rw [Scopes.bind, Array.getElem?_modify, ite_cond_eq_false _ _ (eq_false hne)]
  open_mem f _ hmem := hmem

end Scopes.Grows

namespace Walk

variable {w : Walk}

theorem Sound.frameFor_mem (h : w.Sound) (kind : BindingKind) :
    w.scopes.frameFor kind ∈ w.scopes.active := by
  have hcurrent : w.scopes.current ∈ w.scopes.active :=
    List.mem_of_mem_head? h.reachable.isTree.open_chain.head?_eq
  cases kind
  case var => exact h.reachable.isTree.nearestFunction_mem
  all_goals exact hcurrent

theorem grows_declare (h : w.Sound) (name : Text) (kind : BindingKind) (start stop : Nat)
    (removal : Option (Nat × Nat)) :
    w.scopes.Grows (w.declare name kind start stop removal).scopes := by
  rcases declare_cases h.reachable.isBinding name kind start stop removal with
    ⟨-, heq⟩ | ⟨-, old, heq⟩ <;> rw [heq]
  · exact .bind (h.frameFor_mem kind) _
  · exact .refl _

theorem grows_run (h : w.Sound) (as : List Action) : w.scopes.Grows (w.run as).scopes := by
  induction as using Action.list_induction generalizing w with
  | nil => exact .refl _
  | declare name kind start stop removal rest ih =>
      exact (grows_declare h name kind start stop removal).trans
        (ih (h.declare name kind start stop removal))
  | use name role start stop rest ih => exact ih (h.record name role start stop)
  | scope kind body rest ihBody ihRest =>
      have henter : w.scopes.Grows (w.enter kind).scopes := .push _ kind
      have hbody := ihBody (h.enter kind)
      have hleave : ((w.enter kind).run body).scopes.Grows ((w.enter kind).run body).leave.scopes :=
        .pop _
      exact ((henter.trans hbody).trans hleave).trans (ihRest ((h.enter kind).run body).leave)
  | exported body rest ihBody ihRest =>
      exact (ihBody (h.exporting true)).trans
        (ihRest (((h.exporting true).run body).exporting false))
  | debugger start stop rest ih => exact ih (h.halt start stop)

/-! ## The names of a frame -/

/-- The same frames are open after a walk, and so declarations go where they went before. -/
theorem current_run (h : w.Sound) (as : List Action) :
    (w.run as).scopes.current = w.scopes.current := by
  obtain ⟨outer, houter⟩ := h.reachable.isTree.active_eq
  rw [Scopes.current, active_run (by simp [houter]), Scopes.current]

theorem find?_isFunction {s t : Scopes} (h : s.Grows t) (hs : s.IsTree) :
    s.active.find? t.isFunction = s.active.find? s.isFunction := by
  have hkind : ∀ f ∈ s.active, t.isFunction f = s.isFunction f :=
    fun f hf => h.kind f (hs.open_chain.lt_size f hf)
  rw [← List.head?_filter, ← List.head?_filter, List.filter_congr hkind]

theorem nearestFunction_run (h : w.Sound) (as : List Action) :
    (w.run as).scopes.nearestFunction = w.scopes.nearestFunction := by
  obtain ⟨outer, houter⟩ := h.reachable.isTree.active_eq
  rw [Scopes.nearestFunction, active_run (by simp [houter]),
    find?_isFunction (grows_run h as) h.reachable.isTree, Scopes.nearestFunction]

theorem nearestFunction_enter (h : w.Sound) (kind : FrameKind) :
    (w.enter kind).scopes.nearestFunction =
      if kind = .block then w.scopes.nearestFunction else w.scopes.frames.size := by
  have hnew : (w.enter kind).scopes.isFunction w.scopes.frames.size = (kind != .block) := by
    simp [enter, Scopes.isFunction_push]
  have hactive : (w.enter kind).scopes.active = w.scopes.frames.size :: w.scopes.active := rfl
  have hold : w.scopes.active.find? (w.enter kind).scopes.isFunction =
      w.scopes.active.find? w.scopes.isFunction :=
    find?_isFunction (.push _ kind) h.reachable.isTree
  rw [Scopes.nearestFunction, hactive, List.find?_cons, hnew, hold]
  cases kind <;> rfl

theorem frameFor_eq (s : Scopes) (kind : BindingKind) :
    s.frameFor kind = if kind = .var then s.nearestFunction else s.current := by
  cases kind <;> rfl

theorem binds_declare (h : w.Sound) (name : Text) (kind : BindingKind) (start stop : Nat)
    (removal : Option (Nat × Nat)) (f : Nat) (n : Text) :
    (w.declare name kind start stop removal).scopes.Binds f n ↔
      w.scopes.Binds f n ∨ (f = w.scopes.frameFor kind ∧ n = name) := by
  rcases declare_cases h.reachable.isBinding name kind start stop removal with
    ⟨hfresh, heq⟩ | ⟨hbound, old, heq⟩ <;> rw [heq]
  · rw [Scopes.Binds, Scopes.bound?_bind (h.frameFor_lt kind)]
    split
    · rename_i hnew
      exact iff_of_true (by simp) (.inr hnew)
    · rename_i hold
      exact ⟨.inl, fun hor => hor.resolve_right hold⟩
  · refine ⟨.inl, ?_⟩
    rintro (hbinds | ⟨rfl, rfl⟩)
    · exact hbinds
    · exact hbound

open PageLint.Script.Action

/-- What actions declare where they stand goes to the current frame, and what they declare for the
function around them to the frame of that function. -/
theorem binds_run (h : w.Sound) (as : List Action) {f : Nat} (hf : f < w.scopes.frames.size)
    (n : Text) :
    (w.run as).scopes.Binds f n ↔
      w.scopes.Binds f n ∨ (f = w.scopes.current ∧ n ∈ locals as) ∨
        (f = w.scopes.nearestFunction ∧ n ∈ hoisted as) := by
  induction as using Action.list_induction generalizing w with
  | nil => simp [locals, hoisted]
  | declare name kind start stop removal rest ih =>
      have hnext := h.declare name kind start stop removal
      have hgrows := grows_declare h name kind start stop removal
      have hcurrent := current_run h [.declare name kind start stop removal]
      have hnearest := nearestFunction_run h [.declare name kind start stop removal]
      simp only [run_declare, run_nil] at hcurrent hnearest
      rw [run_declare, ih hnext (Nat.lt_of_lt_of_le hf hgrows.size_le), binds_declare h, hcurrent,
        hnearest, frameFor_eq]
      by_cases hkind : kind = .var
      · simp only [hkind, ↓reduceIte, locals, hoisted, List.mem_cons, and_or_left, or_comm,
          or_left_comm]
      · simp only [hkind, ↓reduceIte, locals, hoisted, List.mem_cons, and_or_left, or_assoc,
          or_left_comm]
  | use name role start stop rest ih =>
      simp only [locals, hoisted]
      exact ih (h.record name role start stop) hf
  | scope kind body rest ihBody ihRest =>
      have hbody := (h.enter kind).run body
      have hgrows := grows_run h [.scope kind body]
      have hcurrent := current_run h [.scope kind body]
      have hnearest := nearestFunction_run h [.scope kind body]
      simp only [run_scope, run_nil] at hgrows hcurrent hnearest
      have hf' := Nat.lt_of_lt_of_le hf (Scopes.Grows.push w.scopes kind).size_le
      have hleave : ((w.enter kind).run body).leave.scopes.Binds f n ↔
          ((w.enter kind).run body).scopes.Binds f n := by
        simp only [Scopes.Binds, leave, Scopes.bound?_pop]
      have henter : (w.enter kind).scopes.Binds f n ↔ w.scopes.Binds f n := by
        simp only [Scopes.Binds, enter, Scopes.bound?_push]
      have hne : f ≠ (w.enter kind).scopes.current := Nat.ne_of_lt hf
      rw [run_scope, ihRest hbody.leave (Nat.lt_of_lt_of_le hf hgrows.size_le), hcurrent, hnearest,
        hleave, ihBody (h.enter kind) hf', henter, nearestFunction_enter h]
      by_cases hkind : kind = .block
      · subst hkind
        simp only [↓reduceIte, locals, hoisted, List.mem_append, and_or_left, hne, false_and,
          false_or, or_assoc, or_left_comm]
      · have hne' : f ≠ w.scopes.frames.size := Nat.ne_of_lt hf
        simp only [hkind, ↓reduceIte, locals, hoisted, List.nil_append, hne, hne', false_and,
          or_false]
  | exported body rest ihBody ihRest =>
      have hbody := ((h.exporting true).run body).exporting false
      have hgrows := grows_run h [.exported body]
      have hcurrent := current_run h [.exported body]
      have hnearest := nearestFunction_run h [.exported body]
      simp only [run_exported, run_nil] at hgrows hcurrent hnearest
      have hinner : (((w.exporting true).run body).exporting false).scopes.Binds f n ↔ _ :=
        ihBody (h.exporting true) hf
      rw [run_exported, ihRest hbody (Nat.lt_of_lt_of_le hf hgrows.size_le), hcurrent, hnearest,
        hinner]
      simp only [locals, hoisted, List.mem_append, exporting, and_or_left, or_assoc,
        or_comm, or_left_comm]
  | debugger start stop rest ih =>
      simp only [locals, hoisted]
      exact ih (h.halt start stop) hf

/-- The names of the frame that a scope opens. -/
theorem binds_scope (h : w.Sound) (kind : FrameKind) (body : List Action) (n : Text) :
    ((w.enter kind).run body).scopes.Binds w.scopes.frames.size n ↔ n ∈ namesOf kind body := by
  have hsize : w.scopes.frames.size < (w.enter kind).scopes.frames.size := by
    simp [enter, Scopes.push]
  have hnew : ¬ (w.enter kind).scopes.Binds w.scopes.frames.size n := by
    simp [Scopes.Binds, enter, Scopes.bound?_of_size_le]
  have hcurrent : (w.enter kind).scopes.current = w.scopes.frames.size := rfl
  have hnearest := h.reachable.isTree.nearestFunction_lt
  rw [binds_run (h.enter kind) body hsize, nearestFunction_enter h, hcurrent]
  by_cases hkind : kind = .block
  · subst hkind
    have hne : w.scopes.frames.size ≠ w.scopes.nearestFunction := by omega
    simp [hnew, hne, namesOf]
  · simp [hkind, hnew, namesOf]

/-! ## Uses -/

/-- What is wrong with a use depends on the names that have a meaning where it stands. -/
theorem toList_issue? {t : Scopes} {u : Use} {env : List Text}
    (henv : t.lookup u.frame u.name ≠ none ↔ u.name ∈ env) :
    (u.issue? t).toList = useIssues env u.name u.role := by
  have hcond : ((u.target? t).isSome || isAmbient u.name) = true ↔
      u.name ∈ env ∨ isAmbient u.name = true := by
    rw [Bool.or_eq_true, ← henv, Use.target?, Option.isSome_iff_ne_none]
  unfold Use.issue? useIssues
  by_cases hmeant : u.name ∈ env ∨ isAmbient u.name = true
  · rw [ite_cond_eq_true _ _ (eq_true (hcond.mpr hmeant)), ite_cond_eq_true _ _ (eq_true hmeant)]
    rfl
  · rw [ite_cond_eq_false _ _ (eq_false fun hc => hmeant (hcond.mp hc)),
      ite_cond_eq_false _ _ (eq_false hmeant)]
    cases u.role <;> rfl

/-- A scope that is left keeps its names, and its parent is the frame around it. -/
theorem lookup_scope (h : w.Sound) (kind : FrameKind) (body : List Action) {t : Scopes}
    (ht : t.IsTree) (hgrows : ((w.enter kind).run body).leave.scopes.Grows t) (n : Text) :
    t.lookup w.scopes.frames.size n ≠ none ↔
      n ∈ namesOf kind body ∨ t.lookup w.scopes.current n ≠ none := by
  have hbody := grows_run (h.enter kind) body
  have hsize : w.scopes.frames.size < (w.enter kind).scopes.frames.size := by
    simp [enter, Scopes.push]
  have hall := (hbody.trans (.pop _)).trans hgrows
  have hparent : t.parent? w.scopes.frames.size = some w.scopes.current := by
    rw [hall.parent _ hsize]
    simp [enter, Scopes.parent?_push]
  obtain ⟨outer, houter⟩ := h.reachable.isTree.active_eq
  have hactive : ((w.enter kind).run body).leave.scopes.active = w.scopes.active :=
    active_leave (active_run (by simp [enter, Scopes.push]) body) (by simp [houter])
  have hleft : w.scopes.frames.size ∉ ((w.enter kind).run body).leave.scopes.active := by
    rw [hactive]
    intro hmem
    exact Nat.lt_irrefl _ (h.reachable.isTree.open_chain.lt_size _ hmem)
  have hlt : w.scopes.frames.size < ((w.enter kind).run body).leave.scopes.frames.size :=
    Nat.lt_of_lt_of_le hsize (hbody.trans (.pop _)).size_le
  have hbound : t.bound? w.scopes.frames.size n =
      ((w.enter kind).run body).scopes.bound? w.scopes.frames.size n := by
    rw [Scopes.bound?_congr (hgrows.closed _ hlt hleft)]
    exact Scopes.bound?_pop
  rw [Scopes.lookup_inner ht hparent, hbound, ← binds_scope h kind body n, Scopes.Binds]
  cases ((w.enter kind).run body).scopes.bound? w.scopes.frames.size n <;> simp

theorem uses_declare (w : Walk) (name : Text) (kind : BindingKind) (start stop : Nat)
    (removal : Option (Nat × Nat)) : (w.declare name kind start stop removal).uses = w.uses := by
  simp only [declare]
  split
  · rfl
  · split <;> rfl

/-- A use is without a meaning in the frames of a walk where it is so by the nesting of scopes. -/
theorem issues_run (h : w.Sound) (as : List Action) {t : Scopes} (ht : t.IsTree)
    (hgrows : (w.run as).scopes.Grows t) {env : List Text}
    (henv : ∀ n, t.lookup w.scopes.current n ≠ none ↔ n ∈ env) :
    (w.run as).uses.toList.filterMap (·.issue? t) =
      w.uses.toList.filterMap (·.issue? t) ++ undefinedNames env as := by
  induction as using Action.list_induction generalizing w env with
  | nil => simp [undefinedNames]
  | declare name kind start stop removal rest ih =>
      have hcurrent := current_run h [.declare name kind start stop removal]
      simp only [run_declare, run_nil] at hcurrent
      rw [run_declare, ih (h.declare name kind start stop removal) hgrows (by rwa [hcurrent]),
        uses_declare, undefinedNames]
  | use name role start stop rest ih =>
      have hissue : (Use.issue? t ⟨name, w.scopes.current, role, start, stop⟩).toList =
          useIssues env name role := toList_issue? (henv name)
      rw [run_use, ih (h.record name role start stop) hgrows henv, record, Array.toList_push,
        List.filterMap_append, List.append_assoc, undefinedNames, ← hissue, List.filterMap_cons,
        List.filterMap_nil]
      split
      · rename_i hnone
        rw [hnone]
        rfl
      · rename_i hsome
        rw [hsome]
        rfl
  | scope kind body rest ihBody ihRest =>
      have hleave := ((h.enter kind).run body).leave
      have hrest := (grows_run hleave rest).trans hgrows
      have hcurrent := current_run h [.scope kind body]
      simp only [run_scope, run_nil] at hcurrent
      have hinside : ∀ n, t.lookup w.scopes.frames.size n ≠ none ↔
          n ∈ namesOf kind body ++ env := by
        intro n
        rw [lookup_scope h kind body ht hrest, henv, List.mem_append]
      have hbody := ihBody (h.enter kind) ((Scopes.Grows.pop _).trans hrest) hinside
      rw [run_scope, ihRest hleave hgrows (by rwa [hcurrent]), undefinedNames, ← List.append_assoc]
      exact congrArg (· ++ undefinedNames env rest) hbody
  | exported body rest ihBody ihRest =>
      have hnext := ((h.exporting true).run body).exporting false
      have hrest := (grows_run hnext rest).trans hgrows
      have hcurrent := current_run h [.exported body]
      simp only [run_exported, run_nil] at hcurrent
      have hbody := ihBody (h.exporting true) hrest henv
      rw [run_exported, ihRest hnext hgrows (by rwa [hcurrent]), undefinedNames,
        ← List.append_assoc]
      exact congrArg (· ++ undefinedNames env rest) hbody
  | debugger start stop rest ih =>
      rw [undefinedNames]
      exact ih (h.halt start stop) hgrows henv

/-- The names of the program itself. -/
theorem binds_start (as : List Action) (n : Text) :
    (run {} as).scopes.Binds 0 n ↔ n ∈ namesOf .program as := by
  have hnone : ¬ ({} : Scopes).Binds 0 n := by
    simp [Scopes.Binds, Scopes.IsBinding.not_bound_new]
  have hcurrent : ({} : Walk).scopes.current = 0 := rfl
  have hnearest : ({} : Walk).scopes.nearestFunction = 0 := rfl
  rw [binds_run Sound.start as (f := 0) Nat.zero_lt_one n]
  simp [hnone, hcurrent, hnearest, namesOf]

theorem lookup_start (as : List Action) (n : Text) :
    (run {} as).scopes.lookup 0 n ≠ none ↔ n ∈ namesOf .program as := by
  rw [Scopes.lookup_root (Sound.start.run as).reachable.isTree]
  exact binds_start as n

/-- The uses without a meaning in a whole program. -/
theorem issues_start (as : List Action) :
    (run {} as).uses.toList.filterMap (·.issue? (run {} as).scopes) =
      undefinedNames (namesOf .program as) as :=
  issues_run Sound.start as (Sound.start.run as).reachable.isTree (.refl _) (lookup_start as)

end Walk

end PageLint.Script
