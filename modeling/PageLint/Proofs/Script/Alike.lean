import PageLint.Proofs.Script.Redeclaration
import Mathlib.Data.List.Perm.Basic

/-! # Actions in another order

What is said of names by the nesting of scopes does not ask for the order inside of a scope. So
actions in another order, at any places of the text, are as good as those in the first. -/

namespace PageLint.Script

namespace Action

/-- `bs` are the actions of `as` at other places of the text, and in each scope in another order. -/
inductive Alike : List Action → List Action → Prop where
  | nil : Alike [] []
  | declare (name : Text) (kind : BindingKind) (start stop start' stop' : Nat)
      (removal removal' : Option (Nat × Nat)) {as bs : List Action} (rest : Alike as bs) :
      Alike (.declare name kind start stop removal :: as)
        (.declare name kind start' stop' removal' :: bs)
  | use (name : Text) (role : UseRole) (start stop start' stop' : Nat) {as bs : List Action}
      (rest : Alike as bs) :
      Alike (.use name role start stop :: as) (.use name role start' stop' :: bs)
  | scope (kind : FrameKind) {body body' as bs : List Action} (inside : Alike body body')
      (rest : Alike as bs) : Alike (.scope kind body :: as) (.scope kind body' :: bs)
  | exported {body body' as bs : List Action} (inside : Alike body body') (rest : Alike as bs) :
      Alike (.exported body :: as) (.exported body' :: bs)
  | debugger (start stop start' stop' : Nat) {as bs : List Action} (rest : Alike as bs) :
      Alike (.debugger start stop :: as) (.debugger start' stop' :: bs)
  | swap (a b : Action) (as : List Action) : Alike (a :: b :: as) (b :: a :: as)
  | trans {as bs cs : List Action} (first : Alike as bs) (second : Alike bs cs) : Alike as cs

namespace Alike

variable {as bs cs ds : List Action}

theorem refl (as : List Action) : Alike as as := by
  induction as using Action.list_induction with
  | nil => exact nil
  | declare name kind start stop removal rest ih => exact declare name kind _ _ _ _ _ _ ih
  | use name role start stop rest ih => exact use name role _ _ _ _ ih
  | scope kind body rest ihBody ihRest => exact scope kind ihBody ihRest
  | exported body rest ihBody ihRest => exact exported ihBody ihRest
  | debugger start stop rest ih => exact debugger _ _ _ _ ih

theorem cons (a : Action) (h : Alike as bs) : Alike (a :: as) (a :: bs) := by
  cases a with
  | declare name kind start stop removal => exact declare name kind _ _ _ _ _ _ h
  | use name role start stop => exact use name role _ _ _ _ h
  | scope kind body => exact scope kind (refl body) h
  | exported body => exact exported (refl body) h
  | debugger start stop => exact debugger _ _ _ _ h

theorem of_perm (h : as.Perm bs) : Alike as bs := by
  induction h with
  | nil => exact nil
  | cons a _ ih => exact cons a ih
  | swap a b as => exact swap b a as
  | trans _ _ ih ih' => exact trans ih ih'

theorem append_left (as : List Action) (h : Alike cs ds) : Alike (as ++ cs) (as ++ ds) := by
  induction as with
  | nil => exact h
  | cons a as ih => exact cons a ih

theorem append_right (h : Alike as bs) (cs : List Action) : Alike (as ++ cs) (bs ++ cs) := by
  induction h with
  | nil => exact refl cs
  | declare name kind _ _ _ _ _ _ _ ih => exact declare name kind _ _ _ _ _ _ ih
  | use name role _ _ _ _ _ ih => exact use name role _ _ _ _ ih
  | scope kind inside _ _ ih => exact scope kind inside ih
  | exported inside _ _ ih => exact exported inside ih
  | debugger _ _ _ _ _ ih => exact debugger _ _ _ _ ih
  | swap a b as => exact swap a b (as ++ cs)
  | trans _ _ ih ih' => exact trans ih ih'

theorem append (h : Alike as bs) (h' : Alike cs ds) : Alike (as ++ cs) (bs ++ ds) :=
  trans (append_right h cs) (append_left bs h')

end Alike

/-! ## What does not ask for the order -/

theorem locals_cons (a : Action) (as : List Action) :
    locals (a :: as) = locals [a] ++ locals as := by
  cases a <;> simp only [locals, List.nil_append, List.append_nil]
  split <;> rfl

theorem hoisted_cons (a : Action) (as : List Action) :
    hoisted (a :: as) = hoisted [a] ++ hoisted as := by
  cases a <;> simp only [hoisted, List.nil_append, List.append_nil]
  split <;> rfl

theorem undefinedNames_cons (env : List Text) (a : Action) (as : List Action) :
    undefinedNames env (a :: as) = undefinedNames env [a] ++ undefinedNames env as := by
  cases a <;> simp only [undefinedNames, List.nil_append, List.append_nil]

theorem declarations_cons (a : Action) (as : List Action) :
    declarations (a :: as) = declarations [a] + declarations as := by
  cases a <;> simp only [declarations] <;> omega

theorem scopedNames_cons (a : Action) (as : List Action) :
    scopedNames (a :: as) = scopedNames [a] + scopedNames as := by
  cases a <;> simp only [scopedNames] <;> omega

/-- Two names in a row can change places. -/
theorem perm_of_cons {α : Type} {f : List Action → List α}
    (hcons : ∀ a as, f (a :: as) = f [a] ++ f as) (a b : Action) (as : List Action) :
    (f (a :: b :: as)).Perm (f (b :: a :: as)) := by
  rw [hcons a (b :: as), hcons b as, hcons b (a :: as), hcons a as]
  exact List.perm_append_comm_assoc _ _ _

namespace Alike

variable {as bs : List Action}

theorem locals_perm (h : Alike as bs) : (locals as).Perm (locals bs) := by
  induction h with
  | nil => exact .refl _
  | declare name kind _ _ _ _ _ _ _ ih =>
      simp only [locals]
      split
      · exact ih
      · exact ih.cons name
  | use _ _ _ _ _ _ _ ih => simpa only [locals] using ih
  | scope _ _ _ _ ih => simpa only [locals] using ih
  | exported _ _ ihBody ihRest => simpa only [locals] using ihBody.append ihRest
  | debugger _ _ _ _ _ ih => simpa only [locals] using ih
  | swap a b as => exact perm_of_cons locals_cons a b as
  | trans _ _ ih ih' => exact ih.trans ih'

theorem hoisted_perm (h : Alike as bs) : (hoisted as).Perm (hoisted bs) := by
  induction h with
  | nil => exact .refl _
  | declare name kind _ _ _ _ _ _ _ ih =>
      simp only [hoisted]
      split
      · exact ih.cons name
      · exact ih
  | use _ _ _ _ _ _ _ ih => simpa only [hoisted] using ih
  | scope kind _ _ ihBody ihRest =>
      simp only [hoisted]
      split
      · exact ihBody.append ihRest
      · exact ihRest
  | exported _ _ ihBody ihRest => simpa only [hoisted] using ihBody.append ihRest
  | debugger _ _ _ _ _ ih => simpa only [hoisted] using ih
  | swap a b as => exact perm_of_cons hoisted_cons a b as
  | trans _ _ ih ih' => exact ih.trans ih'

/-- A scope has the same names, whatever the order. -/
theorem namesOf_perm (h : Alike as bs) (kind : FrameKind) :
    (namesOf kind as).Perm (namesOf kind bs) := by
  unfold namesOf
  split
  · exact h.locals_perm.append (.refl _)
  · exact h.locals_perm.append h.hoisted_perm

theorem declarations_eq (h : Alike as bs) : declarations as = declarations bs := by
  induction h with
  | nil => rfl
  | declare _ _ _ _ _ _ _ _ _ ih => simp only [declarations, ih]
  | use _ _ _ _ _ _ _ ih => simpa only [declarations] using ih
  | scope _ _ _ ihBody ihRest => simp only [declarations, ihBody, ihRest]
  | exported _ _ ihBody ihRest => simp only [declarations, ihBody, ihRest]
  | debugger _ _ _ _ _ ih => simpa only [declarations] using ih
  | swap a b as =>
      rw [declarations_cons a (b :: as), declarations_cons b as, declarations_cons b (a :: as),
        declarations_cons a as]
      omega
  | trans _ _ ih ih' => exact ih.trans ih'

theorem scopedNames_eq (h : Alike as bs) : scopedNames as = scopedNames bs := by
  induction h with
  | nil => rfl
  | declare _ _ _ _ _ _ _ _ _ ih => simpa only [scopedNames] using ih
  | use _ _ _ _ _ _ _ ih => simpa only [scopedNames] using ih
  | scope kind inside _ ihBody ihRest =>
      simp only [scopedNames, ihBody, ihRest, (inside.namesOf_perm kind).dedup.length_eq]
  | exported _ _ ihBody ihRest => simp only [scopedNames, ihBody, ihRest]
  | debugger _ _ _ _ _ ih => simpa only [scopedNames] using ih
  | swap a b as =>
      rw [scopedNames_cons a (b :: as), scopedNames_cons b as, scopedNames_cons b (a :: as),
        scopedNames_cons a as]
      omega
  | trans _ _ ih ih' => exact ih.trans ih'

end Alike

theorem undefinedNames_congr (as : List Action) {env env' : List Text}
    (h : ∀ n, n ∈ env ↔ n ∈ env') : undefinedNames env as = undefinedNames env' as := by
  induction as using Action.list_induction generalizing env env' with
  | nil => simp only [undefinedNames]
  | declare _ _ _ _ _ rest ih => simp only [undefinedNames, ih h]
  | use name role start stop rest ih => simp only [undefinedNames, ih h, useIssues, h name]
  | scope kind body rest ihBody ihRest =>
      have hinside : ∀ n, n ∈ namesOf kind body ++ env ↔ n ∈ namesOf kind body ++ env' := by
        intro n
        rw [List.mem_append, List.mem_append, h]
      simp only [undefinedNames, ihBody hinside, ihRest h]
  | exported body rest ihBody ihRest => simp only [undefinedNames, ihBody h, ihRest h]
  | debugger _ _ rest ih => simp only [undefinedNames, ih h]

/-- Uses that have no meaning have none in any other order. -/
theorem Alike.undefinedNames_perm {as bs : List Action} (h : Alike as bs) (env : List Text) :
    (undefinedNames env as).Perm (undefinedNames env bs) := by
  induction h generalizing env with
  | nil => exact .refl _
  | declare _ _ _ _ _ _ _ _ _ ih => simpa only [undefinedNames] using ih env
  | use name role _ _ _ _ _ ih =>
      simp only [undefinedNames]
      exact (ih env).append_left _
  | @scope kind body body' as bs inside _ ihBody ihRest =>
      have henv : ∀ n, n ∈ namesOf kind body ++ env ↔ n ∈ namesOf kind body' ++ env := by
        intro n
        rw [List.mem_append, List.mem_append, (inside.namesOf_perm kind).mem_iff]
      simp only [undefinedNames]
      rw [undefinedNames_congr body henv]
      exact (ihBody _).append (ihRest env)
  | exported _ _ ihBody ihRest =>
      simp only [undefinedNames]
      exact (ihBody env).append (ihRest env)
  | debugger _ _ _ _ _ ih => simpa only [undefinedNames] using ih env
  | swap a b as => exact perm_of_cons (undefinedNames_cons env) a b as
  | trans _ _ ih ih' => exact (ih env).trans (ih' env)

end Action

/-! ## Walks -/

namespace Walk

variable {as bs : List Action}

theorem issues_perm (h : Action.Alike as bs) :
    ((run {} as).uses.toList.filterMap (·.issue? (run {} as).scopes)).Perm
      ((run {} bs).uses.toList.filterMap (·.issue? (run {} bs).scopes)) := by
  rw [issues_start, issues_start,
    Action.undefinedNames_congr as fun n => (h.namesOf_perm .program).mem_iff]
  exact h.undefinedNames_perm _

theorem redeclared_eq (h : Action.Alike as bs) :
    (run {} as).redeclared = (run {} bs).redeclared := by
  have has := redeclared_start as
  have hbs := redeclared_start bs
  have hnames := (h.namesOf_perm .program).dedup.length_eq
  have hscoped := h.scopedNames_eq
  have hdeclarations := h.declarations_eq
  omega

end Walk

end PageLint.Script
