import PageLint.Proofs.Script.Alike
import PageLint.Proofs.Script.Correspondence
import Mathlib.Data.List.Forall2

/-! # Statements in another order

The statements of a program, or of a block, can change places: the same names have no meaning, and
as many declarations are reported. -/

namespace PageLint.Script

namespace Node

/-- `m` is `n` at another place of the text, with the statements of programs and of blocks in
another order. A statement plays no part that something could ask for it by. -/
inductive Reordered : Node → Node → Prop where
  | node {n m : Node} {cs : List Node} (kind : m.kind = n.kind) (isNamed : m.isNamed = n.isNamed)
      (roles : m.roles = n.roles) (text : m.text = n.text)
      (children : List.Forall₂ Reordered n.children cs)
      (order : cs = m.children ∨ (n.kind = .program ∨ n.kind = .block) ∧
        (∀ c ∈ cs, c.roles = []) ∧ cs.Perm m.children) : Reordered n m

/-- The nodes of `l'` are those of `l` reordered, in any order. -/
def Rearranged (l l' : List Node) : Prop := ∃ cs, List.Forall₂ Reordered l cs ∧ cs.Perm l'

/-! ## Nodes in another order -/

namespace Rearranged

open PageLint.Script.Action (Alike)

variable {l l' : List Node} {f g : Node → List Action}

theorem filter {p : Node → Bool} (h : Rearranged l l')
    (hp : ∀ c d, Reordered c d → p c = p d) : Rearranged (l.filter p) (l'.filter p) := by
  obtain ⟨cs, hcs, hperm⟩ := h
  have hrel := List.rel_filter (fun c d hcd => iff_of_eq (congrArg (· = true) (hp c d hcd))) hcs
  exact ⟨cs.filter p, hrel, hperm.filter p⟩

theorem flatMap (h : Rearranged l l')
    (hfg : ∀ c ∈ l, ∀ d, Reordered c d → Alike (f c) (g d)) :
    Alike (l.flatMap f) (l'.flatMap g) := by
  obtain ⟨cs, hcs, hperm⟩ := h
  refine .trans ?_ (.of_perm (hperm.flatMap_right g))
  clear hperm
  induction hcs with
  | nil => exact .nil
  | @cons c d l cs hcd _ ih =>
      rw [List.flatMap_cons, List.flatMap_cons]
      exact (hfg c List.mem_cons_self d hcd).append
        (ih fun e he => hfg e (List.mem_cons_of_mem c he))

end Rearranged

namespace Reordered

open PageLint.Script.Action (Alike)

variable {n m : Node}

theorem refl (n : Node) : Reordered n n :=
  .node rfl rfl rfl rfl (List.forall₂_same.mpr fun c hc =>
    have := sizeOf_lt_of_mem_children hc
    refl c) (.inl rfl)
termination_by sizeOf n

/-- Statements change places in a program or in a block. -/
theorem of_perm {cs : List Node} (hkind : n.kind = .program ∨ n.kind = .block)
    (hroles : ∀ c ∈ n.children, c.roles = []) (hperm : n.children.Perm cs) :
    Reordered n { n with children := cs } :=
  .node rfl rfl rfl rfl (List.forall₂_same.mpr fun c _ => refl c) (.inr ⟨hkind, hroles, hperm⟩)

/-- Statements change places somewhere inside of a child. -/
theorem inside (front back : List Node) {c d : Node} (hchildren : n.children = front ++ c :: back)
    (h : Reordered c d) : Reordered n { n with children := front ++ d :: back } := by
  refine .node rfl rfl rfl rfl ?_ (.inl rfl)
  rw [hchildren]
  have hsame : ∀ l : List Node, List.Forall₂ Reordered l l :=
    fun l => List.forall₂_same.mpr fun e _ => refl e
  exact List.rel_append (hsame front) (.cons h (hsame back))

theorem kind_eq (h : Reordered n m) : m.kind = n.kind := by
  cases h with
  | node kind => exact kind

theorem isNamed_eq (h : Reordered n m) : m.isNamed = n.isNamed := by
  cases h with
  | node _ isNamed => exact isNamed

theorem roles_eq (h : Reordered n m) : m.roles = n.roles := by
  cases h with
  | node _ _ roles => exact roles

theorem text_eq (h : Reordered n m) : m.text = n.text := by
  cases h with
  | node _ _ _ text => exact text

theorem children (h : Reordered n m) : Rearranged n.children m.children := by
  cases h with
  | @node _ _ cs _ _ _ _ children order =>
      refine ⟨cs, children, ?_⟩
      rcases order with rfl | ⟨-, -, hperm⟩
      · exact .refl _
      · exact hperm

theorem parts (h : Reordered n m) : Rearranged n.parts m.parts :=
  h.children.filter fun _ _ hcd => hcd.isNamed_eq.symm

/-- What is asked for by its part is found again: no part is played by what changes places. -/
theorem child?_rel (h : Reordered n m) (role : Role) :
    Option.Rel Reordered (n.child? role) (m.child? role) := by
  cases h with
  | @node _ _ cs _ _ _ _ children order =>
      have hrel : Option.Rel Reordered (n.child? role) (cs.find? (·.roles.contains role)) :=
        find?_rel (fun _ _ => roles_eq) children
      rcases order with rfl | ⟨-, hroles, hperm⟩
      · exact hrel
      · have hcs : cs.find? (·.roles.contains role) = none :=
          List.find?_eq_none.mpr fun c hc => by simp [hroles c hc]
        have hm : m.child? role = none :=
          List.find?_eq_none.mpr fun c hc => by simp [hroles c (hperm.mem_iff.mpr hc)]
        rw [hm, ← hcs]
        exact hrel

/-- Reordered nodes do the same in another order. -/
theorem isSimulation (source source' : Text) :
    IsSimulation source source' Reordered fun as bs => Alike (Step.actions as) (Step.actions bs)
    where
  nil := .nil
  append h h' := by
    rw [Step.actions_append, Step.actions_append]
    exact h.append h'
  declare name kind _ _ _ _ := .declare name kind _ _ _ _ _ _ .nil
  use name role _ _ _ _ := .use name role _ _ _ _ .nil
  scope kind _ _ inside := .scope kind inside .nil
  exported inside := .exported inside .nil
  debugger _ _ _ _ := .debugger _ _ _ _ .nil
  visit inside := inside.append .nil
  kind_eq := kind_eq
  roles_eq := roles_eq
  text_eq := text_eq
  child? role h _ := h.child?_rel role
  parts h hfg _ := by
    rw [Step.actions_flatMap, Step.actions_flatMap]
    exact h.parts.flatMap hfg
  removable _ _ _ _ name kind _ _ _ _ _ := .declare name kind _ _ _ _ _ _ .nil

theorem actions_alike (source source' : Text) (h : Reordered n m) :
    Alike (n.actions source) (m.actions source') :=
  (isSimulation source source').program h

end Reordered

end Node

/-! ## Reports -/

theorem map_message_report? {s : Scopes} (uses : List Use) :
    (uses.filterMap (·.report? s)).map (·.message) =
      (uses.filterMap (·.issue? s)).map Issue.message := by
  rw [List.map_filterMap, List.map_filterMap]
  apply List.filterMap_congr
  intro u _
  cases hissue : u.issue? s <;> simp [Use.report?, hissue]
  rfl

/-- Second declarations are reported while the program is walked over. -/
theorem countP_isRedeclareReport (source : Text) (root : Node) :
    (nameIssues source root).countP isRedeclareReport = (root.walk source).redeclared := by
  have huses : ((root.walk source).uses.toList.filterMap
      (·.report? (root.walk source).scopes)).countP isRedeclareReport = 0 := by
    rw [List.countP_eq_zero]
    intro d hd
    rcases rule_of_mem_uses d hd with hrule | hrule <;> simp [isRedeclareReport, hrule]
  have hdeclarations : (((root.walk source).scopes.readAll
      (root.walk source).uses.toList).declarations.toList.filterMap
        (·.report?)).countP isRedeclareReport = 0 := by
    rw [List.countP_eq_zero]
    intro d hd
    simp [isRedeclareReport, rule_of_mem_declarations d hd]
  rw [nameIssues_eq, List.countP_append, List.countP_append, huses, hdeclarations]
  rfl

/-- Statements in another order have the same names without a meaning, and as many second
declarations. -/
theorem nameIssues_reordered (source source' : Text) {root root' : Node}
    (h : root.Reordered root') :
    (((nameIssues source root).filter isUndefinedReport).map (·.message)).Perm
      (((nameIssues source' root').filter isUndefinedReport).map (·.message)) ∧
    (nameIssues source root).countP isRedeclareReport =
      (nameIssues source' root').countP isRedeclareReport := by
  have halike := h.actions_alike source source'
  constructor
  · rw [filter_isUndefinedReport, filter_isUndefinedReport, map_message_report?,
      map_message_report?]
    exact (Walk.issues_perm halike).map Issue.message
  · rw [countP_isRedeclareReport, countP_isRedeclareReport]
    exact Walk.redeclared_eq halike

/-- The tree of a program that is a block of some statements. -/
def inBlock (statements : List Node) : Node where
  kind := .program
  isNamed := true
  start := 0
  stop := 8
  children :=
    [{ kind := .block, isNamed := true, start := 0, stop := 8, children := statements }]

theorem nameIssues_reordered_inBlock :
    (inBlock [.word "x" 1, .word "y" 4]).Reordered (inBlock [.word "y" 4, .word "x" 1]) ∧
      (((nameIssues "\x7bx; y;\x7d".toList (inBlock [.word "x" 1, .word "y" 4])).filter
        isUndefinedReport).map (·.message)).Perm
        (((nameIssues "\x7by; x;\x7d".toList (inBlock [.word "y" 4, .word "x" 1])).filter
          isUndefinedReport).map (·.message)) ∧
      (nameIssues "\x7bx; y;\x7d".toList (inBlock [.word "x" 1, .word "y" 4])).countP
        isRedeclareReport =
        (nameIssues "\x7by; x;\x7d".toList (inBlock [.word "y" 4, .word "x" 1])).countP
          isRedeclareReport := by
  have hroles : ∀ c ∈ [Node.word "x" 1, Node.word "y" 4], c.roles = [] := by
    intro c hc
    rcases List.mem_cons.mp hc with rfl | hc
    · rfl
    · obtain rfl := List.mem_singleton.mp hc
      rfl
  have hblock := Node.Reordered.of_perm
    (n := { kind := .block, isNamed := true, start := 0, stop := 8,
            children := [.word "x" 1, .word "y" 4] }) (.inr rfl) hroles (.swap _ _ [])
  have hreordered : (inBlock [.word "x" 1, .word "y" 4]).Reordered
      (inBlock [.word "y" 4, .word "x" 1]) :=
    .inside (n := inBlock [.word "x" 1, .word "y" 4]) [] [] rfl hblock
  exact ⟨hreordered, nameIssues_reordered _ _ hreordered⟩

end PageLint.Script
