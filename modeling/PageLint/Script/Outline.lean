import PageLint.Deadline
import PageLint.Script.Node
import PageLint.Script.Scope

/-!
What a tree does to names: it declares and uses them, and it opens frames around parts of itself. A
walk over the tree visits its nodes, and at some of these visits it asks whether its time is up.
-/
namespace PageLint.Script

/-- How a name is used. -/
inductive UseRole where
  | read
  /-- It gets a value and gives none. -/
  | write
  | call
  /-- It is asked for its type, which an undeclared name has too. -/
  | probe
  deriving DecidableEq, Repr

inductive Action where
  | declare (name : Text) (kind : BindingKind) (start stop : Nat) (removal : Option (Nat × Nat))
  | use (name : Text) (role : UseRole) (start stop : Nat)
  /-- What happens inside a frame of its own. -/
  | scope (kind : FrameKind) (body : List Action)
  /-- What happens in a declaration that is exported. -/
  | exported (body : List Action)
  | debugger (start stop : Nat)

/-- A step of a walk over a tree. -/
inductive Step where
  | act (a : Action)
  /-- What is done inside a frame of its own. -/
  | scope (kind : FrameKind) (body : List Step)
  /-- What is done in a declaration that is exported. -/
  | exported (body : List Step)
  /-- What is done at a node that is visited. -/
  | visit (body : List Step)

namespace Step

mutual

/-- What a step does if there is time for all of it. -/
def toActions : Step → List Action
  | act a => [a]
  | scope kind body => [.scope kind (actions body)]
  | exported body => [.exported (actions body)]
  | visit body => actions body

def actions : List Step → List Action
  | [] => []
  | s :: rest => s.toActions ++ actions rest

end

theorem actions_append (as bs : List Step) : actions (as ++ bs) = actions as ++ actions bs := by
  induction as with
  | nil => rfl
  | cons s as ih => rw [List.cons_append, actions, ih, actions, List.append_assoc]

theorem actions_flatMap (f : α → List Step) (l : List α) :
    actions (l.flatMap f) = l.flatMap fun a => actions (f a) := by
  induction l with
  | nil => rfl
  | cons a l ih => rw [List.flatMap_cons, actions_append, ih, List.flatMap_cons]

end Step

/-- A walk under way. -/
structure Stopwatch where
  deadline : Deadline
  /-- The number of nodes visited so far. -/
  visited : Nat := 0
  deriving DecidableEq, Repr

/-- One more node is visited, unless the time is up. It is asked for at every 256th one. -/
def Stopwatch.visit? (w : Stopwatch) : Option Stopwatch :=
  (w.deadline.pollAt 256 (w.visited + 1)).map fun deadline => ⟨deadline, w.visited + 1⟩

namespace Step

mutual

/-- What a step does as far as there is time. Once the time is up, no node is visited any more, but
what is to be done at the nodes that are being visited goes on. -/
def inTime (w : Option Stopwatch) : Step → List Action × Option Stopwatch
  | act a => ([a], w)
  | scope kind body =>
    let inner := allInTime w body
    ([.scope kind inner.1], inner.2)
  | exported body =>
    let inner := allInTime w body
    ([.exported inner.1], inner.2)
  | visit body =>
    match w.bind (·.visit?) with
    | none => ([], none)
    | some w => allInTime (some w) body

def allInTime (w : Option Stopwatch) : List Step → List Action × Option Stopwatch
  | [] => ([], w)
  | s :: rest =>
    let first := s.inTime w
    let later := allInTime first.2 rest
    (first.1 ++ later.1, later.2)

end

end Step

namespace Node

/-- What `f` finds in the child with a role. -/
def onChild (n : Node) (role : Role) (f : (c : Node) → sizeOf c < sizeOf n → List Step) :
    List Step :=
  match h : n.child? role with
  | some c => f c (sizeOf_child?_lt h)
  | none => []

/-- What `f` finds in the named children. -/
def onParts (n : Node) (f : (c : Node) → sizeOf c < sizeOf n → List Step) : List Step :=
  n.parts.attach.flatMap fun ⟨c, h⟩ => f c (sizeOf_lt_of_mem_parts h)

def declaration (n : Node) (kind : BindingKind) (removal : Option (Nat × Nat) := none) :
    List Step :=
  if n.text.isEmpty then [] else [.act (.declare n.text kind n.start n.stop removal)]

def usage (n : Node) (role : UseRole) : List Step :=
  if n.text.isEmpty then [] else [.act (.use n.text role n.start n.stop)]

/-- The declaration of the name that the node gives to itself. -/
def ownName (n : Node) (kind : BindingKind) : List Step :=
  n.onChild .name fun c _ => c.declaration kind

def isIdentifier (n : Node) : Bool := n.kind = .identifier

/-! ## Declarations -/

/-- A value that has no effect. -/
def isLiteral (n : Node) : Bool :=
  match n.kind with
  | .template => n.parts.all (·.kind != .substitution)
  | .number | .string | .trueWord | .falseWord | .nullWord | .undefinedWord | .regex => true
  | _ => false

/-- Statements follow each other directly inside a node of this kind. -/
def holdsStatements : Kind → Bool
  | .program | .block | .switchCase => true
  | _ => false

/-- The bytes of a statement with the line break behind it. -/
def removal (source : Text) (n : Node) : Nat × Nat :=
  match source.after n.stop with
  | '\r' :: '\n' :: _ => (n.start, n.stop + 2)
  | '\n' :: _ => (n.start, n.stop + 1)
  | _ => (n.start, n.stop)

def declarators (n : Node) : List Node := n.parts.filter (·.kind = .variableDeclarator)

/-- The kind of binding that the first word of a declaration announces. -/
def announced (n : Node) : BindingKind :=
  match n.kind with
  | .variableDeclaration => .var
  | _ =>
    if (n.child? .keyword).any (·.text = "const".toList) then .constant else .lexical

/-- The bytes to remove if the only name that the declaration `n` inside `parent` gives, with
`value`, is of no use. -/
def removal? (source : Text) (parent : Kind) (n : Node) (value : Option Node) :
    Option (Nat × Nat) :=
  if n.declarators.length = 1 && value.all isLiteral && holdsStatements parent then
    some (n.removal source)
  else none

/-- The kind of binding in the head of a loop over the parts of a value, if it declares names. -/
def loopBinding? (n : Node) : Option BindingKind :=
  (n.child? .keyword).map fun word =>
    if word.text = "var".toList then .var
    else if word.text = "const".toList then .constant
    else .lexical

/-! ## Imports and exports -/

/-- The names that a part of an import clause gives. -/
def importedNames (n : Node) : List Node :=
  match n.kind with
  | .identifier => [n]
  | .namespaceImport => n.parts.filter isIdentifier
  | .namedImports =>
    n.parts.filterMap fun spec =>
      ((spec.child? .alias).orElse fun _ => spec.child? .name).filter isIdentifier
  | _ => []

def imports (n : Node) : List Step :=
  let clauses := n.parts.filter (·.kind = .importClause)
  (clauses.flatMap fun clause => clause.parts.flatMap importedNames).flatMap
    (·.declaration .imported)

/-- The names of this program that a list of exports reads. -/
def exportedNames (n : Node) : List Step :=
  if (n.child? .source).isSome then []
  else
    let clauses := n.parts.filter (·.kind = .exportClause)
    (clauses.flatMap fun clause =>
      clause.parts.filterMap fun spec => (spec.child? .name).filter isIdentifier).flatMap
        (·.usage .read)

/-! ## Uses -/

/-- A name on the left of an assignment is written; one that is updated is read as well. -/
def targetRole (n : Node) : UseRole :=
  if n.kind = .augmentedAssignment then .read else .write

/-- The name in the node's question for its type. -/
def probed? (n : Node) : Option Node :=
  if (n.child? .operator).any (·.text = "typeof".toList) then
    (n.child? .argument).filter isIdentifier
  else none

/-- A tag that is a word in lower case means an element of the page, not a name. -/
def isElementName (n : Node) : Bool :=
  n.roles.contains .name && n.isIdentifier &&
    n.text.head?.any fun c => 'a' ≤ c && c ≤ 'z'

mutual

/-- The visit to a node inside a node of kind `parent`. -/
def steps (source : Text) (parent : Kind) (n : Node) : List Step :=
  [.visit (visited source parent n)]
termination_by 5 * sizeOf n + 3

/-- What is done at a node inside a node of kind `parent`. -/
def visited (source : Text) (parent : Kind) (n : Node) : List Step :=
  match n.kind with
  | .functionDeclaration | .generatorDeclaration =>
    n.ownName .function ++ [.scope .function (functionBody source n)]
  | .functionExpression | .generatorExpression =>
    [.scope .function (n.ownName .function ++ functionBody source n)]
  | .arrowFunction => [.scope .function (functionBody source n)]
  | .methodDefinition =>
    (n.onChild .name fun c _ => if c.kind = .computedName then steps source n.kind c else []) ++
      [.scope .function (functionBody source n)]
  | .classDeclaration =>
    n.ownName .classLike ++ classHead source n ++ [.scope .block (classBody source n)]
  | .classExpression =>
    classHead source n ++ [.scope .block (n.ownName .classLike ++ classBody source n)]
  | .block | .switchBody => [.scope .block (partSteps source n)]
  | .forStatement => [.scope .block (partSteps source n)]
  | .forInStatement => [.scope .block (loop source n)]
  | .catchClause =>
    [.scope .block
      ((n.onChild .parameter fun c _ => bindings source n.kind .caught c) ++
        n.onChild .body fun c _ => partSteps source c)]
  | .lexicalDeclaration | .variableDeclaration =>
    n.onParts fun d _ =>
      if d.kind = .variableDeclarator then
        let value := d.child? .value
        (d.onChild .name fun c _ =>
          (if c.isIdentifier then c.declaration n.announced (n.removal? source parent value)
            else bindings source d.kind n.announced c) ++
          d.onChild .value fun v _ => steps source d.kind v)
      else []
  | .importStatement => n.imports
  | .exportStatement =>
    (n.onChild .declaration fun c _ => [.exported (steps source n.kind c)]) ++
      (n.onChild .value fun c _ => steps source n.kind c) ++ n.exportedNames
  | .debuggerStatement => [.act (.debugger n.start n.stop)]
  | .identifier | .shorthandProperty => n.usage .read
  | .call =>
    (n.onChild .callee fun c _ =>
      if c.isIdentifier then c.usage .call else steps source n.kind c) ++
    n.onParts fun c _ => if c.roles.contains .callee then [] else steps source n.kind c
  | .assignment | .augmentedAssignment =>
    (n.onChild .left fun c _ =>
      if c.isIdentifier then c.usage n.targetRole else steps source n.kind c) ++
    n.onChild .right fun c _ => steps source n.kind c
  | .unary =>
    match n.probed? with
    | some name => name.usage .probe
    | none => partSteps source n
  | .elementOpening | .elementClosing | .selfClosingElement =>
    n.onParts fun c _ => if c.isElementName then [] else steps source n.kind c
  | .error => []
  | _ => partSteps source n
termination_by 5 * sizeOf n + 2

/-- The visits to the parts of a node, one after the other. -/
def partSteps (source : Text) (n : Node) : List Step :=
  n.onParts fun c _ => steps source n.kind c
termination_by 5 * sizeOf n

/-- What the parameters and the body of a function do inside of its frame. -/
def functionBody (source : Text) (n : Node) : List Step :=
  (n.onChild .parameter fun c _ => bindings source n.kind .parameter c) ++
  (n.onChild .parameters fun ps _ => ps.onParts fun c _ => bindings source ps.kind .parameter c) ++
  n.onChild .body fun c _ =>
    if c.kind = .block then partSteps source c else steps source n.kind c
termination_by 5 * sizeOf n + 1

/-- What the head of a class does outside of its frame. -/
def classHead (source : Text) (n : Node) : List Step :=
  n.onParts fun c _ =>
    if c.kind = .classHeritage || c.kind = .decorator then steps source n.kind c else []
termination_by 5 * sizeOf n + 1

def classBody (source : Text) (n : Node) : List Step :=
  n.onParts fun c _ => if c.kind = .classBody then partSteps source c else []
termination_by 5 * sizeOf n + 1

/-- What a loop over the parts of a value does inside of its frame. -/
def loop (source : Text) (n : Node) : List Step :=
  (n.onChild .left fun c _ =>
    match n.loopBinding? with
    | some kind => bindings source n.kind kind c
    | none => if c.isIdentifier then c.usage .write else steps source n.kind c) ++
  (n.onChild .right fun c _ => steps source n.kind c) ++
  n.onChild .body fun c _ => steps source n.kind c
termination_by 5 * sizeOf n + 1

/-- What a pattern inside a node of kind `parent` does: it binds names. It is not visited itself. -/
def bindings (source : Text) (parent : Kind) (kind : BindingKind) (n : Node) :
    List Step :=
  match n.kind with
  | .identifier | .shorthandPattern => n.declaration kind
  | .objectPattern | .arrayPattern | .restPattern => n.onParts fun c _ => bindings source n.kind kind c
  | .pairPattern =>
    (n.onChild .key fun c _ => if c.kind = .computedName then steps source n.kind c else []) ++
      n.onChild .value fun c _ => bindings source n.kind kind c
  | .assignmentPattern | .objectAssignmentPattern =>
    (n.onChild .left fun c _ => bindings source n.kind kind c) ++
      n.onChild .right fun c _ => steps source n.kind c
  | .undefinedWord | .error => []
  | _ => steps source parent n
termination_by 5 * sizeOf n + 4

end

/-- What a node inside a node of kind `parent` does. -/
def outline (source : Text) (parent : Kind) (n : Node) : List Action :=
  Step.actions (steps source parent n)

/-- What a program does. Its root is not visited itself. -/
def actions (source : Text) (root : Node) : List Action := Step.actions (partSteps source root)

/-- What a program does as far as there is time. -/
def actionsInTime (source : Text) (root : Node) (d : Deadline) : List Action × Option Stopwatch :=
  Step.allInTime (some ⟨d, 0⟩) (partSteps source root)

end Node

end PageLint.Script
