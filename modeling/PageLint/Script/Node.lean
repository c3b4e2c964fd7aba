import PageLint.Script.Subtree

/-! The tree of a script, as far as it shows. -/
namespace PageLint.Script

/-- What a node is. Kinds that name resolution does not look at are known by their names only. -/
inductive Kind where
  | program
  | functionDeclaration
  | generatorDeclaration
  | functionExpression
  | generatorExpression
  | arrowFunction
  | methodDefinition
  | computedName
  | classDeclaration
  | classExpression
  | classHeritage
  | classBody
  | decorator
  | block
  | switchBody
  | switchCase
  | forStatement
  | forInStatement
  | catchClause
  | lexicalDeclaration
  | variableDeclaration
  | variableDeclarator
  | importStatement
  | importClause
  | namespaceImport
  | namedImports
  | exportStatement
  | exportClause
  | debuggerStatement
  | identifier
  | shorthandProperty
  | shorthandPattern
  | call
  | assignment
  | augmentedAssignment
  | unary
  | elementOpening
  | elementClosing
  | selfClosingElement
  | objectPattern
  | arrayPattern
  | restPattern
  | pairPattern
  | assignmentPattern
  | objectAssignmentPattern
  | number
  | string
  | trueWord
  | falseWord
  | nullWord
  | undefinedWord
  | regex
  | template
  | substitution
  | error
  | other (name : String)
  deriving DecidableEq, Repr

namespace Kind

def name : Kind → String
  | program => "program"
  | functionDeclaration => "function_declaration"
  | generatorDeclaration => "generator_function_declaration"
  | functionExpression => "function_expression"
  | generatorExpression => "generator_function"
  | arrowFunction => "arrow_function"
  | methodDefinition => "method_definition"
  | computedName => "computed_property_name"
  | classDeclaration => "class_declaration"
  | classExpression => "class"
  | classHeritage => "class_heritage"
  | classBody => "class_body"
  | decorator => "decorator"
  | block => "statement_block"
  | switchBody => "switch_body"
  | switchCase => "switch_case"
  | forStatement => "for_statement"
  | forInStatement => "for_in_statement"
  | catchClause => "catch_clause"
  | lexicalDeclaration => "lexical_declaration"
  | variableDeclaration => "variable_declaration"
  | variableDeclarator => "variable_declarator"
  | importStatement => "import_statement"
  | importClause => "import_clause"
  | namespaceImport => "namespace_import"
  | namedImports => "named_imports"
  | exportStatement => "export_statement"
  | exportClause => "export_clause"
  | debuggerStatement => "debugger_statement"
  | identifier => "identifier"
  | shorthandProperty => "shorthand_property_identifier"
  | shorthandPattern => "shorthand_property_identifier_pattern"
  | call => "call_expression"
  | assignment => "assignment_expression"
  | augmentedAssignment => "augmented_assignment_expression"
  | unary => "unary_expression"
  | elementOpening => "jsx_opening_element"
  | elementClosing => "jsx_closing_element"
  | selfClosingElement => "jsx_self_closing_element"
  | objectPattern => "object_pattern"
  | arrayPattern => "array_pattern"
  | restPattern => "rest_pattern"
  | pairPattern => "pair_pattern"
  | assignmentPattern => "assignment_pattern"
  | objectAssignmentPattern => "object_assignment_pattern"
  | number => "number"
  | string => "string"
  | trueWord => "true"
  | falseWord => "false"
  | nullWord => "null"
  | undefinedWord => "undefined"
  | regex => "regex"
  | template => "template_string"
  | substitution => "template_substitution"
  | error => "ERROR"
  | other name => name

/-- The kinds that are told apart. -/
def known : List Kind :=
  [.program, .functionDeclaration, .generatorDeclaration, .functionExpression,
   .generatorExpression, .arrowFunction, .methodDefinition, .computedName, .classDeclaration,
   .classExpression, .classHeritage, .classBody, .decorator, .block, .switchBody, .switchCase,
   .forStatement, .forInStatement, .catchClause, .lexicalDeclaration, .variableDeclaration,
   .variableDeclarator, .importStatement, .importClause, .namespaceImport, .namedImports,
   .exportStatement, .exportClause, .debuggerStatement, .identifier, .shorthandProperty,
   .shorthandPattern, .call, .assignment, .augmentedAssignment, .unary, .elementOpening,
   .elementClosing, .selfClosingElement, .objectPattern, .arrayPattern, .restPattern, .pairPattern,
   .assignmentPattern, .objectAssignmentPattern, .number, .string, .trueWord, .falseWord,
   .nullWord, .undefinedWord, .regex, .template, .substitution, .error]

def ofName (name : String) : Kind := (known.find? (·.name == name)).getD (.other name)

end Kind

structure Node where
  kind : Kind
  /-- It is a part of the language rather than a mere token. -/
  isNamed : Bool
  /-- What it is to its parent. -/
  roles : List Role := []
  start : Nat
  stop : Nat
  /-- The text of a token. -/
  text : Text := []
  /-- It is not in the text. -/
  isMissing : Bool := false
  /-- There is an error in it. -/
  hasError : Bool := false
  children : List Node := []

namespace Node

/-! ## From the pieces of a reading -/

/-- Gives the first of some nodes a further part to play. -/
def giveRoles (roles : List Role) : List Node → List Node
  | [] => []
  | n :: rest => { n with roles := roles ++ n.roles } :: rest

def rolesAt (r : Option Reduction) (place : Option Nat) : List Role :=
  match r, place with
  | some r, some n => r.roles.filterMap fun (place, role) => if place = n then some role else none
  | _, _ => []

mutual

/-- The nodes of a piece whose white space starts at offset `n`: one, or if it does not show those
of its children. -/
def ofPiece (n : Nat) (renamed : Option String) (roles : List Role) : Subtree → List Node
  | { symbol, isVisible, padding, size, children, text, reduction, childCost, isMissing, .. } =>
    let start := n + padding.bytes
    let inner := ofPieces start reduction 0 true children
    if isVisible || renamed.isSome then
      [{ kind := Kind.ofName (renamed.getD symbol.name)
         isNamed := renamed.isSome || symbol.visibility = .named
         roles
         start
         stop := start + size.bytes
         text
         isMissing
         hasError := isMissing || childCost > 0
         children := inner }]
    else giveRoles roles inner

/-- The nodes of pieces in a row, the first of which has its content at offset `n`, the others their
white space. `place` is the place that the rule gives to the next one. -/
def ofPieces (n : Nat) (r : Option Reduction) (place : Nat) (isFirst : Bool) :
    List Subtree → List Node
  | [] => []
  | t :: rest =>
    let start := if isFirst then n - t.padding.bytes else n
    let own := if t.isExtra then none else some place
    ofPiece start (Subtree.aliasAt? r own) (rolesAt r own) t ++
      ofPieces (start + t.padding.bytes + t.size.bytes) r (if t.isExtra then place else place + 1)
        false rest

end

/-- The root of the tree. -/
def ofTree? (t : Subtree) : Option Node := (ofPiece 0 none [] t).head?

/-! ## Parts -/

/-- The children that are parts of the language. -/
def parts (n : Node) : List Node := n.children.filter (·.isNamed)

/-- The first child with a role. -/
def child? (n : Node) (role : Role) : Option Node :=
  n.children.find? (·.roles.contains role)

theorem sizeOf_lt_of_mem_children {n c : Node} (h : c ∈ n.children) : sizeOf c < sizeOf n := by
  have h1 := List.sizeOf_lt_of_mem h
  have h2 : sizeOf n.children < sizeOf n := by
    cases n
    simp +arith
  omega

theorem sizeOf_child?_lt {n c : Node} {role : Role} (h : n.child? role = some c) :
    sizeOf c < sizeOf n :=
  sizeOf_lt_of_mem_children (List.mem_of_find?_eq_some h)

theorem sizeOf_lt_of_mem_parts {n c : Node} (h : c ∈ n.parts) : sizeOf c < sizeOf n :=
  sizeOf_lt_of_mem_children (List.mem_filter.1 h).1

/-! ## Errors -/

mutual

/-- The first node, in the order of the text, that is an error or missing. Nodes without errors are
not looked into. -/
def firstError? : Node → Option Node
  | n@{ kind, isMissing, hasError, children, .. } =>
    if kind = .error || isMissing then some n
    else if !hasError then none
    else firstErrorIn? children

def firstErrorIn? : List Node → Option Node
  | [] => none
  | c :: rest => (firstError? c).orElse fun _ => firstErrorIn? rest

end

mutual

/-- The first token of a node. -/
def firstToken : Node → Node
  | n@{ children, .. } => firstTokenOf n children

def firstTokenOf (n : Node) : List Node → Node
  | [] => n
  | c :: _ => firstToken c

end

end Node

end PageLint.Script
