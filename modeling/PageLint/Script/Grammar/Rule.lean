import PageLint.Script.Grammar.Token

/-!
The rules of the grammar and the ways to complete them. Both are known by their places in the
lists.
-/
namespace PageLint.Script

/-- What a child is to its parent, as far as names depend on it. -/
inductive Role where
  | name
  | parameter
  | parameters
  | body
  | keyword
  | left
  | right
  | value
  | source
  | declaration
  | callee
  | operator
  | argument
  | key
  | alias
  deriving DecidableEq, Repr

structure Rule where
  name : String
  visibility : Visibility
  deriving DecidableEq, Repr

/-- One way to complete a rule: with `arity` children, some of which get another name or a
role. -/
structure Reduction where
  rule : Nat
  arity : Nat
  /-- Decides between readings that are otherwise equal. -/
  precedence : Int
  aliases : List (Nat × String)
  roles : List (Nat × Role)
  deriving DecidableEq, Repr

namespace Grammar

def visible (name : String) : Rule := ⟨name, .named⟩

def hidden (name : String) : Rule := ⟨name, .hidden⟩

def rules : List Rule :=
  [visible "program", visible "export_statement", visible "namespace_export",
   visible "export_clause", visible "export_specifier", hidden "_module_export_name",
   hidden "declaration", visible "import", visible "import_statement", visible "import_clause",
   hidden "_from_clause", visible "namespace_import", visible "named_imports",
   visible "import_specifier", visible "import_attribute", hidden "statement",
   visible "expression_statement", visible "variable_declaration", visible "lexical_declaration",
   visible "variable_declarator", visible "statement_block", visible "else_clause",
   visible "if_statement", visible "switch_statement", visible "for_statement",
   visible "for_in_statement", hidden "_for_header", visible "while_statement",
   visible "do_statement", visible "try_statement", visible "with_statement",
   visible "break_statement", visible "continue_statement", visible "debugger_statement",
   visible "return_statement", visible "throw_statement", visible "empty_statement",
   visible "labeled_statement", visible "switch_body", visible "switch_case",
   visible "switch_default", visible "catch_clause", visible "finally_clause",
   visible "parenthesized_expression", hidden "_expressions", hidden "expression",
   hidden "primary_expression", visible "yield_expression", visible "object",
   visible "object_pattern", visible "assignment_pattern", visible "object_assignment_pattern",
   visible "array", visible "array_pattern", hidden "_jsx_element", visible "jsx_element",
   visible "jsx_expression", hidden "_jsx_child", visible "jsx_opening_element",
   hidden "_jsx_identifier", visible "member_expression", visible "jsx_namespace_name",
   hidden "_jsx_element_name", visible "jsx_closing_element", visible "jsx_self_closing_element",
   hidden "_jsx_attribute", hidden "_jsx_attribute_name", visible "jsx_attribute",
   visible "string", hidden "_jsx_attribute_value", visible "class", visible "class_declaration",
   visible "class_heritage", visible "function_expression", visible "function_declaration",
   visible "generator_function", visible "generator_function_declaration",
   visible "arrow_function", hidden "_call_signature", hidden "_formal_parameter",
   visible "call_expression", visible "new_expression", visible "await_expression",
   visible "member_expression", visible "subscript_expression", hidden "_lhs_expression",
   visible "assignment_expression", hidden "_augmented_assignment_lhs",
   visible "augmented_assignment_expression", hidden "_initializer",
   hidden "_destructuring_pattern", visible "spread_element", visible "ternary_expression",
   visible "binary_expression", visible "unary_expression", visible "update_expression",
   visible "sequence_expression", visible "string", visible "template_string",
   visible "template_substitution", visible "regex", hidden "_identifier", visible "meta_property",
   visible "arguments", visible "decorator", visible "member_expression",
   visible "call_expression", visible "class_body", visible "field_definition",
   visible "formal_parameters", visible "class_static_block", hidden "pattern",
   visible "rest_pattern", visible "method_definition", visible "pair", visible "pair_pattern",
   hidden "_property_name", visible "computed_property_name", hidden "_reserved_identifier",
   hidden "_semicolon", hidden "program_repeat1", hidden "export_statement_repeat1",
   hidden "export_clause_repeat1", hidden "named_imports_repeat1",
   hidden "variable_declaration_repeat1", hidden "switch_body_repeat1", hidden "object_repeat1",
   hidden "object_pattern_repeat1", hidden "array_repeat1", hidden "array_pattern_repeat1",
   hidden "jsx_element_repeat1", hidden "jsx_opening_element_repeat1",
   hidden "_jsx_string_repeat1", hidden "_jsx_string_repeat2",
   hidden "sequence_expression_repeat1", hidden "string_repeat1", hidden "string_repeat2",
   hidden "template_string_repeat1", hidden "class_body_repeat1", hidden "formal_parameters_repeat1"]

def reductions : List Reduction :=
  [⟨0, 0, 0, [], []⟩, ⟨0, 1, 0, [], []⟩, ⟨0, 2, 0, [], []⟩, ⟨1, 2, 0, [], [(1, .declaration)]⟩,
   ⟨1, 3, 0, [], []⟩, ⟨1, 3, 0, [], [(2, .declaration)]⟩, ⟨1, 3, 0, [], [(2, .declaration)]⟩,
   ⟨1, 4, 0, [], []⟩, ⟨1, 4, 0, [], [(2, .value)]⟩, ⟨1, 4, 0, [], [(3, .declaration)]⟩,
   ⟨1, 5, 0, [], [(3, .value)]⟩, ⟨2, 3, 0, [], []⟩, ⟨3, 2, 0, [], []⟩, ⟨3, 3, 0, [], []⟩,
   ⟨3, 4, 0, [], []⟩, ⟨3, 5, 0, [], []⟩, ⟨4, 1, 0, [], [(0, .name)]⟩,
   ⟨4, 3, 0, [], [(0, .name), (2, .alias)]⟩, ⟨5, 1, 0, [], []⟩, ⟨6, 1, 0, [], []⟩,
   ⟨7, 1, 0, [], []⟩, ⟨8, 3, 0, [], [(1, .source)]⟩, ⟨8, 4, 0, [], [(1, .source)]⟩,
   ⟨8, 4, 0, [], []⟩, ⟨8, 5, 0, [], []⟩, ⟨9, 1, 0, [], []⟩, ⟨9, 3, 0, [], []⟩,
   ⟨10, 2, 0, [], [(1, .source)]⟩, ⟨11, 3, 0, [], []⟩, ⟨12, 2, 0, [], []⟩, ⟨12, 3, 0, [], []⟩,
   ⟨12, 4, 0, [], []⟩, ⟨12, 5, 0, [], []⟩, ⟨13, 1, 0, [], [(0, .name)]⟩,
   ⟨13, 3, 0, [], [(0, .name), (2, .alias)]⟩, ⟨14, 2, 0, [], []⟩, ⟨15, 1, 0, [], []⟩,
   ⟨16, 2, 0, [], []⟩, ⟨17, 3, 0, [], []⟩, ⟨17, 4, 0, [], []⟩, ⟨18, 3, 0, [], [(0, .keyword)]⟩,
   ⟨18, 4, 0, [], [(0, .keyword)]⟩, ⟨19, 1, 0, [], [(0, .name)]⟩, ⟨19, 2, 0, [], [(0, .name)]⟩,
   ⟨20, 2, 0, [], []⟩, ⟨20, 3, 0, [], []⟩, ⟨20, 4, 0, [], []⟩, ⟨21, 2, 0, [], []⟩,
   ⟨22, 3, 0, [], []⟩, ⟨22, 4, 0, [], []⟩, ⟨23, 3, 0, [], [(1, .value), (2, .body)]⟩,
   ⟨24, 6, 0, [], [(5, .body)]⟩, ⟨24, 7, 0, [], [(6, .body)]⟩, ⟨24, 7, 0, [], [(6, .body)]⟩,
   ⟨24, 7, 0, [], [(6, .body)]⟩, ⟨24, 8, 0, [], [(7, .body)]⟩, ⟨24, 8, 0, [], [(7, .body)]⟩,
   ⟨24, 8, 0, [], [(7, .body)]⟩, ⟨24, 9, 0, [], [(8, .body)]⟩, ⟨25, 3, 0, [], [(2, .body)]⟩,
   ⟨25, 4, 0, [], [(3, .body)]⟩,
   ⟨26, 5, 0, [(1, "identifier")], [(1, .left), (2, .operator), (3, .right)]⟩,
   ⟨26, 5, 0, [], [(1, .left), (2, .operator), (3, .right)]⟩,
   ⟨26, 6, 0, [], [(1, .keyword), (2, .left), (3, .operator), (4, .right)]⟩,
   ⟨26, 7, 0, [], [(1, .keyword), (2, .left), (4, .operator), (5, .right)]⟩,
   ⟨26, 7, 0, [], [(1, .keyword), (2, .left), (4, .operator), (5, .right)]⟩,
   ⟨27, 3, 0, [], [(2, .body)]⟩, ⟨28, 4, 0, [], [(1, .body)]⟩, ⟨28, 5, 0, [], [(1, .body)]⟩,
   ⟨29, 2, 0, [], [(1, .body)]⟩, ⟨29, 3, 0, [], [(1, .body)]⟩, ⟨29, 3, 0, [], [(1, .body)]⟩,
   ⟨29, 4, 0, [], [(1, .body)]⟩, ⟨30, 3, 0, [], [(2, .body)]⟩, ⟨31, 2, 0, [], []⟩,
   ⟨31, 3, 0, [(1, "statement_identifier")], []⟩, ⟨32, 2, 0, [], []⟩,
   ⟨32, 3, 0, [(1, "statement_identifier")], []⟩, ⟨33, 2, 0, [], []⟩, ⟨34, 2, 0, [], []⟩,
   ⟨34, 3, 0, [], []⟩, ⟨35, 3, 0, [], []⟩, ⟨36, 1, 0, [], []⟩,
   ⟨37, 3, -1, [(0, "statement_identifier")], [(2, .body)]⟩, ⟨38, 2, 0, [], []⟩,
   ⟨38, 3, 0, [], []⟩, ⟨39, 3, 0, [], [(1, .value)]⟩, ⟨39, 4, 0, [], [(1, .value), (3, .body)]⟩,
   ⟨40, 2, 0, [], []⟩, ⟨40, 3, 0, [], [(2, .body)]⟩, ⟨41, 2, 0, [], [(1, .body)]⟩,
   ⟨41, 5, 0, [], [(2, .parameter), (4, .body)]⟩, ⟨42, 2, 0, [], [(1, .body)]⟩, ⟨43, 3, 0, [], []⟩,
   ⟨45, 1, 0, [], []⟩, ⟨46, 1, 0, [], []⟩, ⟨46, 1, 0, [(0, "identifier")], []⟩, ⟨47, 1, 0, [], []⟩,
   ⟨47, 2, 0, [], []⟩, ⟨47, 3, 0, [], []⟩, ⟨48, 2, 0, [], []⟩, ⟨48, 3, 0, [], []⟩,
   ⟨48, 3, 0, [(1, "shorthand_property_identifier")], []⟩, ⟨48, 4, 0, [], []⟩,
   ⟨48, 4, 0, [(1, "shorthand_property_identifier")], []⟩, ⟨49, 2, 0, [], []⟩, ⟨49, 3, 0, [], []⟩,
   ⟨49, 3, 0, [(1, "shorthand_property_identifier_pattern")], []⟩, ⟨49, 4, 0, [], []⟩,
   ⟨49, 4, 0, [(1, "shorthand_property_identifier_pattern")], []⟩,
   ⟨50, 3, 0, [], [(0, .left), (2, .right)]⟩, ⟨51, 3, 0, [], [(0, .left), (2, .right)]⟩,
   ⟨51, 3, 0, [(0, "shorthand_property_identifier_pattern")], [(0, .left), (2, .right)]⟩,
   ⟨52, 2, 0, [], []⟩, ⟨52, 3, 0, [], []⟩, ⟨52, 4, 0, [], []⟩, ⟨53, 2, 0, [], []⟩,
   ⟨53, 3, 0, [], []⟩, ⟨53, 4, 0, [], []⟩, ⟨55, 2, 0, [], []⟩, ⟨55, 3, 0, [], []⟩,
   ⟨56, 2, 0, [], []⟩, ⟨56, 3, 0, [], []⟩, ⟨58, 2, -1, [], []⟩, ⟨58, 3, -1, [], [(1, .name)]⟩,
   ⟨58, 4, -1, [], [(1, .name)]⟩, ⟨60, 3, 0, [(2, "property_identifier")], []⟩, ⟨61, 3, 0, [], []⟩,
   ⟨63, 2, 0, [], []⟩, ⟨63, 3, 0, [], [(1, .name)]⟩, ⟨64, 3, 0, [], [(1, .name)]⟩,
   ⟨64, 4, 0, [], [(1, .name)]⟩, ⟨67, 1, 0, [], []⟩, ⟨67, 1, 0, [(0, "property_identifier")], []⟩,
   ⟨67, 3, 0, [], []⟩, ⟨67, 3, 0, [(0, "property_identifier")], []⟩, ⟨68, 2, 0, [], []⟩,
   ⟨68, 3, 0, [], []⟩, ⟨70, 2, 0, [], [(1, .body)]⟩, ⟨70, 3, 0, [], [(1, .name), (2, .body)]⟩,
   ⟨70, 3, 0, [], [(2, .body)]⟩, ⟨70, 3, 0, [], [(2, .body)]⟩,
   ⟨70, 4, 0, [], [(1, .name), (3, .body)]⟩, ⟨70, 4, 0, [], [(2, .name), (3, .body)]⟩,
   ⟨70, 4, 0, [], [(3, .body)]⟩, ⟨70, 5, 0, [], [(2, .name), (4, .body)]⟩,
   ⟨71, 3, 0, [], [(1, .name), (2, .body)]⟩, ⟨71, 4, 0, [], [(1, .name), (2, .body)]⟩,
   ⟨71, 4, 0, [], [(1, .name), (3, .body)]⟩, ⟨71, 4, 0, [], [(2, .name), (3, .body)]⟩,
   ⟨71, 5, 0, [], [(1, .name), (3, .body)]⟩, ⟨71, 5, 0, [], [(2, .name), (3, .body)]⟩,
   ⟨71, 5, 0, [], [(2, .name), (4, .body)]⟩, ⟨71, 6, 0, [], [(2, .name), (4, .body)]⟩,
   ⟨72, 2, 0, [], []⟩, ⟨73, 3, 0, [], [(1, .parameters), (2, .body)]⟩,
   ⟨73, 4, 0, [], [(2, .parameters), (3, .body)]⟩,
   ⟨73, 4, 0, [], [(1, .name), (2, .parameters), (3, .body)]⟩,
   ⟨73, 5, 0, [], [(2, .name), (3, .parameters), (4, .body)]⟩,
   ⟨74, 4, 0, [], [(1, .name), (2, .parameters), (3, .body)]⟩,
   ⟨74, 5, 0, [], [(1, .name), (2, .parameters), (3, .body)]⟩,
   ⟨74, 5, 0, [], [(2, .name), (3, .parameters), (4, .body)]⟩,
   ⟨74, 6, 0, [], [(2, .name), (3, .parameters), (4, .body)]⟩,
   ⟨75, 4, 0, [], [(2, .parameters), (3, .body)]⟩, ⟨75, 5, 0, [], [(3, .parameters), (4, .body)]⟩,
   ⟨75, 5, 0, [], [(2, .name), (3, .parameters), (4, .body)]⟩,
   ⟨75, 6, 0, [], [(3, .name), (4, .parameters), (5, .body)]⟩,
   ⟨76, 5, 0, [], [(2, .name), (3, .parameters), (4, .body)]⟩,
   ⟨76, 6, 0, [], [(2, .name), (3, .parameters), (4, .body)]⟩,
   ⟨76, 6, 0, [], [(3, .name), (4, .parameters), (5, .body)]⟩,
   ⟨76, 7, 0, [], [(3, .name), (4, .parameters), (5, .body)]⟩,
   ⟨77, 3, 0, [(0, "identifier")], [(0, .parameter), (2, .body)]⟩,
   ⟨77, 3, 0, [], [(0, .parameter), (2, .body)]⟩, ⟨77, 3, 0, [], [(0, .parameters), (2, .body)]⟩,
   ⟨77, 4, 0, [(1, "identifier")], [(1, .parameter), (3, .body)]⟩,
   ⟨77, 4, 0, [], [(1, .parameter), (3, .body)]⟩, ⟨77, 4, 0, [], [(1, .parameters), (3, .body)]⟩,
   ⟨80, 2, 0, [], [(0, .callee)]⟩, ⟨80, 3, 0, [], [(0, .callee)]⟩, ⟨81, 2, 0, [], []⟩,
   ⟨81, 3, 1, [], []⟩, ⟨82, 2, 0, [], []⟩, ⟨83, 3, 0, [(2, "property_identifier")], []⟩,
   ⟨83, 3, 0, [], []⟩, ⟨83, 3, 0, [(2, "property_identifier")], []⟩, ⟨83, 3, 0, [], []⟩,
   ⟨84, 4, 0, [], []⟩, ⟨84, 5, 0, [], []⟩,
   ⟨86, 3, 0, [(0, "identifier")], [(0, .left), (2, .right)]⟩,
   ⟨86, 3, 0, [], [(0, .left), (2, .right)]⟩, ⟨87, 1, 0, [], []⟩,
   ⟨87, 1, 0, [(0, "identifier")], []⟩, ⟨88, 3, 0, [], [(0, .left), (1, .operator), (2, .right)]⟩,
   ⟨89, 2, 0, [], [(1, .value)]⟩, ⟨91, 2, 0, [], []⟩, ⟨92, 5, 0, [], []⟩,
   ⟨93, 3, 0, [], [(0, .left), (1, .operator), (2, .right)]⟩,
   ⟨94, 2, 0, [], [(0, .operator), (1, .argument)]⟩,
   ⟨95, 2, 0, [], [(0, .operator), (1, .argument)]⟩,
   ⟨95, 2, 0, [], [(0, .argument), (1, .operator)]⟩, ⟨96, 2, 0, [], []⟩, ⟨97, 2, 0, [], []⟩,
   ⟨97, 3, 0, [], []⟩, ⟨98, 2, 0, [], []⟩, ⟨98, 3, 0, [], []⟩, ⟨99, 3, 0, [], []⟩,
   ⟨100, 3, 0, [], []⟩, ⟨100, 4, 0, [], []⟩, ⟨102, 3, 0, [], []⟩, ⟨103, 2, 0, [], []⟩,
   ⟨103, 3, 0, [], []⟩, ⟨103, 4, 0, [], []⟩, ⟨104, 2, 0, [], []⟩,
   ⟨105, 3, 0, [(2, "property_identifier")], []⟩, ⟨106, 2, 0, [], [(0, .callee)]⟩,
   ⟨107, 2, 0, [], []⟩, ⟨107, 3, 0, [], []⟩, ⟨108, 1, 0, [], []⟩, ⟨108, 2, 0, [], []⟩,
   ⟨108, 2, 0, [], []⟩, ⟨108, 2, 0, [], []⟩, ⟨108, 3, 0, [], []⟩, ⟨108, 3, 0, [], []⟩,
   ⟨108, 3, 0, [], []⟩, ⟨108, 4, 0, [], []⟩, ⟨109, 2, 0, [], []⟩, ⟨109, 3, 0, [], []⟩,
   ⟨109, 4, 0, [], []⟩, ⟨109, 5, 0, [], []⟩, ⟨110, 2, 0, [], [(1, .body)]⟩, ⟨111, 1, -1, [], []⟩,
   ⟨111, 1, -1, [(0, "identifier")], []⟩, ⟨112, 2, 0, [], []⟩,
   ⟨112, 2, 0, [(1, "identifier")], []⟩,
   ⟨113, 3, 0, [], [(0, .name), (1, .parameters), (2, .body)]⟩,
   ⟨113, 4, 0, [], [(1, .name), (2, .parameters), (3, .body)]⟩,
   ⟨113, 4, 0, [], [(1, .name), (2, .parameters), (3, .body)]⟩,
   ⟨113, 5, 0, [], [(2, .name), (3, .parameters), (4, .body)]⟩,
   ⟨113, 5, 0, [], [(2, .name), (3, .parameters), (4, .body)]⟩,
   ⟨113, 6, 0, [], [(3, .name), (4, .parameters), (5, .body)]⟩,
   ⟨113, 6, 0, [], [(3, .name), (4, .parameters), (5, .body)]⟩,
   ⟨113, 7, 0, [], [(4, .name), (5, .parameters), (6, .body)]⟩,
   ⟨114, 3, 0, [], [(0, .key), (2, .value)]⟩, ⟨115, 3, 0, [], [(0, .key), (2, .value)]⟩,
   ⟨116, 1, 0, [], []⟩, ⟨116, 1, 0, [(0, "property_identifier")], []⟩, ⟨117, 3, 0, [], []⟩,
   ⟨120, 2, 0, [], []⟩, ⟨121, 1, 0, [], []⟩, ⟨121, 2, 0, [], []⟩, ⟨122, 2, 0, [], []⟩,
   ⟨123, 2, 0, [], []⟩, ⟨124, 2, 0, [], []⟩, ⟨125, 2, 0, [], []⟩, ⟨126, 1, 0, [], []⟩,
   ⟨126, 2, 0, [], []⟩, ⟨126, 2, 0, [(1, "shorthand_property_identifier")], []⟩,
   ⟨127, 1, 0, [], []⟩, ⟨127, 2, 0, [], []⟩,
   ⟨127, 2, 0, [(1, "shorthand_property_identifier_pattern")], []⟩, ⟨128, 1, 0, [], []⟩,
   ⟨128, 2, 0, [], []⟩, ⟨129, 1, 0, [], []⟩, ⟨129, 2, 0, [], []⟩, ⟨130, 2, 0, [], []⟩,
   ⟨131, 1, 0, [], []⟩, ⟨131, 2, 0, [], []⟩, ⟨132, 2, 0, [], []⟩, ⟨133, 2, 0, [], []⟩,
   ⟨134, 2, 0, [], []⟩, ⟨135, 2, 0, [], []⟩, ⟨136, 2, 0, [], []⟩, ⟨137, 2, 0, [], []⟩,
   ⟨138, 1, 0, [], []⟩, ⟨138, 2, 0, [], []⟩, ⟨138, 2, 0, [], []⟩, ⟨139, 2, 0, [], []⟩]

end Grammar

end PageLint.Script
