import PageLint.Json.Value
import PageLint.Diagnostic
import PageLint.Options

/-!
Diagnostics, reports and options as JSON. Members that hold nothing are left out where a reader
takes their absence for nothing. A structure is also read from the array of its fields in order.
-/
namespace PageLint.Json

/-! ## Reading simple values -/

def toNat? : Json → Option Nat
  | .int (.ofNat n) => some n
  | _ => none

def toBool? : Json → Option Bool
  | .bool b => some b
  | _ => none

def toString? : Json → Option String
  | .str s => some s
  | _ => none

def toText? (v : Json) : Option Text := v.toString?.map (·.toList)

def toList? (f : Json → Option α) : Json → Option (List α)
  | .arr items => items.mapM f
  | _ => none

/-- A value that may be null. -/
def toOption? (f : Json → Option α) : Json → Option (Option α)
  | .null => some none
  | v => (f v).map some

/-- One of a set of names; a name may also be the only member of an object, with null for its
value. -/
def toChoice? (ofName? : String → Option α) : Json → Option α
  | .str s => ofName? s
  | .obj [(s, .null)] => ofName? s
  | _ => none

/-! ## Reading structures -/

/-- The fields of a structure, by name or by place. -/
inductive Fields where
  | named (members : List (String × Json))
  | placed (items : List Json)

/-- A structure of `count` fields; an array may have fewer elements, but no more. -/
def fields? (count : Nat) : Json → Option Fields
  | .obj members => some (.named members)
  | .arr items => if items.length ≤ count then some (.placed items) else none
  | _ => none

def Fields.get? (fs : Fields) (place : Nat) (name : String) : Option Json :=
  match fs with
  | .named members => member? members name
  | .placed items => items[place]?

def Fields.required? (fs : Fields) (place : Nat) (name : String) (f : Json → Option α) : Option α :=
  (fs.get? place name).bind f

def Fields.withDefault? (fs : Fields) (place : Nat) (name : String) (default : α)
    (f : Json → Option α) : Option α :=
  match fs.get? place name with
  | none => some default
  | some v => f v

/-! ## Diagnostics -/

def ofText (t : Text) : Json := .str (String.ofList t)

def ofEdit (e : Edit) : Json :=
  .obj [("from", nat e.start), ("to", nat e.stop), ("text", ofText e.text)]

def toEdit? (v : Json) : Option Edit := do
  let fs ← fields? 3 v
  let start ← fs.required? 0 "from" toNat?
  let stop ← fs.required? 1 "to" toNat?
  let text ← fs.required? 2 "text" toText?
  return { start, stop, text }

def ofFix (f : Fix) : Json := .obj [("description", .str f.description), ("edit", ofEdit f.edit)]

def toFix? (v : Json) : Option Fix := do
  let fs ← fields? 2 v
  let description ← fs.required? 0 "description" toString?
  let edit ← fs.required? 1 "edit" toEdit?
  return { description, edit }

/-- A member that is there only with a value. -/
def optional (name : String) (f : α → Json) : Option α → List (String × Json)
  | none => []
  | some a => [(name, f a)]

def diagnosticMembers (d : Diagnostic) : List (String × Json) :=
  [("message", .str d.message), ("severity", .str d.severity.name)] ++
  optional "category" (fun c : Category => .str c.name) d.category ++
  [("from", nat d.start), ("to", nat d.stop), ("line", nat d.line)] ++
  optional "column" nat d.column ++
  optional "ruleId" .str d.rule ++
  (if d.fixes.isEmpty then [] else [("fixes", .arr (d.fixes.map ofFix))]) ++
  optional "context" ofText d.context

def ofDiagnostic (d : Diagnostic) : Json := .obj (diagnosticMembers d)

def toDiagnostic? (v : Json) : Option Diagnostic := do
  let fs ← fields? 10 v
  let message ← fs.required? 0 "message" toString?
  let severity ← fs.required? 1 "severity" (toChoice? Severity.ofName?)
  let category ← fs.withDefault? 2 "category" none (toOption? (toChoice? Category.ofName?))
  let start ← fs.required? 3 "from" toNat?
  let stop ← fs.required? 4 "to" toNat?
  let line ← fs.required? 5 "line" toNat?
  let column ← fs.withDefault? 6 "column" none (toOption? toNat?)
  let rule ← fs.withDefault? 7 "ruleId" none (toOption? toString?)
  let fixes ← fs.withDefault? 8 "fixes" [] (toList? toFix?)
  let context ← fs.withDefault? 9 "context" none (toOption? toText?)
  return { message, severity, category, start, stop, line, column, rule, fixes, context }

def ofTally (t : Tally) : Json :=
  .obj [("errorCount", nat t.errors), ("warningCount", nat t.warnings),
    ("suggestionCount", nat t.suggestions)]

def toTally? (v : Json) : Option Tally := do
  let fs ← fields? 3 v
  let errors ← fs.required? 0 "errorCount" toNat?
  let warnings ← fs.required? 1 "warningCount" toNat?
  let suggestions ← fs.required? 2 "suggestionCount" toNat?
  return { errors, warnings, suggestions }

def ofReport (r : Report) : Json :=
  .obj ([("errors", .arr (r.diagnostics.map ofDiagnostic)), ("stats", ofTally r.tally)] ++
    if r.interrupted then [("partial", .bool true)] else [])

def toReport? (v : Json) : Option Report := do
  let fs ← fields? 3 v
  let diagnostics ← fs.required? 0 "errors" (toList? toDiagnostic?)
  let tally ← fs.required? 1 "stats" toTally?
  let interrupted ← fs.withDefault? 2 "partial" false toBool?
  return { diagnostics, tally, interrupted }

/-! ## Options -/

def ofOverrides (o : Overrides) : Json := .obj (o.map fun (rule, s) => (rule, .str s.name))

def toOverrides? : Json → Option Overrides
  | .obj members => members.foldlM (fun o (rule, v) => do
      let s ← toChoice? Severity.ofName? v
      return o.insert rule s) ([] : Overrides)
  | _ => none

def ofRuleSettings (r : RuleSettings) : Json :=
  .obj [("disabled", .arr (r.disabled.map .str)), ("severity", ofOverrides r.severity)]

def toRuleSettings? (v : Json) : Option RuleSettings := do
  let fs ← fields? 2 v
  let disabled ← fs.withDefault? 0 "disabled" [] (toList? toString?)
  let severity ← fs.withDefault? 1 "severity" ([] : Overrides) toOverrides?
  return { disabled, severity }

def ofScriptSettings (s : ScriptSettings) : Json := .obj [("heuristics", .bool s.heuristics)]

def toScriptSettings? (v : Json) : Option ScriptSettings := do
  let fs ← fields? 1 v
  let heuristics ← fs.withDefault? 0 "heuristics" true toBool?
  return { heuristics }

def ofOptions (o : Options) : Json :=
  .obj [("ignorePatterns", .arr (o.ignorePatterns.map .str)),
    ("severityLevel", .str o.severityLevel.name),
    ("maxErrors", ofOption nat o.maxErrors),
    ("timeout", ofOption nat o.timeout),
    ("allowPartial", .bool o.allowPartial),
    ("rules", ofRuleSettings o.rules),
    ("script", ofScriptSettings o.script)]

def toOptions? (v : Json) : Option Options := do
  let fs ← fields? 7 v
  let ignorePatterns ← fs.withDefault? 0 "ignorePatterns" [] (toList? toString?)
  let severityLevel ← fs.withDefault? 1 "severityLevel" .all (toChoice? Level.ofName?)
  let maxErrors ← fs.withDefault? 2 "maxErrors" none (toOption? toNat?)
  let timeout ← fs.withDefault? 3 "timeout" none (toOption? toNat?)
  let allowPartial ← fs.withDefault? 4 "allowPartial" false toBool?
  let rules ← fs.withDefault? 5 "rules" {} toRuleSettings?
  let script ← fs.withDefault? 6 "script" {} toScriptSettings?
  return { ignorePatterns, severityLevel, maxErrors, timeout, allowPartial, rules, script }

end PageLint.Json
