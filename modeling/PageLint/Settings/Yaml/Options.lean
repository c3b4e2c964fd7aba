import PageLint.Number.Natural
import PageLint.Options
import PageLint.Settings.Yaml.Node

/-! Settings in YAML. -/
namespace PageLint.Yaml

/-! ## Scalars -/

def isNullText (t : Text) : Bool :=
  ["~", "null", "Null", "NULL"].any (·.toList = t)

/-- Digits with a zero in front are no number. -/
def isZeroLed (t : Text) : Bool :=
  t.length > 1 && t.head? = some '0' && t.all Text.isAsciiDigit

def hasSign (t : Text) : Bool := t.head?.any fun c => c = '+' || c = '-'

/-- A number of a base behind the letters that announce it. -/
def based? (mark : String) (base : Nat) (t : Text) : Option Nat := do
  let rest ← Text.dropWord? mark.toList t
  if hasSign rest then none else natural? base rest

/-- A natural number: decimal, or with a mark in front hexadecimal, octal or binary. -/
def natText? (t : Text) : Option Nat :=
  let unsigned := if t.head? = some '+' then t.drop 1 else t
  based? "0x" 16 unsigned <|> based? "0o" 8 unsigned <|> based? "0b" 2 unsigned <|>
    if hasSign unsigned || isZeroLed unsigned then none else natural? 10 unsigned

def boolText? (t : Text) : Option Bool :=
  if ["true", "True", "TRUE"].any (·.toList = t) then some true
  else if ["false", "False", "FALSE"].any (·.toList = t) then some false
  else none

/-! ## Values -/

namespace Node

/-- Nothing is written. -/
def isVoid : Node → Bool
  | scalar [] true _ => true
  | _ => false

def toText? : Node → Option Text
  | scalar text _ _ => some text
  | _ => none

def toNat? : Node → Option Nat
  | scalar text true _ => natText? text
  | _ => none

def toBool? : Node → Option Bool
  | scalar text true _ => boolText? text
  | _ => none

/-- A value that may be null. With a tag it is one only if the tag says so. -/
def toOption? (f : Node → Option α) (n : Node) : Option (Option α) :=
  match n with
  | scalar text true none =>
    if text.isEmpty || isNullText text then some none else (f n).map some
  | scalar text true (some tag) =>
    if tag = "!!null".toList then if isNullText text then some none else none
    else (f n).map some
  | _ => (f n).map some

/-- One of a set of names. It may also be the tag of an empty value. -/
def toChoice? (ofName? : String → Option α) : Node → Option α
  | scalar text isPlain (some ('!' :: name)) =>
    if name.head? = some '!' then ofName? (String.ofList text)
    else if isPlain && (text.isEmpty || isNullText text) then ofName? (String.ofList name)
    else none
  | scalar text _ _ => ofName? (String.ofList text)
  | _ => none

def toList? (f : Node → Option α) (n : Node) : Option (List α) :=
  match n with
  | sequence items => items.mapM f
  | n => if n.isVoid then some [] else none

/-- The entries of a mapping whose keys are names. -/
def toEntries? (n : Node) : Option (List (String × Node)) :=
  match n with
  | mapping entries => entries.mapM fun (k, v) => k.toText?.map fun k => (String.ofList k, v)
  | n => if n.isVoid then some [] else none

/-- The fields of a structure, each at most once. -/
def toFields? (known : List String) (n : Node) : Option (List (String × Node)) := do
  let fields := (← n.toEntries?).filter fun (k, _) => known.contains k
  if (fields.map (·.1)).Nodup then some fields else none

end Node

/-- The value of a field, or what it is without one. -/
def field? (fields : List (String × Node)) (name : String) (default : α) (f : Node → Option α) :
    Option α :=
  match fields.lookup name with
  | none => some default
  | some n => f n

/-! ## Options -/

def strings? (n : Node) : Option (List String) :=
  (n.toList? Node.toText?).map fun ts => ts.map String.ofList

def overrides? (n : Node) : Option Overrides := do
  (← n.toEntries?).foldlM (fun o (rule, v) => do
    return o.insert rule (← v.toChoice? Severity.ofName?)) ([] : Overrides)

def ruleSettings? (n : Node) : Option RuleSettings := do
  let fs ← n.toFields? ["disabled", "severity"]
  let disabled ← field? fs "disabled" [] strings?
  let severity ← field? fs "severity" ([] : Overrides) overrides?
  return { disabled, severity }

def scriptSettings? (n : Node) : Option ScriptSettings := do
  let fs ← n.toFields? ["heuristics"]
  let heuristics ← field? fs "heuristics" true Node.toBool?
  return { heuristics }

def options? (n : Node) : Option Options := do
  let fs ← n.toFields? ["ignorePatterns", "severityLevel", "maxErrors", "timeout", "allowPartial",
    "rules", "script"]
  let ignorePatterns ← field? fs "ignorePatterns" [] strings?
  let severityLevel ← field? fs "severityLevel" .all (Node.toChoice? Level.ofName?)
  let maxErrors ← field? fs "maxErrors" none (Node.toOption? Node.toNat?)
  let timeout ← field? fs "timeout" none (Node.toOption? Node.toNat?)
  let allowPartial ← field? fs "allowPartial" false Node.toBool?
  let rules ← field? fs "rules" {} ruleSettings?
  let script ← field? fs "script" {} scriptSettings?
  return { ignorePatterns, severityLevel, maxErrors, timeout, allowPartial, rules, script }

/-- The options in a whole YAML text. A text without a document leaves everything as it is. -/
def ofText? (t : Text) : Option Options :=
  match read? t with
  | none => none
  | some none => some {}
  | some (some n) => options? n

end PageLint.Yaml
