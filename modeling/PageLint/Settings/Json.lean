import PageLint.Options
import PageLint.Settings.Token

/-!
Settings in JSON. The text is read in one go from left to right, so of two things that are wrong the
first one is told, be it of form or of meaning.
-/
namespace PageLint.Settings

open Json (skipSpace)

/-! ## Values -/

/-- What is wrong with a value that should have been `expected`. -/
def mismatch (expected : String) (t : Text) : Failure :=
  let wrong (found : Found) (rest : Text) : Failure := .here (.wrongType found expected) rest
  let after (r : Except Failure Failure) : Failure := match r with
    | .ok f => f
    | .error f => f
  match t with
  | [] => .next .expectedValue []
  | c :: rest =>
    if c = 'n' then after ((word "ull".toList rest).map (wrong .null))
    else if c = 't' then after ((word "rue".toList rest).map (wrong (.bool true)))
    else if c = 'f' then after ((word "alse".toList rest).map (wrong (.bool false)))
    else if c = '-' then after ((number true rest).map fun (n, rest) => wrong n.found rest)
    else if Text.isAsciiDigit c then
      after ((number false t).map fun (n, rest) => wrong n.found rest)
    else if c = '"' then
      after ((stringRest rest).map fun (s, rest) => wrong (.string s.quoted) rest)
    else if c = '[' then wrong .list t
    else if c = '\x7b' then wrong .object t
    else .next .expectedValue t

/-- The reader of a value, which is given the first character and the text behind it. -/
def value (f : Char → Reader α) : Reader α := fun t =>
  match skipSpace t with
  | [] => .error (.next .endInValue [])
  | c :: rest => f c rest

def boolean : Reader Bool := value fun c rest =>
  if c = 't' then (word "rue".toList rest).map fun rest => (true, rest)
  else if c = 'f' then (word "alse".toList rest).map fun rest => (false, rest)
  else .error (mismatch "a boolean" (c :: rest))

def string (expected : String) : Reader Text := value fun c rest =>
  if c = '"' then stringRest rest else .error (mismatch expected (c :: rest))

/-- A natural number of 64 bits. -/
def natural (expected : String) : Reader Nat := value fun c rest => do
  let (n, rest) ←
    if c = '-' then number true rest
    else if Text.isAsciiDigit c then number false (c :: rest)
    else .error (mismatch expected (c :: rest))
  match n with
  | .natural n => return (n, rest)
  | .negative _ => throw (.here (.wrongValue n.found expected) rest)
  | .real .. => throw (.here (.wrongType n.found expected) rest)

/-- A value that may be null. -/
def optional (f : Reader α) : Reader (Option α) := fun t =>
  match skipSpace t with
  | 'n' :: rest => (word "ull".toList rest).map fun rest => (none, rest)
  | t => (f t).map fun (a, rest) => (some a, rest)

/-- The name of a choice, where only the known ones are allowed. -/
def choiceName (ofName? : String → Option α) (known : List String) : Reader α := fun t => do
  let (name, rest) ← string "variant identifier" t
  match ofName? (String.ofList name) with
  | some a => return (a, rest)
  | none => throw (.here (.unknownChoice name known) rest)

/-- The text behind a colon. -/
def colon (t : Text) : Except Failure Text :=
  match skipSpace t with
  | [] => .error (.next .endInObject [])
  | ':' :: rest => .ok rest
  | rest => .error (.next .expectedColon rest)

def null : Reader Unit := value fun c rest =>
  if c = 'n' then (word "ull".toList rest).map fun rest => ((), rest)
  else .error (mismatch "unit" (c :: rest))

/-- One of a set of names. A name may also be the only member of an object, with null for its
value. -/
def choice (ofName? : String → Option α) (known : List String) : Reader α := value fun c rest =>
  if c = '"' then choiceName ofName? known (c :: rest)
  else if c = '\x7b' then do
    let (a, rest) ← choiceName ofName? known rest
    let (_, rest) ← null (← colon rest)
    match skipSpace rest with
    | [] => throw (.here .endInObject [])
    | '\x7d' :: rest => return (a, rest)
    | rest => throw (.here .expectedValue rest)
  else .error (.next .expectedValue (c :: rest))

/-! ## Lists and objects -/

/-- Whether another element comes, and the text from it on. -/
def nextElement (isFirst : Bool) : Reader Bool := fun t =>
  match skipSpace t with
  | [] => .error (.next .endInList [])
  | ']' :: rest => .ok (false, ']' :: rest)
  | c :: rest =>
    if isFirst then .ok (true, c :: rest)
    else if c = ',' then
      match skipSpace rest with
      | [] => .error (.next .endInValue [])
      | ']' :: rest => .error (.next .trailingComma (']' :: rest))
      | rest => .ok (true, rest)
    else .error (.next .expectedCommaOrBracket (c :: rest))

/-- The text behind the end of a list. -/
def listEnd (t : Text) : Except Failure Text :=
  match skipSpace t with
  | [] => .error (.next .endInList [])
  | ']' :: rest => .ok rest
  | ',' :: rest =>
    match skipSpace rest with
    | ']' :: rest => .error (.next .trailingComma (']' :: rest))
    | rest => .error (.next .trailingCharacters rest)
  | rest => .error (.next .trailingCharacters rest)

/-- The next key of an object, if there is one, and the text from behind its closing quote. -/
def nextKey (isFirst : Bool) : Reader (Option Text) := fun t =>
  let key (t : Text) : Except Failure (Option Text × Text) :=
    match t with
    | '"' :: rest => (stringRest rest).map fun (k, rest) => (some k, rest)
    | rest => .error (.next .keyNotString rest)
  match skipSpace t with
  | [] => .error (.next .endInObject [])
  | '\x7d' :: rest => .ok (none, '\x7d' :: rest)
  | c :: rest =>
    if isFirst then key (c :: rest)
    else if c = ',' then
      match skipSpace rest with
      | [] => .error (.next .endInValue [])
      | '\x7d' :: rest => .error (.next .trailingComma ('\x7d' :: rest))
      | rest => key rest
    else .error (.next .expectedCommaOrBrace (c :: rest))

/-- The text behind the end of an object. -/
def objectEnd (t : Text) : Except Failure Text :=
  match skipSpace t with
  | [] => .error (.next .endInObject [])
  | '\x7d' :: rest => .ok rest
  | ',' :: rest => .error (.next .trailingComma (',' :: rest))
  | rest => .error (.next .trailingCharacters rest)

/-- The elements of a list. Every round takes a character, so `fuel` may be the length of the
text. -/
def elements (f : Reader α) (isFirst : Bool) : (fuel : Nat) → Reader (List α)
  | 0, t => .error (.here .endInList t)
  | fuel + 1, t => do
    let (more, rest) ← nextElement isFirst t
    if !more then return ([], rest)
    let (a, rest) ← f rest
    let (as, rest) ← elements f false fuel rest
    return (a :: as, rest)

def list (f : Reader α) : Reader (List α) := value fun c rest =>
  if c = '[' then do
    let (as, rest) ← elements f true (rest.length + 1) rest
    return (as, ← listEnd rest)
  else .error (mismatch "a sequence" (c :: rest))

/-- The members of an object, of which all have values of one kind. -/
def members (f : Reader α) (isFirst : Bool) : (fuel : Nat) → Reader (List (Text × α))
  | 0, t => .error (.here .endInObject t)
  | fuel + 1, t => do
    let (key, rest) ← nextKey isFirst t
    match key with
    | none => return ([], rest)
    | some key =>
      let (a, rest) ← f (← colon rest)
      let (more, rest) ← members f false fuel rest
      return ((key, a) :: more, rest)

def map (f : Reader α) : Reader (List (Text × α)) := value fun c rest =>
  if c = '\x7b' then do
    let (entries, rest) ← members f true (rest.length + 1) rest
    return (entries, ← objectEnd rest)
  else .error (mismatch "a map" (c :: rest))

/-! ## Structures -/

/-- A field of a structure: its name, and how its value is read into the structure. -/
structure Field (σ : Type) where
  name : String
  read : σ → Reader σ

/-- A field that is set to what a reader takes. -/
def Field.of (name : String) (f : Reader α) (set : σ → α → σ) : Field σ :=
  ⟨name, fun s t => (f t).map fun (a, rest) => (set s a, rest)⟩

/-- The fields of a structure in a list, in their order; those that are missing at the end keep what
they have. -/
def placedFields (s : σ) (isFirst : Bool) : List (Field σ) → Reader σ
  | [], t => .ok (s, t)
  | field :: fields, t => do
    let (more, rest) ← nextElement isFirst t
    if !more then return (s, rest)
    let (s, rest) ← field.read s rest
    placedFields s false fields rest

/-- A key that comes twice is told with the place behind the end of its object, if that is next. -/
def duplicate (name : String) (t : Text) : Failure :=
  match skipSpace t with
  | '\x7d' :: rest => .here (.duplicateField name) rest
  | rest => .here (.duplicateField name) rest

/-- The fields of a structure by name, each at most once. Other members are passed over. -/
def namedFields (fields : List (Field σ)) (seen : List String) (s : σ) (isFirst : Bool) :
    (fuel : Nat) → Reader σ
  | 0, t => .error (.here .endInObject t)
  | fuel + 1, t => do
    let (key, rest) ← nextKey isFirst t
    match key with
    | none => return (s, rest)
    | some key =>
      match fields.find? (·.name == String.ofList key) with
      | some field =>
        if seen.contains field.name then throw (duplicate field.name rest)
        let (s, rest) ← field.read s (← colon rest)
        namedFields fields (field.name :: seen) s false fuel rest
      | none =>
        let rest ← colon rest
        let rest ← skipValue (2 * rest.length + 2) rest
        namedFields fields seen s false fuel rest

/-- A structure, from an object or from a list. -/
def fields (expected : String) (default : σ) (fields : List (Field σ)) : Reader σ :=
  value fun c rest =>
    if c = '[' then do
      let (s, rest) ← placedFields default true fields rest
      return (s, ← listEnd rest)
    else if c = '\x7b' then do
      let (s, rest) ← namedFields fields [] default true (rest.length + 1) rest
      return (s, ← objectEnd rest)
    else .error (mismatch expected (c :: rest))

/-! ## Options -/

def severity : Reader Severity :=
  choice Severity.ofName? ["suggestion", "warning", "error"]

def level : Reader Level :=
  choice Level.ofName? ["error", "warning", "suggestion", "all"]

def strings : Reader (List String) := fun t =>
  (list (string "a string") t).map fun (ss, rest) => (ss.map String.ofList, rest)

def overrides : Reader Overrides := fun t =>
  (map severity t).map fun (entries, rest) =>
    (entries.foldl (fun o (rule, s) => o.insert (String.ofList rule) s) ([] : Overrides), rest)

def ruleSettings : Reader RuleSettings :=
  fields "struct RulesConfig" {}
    [.of "disabled" strings fun s a => { s with disabled := a },
     .of "severity" overrides fun s a => { s with severity := a }]

def scriptSettings : Reader ScriptSettings :=
  fields "struct ScriptConfig" {} [.of "heuristics" boolean fun s a => { s with heuristics := a }]

def options : Reader Options :=
  fields "struct CheckOptions" {}
    [.of "ignorePatterns" strings fun o a => { o with ignorePatterns := a },
     .of "severityLevel" level fun o a => { o with severityLevel := a },
     .of "maxErrors" (optional (natural "usize")) fun o a => { o with maxErrors := a },
     .of "timeout" (optional (natural "u64")) fun o a => { o with timeout := a },
     .of "allowPartial" boolean fun o a => { o with allowPartial := a },
     .of "rules" ruleSettings fun o a => { o with rules := a },
     .of "script" scriptSettings fun o a => { o with script := a }]

/-- The options in a whole JSON text. -/
def ofJson (source : Text) : Except Failure Options := do
  let (o, rest) ← options source
  match skipSpace rest with
  | [] => return o
  | rest => throw (.next .trailingCharacters rest)

end PageLint.Settings
