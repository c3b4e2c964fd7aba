import PageLint.Style.Block
import PageLint.Text.Scan

/-!
The variables, mixins and placeholders of the Sass and Less dialects, found in a masked style sheet
by the marks in front of their names.
-/
namespace PageLint.Style

/-- A name with the bytes it covers. -/
structure Symbol where
  name : Text
  start : Nat
  stop : Nat
  deriving DecidableEq, Repr

namespace Symbol

open Text (Pattern)

/-! ## Patterns -/

def isNameStart (c : Char) : Bool := Text.isAsciiLetter c || c = '_'

def isNameChar (c : Char) : Bool := Text.isWord c || c = '-'

/-- A name that starts with a letter, and the text behind it. -/
def name? (t : Text) : Option (Text × Text) :=
  if t.head?.any isNameStart then some (t.takeWhile isNameChar, t.dropWhile isNameChar) else none

/-- A name that may start with any of its characters, and the text behind it. -/
def looseName? (t : Text) : Option (Text × Text) :=
  if t.head?.any isNameChar then some (t.takeWhile isNameChar, t.dropWhile isNameChar) else none

/-- A mark with a name behind it. -/
def marked (mark : Char) : Pattern Text := fun _ t => do
  let rest ← Text.dropWord? [mark] t
  let (name, rest) ← name? rest
  return Text.took t rest name

/-- A mark with a name behind it and one of some characters behind that. -/
def markedBefore (mark : Char) (enders : List Char) : Pattern Text := fun _ t => do
  let rest ← Text.dropWord? [mark] t
  let (name, rest) ← name? rest
  match Text.trimStart rest with
  | c :: rest => if enders.contains c then return Text.took t rest name else none
  | [] => none

/-- A rule with white space, a mark and a name behind it: the part in front of the name, and the
name. -/
def ruleName (rule : String) (mark : Text) : Pattern (Text × Text) := fun _ t => do
  let rest ← Text.dropWord? rule.toList t
  let rest ← Text.dropBlanks? rest
  let rest ← Text.dropWord? mark rest
  let (name, behind) ← looseName? rest
  return Text.took t behind (t.take (t.length - rest.length), name)

/-- The text between parentheses, up to the first closing one, and the text behind it. -/
def parameters? (t : Text) : Option (Text × Text) :=
  match t with
  | '(' :: rest =>
    match rest.dropWhile (· != ')') with
    | [] => none
    | _ :: behind => some (rest.takeWhile (· != ')'), behind)
  | _ => none

/-- The parameters of a mixin or function. -/
def signature : Pattern Text := fun _ t => do
  let rest ← Text.dropWord? "@mixin".toList t <|> Text.dropWord? "@function".toList t
  let rest ← Text.dropBlanks? rest
  let (_, rest) ← looseName? rest
  let (params, rest) ← parameters? (Text.trimStart rest)
  return Text.took t rest params

/-- The text behind `in` or `from` as a whole word. -/
def dropIterator? (t : Text) : Option Text :=
  let whole (rest : Text) := if rest.head?.any Text.isWord then none else some rest
  (Text.dropWord? "in".toList t).bind whole <|> (Text.dropWord? "from".toList t).bind whole

/-- The text up to white space and the word that names what is iterated over, none of it a brace,
and the text behind. -/
def untilIterator? : Text → Option (Text × Text)
  | [] => none
  | c :: t =>
    match (Text.dropBlanks? (c :: t)).bind dropIterator? with
    | some rest => some ([], rest)
    | none =>
      if c = '{' then none
      else (untilIterator? t).map fun (front, rest) => (c :: front, rest)

/-- The variables of a loop. With none, more than one white space is in front of the iterator. -/
def loopHead : Pattern Text := fun _ t => do
  let rest ← Text.dropWord? "@each".toList t <|> Text.dropWord? "@for".toList t
  let head ← Text.dropBlanks? rest
  match untilIterator? head with
  | some (front, behind) => return Text.took t behind front
  | none =>
    if head.length + 2 ≤ rest.length then
      let behind ← dropIterator? head
      return Text.took t behind []
    else none

/-- The parameters of a mixin that is written as a rule for a class or an id: it starts a line, and
a block follows. -/
def ruleSignature : Pattern Text := fun previous t =>
  if previous.all (· == '\n') then do
    let rest ← match Text.trimStart t with
      | '.' :: rest | '#' :: rest => some rest
      | _ => none
    let (_, rest) ← looseName? rest
    let (params, rest) ← parameters? (Text.trimStart rest)
    match rest.dropWhile fun c => c != '{' && c != '}' && c != ';' with
    | '{' :: behind => return Text.took t behind params
    | _ => none
  else none

/-! ## Symbols -/

/-- The uses of names behind a mark, in a text at offset `n`; the mark belongs to them. -/
def uses (mark : Char) (n : Nat) (t : Text) : List Symbol :=
  (Text.matchesFrom (marked mark) n none 0 t).map fun (start, name) =>
    { name, start, stop := start + Text.size (mark :: name) }

/-- The names that occur behind a mark. -/
def namesIn (mark : Char) (t : Text) : List Text :=
  (Text.matchesOf (marked mark) t).map (·.2)

def names (p : Pattern Text) (t : Text) : List Text := (Text.matchesOf p t).map (·.2)

/-- The names behind a rule, without the mark in front of them. -/
def ruleUses (rule : String) (mark : Text) (t : Text) : List Symbol :=
  (Text.matchesOf (ruleName rule mark) t).map fun (n, front, name) =>
    { name, start := n + Text.size front, stop := n + Text.size front + Text.size name }

/-- Sass variables that have a value, are a parameter or run through a loop. -/
def sassVariables (masked : Text) : List Text :=
  names (markedBefore '$' [':']) masked ++
    (names signature masked ++ names loopHead masked).flatMap (namesIn '$')

def undefinedSassVariables (masked : Text) : List Symbol :=
  let defined := sassVariables masked
  (uses '$' 0 masked).filter (!defined.contains ·.name)

def undefinedMixins (masked : Text) : List Symbol :=
  let defined := (ruleUses "@mixin" [] masked).map (·.name)
  (ruleUses "@include" [] masked).filter (!defined.contains ·.name)

/-- Placeholders that are extended although no rule has them; the mark belongs to them. -/
def undefinedPlaceholders (masked : Text) : List Symbol :=
  let defined := names (markedBefore '%' [',', '{']) masked
  ((ruleUses "@extend" ['%'] masked).filter (!defined.contains ·.name)).map fun s =>
    { s with start := s.start - 1 }

/-- Less variables that have a value or are a parameter. -/
def lessVariables (masked : Text) : List Text :=
  names (markedBefore '@' [':']) masked ++ (names ruleSignature masked).flatMap (namesIn '@')

/-- Less variables are looked for in the values of declarations only: elsewhere the mark starts a
rule. -/
def undefinedLessVariables (masked : Text) (ds : List Declaration) : List Symbol :=
  let defined := lessVariables masked
  ds.flatMap fun d => (uses '@' d.valueStart d.value).filter (!defined.contains ·.name)

end Symbol

end PageLint.Style
