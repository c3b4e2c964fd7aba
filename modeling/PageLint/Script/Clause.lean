import PageLint.Script.Header

/-! Names in the patterns of declarations and in imports, read off the bare text. -/
namespace PageLint.Script

/-- A pattern that takes its values from a name. -/
structure Destructuring where
  names : List Text
  source : Text
  start : Nat
  stop : Nat
  deriving DecidableEq, Repr

namespace Destructuring

open Header (isNameStart isNameChar)

/-- The text behind the colon that makes a name the key of another one. -/
def dropColon? (t : Text) : Option Text := Text.dropWord? [':'] t.trimStart

/-- A name in a pattern, unless it is a key. -/
def boundName : Text.Pattern (Option Text) := fun _ t =>
  if t.head?.any isNameStart then
    let name := t.takeWhile isNameChar
    let rest := t.dropWhile isNameChar
    match dropColon? rest with
    | some behind => some (Text.took t behind none)
    | none => some (Text.took t rest (some name))
  else none

/-- The names that the inside of a pattern binds. -/
def boundNames (inside : Text) : List Text :=
  (inside.matchesOf boundName).filterMap (·.2)

/-- A statement may end here: at a semicolon, a line break or the end of the text. -/
def endsStatement (t : Text) : Bool :=
  (t.takeWhile Text.isBlank).contains '\n' ||
    match t.trimStart with
    | [] => true
    | c :: _ => c = ';'

/-- The name that alone is assigned, and the text from it on. -/
def assigned? (t : Text) : Option (Text × Text) := do
  let t := (← Text.dropWord? ['='] t.trimStart).trimStart
  if t.head?.any isNameStart && endsStatement (t.dropWhile isNameChar) then
    some (t.takeWhile isNameChar, t)
  else none

/-- The inside of a pattern, the name assigned to it, and the text from that name on. `inside` has
been passed, last character first. The pattern ends with the first `closer` that an assignment
follows; a semicolon ends the search. -/
def search? (closer : Char) (inside : Text) : Text → Option (Text × Text × Text)
  | [] => none
  | c :: t =>
    let later := if c = ';' then none else search? closer (c :: inside) t
    if c = closer then
      match assigned? t with
      | some (name, rest) => some (inside.reverse, name, rest)
      | none => later
    else later

/-- The pattern that a text starts with, if a name is assigned to it. The text starts at offset
`n`. -/
def read? (n : Nat) (t : Text) : Option Destructuring := do
  let (inside, source, rest) ←
    match t.trimStart with
    | '\x7b' :: t => search? '\x7d' [] t
    | '[' :: t => search? ']' [] t
    | _ => none
  let start := n + (t.size - rest.size)
  return ⟨boundNames inside, source, start, start + source.size⟩

end Destructuring

namespace ImportClause

/-- White space and the word `from` come next. -/
def endsHere (t : Text) : Bool :=
  match (Text.dropBlanks? t).bind (Text.dropWord? "from".toList) with
  | some rest => !rest.head?.any Text.isWord
  | none => false

/-- The text in front of the first white space with `from` behind it, without a semicolon. -/
def upToFrom? (t : Text) : Option Text :=
  if endsHere t then some []
  else match t with
    | [] => none
    | c :: rest => if c = ';' then none else (upToFrom? rest).map (c :: ·)

/-- The words that give a name. Of `a as b` that is the last one. -/
def givenNames : List Text → List Text
  | [] => []
  | word :: rest =>
    if rest.head? = some "as".toList || word = "as".toList || word = "type".toList then
      givenNames rest
    else word :: givenNames rest

/-- The names that an import gives, from the text behind its first word. -/
def names (t : Text) : List Text :=
  match (Text.dropBlanks? t).bind upToFrom? with
  | none => []
  | some clause =>
    givenNames ((clause.splitWhere fun c => !Header.isWordPart c).filter (!·.isEmpty))

end ImportClause

end PageLint.Script
