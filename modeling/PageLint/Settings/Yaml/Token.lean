import PageLint.Settings.Yaml.Scalar

/-!
The tokens of a YAML text. Indentation is told by tokens of its own, and a key is marked in front
although only the colon behind it shows that it is one.
-/
namespace PageLint.Yaml

inductive Token where
  /-- A directive in front of a document; the version of the format may be given once. -/
  | directive (isVersion : Bool)
  | documentStart
  | documentEnd
  | blockSequence
  | blockMapping
  | blockEnd
  | flowSequence
  | flowSequenceEnd
  | flowMapping
  | flowMappingEnd
  | blockEntry
  | flowEntry
  | key
  | value
  | alias (name : Text)
  | anchor (name : Text)
  | tag (text : Text)
  | scalar (text : Text) (isPlain : Bool)
  deriving DecidableEq, Repr

/-- What may turn out to be a key: the number of its first token, its place, and whether nothing
else can stand there. -/
structure KeyCandidate where
  token : Nat
  line : Nat
  column : Nat
  /-- The number of characters from its start to the end of the text. -/
  left : Nat
  isRequired : Bool
  deriving DecidableEq, Repr

/-- Where the tokens have come to. -/
structure Scan where
  place : Cursor
  tokens : Array Token := #[]
  /-- The column of the innermost block collection, -1 outside of all. -/
  indent : Int := -1
  /-- The columns of the collections around it. -/
  outer : List Int := []
  /-- The candidates for keys, one for every open bracket and one for the block, innermost
  first. -/
  keys : List (Option KeyCandidate) := [none]
  isKeyAllowed : Bool := true
  deriving DecidableEq, Repr

namespace Scan

def inFlow (s : Scan) : Bool := s.keys.length > 1

def add (s : Scan) (t : Token) : Scan := { s with tokens := s.tokens.push t }

/-- Goes on behind `n` characters. -/
def skip (s : Scan) (n : Nat) : Scan := { s with place := s.place.skip n }

/-! ## Keys -/

/-- A key is within one line and 1024 characters. -/
def KeyCandidate.isFresh (k : KeyCandidate) (p : Cursor) : Bool :=
  k.line = p.line && k.left ≤ p.rest.length + 1024

/-- Gives up a candidate. -/
def dropKey? (k : Option KeyCandidate) : Option (Option KeyCandidate) :=
  match k with
  | some k => if k.isRequired then none else some none
  | none => some none

/-- Gives up the candidates that are too far behind. -/
def dropStaleKeys? (s : Scan) : Option Scan := do
  let keys ← s.keys.mapM fun k =>
    match k with
    | some k => if KeyCandidate.isFresh k s.place then some (some k) else dropKey? (some k)
    | none => some none
  return { s with keys }

/-- Gives up the innermost candidate. -/
def removeKey? (s : Scan) : Option Scan :=
  match s.keys with
  | [] => some s
  | k :: rest => (dropKey? k).map fun k => { s with keys := k :: rest }

/-- Takes what comes next as a candidate, if a key is allowed here. -/
def saveKey? (s : Scan) : Option Scan :=
  if s.isKeyAllowed then do
    let s ← s.removeKey?
    let k : KeyCandidate :=
      { token := s.tokens.size
        line := s.place.line
        column := s.place.column
        left := s.place.rest.length
        isRequired := !s.inFlow && s.indent = s.place.column }
    return { s with keys := some k :: s.keys.drop 1 }
  else some s

/-! ## Indentation -/

/-- Opens a block collection at a column, unless one is open there. -/
def openBlock (s : Scan) (column : Nat) (t : Token) (at? : Option Nat) : Scan :=
  if s.inFlow || (column : Int) ≤ s.indent then s
  else
    { s with
      outer := s.indent :: s.outer
      indent := column
      tokens := match at? with
        | none => s.tokens.push t
        | some n => s.tokens.insertIdxIfInBounds n t }

/-- Closes the block collections that are indented by more than `column`. -/
def closeBlocks (fuel : Nat) (s : Scan) (column : Int) : Scan :=
  match fuel with
  | 0 => s
  | fuel + 1 =>
    if s.inFlow || s.indent ≤ column then s
    else
      closeBlocks fuel
        { s.add .blockEnd with indent := s.outer.head?.getD (-1), outer := s.outer.drop 1 } column

def closeTo (s : Scan) (column : Int) : Scan := s.closeBlocks s.outer.length column

/-! ## Tokens -/

/-- A mark that ends everything in front of it. -/
def documentMark? (s : Scan) (t : Token) (n : Nat) : Option Scan := do
  let s ← (s.closeTo (-1)).removeKey?
  return ({ s with isKeyAllowed := false }.add t).skip n

def openFlow? (s : Scan) (t : Token) : Option Scan := do
  let s ← s.saveKey?
  return ({ s with keys := none :: s.keys, isKeyAllowed := true }.add t).skip 1

/-- The candidate of the block itself always stays. -/
def closeFlow? (s : Scan) (t : Token) : Option Scan := do
  let s ← s.removeKey?
  let keys := if s.inFlow then s.keys.drop 1 else s.keys
  return ({ s with keys, isKeyAllowed := false }.add t).skip 1

def flowComma? (s : Scan) : Option Scan := do
  let s ← s.removeKey?
  return ({ s with isKeyAllowed := true }.add .flowEntry).skip 1

def blockItem? (s : Scan) : Option Scan := do
  if !s.inFlow && !s.isKeyAllowed then none
  let s ← (s.openBlock s.place.column .blockSequence none).removeKey?
  return ({ s with isKeyAllowed := true }.add .blockEntry).skip 1

def key? (s : Scan) : Option Scan := do
  if !s.inFlow && !s.isKeyAllowed then none
  let s ← (s.openBlock s.place.column .blockMapping none).removeKey?
  return ({ s with isKeyAllowed := !s.inFlow }.add .key).skip 1

/-- A colon makes a key of the candidate in front of it. -/
def value? (s : Scan) : Option Scan :=
  match s.keys with
  | some k :: rest =>
    let s := { s with
      keys := none :: rest
      tokens := s.tokens.insertIdxIfInBounds k.token .key
      isKeyAllowed := false }
    some (((s.openBlock k.column .blockMapping (some k.token)).add .value).skip 1)
  | _ => do
    if !s.inFlow && !s.isKeyAllowed then none
    let s := s.openBlock s.place.column .blockMapping none
    return ({ s with isKeyAllowed := !s.inFlow }.add .value).skip 1

/-- What may follow the name of an anchor at once. -/
def endsName (t : Text) : Bool :=
  endsWord t || t.head?.any ['?', ':', ',', ']', '\x7d', '%', '@', '\x60'].contains

def name? (s : Scan) (t : Text → Token) : Option Scan := do
  let s ← s.saveKey?
  let name := (s.place.rest.drop 1).takeWhile isNameChar
  let s := s.skip (name.length + 1)
  if name.isEmpty || !endsName s.place.rest then none
  return { s with isKeyAllowed := false }.add (t name)

/-- A character of a tag. -/
def isTagChar (inFlow : Bool) (c : Char) : Bool :=
  isNameChar c || ";/?:@&=+$.!~*'()%".toList.contains c ||
    (!inFlow && [',', '[', ']'].contains c)

/-- A tag, in angle brackets or up to the next blank. -/
def tag? (s : Scan) : Option Scan := do
  let s ← s.saveKey?
  let p := s.place
  let (text, p) ←
    if (p.rest.drop 1).head? = some '<' then
      let uri := (p.rest.drop 2).takeWhile (isTagChar false)
      let p := p.skip (uri.length + 2)
      if uri.isEmpty || !p.isAt '>' then none else some (uri, p.skip 1)
    else
      let text := '!' :: (p.rest.drop 1).takeWhile (isTagChar s.inFlow)
      some (text, p.skip text.length)
  if !endsWord p.rest && !(s.inFlow && p.isAt ',') then none
  return { s with place := p, isKeyAllowed := false }.add (.tag text)

def block? (s : Scan) (isLiteral : Bool) : Option Scan := do
  let s ← s.removeKey?
  let (text, p) ← Yaml.block? isLiteral s.indent (s.place.skip 1)
  return { s with place := p, isKeyAllowed := true }.add (.scalar text false)

def quoted? (s : Scan) (isSingle : Bool) : Option Scan := do
  let s ← s.saveKey?
  let (text, p) ← Yaml.quoted? isSingle (s.place.rest.length + 1) (s.place.skip 1)
  return { s with place := p, isKeyAllowed := false }.add (.scalar text false)

def plain? (s : Scan) : Option Scan := do
  let s ← s.saveKey?
  let (text, p, isOnNewLine) ←
    plainRest? s.inFlow (s.indent + 1).toNat (s.place.rest.length + 1) [] {} s.place
  return { s with place := p, isKeyAllowed := isOnNewLine }.add (.scalar text true)

/-- A version of the format that can be read: 1.1 or 1.2. -/
def isVersion (t : Text) : Bool := t = "1.1".toList || t = "1.2".toList

/-- A directive takes the rest of its line. -/
def directive? (s : Scan) : Option Scan := do
  let s ← (s.closeTo (-1)).removeKey?
  let line := (s.place.rest.drop 1).takeWhile fun c => !isBreak c
  let words := ((Text.splitWhere isBlank line).filter (!·.isEmpty)).takeWhile
    (·.head? != some '#')
  let t ← match words with
    | [name, version] =>
      if name = "YAML".toList && isVersion version then some (Token.directive true) else none
    | [name, handle, _] =>
      if name = "TAG".toList && handle.head? = some '!' then some (.directive false) else none
    | _ => none
  return { s with place := s.place.skipToBreak, isKeyAllowed := false }.add t

/-! ## The next token -/

/-- Passes over blanks, comments and line breaks. A tab does not count as a blank where a key could
start. -/
def toNext (fuel : Nat) (s : Scan) : Scan :=
  match fuel with
  | 0 => s
  | fuel + 1 =>
    let p := s.place.skipWhile fun c => c = ' ' || ((s.inFlow || !s.isKeyAllowed) && c = '\t')
    let p := if p.isAt '#' then p.skipToBreak else p
    if p.isAtBreak then
      toNext fuel { s with place := p.skipBreak, isKeyAllowed := !s.inFlow || s.isKeyAllowed }
    else { s with place := p }

/-- Characters that no plain scalar starts with. -/
def marks : List Char :=
  ['-', '?', ':', ',', '[', ']', '\x7b', '\x7d', '#', '&', '*', '!', '|', '>', '\'', '"', '%', '@',
   '\x60']

/-- A plain scalar starts here. -/
def startsPlain (inFlow : Bool) (c : Char) (rest : Text) : Bool :=
  !(isBlank c || isBreak c || marks.contains c) ||
    (c = '-' && !rest.head?.any isBlank) ||
    (!inFlow && (c = '?' || c = ':') && !endsWord rest)

/-- The token that starts with `c`. -/
def token? (s : Scan) (c : Char) (rest : Text) : Option Scan :=
  if s.place.column = 0 && c = '%' then s.directive?
  else if s.place.isAtDocument "---".toList then s.documentMark? .documentStart 3
  else if s.place.isAtDocument "...".toList then s.documentMark? .documentEnd 3
  else if c = '[' then s.openFlow? .flowSequence
  else if c = '\x7b' then s.openFlow? .flowMapping
  else if c = ']' then s.closeFlow? .flowSequenceEnd
  else if c = '\x7d' then s.closeFlow? .flowMappingEnd
  else if c = ',' then s.flowComma?
  else if c = '-' && endsWord rest then s.blockItem?
  else if c = '?' && (s.inFlow || endsWord rest) then s.key?
  else if c = ':' && (s.inFlow || endsWord rest) then s.value?
  else if c = '*' then s.name? .alias
  else if c = '&' then s.name? .anchor
  else if c = '!' then s.tag?
  else if c = '|' && !s.inFlow then s.block? true
  else if c = '>' && !s.inFlow then s.block? false
  else if c = '\'' then s.quoted? true
  else if c = '"' then s.quoted? false
  else if startsPlain s.inFlow c rest then s.plain?
  else none

/-- All tokens. Every round takes a character, so `fuel` may be the length of the text. -/
def run? (fuel : Nat) (s : Scan) : Option (List Token) :=
  match fuel with
  | 0 => none
  | fuel + 1 => do
    let s ← (s.toNext (s.place.rest.length + 1)).dropStaleKeys?
    let s := s.closeTo s.place.column
    match s.place.rest with
    | [] => ((s.closeTo (-1)).removeKey?).map (·.tokens.toList)
    | c :: rest => run? fuel (← s.token? c rest)

end Scan

/-- The tokens of a text. A mark of its byte order may stand in front. -/
def tokens? (t : Text) : Option (List Token) :=
  let t := match t with
    | '\uFEFF' :: rest => rest
    | t => t
  if t.all isAllowed then Scan.run? (t.length + 2) { place := { rest := t } } else none

end PageLint.Yaml
