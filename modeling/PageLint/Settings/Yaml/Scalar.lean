import PageLint.Json.Read
import PageLint.Settings.Yaml.Cursor

/-!
The scalars of a YAML text: in quotes, in blocks of lines, and plain. White space around a line
break inside of one is folded: the break becomes a blank, and each empty line one break.
-/
namespace PageLint.Yaml

/-! ## Folding -/

/-- The white space between two words of a scalar. -/
structure Gap where
  blanks : Text := []
  /-- The first line break. -/
  first : Text := []
  /-- The line breaks behind it. -/
  more : Text := []
  /-- There is a line break, or an escape in place of one. -/
  isBroken : Bool := false
  deriving DecidableEq, Repr

/-- The white space as it counts in the scalar. -/
def Gap.folded (g : Gap) : Text :=
  if !g.isBroken then g.blanks
  else if g.first = ['\n'] then if g.more.isEmpty then [' '] else g.more
  else g.first ++ g.more

/-- The gap from `p` on, and the place behind it. Unless `indent` is 0, no tab may stand in front of
that column on a new line. -/
def gap? (indent : Nat) : (fuel : Nat) → Gap → Cursor → Option (Gap × Cursor)
  | 0, g, p => some (g, p)
  | fuel + 1, g, p =>
    match p.rest with
    | [] => some (g, p)
    | c :: _ =>
      if isBlank c then
        if g.isBroken && p.column < indent && c = '\t' then none
        else
          gap? indent fuel (if g.isBroken then g else { g with blanks := g.blanks ++ [c] }) (p.skip 1)
      else if isBreak c then
        let g :=
          if g.isBroken then { g with more := g.more ++ p.breakText }
          else { g with blanks := [], first := p.breakText, isBroken := true }
        gap? indent fuel g p.skipBreak
      else some (g, p)

/-! ## In quotes -/

/-- The character that a letter behind a backslash stands for. -/
def escaped? : Char → Option Char
  | '0' => some '\x00'
  | 'a' => some '\x07'
  | 'b' => some '\x08'
  | 't' | '\t' => some '\t'
  | 'n' => some '\n'
  | 'v' => some '\x0b'
  | 'f' => some '\x0c'
  | 'r' => some '\r'
  | 'e' => some '\x1b'
  | ' ' => some ' '
  | '"' => some '"'
  | '/' => some '/'
  | '\\' => some '\\'
  | 'N' => some '\u0085'
  | '_' => some '\u00A0'
  | 'L' => some '\u2028'
  | 'P' => some '\u2029'
  | _ => none

/-- The number of hexadecimal digits behind a letter that announces them. -/
def digitCount? : Char → Option Nat
  | 'x' => some 2
  | 'u' => some 4
  | 'U' => some 8
  | _ => none

def hexNumber? (ds : Text) : Option Nat :=
  ds.foldlM (fun n c => (Json.hexValue? c).map fun d => n * 16 + d) 0

/-- The character of an escape behind its backslash, and the number of characters that it takes. -/
def escape? (t : Text) : Option (Char × Nat) :=
  match t with
  | [] => none
  | c :: rest =>
    match digitCount? c with
    | none => (escaped? c).map fun u => (u, 1)
    | some n => do
      if rest.length < n then none
      let value ← hexNumber? (rest.take n)
      if 0x10FFFF < value || (0xD800 ≤ value && value < 0xE000) then none
      return (Char.ofNat value, n + 1)

/-- The text up to the closing quote, and the place behind it. A quote of the same kind inside of
single quotes is written twice. -/
def quoted? (isSingle : Bool) : (fuel : Nat) → Cursor → Option (Text × Cursor)
  | 0, _ => none
  | fuel + 1, p =>
    if p.isAtAnyDocument then none
    else match p.rest with
    | [] => none
    | c :: rest =>
      let join (front : Text) (p : Cursor) : Option (Text × Cursor) :=
        (quoted? isSingle fuel p).map fun (t, p) => (front ++ t, p)
      if isBlank c || isBreak c then do
        let (g, p) ← gap? 0 (rest.length + 1) {} p
        join g.folded p
      else if isSingle then
        if c = '\'' then if rest.head? = some '\'' then join [c] (p.skip 2) else some ([], p.skip 1)
        else join [c] (p.skip 1)
      else if c = '"' then some ([], p.skip 1)
      else if c = '\\' then
        if rest.head?.any isBreak then do
          let (g, p) ← gap? 0 (rest.length + 1) { isBroken := true } (p.skip 1).skipBreak
          join g.folded p
        else do
          let (u, n) ← escape? rest
          join [u] (p.skip (n + 1))
      else join [c] (p.skip 1)

/-! ## Plain -/

def flowMarks : List Char := [',', '[', ']', '\x7b', '\x7d']

/-- A plain scalar ends here, `none` if what comes next is an error. -/
def endsPlain? (inFlow : Bool) (t : Text) : Option Bool :=
  match t with
  | [] => some true
  | c :: rest =>
    if inFlow && c = ':' && rest.head?.any fun d => d = '?' || flowMarks.contains d then none
    else some ((c = ':' && endsWord rest) || (inFlow && flowMarks.contains c))

/-- The rest of a plain scalar behind the text `front`, which a gap separates from what comes, the
place behind the scalar, and whether that is on a new line. Lines that go on have to be indented by
`indent` columns. -/
def plainRest? (inFlow : Bool) (indent : Nat) :
    (fuel : Nat) → (front : Text) → Gap → Cursor → Option (Text × Cursor × Bool)
  | 0, front, g, p => some (front, p, g.isBroken)
  | fuel + 1, front, g, p =>
    let isNew := g.blanks ≠ [] || g.isBroken
    if (isNew || front.isEmpty) && (p.isAtAnyDocument || p.isAt '#') then
      some (front, p, g.isBroken)
    else match p.rest with
    | [] => some (front, p, g.isBroken)
    | c :: rest =>
      if isBlank c || isBreak c then do
        let (g, p) ← gap? indent (rest.length + 1) {} p
        if !inFlow && p.column < indent then return (front, p, g.isBroken)
        plainRest? inFlow indent fuel front g p
      else do
        if ← endsPlain? inFlow p.rest then return (front, p, g.isBroken)
        plainRest? inFlow indent fuel (front ++ g.folded ++ [c]) {} (p.skip 1)

/-! ## Blocks of lines -/

/-- What becomes of the line breaks at the end of a block. -/
inductive Chomping where
  | strip
  | clip
  | keep
  deriving DecidableEq, Repr

def chomping? : Char → Option Chomping
  | '+' => some .keep
  | '-' => some .strip
  | _ => none

/-- The indentation that a digit announces, which is not zero. -/
def increment? (c : Char) : Option Nat :=
  if '1' ≤ c && c ≤ '9' then some (c.toNat - 48) else none

/-- What stands behind the mark of a block: how it ends and its indentation, in either order. -/
def blockHeader (t : Text) : Chomping × Nat × Text :=
  match t with
  | [] => (.clip, 0, t)
  | c :: rest =>
    match chomping? c with
    | some chomping =>
      match rest.head?.bind increment? with
      | some n => (chomping, n, rest.drop 1)
      | none => (chomping, 0, rest)
    | none =>
      match increment? c with
      | some n =>
        match rest.head?.bind chomping? with
        | some chomping => (chomping, n, rest.drop 1)
        | none => (.clip, n, rest)
      | none => (.clip, 0, t)

/-- The empty lines from `p` on, the place behind them, and the widest of their indentations.
`indent` is 0 while it is not known. -/
def emptyLines? (indent : Nat) :
    (fuel : Nat) → (breaks : Text) → (widest : Nat) → Cursor → Option (Text × Nat × Cursor)
  | 0, breaks, widest, p => some (breaks, widest, p)
  | fuel + 1, breaks, widest, p =>
    let room := if indent = 0 then p.rest.length else indent - p.column
    let spaces := ((p.rest.take room).takeWhile (· = ' ')).length
    let p := p.skip spaces
    let widest := max widest p.column
    if (indent = 0 || p.column < indent) && p.isAt '\t' then none
    else if p.isAtBreak then
      emptyLines? indent fuel (breaks ++ p.breakText) widest p.skipBreak
    else some (breaks, widest, p)

/-- The lines of a block from `p` on. `text` is what stands in front, `last` the break behind its
last line, `breaks` the empty lines after that. -/
def blockLines? (isLiteral : Bool) (chomping : Chomping) (indent : Nat) :
    (fuel : Nat) → (text last breaks : Text) → (isBlankLed : Bool) → Cursor →
    Option (Text × Cursor)
  | 0, _, _, _, _, _ => none
  | fuel + 1, text, last, breaks, isBlankLed, p =>
    if p.column = indent && !p.rest.isEmpty then do
      let startsBlank := p.isAtBlank
      let joint :=
        if !isLiteral && last = ['\n'] && !isBlankLed && !startsBlank then
          if breaks.isEmpty then [' '] else []
        else last
      let line := p.rest.takeWhile fun c => !isBreak c
      let p := p.skipToBreak
      let (last, p) := if p.isAtBreak then (p.breakText, p.skipBreak) else ([], p)
      let text := text ++ joint ++ breaks ++ line
      let (breaks, _, p) ← emptyLines? indent (p.rest.length + 1) [] 0 p
      blockLines? isLiteral chomping indent fuel text last breaks startsBlank p
    else
      match chomping with
      | .strip => some (text, p)
      | .clip => some (text ++ last, p)
      | .keep => some (text ++ last ++ breaks, p)

/-- A block from behind its mark, inside of a collection that is indented by `outer` columns, or by
-1 outside of all. -/
def block? (isLiteral : Bool) (outer : Int) (p : Cursor) : Option (Text × Cursor) := do
  let (chomping, increment, rest) := blockHeader p.rest
  let p := (p.skip (p.rest.length - rest.length)).skipWhile isBlank
  let p := if p.isAt '#' then p.skipToBreak else p
  if !p.rest.isEmpty && !p.isAtBreak then none
  let p := if p.isAtBreak then p.skipBreak else p
  let known := if increment = 0 then 0 else (max outer 0).toNat + increment
  let (breaks, widest, p) ← emptyLines? known (p.rest.length + 1) [] 0 p
  let indent := if known = 0 then max widest (max 1 (outer + 1).toNat) else known
  blockLines? isLiteral chomping indent (p.rest.length + 2) [] [] breaks false p

end PageLint.Yaml
