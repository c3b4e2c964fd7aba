import PageLint.Script.Ambient
import PageLint.Script.Clause
import PageLint.Script.Equality
import PageLint.Script.Header

/-!
A pass over the bare text of a script, which works with and without a tree. It follows braces and
parentheses and looks at some words; what stands in strings and comments counts as well.
-/
namespace PageLint.Script

structure Block where
  kind : BlockKind
  /-- The open parentheses around it. -/
  parens : Nat
  /-- The names declared directly in it. -/
  names : List Text := []
  deriving DecidableEq, Repr

/-- Where the pass stands and what it has seen. -/
structure Pass where
  /-- The block that it stands in. -/
  block : Block := ⟨.other, 0, []⟩
  /-- The blocks around that one, innermost first. -/
  outer : List Block := []
  /-- The number of open parentheses. -/
  parens : Nat := 0
  /-- The text since the last end of a statement, last character first. -/
  lead : Text := []
  /-- The names declared outside of all blocks. -/
  known : List Text := []
  /-- The patterns that take their values from a name, last one first. -/
  patterns : List Destructuring := []
  /-- Last one first. -/
  found : List Diagnostic := []
  deriving DecidableEq, Repr

namespace Pass

/-! ## Places -/

def isAtTopLevel (p : Pass) : Bool := p.outer.isEmpty && p.parens == 0

/-- Inside parentheses that were opened in this block, such as the head of a loop. -/
def isInParentheses (p : Pass) : Bool := p.block.parens < p.parens

/-- The nearest function around is asynchronous; `none` outside of all functions. -/
def isAsync? (p : Pass) : Option Bool :=
  (p.block :: p.outer).findSome? fun b =>
    match b.kind with
    | .function isAsync => some isAsync
    | .other => none

/-- The blank characters of a program's lines. -/
def isBlank (c : Char) : Bool := c = ' ' || c = '\t' || c = '\n' || c = '\x0c' || c = '\r'

/-- What comes next belongs to the value in front. -/
def isMember (p : Pass) : Bool := (p.lead.dropWhile isBlank).head? = some '.'

/-- A statement ends here, unless it is one in the head of a loop. -/
def endStatement (p : Pass) (c : Char) (isNested : Bool) : Pass :=
  if isNested then { p with lead := c :: p.lead } else { p with lead := [] }

/-! ## Single characters -/

def openBlock (p : Pass) : Except Fault Pass := do
  let kind ← Header.kind p.lead.reverse
  let opened := { p with block := ⟨kind, p.parens, []⟩, outer := p.block :: p.outer }
  return opened.endStatement '\x7b' p.isInParentheses

def closeBlock (p : Pass) : Pass :=
  let closed := match p.outer with
    | [] => p
    | b :: outer => { p with block := b, outer }
  closed.endStatement '\x7d' closed.isInParentheses

def mark (p : Pass) (c : Char) : Except Fault Pass :=
  if c = '\x7b' then p.openBlock
  else if c = '\x7d' then .ok p.closeBlock
  else if c = ';' then .ok (p.endStatement c p.isInParentheses)
  else
    let parens :=
      if c = '(' then p.parens + 1 else if c = ')' then p.parens - 1 else p.parens
    .ok { p with parens, lead := c :: p.lead }

/-! ## Words -/

def isWordStart (c : Char) : Bool := Text.isAsciiLetter c || c = '_' || c = '$'

def isWordChar (c : Char) : Bool :=
  isWordStart c || Text.isAsciiDigit c || !Text.isAscii c

/-- The word behind blanks and stars, of which there has to be one, with its offset. -/
def nextWord? (n : Nat) (t : Text) : Option (Nat × Text) :=
  let skipped := t.takeWhile fun c => isBlank c || c = '*'
  let rest := t.drop skipped.length
  if !skipped.isEmpty && rest.head?.any isWordStart then
    some (n + Text.size skipped, rest.takeWhile isWordChar)
  else none

/-- A name that is declared outside of all blocks, if that is here. -/
def learn (p : Pass) (name : Text) : Pass :=
  if p.isAtTopLevel then { p with known := name :: p.known } else p

/-- A name that belongs to this block alone. -/
def declare (p : Pass) (n : Nat) (name : Text) : Pass :=
  if p.isInParentheses then p
  else
    let p := p.learn name
    if p.block.names.contains name then
      { p with found := (Issue.redeclared name).report n (n + name.size) :: p.found }
    else { p with block := { p.block with names := name :: p.block.names } }

def destructure (p : Pass) (n : Nat) (rest : Text) : Pass :=
  if p.isAtTopLevel then
    match Destructuring.read? n rest with
    | some d => { p with known := d.names ++ p.known, patterns := d :: p.patterns }
    | none => p
  else p

def awaitIssues (p : Pass) (n : Nat) : List Diagnostic :=
  if p.isAsync? = some true || Header.Matches Header.asyncArrow p.lead.reverse then []
  else [Issue.strayAwait.report n (n + 5)]

/-- What a word at offset `n` means, with `rest` from offset `stop` on behind it. -/
def meet (p : Pass) (word : String) (n stop : Nat) (rest : Text) : Pass :=
  match word with
  | "await" => { p with found := p.awaitIssues n ++ p.found }
  | "let" | "const" =>
    match nextWord? stop rest with
    | some (start, name) => p.declare start name
    | none => p.destructure stop rest
  | "class" =>
    match nextWord? stop rest with
    | some (start, name) => p.declare start name
    | none => p
  | "var" =>
    match nextWord? stop rest with
    | some (_, name) => p.learn name
    | none => p.destructure stop rest
  | "function" =>
    match nextWord? stop rest with
    | some (_, name) => p.learn name
    | none => p
  | "import" =>
    if p.isAtTopLevel then { p with known := ImportClause.names rest ++ p.known } else p
  | _ => p

/-- The pass over a word. The name of a member means nothing. -/
def word (p : Pass) (word : Text) (n : Nat) (rest : Text) : Pass :=
  let p := if p.isMember then p else p.meet (String.ofList word) n (n + word.size) rest
  { p with lead := word.reverse ++ p.lead }

/-! ## The whole text -/

/-- A word starts with this character. -/
def startsWord (p : Pass) (c : Char) : Bool := isWordStart c && !p.lead.head?.any isWordChar

/-- The pass over a text that starts at offset `n`. -/
def run (p : Pass) (n : Nat) (t : Text) : Except Fault Pass :=
  match t with
  | [] => .ok p
  | c :: t =>
    if p.startsWord c then
      let word := c :: t.takeWhile isWordChar
      let rest := t.dropWhile isWordChar
      (p.word word n rest).run (n + Text.size word) rest
    else do
      let p ← p.mark c
      p.run (n + c.utf8Size) t
termination_by t.length
decreasing_by
  · have := (List.dropWhile_sublist isWordChar (l := t)).length_le
    simp only [List.length_cons]
    omega
  · simp

/-- Asks for the time at the byte `due`, if the character of `size` bytes at offset `n` comes to it,
and then again 4096 bytes later. Gives what remains, with the byte at which it is asked for next. -/
def askedAt (d : Deadline) (due n size : Nat) : Option (Deadline × Nat) :=
  if due < n + size then d.poll?.map fun d => (d, max due n + 4096) else some (d, due)

/-- The pass as far as there is time. -/
def runInTime (d : Deadline) (due : Nat) (p : Pass) (n : Nat) (t : Text) :
    Except Fault (Timed Pass) :=
  match t with
  | [] => .ok ⟨p, some d⟩
  | c :: t =>
    match askedAt d due n c.utf8Size with
    | none => .ok ⟨p, none⟩
    | some (d, due) =>
      if p.startsWord c then
        let word := c :: t.takeWhile isWordChar
        let rest := t.dropWhile isWordChar
        (p.word word n rest).runInTime d due (n + Text.size word) rest
      else do
        let p ← p.mark c
        p.runInTime d due (n + c.utf8Size) t
termination_by t.length
decreasing_by
  · have := (List.dropWhile_sublist isWordChar (l := t)).length_le
    simp only [List.length_cons]
    omega
  · simp

/-- The names that nothing declares and patterns take their values from. -/
def undeclaredIssues (p : Pass) : List Diagnostic :=
  (p.patterns.reverse.filter fun d => !p.known.contains d.source && !isAmbient d.source).map
    fun d => (Issue.undeclaredSource d.source).report d.start d.stop

end Pass

/-- What the bare text of a script shows. -/
def textIssues (source : Text) : Except Fault (List Diagnostic) := do
  let pass ← Pass.run {} 0 source
  return equalityIssues source ++ pass.found.reverse ++ pass.undeclaredIssues

/-- The same as far as there is time. What the patterns take their values from is known at the end
only. -/
def textIssuesInTime (d : Deadline) (source : Text) : Except Fault (Timed (List Diagnostic)) :=
  match d.poll? with
  | none => .ok ⟨equalityIssues source, none⟩
  | some d => do
    let pass ← Pass.runInTime d 4096 {} 0 source
    let found := equalityIssues source ++ pass.found.found.reverse
    match pass.left? with
    | none => return ⟨found, none⟩
    | some d => return ⟨found ++ pass.found.undeclaredIssues, some d⟩

end PageLint.Script
