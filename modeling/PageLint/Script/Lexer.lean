import PageLint.Script.Grammar.Automaton
import PageLint.Script.Place

/-!
Tokens by pattern. Of the tokens looked for, the one that takes the longest text wins, unless a
token of higher precedence is complete before; white space in front of a token is skipped, unless
the token is immediate.
-/
namespace PageLint.Script.Lexer

open Grammar (tokenOf)

/-- A token with an alternative of what is left of its pattern. -/
structure Thread where
  token : Nat
  rest : Pattern
  deriving DecidableEq

/-- What may still match. -/
structure Choice where
  threads : List Thread
  /-- Only white space has been read, so that any of `starts` may follow. -/
  skipping : Bool

/-- The pattern of a token. Keywords are cut from identifiers and have none. -/
def pattern? (n : Nat) : Option Pattern :=
  match (tokenOf n).lexeme with
  | .literal s => some (.word s)
  | .pattern p => some p
  | .keyword | .scanned => none

def threadOf? (n : Nat) : Option Thread := (pattern? n).map fun p => ⟨n, p⟩

/-- The tokens of a set. -/
def members (set : Nat) : List Nat := (List.range Grammar.tokens.length).filter set.testBit

/-- The tokens that are looked for: those that must start at once, and those that white space may
precede. -/
structure Wanted where
  atOnce : List Thread
  starts : List Thread
  /-- The end of the text is looked for, too. -/
  orEnd : Bool

def wanted (set : Nat) : Wanted :=
  let threads := (members set).filterMap threadOf?
  { atOnce := threads.filter fun t => (tokenOf t.token).immediate
    starts := threads.filter fun t => !(tokenOf t.token).immediate
    orEnd := set.testBit Grammar.endToken }

/-- What each lexical mode looks for. -/
def modes : Array Wanted := (Grammar.lexModes.map wanted).toArray

def Thread.step (c : Char) (t : Thread) : List Thread :=
  (t.rest.step c).map fun rest => ⟨t.token, rest⟩

/-- What may still match behind `c`. -/
def Choice.step (w : Wanted) (c : Char) (choice : Choice) : Choice where
  threads :=
    ((choice.threads ++ if choice.skipping then w.starts else []).flatMap (·.step c)).eraseDups
  skipping := choice.skipping && Grammar.blank.contains c

def Choice.isOver (choice : Choice) : Bool := choice.threads.isEmpty && !choice.skipping

/-- A literal goes before a pattern, and an immediate token before others. -/
def implicitPrecedence (t : Token) : Nat :=
  (match t.lexeme with
    | .literal _ => 2
    | _ => 0) + if t.immediate then 1 else 0

/-- Of two tokens with the same text, `a` wins. -/
def prefers (a b : Nat) : Bool :=
  let s := tokenOf a
  let t := tokenOf b
  if s.precedence ≠ t.precedence then s.precedence > t.precedence
  else if implicitPrecedence s ≠ implicitPrecedence t then
    implicitPrecedence s > implicitPrecedence t
  else a ≤ b

/-- The token that is complete here. -/
def Choice.complete? (choice : Choice) : Option Nat :=
  (choice.threads.filter (·.rest.matchesEmpty)).foldl (fun best t =>
    match best with
    | some b => if prefers b t.token then some b else some t.token
    | none => some t.token) none

/-- The token `n` is complete, and reading on as `next` is still worth while. -/
def goesOn (w : Wanted) (n : Nat) (choice next : Choice) : Bool :=
  let own := (tokenOf n).precedence
  let best := (next.threads.map fun t => (tokenOf t.token).precedence).foldl max
    (if next.skipping then 0 else ((next.threads.head?.map fun t =>
      (tokenOf t.token).precedence).getD 0))
  if best < own then false
  else if best = own then
    !next.threads.isEmpty &&
      (!choice.skipping || next.threads.any (·.token == n) ||
        (next.skipping && w.starts.any (·.token == n)))
  else true

/-- Where reading tokens by pattern has come to. -/
structure Result where
  /-- The token, and where it ends. -/
  found : Option (Nat × Place) := none
  /-- Where it starts: behind the white space that was skipped. -/
  start : Place
  /-- How far the text was read. -/
  reached : Place

/-- Reads on at `p`. -/
def readFrom (w : Wanted) : (fuel : Nat) → Result → Choice → Place → Result
  | 0, r, _, _ => r
  | fuel + 1, r, choice, p =>
    let complete := choice.complete?
    let r := match complete with
      | some n => { r with found := some (n, p), reached := p }
      | none => { r with reached := p }
    match p.rest with
    | [] =>
      if w.orEnd && choice.skipping && r.start.offset = p.offset then
        { r with found := some (Grammar.endToken, p) }
      else r
    | c :: _ =>
      let next := choice.step w c
      if next.isOver || !(complete.all fun n => goesOn w n choice next) then r
      else
        let q := p.advance
        let r := if next.skipping && next.threads.isEmpty then { r with start := q } else r
        readFrom w fuel r next q

/-- The token at a place. -/
def read (w : Wanted) (p : Place) : Result :=
  let p := if p.offset = 0 && p.next = '\uFEFF' then p.advance else p
  readFrom w (p.rest.length + 1) { start := p, reached := p }
    { threads := w.atOnce, skipping := !w.starts.isEmpty } p

/-- The keyword of a spelling. -/
def keyword? (text : Text) : Option Nat :=
  let spelling := String.ofList text
  Grammar.tokens.findIdx? fun t => t.isKeyword && t.name == spelling

end PageLint.Script.Lexer
