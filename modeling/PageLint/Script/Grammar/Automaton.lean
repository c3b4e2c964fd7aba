import PageLint.Script.Grammar.GotosA
import PageLint.Script.Grammar.GotosB
import PageLint.Script.Grammar.Lookahead
import PageLint.Script.Grammar.MovesA
import PageLint.Script.Grammar.MovesB
import PageLint.Script.Grammar.MovesC
import PageLint.Script.Grammar.MovesD
import PageLint.Script.Grammar.Rule

/-!
The automaton of the grammar. In a state, a token decides between moves; several moves at once mean
that the text has several readings so far. Behind a completed rule, the state in front of it tells
the next one.

The states are written as numbers of groups of eight digits behind a leading one. The first group
of a state holds two digits for the tokens to look for, two for the scanners to ask and four for the
row of next states. Each further group is a move: three digits for a set of tokens, one for the
kind of move and four for its target.
-/
namespace PageLint.Script

inductive Move where
  /-- Take the token. -/
  | shift (state : Nat)
  /-- Take the token as one more item of a repetition. -/
  | repeatItem (state : Nat)
  /-- Complete a rule. -/
  | reduce (r : Reduction)
  /-- Take the token as one that may stand anywhere. -/
  | shiftExtra
  | accept
  | recover
  deriving DecidableEq, Repr

/-- One state of the automaton. -/
structure Row where
  /-- The tokens to look for. -/
  lexMode : Nat
  /-- The scanners to ask. -/
  scanMode : Nat
  /-- The states behind completed rules. -/
  gotos : Nat
  /-- Moves, each with the set of tokens it is for. -/
  moves : List (Nat × Move)
  deriving Inhabited

namespace Grammar

/-! ## Reading the tables -/

/-- The groups of eight digits of a number, in front of `later`. Every group shortens the number, so
`fuel` may be their count. -/
def groups (later : List Nat) : (fuel : Nat) → Nat → List Nat
  | 0, _ => later
  | fuel + 1, n =>
    if n < 100000000 then later else groups (n % 100000000 :: later) fuel (n / 100000000)

def allGroups (numbers : List Nat) : List Nat := numbers.flatMap (groups [] 11)

def move (kind target : Nat) : Move :=
  match kind with
  | 1 => .shift target
  | 2 => .repeatItem target
  | 3 => match reductions[target]? with
    | some r => .reduce r
    | none => .recover
  | 4 => .shiftExtra
  | 5 => .accept
  | _ => .recover

def row (numbers : List Nat) : Row :=
  match allGroups numbers with
  | [] => { lexMode := 0, scanMode := 0, gotos := 0, moves := [] }
  | head :: entries =>
    { lexMode := head / 1000000
      scanMode := head / 10000 % 100
      gotos := head % 10000
      moves := entries.map fun e =>
        ((tokenSets[e / 100000]?).getD 0, move (e / 10000 % 10) (e % 10000)) }

/-- Rules, each with the state behind it. -/
def gotoRow (numbers : List Nat) : List (Nat × Nat) :=
  (allGroups numbers).map fun e => (e / 10000, e % 10000)

/-- The tables are cut into pieces of this length. -/
def pieceLength : Nat := 40

def movePieces : Array (Array Row) :=
  (([moves0, moves1, moves2, moves3, moves4, moves5, moves6, moves7, moves8, moves9, moves10,
    moves11, moves12, moves13, moves14, moves15, moves16, moves17, moves18, moves19, moves20,
    moves21, moves22, moves23, moves24, moves25, moves26, moves27, moves28, moves29, moves30,
    moves31, moves32, moves33, moves34, moves35, moves36, moves37, moves38, moves39, moves40].map fun piece =>
    (piece.map row).toArray)).toArray

def gotoPieces : Array (Array (List (Nat × Nat))) :=
  (([gotos0, gotos1, gotos2, gotos3, gotos4, gotos5, gotos6, gotos7, gotos8, gotos9, gotos10,
    gotos11, gotos12, gotos13, gotos14, gotos15].map fun piece =>
    (piece.map gotoRow).toArray)).toArray

/-- An entry of a table that is cut into pieces. -/
def itemOf? (pieces : Array (Array α)) (n : Nat) : Option α :=
  (pieces[n / pieceLength]?).bind (·[n % pieceLength]?)

/-! ## The automaton -/

/-- Errors are recovered from in this state. -/
def errorState : Nat := 0

def startState : Nat := 1

def rowOf (state : Nat) : Row := (itemOf? movePieces state).getD default

/-- The moves that a token allows. -/
def Row.movesOn (r : Row) (token : Nat) : List Move :=
  r.moves.filterMap fun (set, move) => if set.testBit token then some move else none

def movesOn (state token : Nat) : List Move := Row.movesOn (rowOf state) token

/-- The state behind a rule that is completed behind `state`. -/
def stateBehindRule? (state rule : Nat) : Option Nat :=
  ((itemOf? gotoPieces (rowOf state).gotos).getD []).lookup rule

/-- The state behind a token that is taken. -/
def stateBehindToken? (state token : Nat) : Option Nat :=
  match (movesOn state token).getLast? with
  | some (.shift next) | some (.repeatItem next) => some next
  | some .shiftExtra => some state
  | _ => none

def tokenOf (n : Nat) : Token := (tokens[n]?).getD ⟨"", .hidden, .scanned, 0, true⟩

def ruleOf (n : Nat) : Rule := (rules[n]?).getD ⟨"", .hidden⟩

def lexMode (n : Nat) : Nat := (lexModes[n]?).getD 0

def scanMode (n : Nat) : List Scannable := (scanModes[n]?).getD []

end Grammar

end PageLint.Script
