import PageLint.Script.Grammar.Automaton
import PageLint.Script.Place

/-!
The pieces of a tree while it is built. A piece knows the white space in front of it, and what the
errors inside of it cost.
-/
namespace PageLint.Script

/-- What a piece is an instance of. -/
inductive Symbol where
  | token (n : Nat)
  | rule (n : Nat)
  /-- A stretch that no rule covers. -/
  | error
  /-- Part of such a stretch. -/
  | errorPart
  deriving DecidableEq, Repr

namespace Symbol

def visibility : Symbol → Visibility
  | token n => (Grammar.tokenOf n).visibility
  | rule n => (Grammar.ruleOf n).visibility
  | error => .named
  | errorPart => .hidden

def name : Symbol → String
  | token n => (Grammar.tokenOf n).name
  | rule n => (Grammar.ruleOf n).name
  | error => "ERROR"
  | errorPart => "_ERROR"

/-- Whether the piece belongs to a stretch that no rule covers. -/
def isError : Symbol → Bool
  | error | errorPart => true
  | _ => false

/-- An order of the symbols: tokens, rules, errors. -/
def rank : Symbol → Nat
  | token n => n
  | rule n => 1000 + n
  | errorPart => 2000
  | error => 2001

end Symbol

/-! ## Costs -/

namespace Cost

def recovery : Nat := 500

def missing : Nat := 110

def skippedTree : Nat := 100

def skippedLine : Nat := 30

def skippedByte : Nat := 1

end Cost

structure Subtree where
  symbol : Symbol
  isVisible : Bool
  /-- White space in front. -/
  padding : Extent
  size : Extent
  children : List Subtree := []
  /-- The text of a token. -/
  text : Text := []
  /-- The text behind. -/
  rest : Text
  /-- How the children were put together. -/
  reduction : Option Reduction := none
  /-- Cost of the errors in the children. -/
  childCost : Nat := 0
  visibleDescendants : Nat := 0
  visibleChildren : Nat := 0
  precedence : Int := 0
  /-- It may stand anywhere. -/
  isExtra : Bool := false
  /-- It is not in the text. -/
  isMissing : Bool := false
  /-- It is spelt like a keyword. -/
  isKeyword : Bool := false
  /-- The first token. -/
  firstSymbol : Symbol
  /-- The state in which the token was looked for. -/
  lexState : Nat := 0

namespace Subtree

def isLeaf (t : Subtree) : Bool := t.children.isEmpty

def cost (t : Subtree) : Nat := if t.isMissing then Cost.missing + Cost.recovery else t.childCost

/-- White space and content. -/
def extent (t : Subtree) : Extent := t.padding + t.size

/-- Nodes that show in the tree, the piece included. -/
def nodeCount (t : Subtree) : Nat :=
  t.visibleDescendants + (if t.isVisible then 1 else 0) +
    if t.symbol = .errorPart then 1 else 0

/-! ## Building -/

def leaf (symbol : Symbol) (start content stop : Place) : Subtree where
  symbol
  isVisible := symbol.visibility ≠ .hidden
  padding := start.extentTo content
  size := content.extentTo stop
  text := content.textTo stop
  rest := stop.rest
  firstSymbol := symbol

/-- The identifier that a keyword is also spelt like. -/
def asWord (t : Subtree) : Subtree :=
  { t with
    symbol := .token Grammar.wordToken
    isVisible := (Symbol.token Grammar.wordToken).visibility ≠ .hidden
    firstSymbol := .token Grammar.wordToken }

/-- The sizes of pieces in a row, without the white space in front of the first. -/
def sizeOfAll : List Subtree → Extent
  | [] => {}
  | [t] => t.size
  | t :: u :: rest => t.size + u.padding + sizeOfAll (u :: rest)

/-- The place among its siblings that a rule gives each child: extra pieces have none. -/
def places (n : Nat) : List Subtree → List (Option Nat)
  | [] => []
  | t :: rest => if t.isExtra then none :: places n rest else some n :: places (n + 1) rest

def aliasAt? (r : Option Reduction) (place : Option Nat) : Option String := do
  (← r).aliases.lookup (← place)

/-- What it costs that a piece is not covered by a rule. -/
def skippedCost (t : Subtree) : Nat :=
  if t.isExtra || (t.symbol = .error && t.isLeaf) then 0
  else if t.isVisible then Cost.skippedTree
  else if t.isLeaf then 0
  else Cost.skippedTree * t.visibleChildren

def total (f : α → Nat) (pieces : List α) : Nat := pieces.foldr (f · + ·) 0

/-- A piece made of others. `rest` is the text behind if there are none. -/
def node (symbol : Symbol) (reduction : Option Reduction) (rest : Text)
    (children : List Subtree) : Subtree :=
  let size := sizeOfAll children
  let shown := (children.zip (places 0 children)).map fun (t, place) =>
    (t, t.isVisible || (!t.isExtra && t.symbol ≠ Symbol.token Grammar.endToken &&
      (aliasAt? reduction place).isSome))
  { symbol
    isVisible := symbol.visibility ≠ .hidden
    padding := (children.head?.map (·.padding)).getD {}
    size
    children
    rest := (children.getLast?.map (·.rest)).getD rest
    reduction
    childCost :=
      total (fun t => if t.symbol = .errorPart then 0 else t.cost) children +
        if symbol.isError then
          total skippedCost children + Cost.recovery + Cost.skippedByte * size.bytes +
            Cost.skippedLine * size.rows
        else 0
    visibleDescendants :=
      total (fun (t, visible) => t.visibleDescendants + if visible then 1 else 0) shown
    visibleChildren :=
      total (fun (t, visible) =>
        if visible then 1 else if t.isLeaf then 0 else t.visibleChildren) shown
    precedence := children.foldr (·.precedence + ·) 0
    firstSymbol := (children.head?.map (·.firstSymbol)).getD symbol }

/-! ## Comparing -/

/-- The two are alike as far as the rest of the text is concerned. -/
def isLike : Option Subtree → Option Subtree → Bool
  | none, none => true
  | some a, some b =>
    a.symbol = b.symbol &&
      ((a.cost > 0 && b.cost > 0) ||
        (a.padding.bytes = b.padding.bytes && a.size.bytes = b.size.bytes &&
          a.children.length = b.children.length && a.isExtra = b.isExtra))
  | _, _ => false

/-- Compares the pieces of each pair, and then their children pair by pair. -/
def compareAll : (fuel : Nat) → List (Subtree × Subtree) → Ordering
  | 0, _ | _, [] => .eq
  | fuel + 1, (a, b) :: rest =>
    match compare a.symbol.rank b.symbol.rank with
    | .lt => .lt
    | .gt => .gt
    | .eq =>
      match compare a.children.length b.children.length with
      | .lt => .lt
      | .gt => .gt
      | .eq => compareAll fuel (a.children.zip b.children ++ rest)

/-- `b` is the better reading. -/
def prefers (fuel : Nat) (a b : Subtree) : Bool :=
  if b.cost < a.cost then true
  else if a.cost < b.cost then false
  else if b.precedence > a.precedence then true
  else if a.precedence > b.precedence then false
  else a.cost > 0 || compareAll fuel [(a, b)] == .gt

/-- The pieces without the extra ones at the end, and those. -/
def splitExtras (ts : List Subtree) : List Subtree × List Subtree :=
  let extras := (ts.reverse.takeWhile (·.isExtra)).reverse
  (ts.take (ts.length - extras.length), extras)

end Subtree

end PageLint.Script
