import PageLint.Script.Subtree

/-!
The readings of a text that are still possible. Each is a stack of pieces and states, and stacks
share what they have in common: a node of the graph may have several links to the nodes below it.
-/
namespace PageLint.Script

/-- A way down from a node: the piece on top of the node below, if there is one. -/
structure Link where
  node : Nat
  piece : Option Subtree

structure StackNode where
  state : Nat
  place : Place
  links : List Link := []
  /-- Cost of the errors below. -/
  cost : Nat := 0
  /-- Pieces below that show in the tree. -/
  count : Nat := 0
  precedence : Int := 0

/-- A stack at some depth, as a place to go back to. -/
structure Resort where
  place : Place
  depth : Nat
  state : Nat

inductive Status where
  | active
  /-- It waits for the others, with a token that it cannot take. -/
  | paused (token : Subtree)
  | halted

/-- The top of a reading. -/
structure Head where
  node : Nat
  /-- Count of pieces when the last error was met. -/
  countAtError : Nat := 0
  status : Status := .active
  resorts : Option (List Resort) := none

def Head.isActive (h : Head) : Bool :=
  match h.status with
  | .active => true
  | _ => false

def Head.isPaused (h : Head) : Bool :=
  match h.status with
  | .paused _ => true
  | _ => false

def Head.isHalted (h : Head) : Bool :=
  match h.status with
  | .halted => true
  | _ => false

/-- All readings, and the best tree that one of them has come to. -/
structure Readings where
  nodes : Array StackNode
  heads : List Head
  finished : Option Subtree := none
  /-- Trees that were found. -/
  accepted : Nat := 0
  /-- The token that was read last, with the offset it was read at. -/
  lastToken : Option (Nat × Subtree) := none

abbrev Reading := StateM Readings

namespace Readings

/-- Readings that are kept side by side. -/
def maxHeads : Nat := 6

/-- Readings beyond these that a single step may add. -/
def overflow : Nat := 4

def maxLinks : Nat := 8

def maxPaths : Nat := 64

/-- How deep a reading may go back. -/
def maxDepth : Nat := 16

def start (text : Text) : Readings where
  nodes := #[{ state := Grammar.startState, place := { rest := text } }]
  heads := [{ node := 0 }]

end Readings

namespace Reading

open Readings

/-! ## Nodes and heads -/

def emptyNode : StackNode := { state := 0, place := { rest := [] } }

def nodeAt (n : Nat) : Reading StackNode := do return ((← get).nodes[n]?).getD emptyNode

def headAt (v : Nat) : Reading Head := do
  return ((← get).heads[v]?).getD { node := 0, status := .halted }

/-- The node on top of a reading. -/
def top (v : Nat) : Reading StackNode := do nodeAt (← headAt v).node

def headCount : Reading Nat := do return (← get).heads.length

def setHead (v : Nat) (h : Head) : Reading Unit :=
  modify fun r => { r with heads := r.heads.set v h }

def setStatus (v : Nat) (s : Status) : Reading Unit := do
  let h ← headAt v
  setHead v { h with status := s }

def removeHead (v : Nat) : Reading Unit := modify fun r => { r with heads := r.heads.eraseIdx v }

def setNode (n : Nat) (node : StackNode) : Reading Unit :=
  modify fun r => { r with nodes := r.nodes.setIfInBounds n node }

def addNode (node : StackNode) : Reading Nat := do
  let r ← get
  set { r with nodes := r.nodes.push node }
  return r.nodes.size

/-- The node that a piece makes on top of node `n`. -/
def nodeAbove (n : Nat) (below : StackNode) (piece : Option Subtree) (state : Nat) : StackNode :=
  let links := [{ node := n, piece }]
  match piece with
  | none => { below with state, links }
  | some t =>
    { state, links
      place := ⟨below.place.offset + t.extent.bytes, below.place.row + t.extent.rows, t.rest⟩
      cost := below.cost + t.cost
      count := below.count + t.nodeCount
      precedence := below.precedence + t.precedence }

/-- Puts a piece, or with none just a state, on top of a reading. -/
def push (v : Nat) (piece : Option Subtree) (state : Nat) : Reading Unit := do
  let h ← headAt v
  let node := nodeAbove h.node (← nodeAt h.node) piece state
  let n ← addNode node
  setHead v
    { h with node := n, countAtError := if piece.isNone then node.count else h.countAtError }

/-- A further reading with the given top. -/
def addHead (original : Nat) (node : Nat) : Reading Nat := do
  let h ← headAt original
  let r ← get
  let new : Head := { node, countAtError := h.countAtError }
  set { r with heads := r.heads ++ [new] }
  return r.heads.length

/-- Reading `a` takes the place of reading `b`. -/
def takePlace (a b : Nat) : Reading Unit := do
  if a ≠ b then
    let h ← headAt a
    let old ← headAt b
    setHead b { h with resorts := h.resorts <|> old.resorts }
    removeHead a

/-! ## Merging -/

/-- What is to be done about a new link, given one of the same node. -/
inductive Fit where
  | other
  /-- The same piece on the same node. -/
  | same
  /-- The same piece on a node that can be shared. -/
  | shared

def fitOf (old new : Link) : Reading Fit := do
  if Subtree.isLike old.piece new.piece then
    if old.node = new.node then return .same
    let a ← nodeAt old.node
    let b ← nodeAt new.node
    if a.state = b.state && a.place.offset = b.place.offset && a.cost = b.cost then return .shared
  return .other

/-- The first link that a new one fits, with the links around it. -/
def findFit (new : Link) (front : List Link) : List Link → Reading (Option (Fit × List Link × Link × List Link))
  | [] => return none
  | old :: rest => do
    match ← fitOf old new with
    | .other => findFit new (front ++ [old]) rest
    | fit => return some (fit, front, old, rest)

/-- Adds a link to a node. Where pieces and nodes agree, the links below are joined instead. -/
def addLink : (fuel : Nat) → (node : Nat) → Link → Reading Unit
  | 0, _, _ => return
  | fuel + 1, n, new => do
    if new.node = n then return
    let self ← nodeAt n
    let below ← nodeAt new.node
    let gain := (new.piece.map (·.precedence)).getD 0
    match ← findFit new [] self.links with
    | some (.same, front, old, rest) =>
      if gain > (old.piece.map (·.precedence)).getD 0 then
        setNode n
          { self with
            links := front ++ { old with piece := new.piece } :: rest
            precedence := below.precedence + gain }
    | some (_, _, old, _) =>
      for link in below.links do
        addLink fuel old.node link
      let self ← nodeAt n
      setNode n { self with precedence := max self.precedence (below.precedence + gain) }
    | none =>
      if self.links.length ≠ maxLinks then
        setNode n
          { self with
            links := self.links ++ [new]
            count := max self.count (below.count + (new.piece.map (·.nodeCount)).getD 0)
            precedence := max self.precedence (below.precedence + gain) }

def canMerge (a b : Nat) : Reading Bool := do
  let g ← headAt a
  let h ← headAt b
  let m ← nodeAt g.node
  let n ← nodeAt h.node
  return g.isActive && h.isActive && m.state = n.state && m.place.offset = n.place.offset &&
    m.cost = n.cost

/-- Makes one reading of two that are in the same state at the same place. -/
def merge (fuel a b : Nat) : Reading Bool := do
  if !(← canMerge a b) then return false
  let g ← headAt a
  for link in (← top b).links do
    addLink fuel g.node link
  let m ← top a
  if m.state = Grammar.errorState then setHead a { g with countAtError := m.count }
  removeHead b
  return true

/-! ## Going down -/

/-- A way down from the top of a reading. -/
structure Path where
  node : Nat
  /-- The pieces on the way, the deepest first. -/
  pieces : List Subtree := []
  /-- Pieces on the way that are not extra. -/
  depth : Nat := 0

/-- The end of a way down, as a reading of its own. -/
structure Slice where
  head : Nat
  pieces : List Subtree

/-- What to do at a place on the way. -/
structure Visit where
  take : Bool
  stop : Bool

/-- Ends that meet in one node share a reading. -/
def addSlice (original : Nat) (path : Path) (slices : List Slice) : Reading (List Slice) := do
  let heads := (← get).heads
  let meets (s : Slice) : Bool := (heads[s.head]?).any (·.node = path.node)
  match slices.reverse.dropWhile (!meets ·) with
  | [] =>
    let v ← addHead original path.node
    return slices ++ [⟨v, path.pieces⟩]
  | s :: front =>
    let later := slices.drop (front.length + 1)
    return front.reverse ++ s :: ⟨s.head, path.pieces⟩ :: later

def Path.below (p : Path) (link : Link) : Path :=
  match link.piece with
  | none => { p with node := link.node, depth := p.depth + 1 }
  | some t =>
    { node := link.node
      pieces := t :: p.pieces
      depth := if t.isExtra then p.depth else p.depth + 1 }

/-- The ways that lead on from a path: the first link goes on with it, the others branch off as long
as there are not too many paths. -/
def branches (count : Nat) (p : Path) : List Link → Path × List Path
  | [] => (p, [])
  | link :: more => (p.below link, (more.map p.below).take (maxPaths - count))

/-- All paths go down one step: each is looked at, and may be taken or stopped. `kept` and `added`
are the paths that go on so far. -/
def descendOnce (visit : σ → Path → StackNode → σ × Visit) (v : Nat) (kept added : List Path) :
    List Path → σ → List Slice → Reading (List Path × σ × List Slice)
  | [], s, slices => return (kept ++ added, s, slices)
  | p :: rest, s, slices => do
    let node ← nodeAt p.node
    let (s, action) := visit s p node
    let slices ← if action.take then addSlice v p slices else pure slices
    if action.stop || node.links.isEmpty then descendOnce visit v kept added rest s slices
    else
      let (next, more) := branches (kept.length + 1 + rest.length + added.length) p node.links
      descendOnce visit v (kept ++ [next]) (added ++ more) rest s slices

/-- Follows all ways down until each is stopped. -/
def descend (visit : σ → Path → StackNode → σ × Visit) (v : Nat) :
    (fuel : Nat) → List Path → σ → List Slice → Reading (σ × List Slice)
  | 0, _, s, slices => return (s, slices)
  | _ + 1, [], s, slices => return (s, slices)
  | fuel + 1, paths, s, slices => do
    let (paths, s, slices) ← descendOnce visit v [] [] paths s slices
    descend visit v fuel paths s slices

def pathsFrom (v : Nat) : Reading (List Path) := do return [{ node := (← headAt v).node }]

/-- The readings below the topmost `n` pieces. -/
def pop (fuel v n : Nat) : Reading (List Slice) := do
  let visit (s : Unit) (p : Path) (_ : StackNode) : Unit × Visit :=
    (s, ⟨p.depth = n, p.depth = n⟩)
  return (← descend visit v fuel (← pathsFrom v) () []).2

/-- The readings below all pieces. -/
def popAll (fuel v : Nat) : Reading (List Slice) := do
  let visit (s : Unit) (_ : Path) (node : StackNode) : Unit × Visit := (s, ⟨node.links.isEmpty, false⟩)
  return (← descend visit v fuel (← pathsFrom v) () []).2

/-- Takes an error from the top of a reading, if one is there. -/
def popError (fuel v : Nat) : Reading (Option Subtree) := do
  let isError (t : Subtree) : Bool := t.symbol = .error
  if (← top v).links.any fun link => link.piece.any isError then
    let visit (found : Bool) (p : Path) (_ : StackNode) : Bool × Visit :=
      match p.pieces with
      | [] => (found, ⟨false, false⟩)
      | t :: _ => if !found && isError t then (true, ⟨true, true⟩) else (found, ⟨false, true⟩)
    match (← descend visit v fuel (← pathsFrom v) false []).2 with
    | [] => return none
    | s :: _ =>
      takePlace s.head v
      return s.pieces.head?
  else return none

/-- Remembers the states of a reading down to some depth, the nearest first. -/
def recordResorts (fuel v : Nat) : Reading Unit := do
  let visit (found : List Resort) (p : Path) (node : StackNode) : List Resort × Visit :=
    if p.depth > maxDepth then (found, ⟨false, true⟩)
    else if (found.takeWhile fun r => r.depth ≥ p.depth).any fun r =>
        r.depth = p.depth && r.state = node.state then (found, ⟨false, false⟩)
    else (⟨node.place, p.depth, node.state⟩ :: found, ⟨false, false⟩)
  let (found, _) ← descend visit v fuel (← pathsFrom v) [] []
  let h ← headAt v
  setHead v { h with resorts := some found.reverse }

end Reading

end PageLint.Script
