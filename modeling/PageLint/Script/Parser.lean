import PageLint.Script.Lexer
import PageLint.Script.Scanner
import PageLint.Script.Stack

/-!
Reading a text with all its possible meanings side by side. Where no reading can go on, some are
repaired: by a token that is missing, by leaving out what was read, or by leaving out tokens until
one fits. Repairs have costs, and the readings with the least cost are kept.
-/
namespace PageLint.Script.Reading

open Readings
open Grammar (errorState endToken wordToken movesOn)

/-! ## Moves on symbols -/

def movesOnSymbol (state : Nat) : Symbol → List Move
  | .token n => movesOn state n
  | _ => []

/-- The state behind a symbol on top of `state`; the error state if there is none. -/
def stateBehind (state : Nat) : Symbol → Nat
  | .token n => (Grammar.stateBehindToken? state n).getD errorState
  | .rule n => (Grammar.stateBehindRule? state n).getD errorState
  | .error | .errorPart => errorState

/-! ## Comparing readings -/

/-- The cost of the errors of a reading, and of one that it is in the middle of. -/
def costOf (v : Nat) : Reading Nat := do
  let h ← headAt v
  let node ← nodeAt h.node
  let open_ := h.isPaused ||
    (node.state = errorState && !(node.links.head?.any (·.piece.isSome)))
  return node.cost + if open_ then Cost.recovery else 0

/-- Pieces since the last error. -/
def countSinceError (v : Nat) : Reading Nat := do
  let h ← headAt v
  let node ← nodeAt h.node
  if node.count < h.countAtError then setHead v { h with countAtError := node.count }
  return node.count - h.countAtError

/-- Follows first links down as long as the pieces are empty. -/
def hasTakenText (countAtError : Nat) : (fuel : Nat) → Nat → Reading Bool
  | 0, _ => return false
  | fuel + 1, n => do
    let node ← nodeAt n
    match node.links with
    | ⟨below, some t⟩ :: _ =>
      if t.extent.bytes > 0 then return true
      else if node.count > countAtError && t.cost = 0 then hasTakenText countAtError fuel below
      else return false
    | _ => return false

/-- The reading has taken text since its last error. -/
def hasAdvanced (v : Nat) : Reading Bool := do
  let h ← headAt v
  if (← nodeAt h.node).cost = 0 then return true
  hasTakenText h.countAtError (← get).nodes.size h.node

/-- What readings are compared by. -/
structure Standing where
  cost : Nat
  count : Nat
  precedence : Int
  inError : Bool

def standing (v : Nat) : Reading Standing := do
  let cost ← costOf v
  let h ← headAt v
  let count ← countSinceError v
  let node ← nodeAt h.node
  return {
    cost := cost + if h.isPaused then Cost.skippedTree else 0
    count
    precedence := node.precedence
    inError := h.isPaused || node.state = errorState }

inductive Preference where
  | takeLeft
  | preferLeft
  | none
  | preferRight
  | takeRight
  deriving DecidableEq

/-- A reading whose cost is this much higher, for each piece of the other, is given up. -/
def maxCostDifference : Nat := 1800

def compareStandings (a b : Standing) : Preference :=
  if !a.inError && b.inError then if a.cost < b.cost then .takeLeft else .preferLeft
  else if a.inError && !b.inError then if b.cost < a.cost then .takeRight else .preferRight
  else if a.cost < b.cost then
    if (b.cost - a.cost) * (1 + a.count) > maxCostDifference then .takeLeft else .preferLeft
  else if b.cost < a.cost then
    if (a.cost - b.cost) * (1 + b.count) > maxCostDifference then .takeRight else .preferRight
  else if a.precedence > b.precedence then .preferLeft
  else if b.precedence > a.precedence then .preferRight
  else .none

/-- Some other reading is better than `v` would be at a cost. -/
def isBeaten (v cost : Nat) : Reading Bool := do
  let r ← get
  if r.finished.any (·.cost ≤ cost) then return true
  let node ← top v
  let own : Standing :=
    { cost, inError := false, precedence := node.precedence, count := ← countSinceError v }
  for i in List.range r.heads.length do
    if i ≠ v then
      let h ← headAt i
      let other ← nodeAt h.node
      if h.isActive && node.place.offset ≤ other.place.offset then
        match compareStandings own (← standing i) with
        | .takeRight => return true
        | .preferRight => if ← canMerge i v then return true
        | _ => pure ()
  return false

/-! ## Tokens -/

/-- A token with the place where its text starts and whether a scanner found it. -/
structure Sighting where
  symbol : Nat
  start : Place
  stop : Place
  scanned : Bool

/-- The token that a scanner finds at a place. An empty one counts only if it leads on. -/
def scanToken (v state row : Nat) (p : Place) : Reading (Option Sighting) := do
  match Scanner.scan (Grammar.scanMode (Grammar.rowOf row).scanMode) p with
  | none => return none
  | some found =>
    let symbol := found.what.token
    let sighting : Sighting := ⟨symbol, found.start, found.stop, true⟩
    if found.stop.offset ≤ p.offset then
      let stays := stateBehind state (.token symbol) = state
      if row = errorState || stays || !(← hasAdvanced v) then return none
    return some sighting

/-- What looking for a token has come to: the token, and the text that had to be skipped. -/
structure Look where
  sighting : Option Sighting := none
  /-- Where skipped text starts and ends. -/
  skipped : Option (Place × Place) := none

/-- Looks for a token as state `row` does, and then as the error state does, skipping characters
until there is one. -/
def look (v state : Nat) (origin : Place) :
    (fuel : Nat) → (row : Nat) → Place → Option (Place × Place) → Reading Look
  | 0, _, _, skipped => return { skipped }
  | fuel + 1, row, p, skipped => do
    match ← scanToken v state row p with
    | some s => return { sighting := some s, skipped }
    | none =>
      match Lexer.modes[(Grammar.rowOf row).lexMode]? with
      | none => return { skipped }
      | some wanted =>
        let result := Lexer.read wanted p
        match result.found with
        | some (symbol, stop) =>
          return { sighting := some ⟨symbol, result.start, stop, false⟩, skipped }
        | none =>
          if row ≠ errorState then look v state origin fuel errorState origin skipped
          else
            let (first, last) := skipped.getD (result.start, result.start)
            let p := result.reached
            if p.offset = last.offset then
              if p.isAtEnd then return { skipped := some (first, last) }
              else look v state origin fuel errorState p.advance (some (first, p.advance))
            else look v state origin fuel errorState p (some (first, p))

/-- The next token of a reading. Text that is no token makes one of its own. -/
def readToken (v state : Nat) : Reading Subtree := do
  let origin := (← top v).place
  let found ← look v state origin (origin.rest.length + 3) state origin none
  match found.skipped, found.sighting with
  | some (first, last), _ => return { Subtree.leaf .error origin first last with lexState := state }
  | none, none => return { Subtree.leaf .error origin origin origin with lexState := state }
  | none, some s =>
    let start := if s.start.offset ≤ s.stop.offset then s.start else s.stop
    let leaf := { Subtree.leaf (.token s.symbol) origin start s.stop with lexState := state }
    if !s.scanned && s.symbol = wordToken then
      match Lexer.keyword? leaf.text with
      | none => return leaf
      | some n =>
        if (movesOn state n).isEmpty then return { leaf with isKeyword := true }
        else
          return { Subtree.leaf (.token n) origin start s.stop with
            lexState := state, isKeyword := true }
    else return leaf

/-- A token that was read for another state serves here as well. -/
def canReuse (state : Nat) (t : Subtree) : Bool :=
  let a := Grammar.rowOf state
  let b := Grammar.rowOf t.lexState
  !(movesOnSymbol state t.symbol).isEmpty && a.lexMode = b.lexMode && a.scanMode = b.scanMode &&
    (t.firstSymbol ≠ .token wordToken || (!t.isKeyword && t.lexState = state))

def nextToken (v state : Nat) : Reading Subtree := do
  let offset := (← top v).place.offset
  let fresh : Reading Subtree := do
    let t ← readToken v state
    modify fun r => { r with lastToken := some (offset, t) }
    return t
  match (← get).lastToken with
  | some (n, t) => if n = offset && canReuse state t then return t else fresh
  | none => fresh

/-! ## Completing rules -/

/-- Of several ways to build one piece, the best, with the extra pieces behind it. -/
def bestNode (fuel : Nat) (r : Reduction) (rest : Text) (best : Subtree × List Subtree) :
    List Slice → Subtree × List Subtree
  | [] => best
  | s :: more =>
    let (children, extras) := Subtree.splitExtras s.pieces
    let node (by_ : Option Reduction) := Subtree.node (.rule r.rule) by_ rest children
    if Subtree.prefers fuel best.1 (node none) then
      bestNode fuel r rest (node (some r), extras) more
    else bestNode fuel r rest best more

/-- Merges reading `w` into the first of the readings in front of it that it can be merged into. -/
def mergeInto (fuel w v : Nat) : List Nat → Reading Bool
  | [] => return false
  | j :: rest => do
    if j ≠ v then
      if ← merge fuel j w then return true
    mergeInto fuel w v rest

/-- Completes a rule on each of the readings below its children. Too many readings are dropped. -/
def completeAll (fuel v limit : Nat) (r : Reduction) :
    (rounds : Nat) → (removed : Nat) → List Slice → Reading Unit
  | 0, _, _ | _, _, [] => return
  | rounds + 1, removed, s :: rest => do
    let alike := rest.takeWhile (·.head = s.head)
    let others := rest.drop alike.length
    let w := s.head - removed
    if w > limit then
      removeHead w
      completeAll fuel v limit r rounds (removed + 1) others
    else
      let below ← top w
      let (children, extras) := Subtree.splitExtras s.pieces
      let first := Subtree.node (.rule r.rule) (some r) below.place.rest children
      let (node, extras) := bestNode fuel r below.place.rest (first, extras) alike
      let state := stateBehind below.state (.rule r.rule)
      push w (some { node with precedence := node.precedence + r.precedence }) state
      for t in extras do
        push w (some t) state
      let merged ← mergeInto fuel w v (List.range w)
      completeAll fuel v limit r rounds (if merged then removed + 1 else removed) others

/-- Completes a rule on top of a reading. The answer is the first reading that comes of it. -/
def complete (fuel v : Nat) (r : Reduction) : Reading (Option Nat) := do
  let before ← headCount
  let slices ← pop fuel v r.arity
  let halted := ((← get).heads.filter (·.isHalted)).length
  completeAll fuel v (maxHeads + overflow + halted) r (slices.length + 1) 0 slices
  return if (← headCount) > before then some before else none

/-! ## Trees -/

/-- The tree of all pieces: the children of the last rule take its place among them. -/
def treeOf? (pieces : List Subtree) : Option Subtree :=
  let isRoot (t : Subtree) : Bool := !t.isExtra && t.symbol ≠ .token endToken
  match pieces.reverse.dropWhile (!isRoot ·) with
  | [] => none
  | root :: front =>
    some (Subtree.node root.symbol root.reduction root.rest
      (front.reverse ++ root.children ++ pieces.drop (front.length + 1)))

/-- The text is read to its end: keeps the tree if it is the best. -/
def accept (fuel v : Nat) (token : Subtree) : Reading Unit := do
  push v (some token) Grammar.startState
  let slices ← popAll fuel v
  for s in slices do
    match treeOf? s.pieces with
    | none => pure ()
    | some tree =>
      modify fun r =>
        let better := r.finished.all fun best => Subtree.prefers fuel best tree
        { r with
          accepted := r.accepted + 1
          finished := if better then some tree else r.finished }
  match slices with
  | [] => pure ()
  | s :: _ => removeHead s.head
  setStatus v .halted

/-! ## Recovery -/

/-- The rules that a reading may complete, each with its number of children once. -/
def completions (state : Nat) (tokens : List Nat) : List Reduction :=
  let all := tokens.flatMap fun n => (movesOn state n).filterMap fun
    | .reduce r => if r.arity > 0 then some r else none
    | _ => none
  all.foldl (fun found r =>
    if found.any fun s => s.rule = r.rule && s.arity = r.arity then found else found ++ [r]) []

def canShift (state : Nat) (tokens : List Nat) : Bool :=
  tokens.any fun n => (movesOn state n).any fun
    | .shift _ | .recover => true
    | _ => false

def completeEach (fuel v : Nat) : List Reduction → Option Nat → Reading (Option Nat)
  | [], last => return last
  | r :: rest, _ => do completeEach fuel v rest (← complete fuel v r)

/-- The tokens in front of which rules are completed. With the end of the text in sight, that is any
token. -/
def tokensLike : Symbol → Option (List Nat)
  | .token n => if n = endToken then none else some [n]
  | _ => some []

/-- Completes whatever rules can be completed in front of one of some tokens, or of any token. The
answer tells whether some reading can take it. -/
def completePossible (fuel start : Nat) (ahead : Option (List Nat)) (initial : Nat) :
    (rounds : Nat) → (i v : Nat) → (can : Bool) → Reading Bool
  | 0, _, _, can => return can
  | rounds + 1, i, v, can => do
    let count ← headCount
    if v ≥ count then return can
    let merged ← mergeInto fuel v v ((List.range v).drop initial)
    if merged then completePossible fuel start ahead initial rounds (i + 1) v can
    else
      let state := (← top v).state
      let tokens := ahead.getD ((List.range Grammar.tokens.length).drop 1)
      let shifts := canShift state tokens
      let last ← completeEach fuel v (completions state tokens) none
      let next := if v = start then count else v + 1
      if shifts then completePossible fuel start ahead initial rounds (i + 1) next true
      else
        match if i < maxHeads then last else none with
        | some w =>
          takePlace w v
          completePossible fuel start ahead initial rounds (i + 1) v can
        | none =>
          if ahead.isSome then removeHead v
          completePossible fuel start ahead initial rounds (i + 1) next can

/-- Tries to go on as if a token were there. -/
def insertMissing (fuel k : Nat) (token : Subtree) : List Nat → Reading Bool
  | [] => return false
  | m :: rest => do
    let node ← top k
    let state := stateBehind node.state (.token m)
    let completes := match movesOnSymbol state token.firstSymbol with
      | .reduce _ :: _ => true
      | _ => false
    if state = errorState || state = node.state || !completes then
      insertMissing fuel k token rest
    else
      let h ← headAt k
      let w ← headCount
      modify fun r => { r with heads := r.heads ++ [{ h with resorts := none }] }
      let missing :=
        { Subtree.leaf (.token m) node.place node.place node.place with isMissing := true }
      push w (some missing) state
      if ← completePossible fuel w (tokensLike token.firstSymbol) (w + 1) fuel 0 w false then
        return true
      insertMissing fuel k token rest

/-- Puts the readings `k`, `first`, … below `stop` into the error state. -/
def markErrors (fuel : Nat) (token : Subtree) (v first stop : Nat) :
    (rounds : Nat) → (k : Nat) → (inserted : Bool) → Reading Unit
  | 0, _, _ => return
  | rounds + 1, k, inserted => do
    if k < stop then
      let inserted ←
        if inserted then pure true
        else insertMissing fuel k token ((List.range Grammar.tokens.length).drop 1)
      push k none errorState
      markErrors fuel token v first stop rounds (if k = v then first else k + 1) inserted

/-- Leaves out what was read since a resort: it becomes an error on top of the state there. -/
def leaveOut (fuel v goal : Nat) : (previous : Option Nat) → List Slice → Reading Bool
  | previous, [] => return previous.isSome
  | previous, s :: rest => do
    if previous = some s.head then leaveOut fuel v goal previous rest
    else if (← top s.head).state ≠ goal then
      setStatus s.head .halted
      leaveOut fuel v goal previous rest
    else
      let before ← popError fuel s.head
      let below ← top s.head
      let pieces := (before.map (·.children)).getD [] ++ s.pieces
      let (children, extras) := Subtree.splitExtras pieces
      if !children.isEmpty then
        let error := Subtree.node .error none below.place.rest children
        push s.head (some { error with isExtra := true }) goal
      for t in extras do
        push s.head (some t) goal
      leaveOut fuel v goal (some s.head) rest

/-- Goes back to the first resort that can take the token, if the cost allows it. `count` readings
were there before. -/
def goBack (fuel v : Nat) (token : Subtree) (count cost since : Nat) (place : Place) :
    List Resort → Reading Bool
  | [] => return false
  | e :: rest => do
    let others := (← get).heads.take count
    let taken ← others.anyM fun h => do
      let node ← nodeAt h.node
      return node.state = e.state && node.place.offset = place.offset
    if e.state = errorState || e.place.offset = place.offset || taken then
      goBack fuel v token count cost since place rest
    else
      let newCost := cost + e.depth * Cost.skippedTree +
        (place.offset - e.place.offset) * Cost.skippedByte +
        (place.row - e.place.row) * Cost.skippedLine
      if ← isBeaten v newCost then return false
      if (movesOnSymbol e.state token.symbol).isEmpty then
        goBack fuel v token count cost since place rest
      else
        let depth := if since > 0 then e.depth + 1 else e.depth
        if ← leaveOut fuel v e.state none (← pop fuel v depth) then return true
        goBack fuel v token count cost since place rest

/-- Removes the readings from `first` on that are no longer active. -/
def removeInactive (first : Nat) : Reading Unit :=
  modify fun r =>
    { r with heads := r.heads.take first ++ (r.heads.drop first).filter (·.isActive) }

/-- Leaves out a token: it joins the error on top of the reading. -/
def leaveOutToken (fuel v : Nat) (token : Subtree) (since : Nat) : Reading Unit := do
  let isExtra := (movesOnSymbol Grammar.startState token.symbol).getLast? = some .shiftExtra
  let token := if isExtra then { token with isExtra := true } else token
  let part := Subtree.node .errorPart none token.rest [token]
  if since > 0 then
    match ← pop fuel v 1 with
    | [] => push v (some part) errorState
    | s :: more =>
      if !more.isEmpty then modify fun r => { r with heads := r.heads.take (s.head + 1) }
      takePlace s.head v
      push v (some (Subtree.node .errorPart none token.rest (s.pieces ++ [part]))) errorState
  else push v (some part) errorState

/-- Goes on behind an error: by going back, or by leaving the token out. -/
def recover (fuel v : Nat) (token : Subtree) : Reading Unit := do
  let count ← headCount
  let h ← headAt v
  let place := (← nodeAt h.node).place
  let since ← countSinceError v
  let cost ← costOf v
  let wentBack ←
    if token.symbol = .error then pure false
    else goBack fuel v token count cost since place (h.resorts.getD [])
  removeInactive count
  if token.symbol = .token endToken then
    push v (some (Subtree.node .error none place.rest [])) Grammar.startState
    accept fuel v token
  else if wentBack && (← headCount) > maxHeads then setStatus v .halted
  else
    let newCost := cost + Cost.skippedTree + token.extent.bytes * Cost.skippedByte +
      token.extent.rows * Cost.skippedLine
    if ← isBeaten v newCost then setStatus v .halted
    else leaveOutToken fuel v token since

def mergeTimes (fuel v w : Nat) : Nat → Reading Unit
  | 0 => return
  | n + 1 => do
    let _ ← merge fuel v w
    mergeTimes fuel v w n

/-- A reading cannot take a token: joins all the ways in which it could be in the middle of an error,
and recovers. -/
def handleError (fuel v : Nat) (token : Subtree) : Reading Unit := do
  let first ← headCount
  let _ ← completePossible fuel v none first fuel 0 v false
  let stop ← headCount
  markErrors fuel token v first stop fuel v false
  mergeTimes fuel v first (stop - first)
  recordResorts fuel v
  recover fuel v token

/-! ## Going on -/

inductive Step where
  /-- The reading has taken the token, or ended. -/
  | done
  /-- Rules were completed; the last time, this reading came of it. -/
  | completed (last : Option Nat)
  /-- No move is possible. -/
  | stuck

/-- Makes the moves of a state one after the other. -/
def makeMoves (fuel v state : Nat) (token : Subtree) : Step → List Move → Reading Step
  | step, [] => return step
  | step, move :: rest => do
    match move with
    | .repeatItem _ => makeMoves fuel v state token step rest
    | .shift next =>
      push v (some { token with isExtra := false }) next
      return .done
    | .shiftExtra =>
      push v (some { token with isExtra := true }) state
      return .done
    | .reduce r =>
      let last ← complete fuel v r
      let earlier := match step with
        | .completed w => w
        | _ => none
      makeMoves fuel v state token (.completed (last <|> earlier)) rest
    | .accept =>
      accept fuel v token
      return .done
    | .recover =>
      recover fuel v token
      return .done

/-- Makes moves until the token is taken. A keyword that does not fit is tried as an identifier. -/
def takeToken (fuel v : Nat) : (rounds : Nat) → (state : Nat) → List Move → Subtree → Reading Unit
  | 0, _, _, _ => setStatus v .halted
  | rounds + 1, state, moves, token => do
    match ← makeMoves fuel v state token .stuck moves with
    | .done => return
    | .completed (some w) =>
      takePlace w v
      let state := (← top v).state
      takeToken fuel v rounds state (movesOnSymbol state token.firstSymbol) token
    | .completed none => setStatus v .halted
    | .stuck =>
      let asWord := movesOn state wordToken
      if token.isKeyword && token.symbol ≠ .token wordToken && !asWord.isEmpty then
        takeToken fuel v rounds state asWord token.asWord
      else
        let h ← headAt v
        setHead v
          { h with status := .paused token, countAtError := (← nodeAt h.node).count }

def advance (fuel v : Nat) : Reading Unit := do
  let state := (← top v).state
  let token ← nextToken v state
  takeToken fuel v fuel state (movesOnSymbol state token.symbol) token

/-- Advances a reading until it is further than the others. -/
def advanceWhile (fuel v : Nat) : (rounds : Nat) → (last : Nat) → Reading Nat
  | 0, last => return last
  | rounds + 1, last => do
    if v < (← headCount) && (← headAt v).isActive then
      advance fuel v
      if v < (← headCount) then
        let offset := (← top v).place.offset
        if offset > last || (v > 0 && offset = last) then return offset
        advanceWhile fuel v rounds last
      else return last
    else return last

/-- Advances the readings from `v` on. -/
def advanceAll (fuel : Nat) : (rounds : Nat) → (v last : Nat) → Reading Nat
  | 0, _, last => return last
  | rounds + 1, v, last => do
    if v < (← headCount) then
      let last ← advanceWhile fuel v fuel last
      advanceAll fuel rounds (v + 1) last
    else return last

/-! ## Keeping the best -/

/-- What comparing two readings has done to the list of them. -/
inductive Pruned where
  /-- The later one is gone. -/
  | later
  /-- The earlier one is gone. -/
  | earlier
  | neither

def pruneTwo (fuel j i : Nat) (own : Standing) : Reading Pruned := do
  match compareStandings (← standing j) own with
  | .takeLeft =>
    removeHead i
    return .later
  | .preferLeft | .none => return if ← merge fuel j i then .later else .neither
  | .preferRight =>
    if ← merge fuel j i then return .later
    let a ← headAt i
    let b ← headAt j
    setHead i b
    setHead j a
    return .neither
  | .takeRight =>
    removeHead j
    return .earlier

/-- Compares reading `i` with those in front of it, from `j` on. The answer is the index of the next
reading. -/
def pruneAgainst (fuel : Nat) (own : Standing) : (rounds : Nat) → (j i : Nat) → Reading Nat
  | 0, _, i => return i + 1
  | rounds + 1, j, i => do
    if j < i then
      match ← pruneTwo fuel j i own with
      | .later => return i
      | .earlier => pruneAgainst fuel own rounds j (i - 1)
      | .neither => pruneAgainst fuel own rounds (j + 1) i
    else return i + 1

def least (a : Option Nat) (b : Nat) : Option Nat := some (a.elim b (min · b))

/-- Compares each reading with those in front of it. The answer is the least cost of a reading that
is not in an error. -/
def pruneAll (fuel : Nat) : (rounds : Nat) → (i : Nat) → Option Nat → Reading (Option Nat)
  | 0, _, best => return best
  | rounds + 1, i, best => do
    if i < (← headCount) then
      if (← headAt i).isHalted then
        removeHead i
        pruneAll fuel rounds i best
      else
        let own ← standing i
        let best := if own.inError then best else least best own.cost
        pruneAll fuel rounds (← pruneAgainst fuel own fuel 0 i) best
    else return best

/-- Resumes the first paused reading if all in front of it are paused too, and drops the others that
are paused. -/
def resume (fuel : Nat) : (rounds : Nat) → (i stop : Nat) → (running : Bool) → Option Nat →
    Reading (Option Nat)
  | 0, _, _, _, best => return best
  | rounds + 1, i, stop, running, best => do
    if i < stop then
      match (← headAt i).status with
      | .paused token =>
        if !running && (← get).accepted < maxHeads then
          let cost ← costOf i
          setStatus i .active
          handleError fuel i token
          resume fuel rounds (i + 1) stop true (some cost)
        else
          removeHead i
          resume fuel rounds i (stop - 1) running best
      | _ => resume fuel rounds (i + 1) stop true best
    else return best

/-- Keeps the best readings. The answer is the least cost among them. -/
def condense (fuel : Nat) : Reading (Option Nat) := do
  let best ← pruneAll fuel fuel 0 none
  modify fun r => { r with heads := r.heads.take maxHeads }
  let count ← headCount
  resume fuel fuel 0 count false best

def run (fuel : Nat) : (rounds : Nat) → (last : Nat) → Reading Unit
  | 0, _ => return
  | rounds + 1, last => do
    let last ← advanceAll fuel fuel 0 last
    let best ← condense fuel
    let r ← get
    let isFinal := r.finished.any fun tree => best.all (tree.cost < ·)
    if !isFinal && !r.heads.isEmpty then run fuel rounds last

/-- The best tree of a text. Every round moves some reading on, so that `fuel` rounds, a generous
multiple of the length of the text, are enough. -/
def tree? (text : Text) : Option Subtree :=
  let fuel := 1000 * (text.length + 10)
  (StateT.run (run fuel fuel 0) (Readings.start text)).2.finished

end PageLint.Script.Reading
