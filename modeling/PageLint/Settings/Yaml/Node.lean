import PageLint.Settings.Yaml.Token

/-!
The value that a YAML text means. A text holds one document at most, and an alias stands for the
value of the anchor in front of it.
-/
namespace PageLint.Yaml

inductive Node where
  | scalar (text : Text) (isPlain : Bool) (tag : Option Text)
  | sequence (items : List Node)
  | mapping (entries : List (Node × Node))
  deriving Inhabited

def Node.empty : Node := .scalar [] true none

/-- Anchors with their values, and the tokens that are left. -/
structure Reader where
  anchors : List (Text × Node) := []
  tokens : List Token
  deriving Inhabited

namespace Reader

def next? (r : Reader) : Option Token := r.tokens.head?

def skip (r : Reader) : Reader := { r with tokens := r.tokens.drop 1 }

/-- The next token is one of some tokens, or there is none. -/
def isAt (r : Reader) (ts : List Token) : Bool := r.tokens.head?.all ts.contains

/-- The anchor and the tag in front of a value, in either order. -/
def properties (r : Reader) : Option Text × Option Text × Reader :=
  match r.tokens with
  | .anchor a :: .tag t :: rest => (some a, some t, { r with tokens := rest })
  | .tag t :: .anchor a :: rest => (some a, some t, { r with tokens := rest })
  | .anchor a :: rest => (some a, none, { r with tokens := rest })
  | .tag t :: rest => (none, some t, { r with tokens := rest })
  | _ => (none, none, r)

def bind (r : Reader) (anchor : Option Text) (n : Node) : Node × Reader :=
  match anchor with
  | none => (n, r)
  | some a => (n, { r with anchors := (a, n) :: r.anchors })

/-- Passes over the comma in front of all elements but the first one. -/
def pastComma? (r : Reader) (isFirst : Bool) : Option Reader :=
  if isFirst then some r else if r.next? = some .flowEntry then some r.skip else none

end Reader

abbrev Read (α : Type) := Reader → Option (α × Reader)

/-- What ends an entry of a collection without a value. -/
def entryEnds : List Token := [.key, .value, .blockEnd]

mutual

/-- A value. In a block it may be a collection by indentation, and as the value of a key a sequence
that is not indented. Every round takes a token or ends a collection, so `fuel` may be twice the
number of tokens and more. -/
def node? (inBlock isUnindented : Bool) : (fuel : Nat) → Read Node
  | 0, _ => none
  | fuel + 1, r =>
    match r.next? with
    | some (.alias name) => (r.anchors.lookup name).map fun n => (n, r.skip)
    | _ => do
      let (anchor, tag, r) := r.properties
      let bound (found : Option (Node × Reader)) : Option (Node × Reader) :=
        found.map fun (n, r) => r.bind anchor n
      match r.next? with
      | some .blockEntry =>
        if isUnindented then bound ((unindented? fuel r).map fun (ns, r) => (.sequence ns, r))
        else if anchor.isSome || tag.isSome then bound (some (.scalar [] true tag, r))
        else none
      | some (.scalar text isPlain) => bound (some (.scalar text isPlain tag, r.skip))
      | some .flowSequence =>
        bound ((flowItems? true fuel r.skip).map fun (ns, r) => (.sequence ns, r))
      | some .flowMapping =>
        bound ((flowEntries? true fuel r.skip).map fun (es, r) => (.mapping es, r))
      | t =>
        if inBlock && t = some .blockSequence then
          bound ((blockItems? fuel r.skip).map fun (ns, r) => (.sequence ns, r))
        else if inBlock && t = some .blockMapping then
          bound ((blockEntries? fuel r.skip).map fun (es, r) => (.mapping es, r))
        else if anchor.isSome || tag.isSome then bound (some (.scalar [] true tag, r))
        else none

/-- A value, or an empty one in front of some tokens. -/
def nodeOr? (ends : List Token) (inBlock isUnindented : Bool) : (fuel : Nat) → Read Node
  | 0, _ => none
  | fuel + 1, r =>
    if r.isAt ends then some (.empty, r) else node? inBlock isUnindented fuel r

/-- The items of a sequence in a block. -/
def blockItems? : (fuel : Nat) → Read (List Node)
  | 0, _ => none
  | fuel + 1, r =>
    match r.next? with
    | some .blockEntry => do
      let (n, r) ← nodeOr? [.blockEntry, .blockEnd] true false fuel r.skip
      let (ns, r) ← blockItems? fuel r
      return (n :: ns, r)
    | some .blockEnd => some ([], r.skip)
    | _ => none

/-- The items of a sequence that is not indented more than the key in front. -/
def unindented? : (fuel : Nat) → Read (List Node)
  | 0, _ => none
  | fuel + 1, r =>
    match r.next? with
    | some .blockEntry => do
      let (n, r) ← nodeOr? [.blockEntry, .key, .value, .blockEnd] true false fuel r.skip
      let (ns, r) ← unindented? fuel r
      return (n :: ns, r)
    | _ => some ([], r)

/-- The entries of a mapping in a block. -/
def blockEntries? : (fuel : Nat) → Read (List (Node × Node))
  | 0, _ => none
  | fuel + 1, r =>
    match r.next? with
    | some .key => do
      let (k, r) ← nodeOr? entryEnds true true fuel r.skip
      let (v, r) ←
        if r.next? = some .value then nodeOr? entryEnds true true fuel r.skip
        else some (.empty, r)
      let (es, r) ← blockEntries? fuel r
      return ((k, v) :: es, r)
    | some .blockEnd => some ([], r.skip)
    | _ => none

/-- A value between brackets, behind a colon if there is one. -/
def flowValue? (close : Token) : (fuel : Nat) → Read Node
  | 0, _ => none
  | fuel + 1, r =>
    if r.next? = some .value then nodeOr? [.flowEntry, close] false false fuel r.skip
    else some (.empty, r)

/-- The entry of a mapping between brackets. Without a mark in front it is a mere key. -/
def flowPair? (close : Token) : (fuel : Nat) → Read (Node × Node)
  | 0, _ => none
  | fuel + 1, r =>
    if r.next? = some .key then do
      let (k, r) ← nodeOr? [.value, .flowEntry, close] false false fuel r.skip
      let (v, r) ← flowValue? close fuel r
      return ((k, v), r)
    else (node? false false fuel r).map fun (k, r) => ((k, .empty), r)

/-- The item of a sequence in brackets; it may be a mapping with a single entry. -/
def flowItem? : (fuel : Nat) → Read Node
  | 0, _ => none
  | fuel + 1, r =>
    if r.next? = some .key then
      (flowPair? .flowSequenceEnd fuel r).map fun (e, r) => (.mapping [e], r)
    else node? false false fuel r

/-- The items of a sequence in brackets. -/
def flowItems? (isFirst : Bool) : (fuel : Nat) → Read (List Node)
  | 0, _ => none
  | fuel + 1, r =>
    if r.next? = some .flowSequenceEnd then some ([], r.skip)
    else do
      let r ← r.pastComma? isFirst
      if r.next? = some .flowSequenceEnd then return ([], r.skip)
      let (n, r) ← flowItem? fuel r
      let (ns, r) ← flowItems? false fuel r
      return (n :: ns, r)

/-- The entries of a mapping in braces. -/
def flowEntries? (isFirst : Bool) : (fuel : Nat) → Read (List (Node × Node))
  | 0, _ => none
  | fuel + 1, r =>
    if r.next? = some .flowMappingEnd then some ([], r.skip)
    else do
      let r ← r.pastComma? isFirst
      if r.next? = some .flowMappingEnd then return ([], r.skip)
      let (e, r) ← flowPair? .flowMappingEnd fuel r
      let (es, r) ← flowEntries? false fuel r
      return (e :: es, r)

end

/-! ## Documents -/

/-- The directives in front of a document, which need its mark behind them. -/
def skipDirectives? (ts : List Token) : Option (List Token) :=
  let isDirective : Token → Bool
    | .directive _ => true
    | _ => false
  let directives := ts.takeWhile isDirective
  if directives.count (.directive true) > 1 then none
  else match directives, ts.dropWhile isDirective with
    | [], ts => some ts
    | _, .documentStart :: rest => some (.documentStart :: rest)
    | _, _ => none

/-- What the content of a document with a mark in front ends with if there is none. -/
def isContentEnd : Token → Bool
  | .documentStart | .documentEnd | .directive _ => true
  | _ => false

/-- The value of the only document; `some none` if there is no document at all. -/
def read? (t : Text) : Option (Option Node) := do
  let ts ← tokens? t
  let fuel := 4 * ts.length + 4
  let ts ← skipDirectives? ts
  if ts.isEmpty then return none
  let (n, r) ← match ts with
    | .documentStart :: rest =>
      if rest.head?.all isContentEnd then some (Node.empty, ({ tokens := rest } : Reader))
      else node? true false fuel { tokens := rest }
    | _ => node? true false fuel { tokens := ts }
  if (r.tokens.dropWhile (· = .documentEnd)).isEmpty then return some n else none

end PageLint.Yaml
