import PageLint.Text.Basic

/-!
Patterns for file names: `?` stands for one character, `*` for any number of them, brackets for one
of a set, and `**` for any number of directories.
-/
namespace PageLint.Command

/-- The characters between two ends. -/
structure CharRange where
  low : Char
  high : Char
  deriving DecidableEq, Repr

inductive Piece where
  | char (c : Char)
  | anyChar
  | anySequence
  | anyDirectories
  | within (ranges : List CharRange)
  | except (ranges : List CharRange)
  deriving DecidableEq, Repr

/-- Why a pattern is refused. -/
inductive PatternFault where
  | wildcards
  | recursiveWildcards
  | range
  deriving DecidableEq, Repr

/-- What is wrong, with the place in the pattern. -/
structure PatternError where
  position : Nat
  fault : PatternFault
  deriving DecidableEq, Repr

def PatternFault.message : PatternFault → String
  | wildcards => "wildcards are either regular `*` or recursive `**`"
  | recursiveWildcards => "recursive wildcards must form a single path component"
  | range => "invalid range pattern"

def PatternError.message (e : PatternError) : String :=
  s!"Pattern syntax error near position {e.position}: {e.fault.message}"

/-! ## Reading -/

/-- The characters of a set: single ones, and ranges with a hyphen between their ends. -/
def ranges : Text → List CharRange
  | a :: '-' :: b :: rest => ⟨a, b⟩ :: ranges rest
  | a :: rest => ⟨a, a⟩ :: ranges rest
  | [] => []

/-- The text up to a closing bracket, which is not its first character, and the text behind. -/
def upToBracket? (t : Text) : Option (Text × Text) :=
  match t with
  | [] => none
  | c :: rest =>
    match rest.dropWhile (· != ']') with
    | [] => none
    | _ :: behind => some (c :: rest.takeWhile (· != ']'), behind)

/-- A set in brackets, from behind the opening one, and the text behind it. -/
def set? (t : Text) : Option (Piece × Text) :=
  match t with
  | '!' :: rest => (upToBracket? rest).map fun (cs, behind) => (.except (ranges cs), behind)
  | _ => (upToBracket? t).map fun (cs, behind) => (.within (ranges cs), behind)

/-- The pieces of a pattern from a position on; `fuel` bounds their number. -/
def piecesFrom (position : Nat) (previous : Option Char) :
    (fuel : Nat) → Text → Except PatternError (List Piece)
  | 0, _ => .ok []
  | _ + 1, [] => .ok []
  | fuel + 1, c :: rest =>
    if c = '?' then
      (piecesFrom (position + 1) (some c) fuel rest).map (.anyChar :: ·)
    else if c = '*' then
      match rest with
      | '*' :: '*' :: _ => .error ⟨position + 2, .wildcards⟩
      | '*' :: rest =>
        if !previous.all (· = '/') then .error ⟨position - 1, .recursiveWildcards⟩
        else match rest with
          | [] => .ok [.anyDirectories]
          | '/' :: rest =>
            (piecesFrom (position + 3) (some '/') fuel rest).map (.anyDirectories :: ·)
          | _ => .error ⟨position + 2, .recursiveWildcards⟩
      | rest => (piecesFrom (position + 1) (some c) fuel rest).map (.anySequence :: ·)
    else if c = '[' then
      match set? rest with
      | none => .error ⟨position, .range⟩
      | some (piece, behind) =>
        (piecesFrom (position + 1 + (rest.length - behind.length)) (some ']') fuel behind).map
          (piece :: ·)
    else (piecesFrom (position + 1) (some c) fuel rest).map (.char c :: ·)

def pieces (t : Text) : Except PatternError (List Piece) := piecesFrom 0 none (t.length + 1) t

/-! ## Matching -/

def CharRange.contains (r : CharRange) (c : Char) : Bool := r.low ≤ c && c ≤ r.high

/-- A piece for one character admits `c`. -/
def Piece.admits : Piece → Char → Bool
  | char d, c => c = d
  | within rs, c => rs.any (·.contains c)
  | except rs, c => !rs.any (·.contains c)
  | _, _ => true

/-- The pieces fit a name from its first to its last character. -/
def fits (ps : List Piece) (name : Text) : Bool :=
  match ps, name with
  | [], [] => true
  | [], _ :: _ => false
  | .anySequence :: ps, [] => fits ps []
  | .anySequence :: ps, c :: name => fits ps (c :: name) || fits (.anySequence :: ps) name
  | _ :: _, [] => false
  | p :: ps, c :: name => p.admits c && fits ps name
termination_by ps.length + name.length

/-- The only text that pieces without any choice fit. -/
def literal? (ps : List Piece) : Option Text :=
  ps.mapM fun p =>
    match p with
    | .char c => some c
    | _ => none

end PageLint.Command
