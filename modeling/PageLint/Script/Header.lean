import PageLint.Checker
import PageLint.Text.Scan

/-! What the text in front of an opening brace says about the block behind it. -/
namespace PageLint.Script

inductive BlockKind where
  | function (isAsync : Bool)
  | other
  deriving DecidableEq, Repr

namespace Header

/-! ## Words -/

/-- A character that a word ends with. -/
def isWordPart (c : Char) : Bool := Text.isAlphanumeric c || c = '_' || c = '$'

/-- The text in front of the final word and that word, which may be empty. The character in front
of the word is cut off as if it were a single byte. -/
def finalWord (t : Text) : Except Fault (Text × Text) :=
  let front := t.dropEndWhile isWordPart
  match front.getLast? with
  | some c => if c.utf8Size = 1 then .ok (front, t.drop front.length) else .error .splitCharacter
  | none => .ok (front, t)

/-- No word goes on from `previous`. -/
def startsWord (previous : Option Char) : Bool := !previous.any Text.isWord

def isNameStart (c : Char) : Bool := Text.isAsciiLetter c || c = '_' || c = '$'

def isNameChar (c : Char) : Bool := Text.isWord c || c = '$'

/-- The text behind a name. -/
def dropName? (t : Text) : Option Text :=
  if t.head?.any isNameStart then some (t.dropWhile isNameChar) else none

/-! ## Arrows -/

/-- The text behind parentheses that hold no others. -/
def dropParentheses? (t : Text) : Option Text := do
  let t ← Text.dropWord? ['('] t
  Text.dropWord? [')'] (t.dropWhile fun c => c != '(' && c != ')')

/-- The text behind `async`, parameters and an arrow. -/
def dropAsyncArrow? (t : Text) : Option Text := do
  let t ← Text.dropWord? "async".toList t
  let t := Text.trimStart t
  let t ← dropParentheses? t <|> dropName? t
  Text.dropWord? "=>".toList (Text.trimStart t)

/-- The parameters of an asynchronous function, up to its arrow. -/
def asyncArrow : Text.Pattern Unit := fun previous t => do
  if !startsWord previous then none
  let rest ← dropAsyncArrow? t
  return Text.took t rest ()

/-- The same at the end of the text. -/
def finalAsyncArrow : Text.Pattern Unit := fun previous t =>
  (asyncArrow previous t).filter fun (_, taken) => taken = t.length

def Matches (p : Text.Pattern α) (t : Text) : Bool := !(t.matchesOf p).isEmpty

/-! ## Functions and methods -/

/-- The word that announces a function. -/
def functionWord : Text.Pattern Unit := fun previous t => do
  if previous.any isNameChar then none
  let rest ← Text.dropWord? "function".toList t
  if rest.head?.any Text.isWord then none
  return Text.took t rest ()

/-- The text behind a star. -/
def dropStar (t : Text) : Text := (Text.dropWord? ['*'] t).getD t

/-- The words that announce an asynchronous function, up to its name and the end of the text. -/
def asyncFunction : Text.Pattern Unit := fun previous t => do
  if !startsWord previous then none
  let rest ← Text.dropWord? "async".toList t
  let rest ← Text.dropBlanks? rest
  let rest ← Text.dropWord? "function".toList rest
  let rest := Text.trimStart (dropStar (Text.trimStart rest))
  if (rest.dropWhile isNameChar).isEmpty then some ((), t.length) else none

/-- Goes back to the parenthesis that the last `depth` closing ones belong to; `behind` has been
passed. Gives the text in front of it and the text from it on. -/
def backToOpening (depth : Nat) (behind : Text) : Text → Option (Text × Text)
  | [] => none
  | c :: front =>
    if c = ')' then backToOpening (depth + 1) (c :: behind) front
    else if c = '(' then
      match depth with
      | 0 => none
      | 1 => some (front.reverse, c :: behind)
      | n + 2 => backToOpening (n + 1) (c :: behind) front
    else backToOpening depth (c :: behind) front

/-- The text in front of the parenthesis that the last closing one belongs to, and the text from it
on. -/
def splitAtOpening? (t : Text) : Option (Text × Text) := backToOpening 0 [] t.reverse

/-- Words in front of parentheses that open a mere block. -/
def controlWords : List Text :=
  ["if".toList, "for".toList, "while".toList, "switch".toList, "catch".toList, "with".toList]

/-- The final word is that of a loop over what is awaited. -/
def isAwaitingLoop (front word : Text) : Except Fault Bool :=
  if word = "await".toList then do
    let (_, outer) ← finalWord front.trimEnd
    return outer = "for".toList
  else .ok false

/-- The words in front of a method's name end in `async`. -/
def isAsyncMethod (front : Text) : Bool :=
  let words := ((front.trimEnd.dropEndWhile (· == '*')).trimEnd).splitWhere Text.isBlank
  words.getLast? = some "async".toList

/-- What a block is behind parentheses with `front` before them. -/
def kindOfCall (front : Text) : Except Fault BlockKind := do
  let (before, word) ← finalWord front
  if (← isAwaitingLoop before word) || controlWords.contains word then return .other
  else if Matches functionWord front then return .function (Matches asyncFunction front)
  else if word.isEmpty then return .other
  else return .function (isAsyncMethod before)

/-- The kind of a block with the header in front. -/
def kind (header : Text) : Except Fault BlockKind :=
  let header := header.trimEnd
  match header.reverse with
  | '>' :: '=' :: _ => .ok (.function (Matches finalAsyncArrow header))
  | ')' :: _ =>
    match splitAtOpening? header with
    | none => .ok .other
    | some (front, _) => kindOfCall front.trimEnd
  | _ => .ok .other

end Header

end PageLint.Script
