import PageLint.Json.Read
import PageLint.Number.Shortest
import PageLint.Settings.Cause
import PageLint.Text.Quoted

/-! The words, strings and numbers of a JSON text, read with the place of what is wrong in them. -/
namespace PageLint.Settings

/-- A reader takes something from the front of a text. -/
abbrev Reader (α : Type) := Text → Except Failure (α × Text)

open Json (skipSpace)

/-- The text behind the characters of a word. -/
def word (expected : Text) (t : Text) : Except Failure Text :=
  match expected, t with
  | [], t => .ok t
  | _ :: _, [] => .error (.here .endInValue [])
  | e :: expected, c :: rest =>
    if e = c then word expected rest else .error (.next .expectedWord (c :: rest))

/-! ## Strings -/

/-- Four hexadecimal digits. -/
def hex4 : Reader Nat := fun t =>
  if t.size < 4 then .error (.here .endInString [])
  else match Json.hex4? t with
    | some found => .ok found
    | none => .error ⟨.invalidEscape, t.size - 4⟩

/-- The next character has to be `c`, the second half of a pair. -/
def pairMark (c : Char) (t : Text) : Except Failure Text :=
  match t with
  | [] => .error (.here .endInString [])
  | d :: rest => if d = c then .ok rest else .error (.next .unfinishedPair t)

/-- The character whose number stands behind `\u`. -/
def numberedChar : Reader Char := fun t => do
  let (high, rest) ← hex4 t
  if Json.isLowSurrogate high then throw (.here .loneSurrogate rest)
  if !Json.isHighSurrogate high then return (Char.ofNat high, rest)
  let rest ← pairMark 'u' (← pairMark '\\' rest)
  let (low, rest) ← hex4 rest
  if !Json.isLowSurrogate low then throw (.here .loneSurrogate rest)
  return (Char.ofNat (0x10000 + (high - 0xD800) * 0x400 + (low - 0xDC00)), rest)

/-- The character of an escape, from behind the backslash. A string that is only `skimmed` may hold
halves of pairs. -/
def escape (skimmed : Bool) : Reader Char := fun t =>
  match t with
  | [] => .error (.here .endInString [])
  | 'u' :: rest =>
    if skimmed then (hex4 rest).map fun (_, rest) => (' ', rest) else numberedChar rest
  | c :: rest =>
    match Json.simpleEscape? c with
    | some u => .ok (u, rest)
    | none => .error (.next .invalidEscape (c :: rest))

/-- The characters up to the closing quote, from behind the opening one. Every round takes a
character, so `fuel` may be the length of the text. -/
def stringBody (skimmed : Bool) : (fuel : Nat) → Reader Text
  | 0, t => .error (.here .endInString t)
  | _ + 1, [] => .error (.here .endInString [])
  | fuel + 1, c :: rest =>
    if c = '"' then .ok ([], rest)
    else if c = '\\' then do
      let (u, rest) ← escape skimmed rest
      let (body, rest) ← stringBody skimmed fuel rest
      return (u :: body, rest)
    else if c.toNat < 0x20 then .error (.here .controlCharacter rest)
    else do
      let (body, rest) ← stringBody skimmed fuel rest
      return (c :: body, rest)

/-- A string, from behind the opening quote. -/
def stringRest : Reader Text := fun t => stringBody false (t.length + 1) t

/-! ## Numbers -/

inductive Number where
  | natural (n : Nat)
  | negative (n : Nat)
  | real (isNegative : Bool) (x : Binary)
  deriving DecidableEq, Repr

def Number.found : Number → Found
  | natural n => .integer n
  | negative n => .integer (-n)
  | real isNegative x =>
    .real ((if isNegative then ['-'] else []) ++
      if x.mantissa = 0 then "0.0".toList else x.shortest.text)

/-- The digits whose value still fits into 64 bits, the number of them, and the rest. -/
def significant (n : Nat) (count : Nat) : Text → Nat × Nat × Text
  | [] => (n, count, [])
  | c :: t =>
    if Text.isAsciiDigit c && n * 10 + (c.toNat - 48) < Nat.pow 2 64 then
      significant (n * 10 + (c.toNat - 48)) (count + 1) t
    else (n, count, c :: t)

/-- A number times a power of ten, in steps of at most 308 places. `fuel` bounds the steps. -/
def scaled (fuel : Nat) (x : Binary) (e : Int) (rest : Text) : Except Failure Binary :=
  if e.natAbs ≤ 308 then
    let power := Binary.ofNat (Nat.pow 10 e.natAbs)
    if e < 0 then .ok (x.div power)
    else
      let y := x.mul power
      if y.isInfinite then .error (.here .numberOutOfRange rest) else .ok y
  else if x.mantissa = 0 then .ok x
  else if 0 ≤ e then .error (.here .numberOutOfRange rest)
  else match fuel with
    | 0 => .ok ⟨0, 0⟩
    | fuel + 1 => scaled fuel (x.div (Binary.ofNat (Nat.pow 10 308))) (e + 308) rest

/-- The number of `n` times ten to the power of `e`. -/
def real (isNegative : Bool) (n : Nat) (e : Int) (rest : Text) :
    Except Failure (Number × Text) := do
  let x ← scaled 4 (Binary.ofNat n) e rest
  return (.real isNegative x, rest)

/-- The greatest exponent that is taken as it is. -/
def maxExponent : Nat := Nat.pow 2 31 - 1

/-- The exponent of a number, from behind its letter. One that is too great for 32 bits is known at
its first excess digit. -/
def exponent (isNegative : Bool) (n : Nat) (e : Int) (t : Text) :
    Except Failure (Number × Text) := do
  let (isDown, t) := match t with
    | '+' :: t => (false, t)
    | '-' :: t => (true, t)
    | t => (false, t)
  match t with
  | [] => throw (.here .endInValue [])
  | c :: _ => if !Text.isAsciiDigit c then throw (.next .invalidNumber t)
  let (ds, rest) := Json.digits t
  let fitting := ds.take (fittingLength 0 ds)
  if fitting.length < ds.length then
    if n ≠ 0 && !isDown then throw ⟨.numberOutOfRange, Text.size t - fitting.length - 1⟩
    return (.real isNegative ⟨0, 0⟩, rest)
  let size : Int := Json.digitValue ds
  real isNegative n (if isDown then e - size else e + size) rest
where
  /-- The number of digits whose value is at most the greatest exponent. -/
  fittingLength (n : Nat) : Text → Nat
    | [] => 0
    | c :: t =>
      let m := n * 10 + (c.toNat - 48)
      if m ≤ maxExponent then fittingLength m t + 1 else 0

/-- The fraction of a number, from behind its point. Digits too many for 64 bits are dropped. -/
def fraction (isNegative : Bool) (n : Nat) (e : Int) (t : Text) :
    Except Failure (Number × Text) := do
  let (m, count, rest) := significant n 0 t
  let (more, rest) := Json.digits rest
  if count = 0 && more.isEmpty then
    throw (if rest.isEmpty then .next .endInValue rest else .next .invalidNumber rest)
  let e := e - count
  match rest with
  | 'e' :: rest | 'E' :: rest => exponent isNegative m e rest
  | _ => real isNegative m e rest

/-- What follows the whole part `n` of a number. -/
def afterWhole (isNegative : Bool) (n : Nat) (t : Text) : Except Failure (Number × Text) :=
  match t with
  | '.' :: rest => fraction isNegative n 0 rest
  | 'e' :: rest | 'E' :: rest => exponent isNegative n 0 rest
  | _ =>
    if !isNegative then .ok (.natural n, t)
    else if n = 0 || Nat.pow 2 63 < n then .ok (.real true (Binary.ofNat n), t)
    else .ok (.negative n, t)

/-- What follows a whole part of which only the first digits `n` fit into 64 bits. -/
def afterLongWhole (isNegative : Bool) (n : Nat) (t : Text) : Except Failure (Number × Text) :=
  let (more, rest) := Json.digits t
  match rest with
  | '.' :: rest => fraction isNegative n more.length rest
  | 'e' :: rest | 'E' :: rest => exponent isNegative n more.length rest
  | _ => real isNegative n more.length rest

/-- A number, from behind its sign. -/
def number (isNegative : Bool) : Reader Number := fun t =>
  match t with
  | [] => .error (.here .endInValue [])
  | '0' :: rest =>
    if rest.head?.any Text.isAsciiDigit then .error (.next .invalidNumber rest)
    else afterWhole isNegative 0 rest
  | c :: rest =>
    if Text.isAsciiDigit c then
      let (n, _, rest) := significant (c.toNat - 48) 1 rest
      if rest.head?.any Text.isAsciiDigit then afterLongWhole isNegative n rest
      else afterWhole isNegative n rest
    else .error (.next .invalidNumber (c :: rest))

/-! ## Values of no interest -/

/-- The text behind the digits of an exponent. -/
def skipExponent (t : Text) : Except Failure Text :=
  let t := match t with
    | '+' :: t | '-' :: t => t
    | t => t
  match t with
  | [] => .error (.here .invalidNumber [])
  | c :: rest =>
    if Text.isAsciiDigit c then .ok (rest.dropWhile Text.isAsciiDigit)
    else .error (.next .invalidNumber (c :: rest))

/-- The text behind what follows the whole part of a number. -/
def skipFraction (t : Text) : Except Failure Text :=
  match t with
  | '.' :: rest =>
    if rest.head?.any Text.isAsciiDigit then
      match rest.dropWhile Text.isAsciiDigit with
      | 'e' :: rest | 'E' :: rest => skipExponent rest
      | rest => .ok rest
    else .error (.next .invalidNumber rest)
  | 'e' :: rest | 'E' :: rest => skipExponent rest
  | _ => .ok t

def skipNumber (t : Text) : Except Failure Text :=
  match t with
  | [] => .error (.here .invalidNumber [])
  | '0' :: rest =>
    if rest.head?.any Text.isAsciiDigit then .error (.next .invalidNumber rest)
    else skipFraction rest
  | c :: rest =>
    if Text.isAsciiDigit c then skipFraction (rest.dropWhile Text.isAsciiDigit)
    else .error (.next .invalidNumber (c :: rest))

def skipString (t : Text) : Except Failure Text :=
  (stringBody true (t.length + 1) t).map (·.2)

mutual

/-- The text behind a value. Every round takes a character, so `fuel` may be twice the length of the
text. -/
def skipValue (fuel : Nat) (t : Text) : Except Failure Text :=
  match fuel with
  | 0 => .error (.here .endInValue t)
  | fuel + 1 =>
    match skipSpace t with
    | [] => .error (.next .endInValue [])
    | c :: rest =>
      if c = 'n' then word "ull".toList rest
      else if c = 't' then word "rue".toList rest
      else if c = 'f' then word "alse".toList rest
      else if c = '-' then skipNumber rest
      else if Text.isAsciiDigit c then skipNumber (c :: rest)
      else if c = '"' then skipString rest
      else if c = '[' then
        match skipSpace rest with
        | [] => .error (.next .endInList [])
        | ']' :: rest => .ok rest
        | rest => skipItems fuel rest
      else if c = '\x7b' then
        match skipSpace rest with
        | [] => .error (.next .endInObject [])
        | '\x7d' :: rest => .ok rest
        | rest => skipMembers fuel rest
      else .error (.next .expectedValue (c :: rest))

/-- The text behind the rest of a list that goes on with a value. -/
def skipItems (fuel : Nat) (t : Text) : Except Failure Text :=
  match fuel with
  | 0 => .error (.here .endInValue t)
  | fuel + 1 => do
    match skipSpace (← skipValue fuel t) with
    | [] => .error (.next .endInList [])
    | ',' :: rest => skipItems fuel rest
    | ']' :: rest => .ok rest
    | rest => .error (.next .expectedCommaOrBracket rest)

/-- The text behind the rest of an object that goes on with a member. -/
def skipMembers (fuel : Nat) (t : Text) : Except Failure Text :=
  match fuel with
  | 0 => .error (.here .endInValue t)
  | fuel + 1 =>
    match skipSpace t with
    | [] => .error (.next .endInObject [])
    | '"' :: rest => do
      match skipSpace (← skipString rest) with
      | [] => .error (.next .endInObject [])
      | ':' :: rest =>
        match skipSpace (← skipValue fuel rest) with
        | [] => .error (.next .endInObject [])
        | ',' :: rest => skipMembers fuel rest
        | '\x7d' :: rest => .ok rest
        | rest => .error (.next .expectedCommaOrBrace rest)
      | rest => .error (.next .expectedColon rest)
    | rest => .error (.next .keyNotString rest)

end

end PageLint.Settings
