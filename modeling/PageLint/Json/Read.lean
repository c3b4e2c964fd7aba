import PageLint.Json.Value

/-! Reading JSON text. -/
namespace PageLint.Json

def isSpace (c : Char) : Bool := c = ' ' || c = '\n' || c = '\t' || c = '\r'

def skipSpace (t : Text) : Text := t.dropWhile isSpace

def hexValue? (c : Char) : Option Nat :=
  if '0' ≤ c && c ≤ '9' then some (c.toNat - 48)
  else if 'a' ≤ c && c ≤ 'f' then some (c.toNat - 87)
  else if 'A' ≤ c && c ≤ 'F' then some (c.toNat - 55)
  else none

/-- Four hexadecimal digits and the rest. -/
def hex4? : Text → Option (Nat × Text)
  | a :: b :: c :: d :: rest => do
    let a ← hexValue? a
    let b ← hexValue? b
    let c ← hexValue? c
    let d ← hexValue? d
    return (((a * 16 + b) * 16 + c) * 16 + d, rest)
  | _ => none

def isHighSurrogate (n : Nat) : Bool := 0xD800 ≤ n && n < 0xDC00

def isLowSurrogate (n : Nat) : Bool := 0xDC00 ≤ n && n < 0xE000

/-- The character of an escape, read behind its `u`; a pair of surrogates is one character. -/
def unicodeEscape? (t : Text) : Option (Char × Text) := do
  let (high, rest) ← hex4? t
  if isHighSurrogate high then
    match rest with
    | '\\' :: 'u' :: more =>
      let (low, rest) ← hex4? more
      if isLowSurrogate low then
        return (Char.ofNat (0x10000 + (high - 0xD800) * 0x400 + (low - 0xDC00)), rest)
      else none
    | _ => none
  else if isLowSurrogate high then none
  else return (Char.ofNat high, rest)

def simpleEscape? : Char → Option Char
  | '"' => some '"'
  | '\\' => some '\\'
  | '/' => some '/'
  | 'b' => some '\x08'
  | 'f' => some '\x0c'
  | 'n' => some '\n'
  | 'r' => some '\r'
  | 't' => some '\t'
  | _ => none

/-- The characters up to the closing quote. Every round takes a character, so `fuel` may be the
length of the text. -/
def stringBody? : (fuel : Nat) → Text → Option (Text × Text)
  | 0, _ => none
  | _ + 1, [] => none
  | fuel + 1, c :: rest =>
    if c = '"' then some ([], rest)
    else if c = '\\' then
      match rest with
      | 'u' :: more => do
        let (u, rest) ← unicodeEscape? more
        let (body, rest) ← stringBody? fuel rest
        return (u :: body, rest)
      | e :: rest => do
        let u ← simpleEscape? e
        let (body, rest) ← stringBody? fuel rest
        return (u :: body, rest)
      | [] => none
    else if c.toNat < 0x20 then none
    else do
      let (body, rest) ← stringBody? fuel rest
      return (c :: body, rest)

def digits (t : Text) : Text × Text := (t.takeWhile Text.isAsciiDigit, t.dropWhile Text.isAsciiDigit)

def digitValue (ds : Text) : Nat := ds.foldl (fun n c => n * 10 + (c.toNat - 48)) 0

/-- The fraction in front of the rest, with its point; `none` if the point has no digit behind
it. -/
def fraction? : Text → Option (Text × Text)
  | '.' :: rest =>
    let (ds, rest) := digits rest
    if ds.isEmpty then none else some ('.' :: ds, rest)
  | t => some ([], t)

def exponent? (t : Text) : Option (Text × Text) :=
  match t with
  | c :: rest =>
    if c = 'e' || c = 'E' then
      let (sign, rest) := match rest with
        | '+' :: rest => (['+'], rest)
        | '-' :: rest => (['-'], rest)
        | rest => ([], rest)
      let (ds, rest) := digits rest
      if ds.isEmpty then none else some (c :: sign ++ ds, rest)
    else some ([], t)
  | [] => some ([], [])

/-- Integers outside of 64 bits and negative zero are reals. -/
def ofDigits (negative : Bool) (ds more : Text) : Json :=
  let n := digitValue ds
  if !more.isEmpty || (negative && (n = 0 || n > Nat.pow 2 63)) || n ≥ Nat.pow 2 64 then
    .real (String.ofList ((if negative then ['-'] else []) ++ ds ++ more))
  else if negative then .int (-(n : Int)) else .int n

def number? (t : Text) : Option (Json × Text) := do
  let (negative, t) := match t with
    | '-' :: rest => (true, rest)
    | t => (false, t)
  let (ds, rest) := digits t
  if ds.isEmpty || (ds.head? == some '0' && ds.length > 1) then none
  let (frac, rest) ← fraction? rest
  let (exp, rest) ← exponent? rest
  return (ofDigits negative ds (frac ++ exp), rest)

/-- A later member takes the place of an earlier one of the same name. -/
def addMember (members : List (String × Json)) (name : String) (v : Json) :
    List (String × Json) :=
  members.filter (·.1 != name) ++ [(name, v)]

mutual

def value? : (fuel : Nat) → Text → Option (Json × Text)
  | 0, _ => none
  | fuel + 1, t =>
    match skipSpace t with
    | [] => none
    | c :: rest =>
      if c = '"' then (stringBody? (rest.length + 1) rest).map fun (s, rest) =>
        (.str (String.ofList s), rest)
      else if c = '[' then
        match skipSpace rest with
        | ']' :: rest => some (.arr [], rest)
        | _ => (items? fuel rest).map fun (vs, rest) => (.arr vs, rest)
      else if c = '\x7b' then
        match skipSpace rest with
        | '\x7d' :: rest => some (.obj [], rest)
        | _ => (members? fuel [] rest).map fun (ms, rest) => (.obj ms, rest)
      else match Text.dropWord? "null".toList (c :: rest) with
        | some rest => some (.null, rest)
        | none => match Text.dropWord? "true".toList (c :: rest) with
          | some rest => some (.bool true, rest)
          | none => match Text.dropWord? "false".toList (c :: rest) with
            | some rest => some (.bool false, rest)
            | none => number? (c :: rest)

def items? : (fuel : Nat) → Text → Option (List Json × Text)
  | 0, _ => none
  | fuel + 1, t => do
    let (v, rest) ← value? fuel t
    match skipSpace rest with
    | ',' :: rest =>
      let (vs, rest) ← items? fuel rest
      return (v :: vs, rest)
    | ']' :: rest => return ([v], rest)
    | _ => none

def members? : (fuel : Nat) → List (String × Json) → Text → Option (List (String × Json) × Text)
  | 0, _, _ => none
  | fuel + 1, seen, t =>
    match skipSpace t with
    | '"' :: rest => do
      let (name, rest) ← stringBody? (rest.length + 1) rest
      match skipSpace rest with
      | ':' :: rest =>
        let (v, rest) ← value? fuel rest
        let seen := addMember seen (String.ofList name) v
        match skipSpace rest with
        | ',' :: rest => members? fuel seen rest
        | '\x7d' :: rest => return (seen, rest)
        | _ => none
      | _ => none
    | _ => none

end

/-- The value of a whole text. -/
def read? (t : Text) : Option Json :=
  match value? (2 * t.length + 2) t with
  | some (v, rest) => if (skipSpace rest).isEmpty then some v else none
  | none => none

end PageLint.Json
