import PageLint.Style.Color
import PageLint.Text.Classes

/-! The values that a property accepts. -/
namespace PageLint.Style

/-- What the value of a property has to be. -/
inductive ValueKind where
  | color
  | length
  deriving DecidableEq, Repr

inductive Verdict where
  | valid
  | invalid (replacement : Option Text)
  deriving DecidableEq, Repr

/-! ## Numbers -/

/-- The text behind a number: digits with a point among, behind or in front of them. -/
def dropDigits? (t : Text) : Option Text :=
  match t with
  | [] => none
  | c :: rest =>
    if Text.isDigit c then
      match t.dropWhile Text.isDigit with
      | '.' :: rest => some (rest.dropWhile Text.isDigit)
      | rest => some rest
    else if c = '.' && rest.head?.any Text.isDigit then some (rest.dropWhile Text.isDigit)
    else none

/-- The text behind a number with an optional sign. -/
def dropNumber? : Text → Option Text
  | '+' :: t | '-' :: t => dropDigits? t
  | t => dropDigits? t

def isNumber (t : Text) : Bool := dropNumber? t == some []

/-- The value of ASCII digits, without regard to a point. -/
def digitsValue (t : Text) : Nat :=
  (t.filter Text.isAsciiDigit).foldl (fun n c => n * 10 + (c.toNat - 48)) 0

/-- The number is zero once it is rounded to the nearest double: it does not exceed half of the
least positive one. A number with other digits than the ASCII ones is none. -/
def isZero (t : Text) : Bool :=
  t.all Text.isAscii &&
    digitsValue t * Nat.pow 2 1075 ≤
      Nat.pow 10 ((t.dropWhile (· != '.')).filter Text.isAsciiDigit).length

/-! ## Colors -/

def isHexColor : Text → Bool
  | '#' :: t => [3, 4, 6, 8].contains t.length && t.all Text.isHexDigit
  | _ => false

/-- A number, alone or with a percent sign or the unit of an angle. -/
def isComponent (t : Text) : Bool :=
  match dropNumber? t with
  | none => false
  | some unit => ["", "%", "deg", "rad", "grad", "turn"].any (·.toList == unit)

/-- The name and the arguments of a color function without inner parentheses. -/
def colorFunction? (t : Text) : Option (Text × Text) :=
  let name := t.takeWhile (· != '(')
  match t.dropWhile (· != '(') with
  | [] => none
  | _ :: rest =>
    let arguments := rest.dropLast
    if ["rgb", "rgba", "hsl", "hsla"].any (fun f => Text.dropWordFold? f.toList name == some []) &&
        rest.getLast? == some ')' && !arguments.contains '(' && !arguments.contains ')' then
      some (name, arguments)
    else none

/-- Three or four components. With commas, a function that takes an alpha has to get it. -/
def acceptsArguments (name arguments : Text) : Bool :=
  let parts := (arguments.splitWhere fun c => c == ',' || c == '/').flatMap Text.words
  (parts.length == 3 || parts.length == 4) &&
    !(name.getLast? == some 'a' && parts.length != 4 && arguments.any (· == ',')) &&
    parts.all isComponent

def checkColor (value : Text) : Verdict :=
  let lower := Text.lower value
  if (Color.keywords ++ Color.names).contains (String.ofList lower) || isHexColor value then .valid
  else match colorFunction? lower with
    | some (name, arguments) => if acceptsArguments name arguments then .valid else .invalid none
    | none =>
      if lower.all Text.isAsciiLetter then .invalid ((Color.nearest? lower).map (·.toList))
      else .invalid none

/-! ## Lengths -/

def lengthUnits : List String :=
  ["px", "em", "rem", "%", "vh", "vw", "vmin", "vmax", "svh", "lvh", "dvh", "svw", "lvw", "dvw",
    "ch", "ex", "cap", "lh", "pt", "pc", "cm", "mm", "in", "q", "fr"]

def lengthKeywords : List String :=
  ["auto", "none", "inherit", "initial", "unset", "revert", "fit-content", "max-content",
    "min-content"]

def lengthFunctions : List String := ["calc", "min", "max", "clamp", "var", "env", "fit-content"]

/-- A number with its unit. -/
def isMeasure (t : Text) : Bool :=
  match dropNumber? t with
  | none => false
  | some unit => lengthUnits.any fun u => Text.dropWordFold? u.toList unit == some []

/-- A call of a function on a single line. -/
def isLengthCall (t : Text) : Bool :=
  lengthFunctions.any fun f =>
    match Text.dropWordFold? f.toList t with
    | some ('(' :: rest) => rest.getLast? == some ')' && !rest.contains '\n'
    | _ => false

def checkLength (value : Text) : Verdict :=
  if lengthKeywords.contains (String.ofList (Text.lower value)) || isMeasure value ||
      isLengthCall value then .valid
  else if isNumber value then
    if isZero value then .valid else .invalid (some (value ++ "px".toList))
  else .invalid none

namespace ValueKind

def name : ValueKind → String
  | color => "color"
  | length => "length"

def check : ValueKind → Text → Verdict
  | color => checkColor
  | length => checkLength

end ValueKind

/-- The properties whose values are checked; a property stands in the list once. -/
abbrev Validators := List (String × ValueKind)

namespace Validators

def standard : Validators :=
  ["color", "background-color", "border-color", "outline-color", "text-decoration-color",
    "caret-color"].map (·, .color) ++
  ["width", "height", "min-width", "min-height", "max-width", "max-height", "top", "right",
    "bottom", "left", "font-size"].map (·, .length)

def find? (v : Validators) (property : String) : Option ValueKind := List.lookup property v

/-- Checks a property, whose case does not matter, for a kind of value. -/
def insert (v : Validators) (property : String) (kind : ValueKind) : Validators :=
  let property := String.ofList (Text.lower property.toList)
  v.filter (·.1 != property) ++ [(property, kind)]

end Validators

end PageLint.Style
