import PageLint.Text.Classes

/-! The blocks of a masked style sheet: their braces, and the declarations inside them. -/
namespace PageLint.Style

/-! ## Braces -/

/-- What a reading of the braces finds. -/
structure Braces where
  /-- Closing braces that close nothing, in order. -/
  strays : List Nat := []
  /-- Opening braces that are not closed, innermost first. -/
  unclosed : List Nat := []
  deriving DecidableEq, Repr

/-- Reads the braces of a text at offset `n` inside the blocks opened at `stack`. -/
def bracesFrom (n : Nat) (stack : List Nat) : Text → Braces
  | [] => { unclosed := stack }
  | c :: t =>
    let next := n + c.utf8Size
    if c = '{' then bracesFrom next (n :: stack) t
    else if c = '}' then
      match stack with
      | [] =>
        let later := bracesFrom next [] t
        { later with strays := n :: later.strays }
      | _ :: stack => bracesFrom next stack t
    else bracesFrom next stack t

def braces (masked : Text) : Braces := bracesFrom 0 [] masked

/-! ## Statements -/

/-- The statements of a text, each with its offset: what stands inside a block in front of a
semicolon, a closing brace or the end of the text. The text in front of an opening brace is a
selector or the head of a rule and is none. `start` and `back` are the offset and, backwards, the
characters of the statement at hand, which stands inside `depth` blocks. -/
def statementsFrom (n start depth : Nat) (back : Text) : Text → List (Nat × Text)
  | [] => if depth > 0 then [(start, back.reverse)] else []
  | c :: t =>
    let next := n + c.utf8Size
    let ended := if depth > 0 then [(start, back.reverse)] else []
    if c = '{' then statementsFrom next next (depth + 1) [] t
    else if c = '}' then ended ++ statementsFrom next next (depth - 1) [] t
    else if c = ';' then ended ++ statementsFrom next next depth [] t
    else statementsFrom next start depth (c :: back) t

def statements (masked : Text) : List (Nat × Text) := statementsFrom 0 0 0 [] masked

/-! ## Declarations -/

/-- A property with its value. -/
structure Declaration where
  /-- In lower case. -/
  property : String
  propertyStart : Nat
  value : Text
  valueStart : Nat
  deriving DecidableEq, Repr

def isPropertyChar (c : Char) : Bool := Text.isAsciiLetter c || Text.isAsciiDigit c || c = '-'

/-- At most two hyphens, a letter, and then letters, digits and hyphens. -/
def isPropertyName (t : Text) : Bool :=
  let body := t.dropWhile (· == '-')
  t.length ≤ body.length + 2 && body.head?.any Text.isAsciiLetter && body.all isPropertyChar

/-- The declaration that a statement at offset `n` makes. -/
def declaration? (n : Nat) (statement : Text) : Option Declaration :=
  let name := statement.takeWhile (· != ':')
  match statement.dropWhile (· != ':') with
  | [] => none
  | _ :: value =>
    let property := Text.trim name
    let content := Text.trim value
    if isPropertyName property && !content.isEmpty then
      some
        { property := String.ofList (Text.lowerAscii property)
          propertyStart := n + (Text.size name - Text.size (Text.trimStart name))
          value := content
          valueStart := n + Text.size name + 1 +
            (Text.size value - Text.size (Text.trimStart value)) }
    else none

def declarations (masked : Text) : List Declaration :=
  (statements masked).filterMap fun (n, statement) => declaration? n statement

end PageLint.Style
