import PageLint.Script.Pattern

/-!
The tokens of the language. A token is known by its place in the list; where two tokens match the
same text and no precedence decides, a literal goes before a pattern, and then the earlier one wins.
-/
namespace PageLint.Script

/-- How a node shows in the tree: not at all, as a mere token, or as a part of the language. -/
inductive Visibility where
  | hidden
  | token
  | named
  deriving DecidableEq, Repr

/-- How a token is recognised. -/
inductive Lexeme where
  /-- A word of the language: an identifier that is spelt like the name of the token. -/
  | keyword
  | literal (text : String)
  | pattern (p : Pattern)
  /-- By a scanner that knows what may come next. -/
  | scanned
  deriving DecidableEq, Repr

structure Token where
  name : String
  visibility : Visibility
  lexeme : Lexeme
  precedence : Int := 0
  /-- White space in front is no part of it. -/
  immediate : Bool := false
  deriving DecidableEq, Repr

def Token.isKeyword (t : Token) : Bool :=
  match t.lexeme with
  | .keyword => true
  | _ => false

namespace Grammar

/-! ## Patterns -/

open Pattern

def digit : CharSet := ⟨[('0', '9')], false⟩

def hexDigit : CharSet := ⟨[('0', '9'), ('a', 'f'), ('A', 'F')], false⟩

def octalDigit : CharSet := ⟨[('0', '7')], false⟩

def letter : CharSet := ⟨[('a', 'z'), ('A', 'Z')], false⟩

/-- White space between tokens. -/
def blank : CharSet :=
  ⟨[('\t', '\r'), (' ', ' '), ('\u00A0', '\u00A0'), ('\u1680', '\u1680'), ('\u2000', '\u200B'),
    ('\u2028', '\u2029'), ('\u202F', '\u202F'), ('\u205F', '\u2060'), ('\u3000', '\u3000'),
    ('\uFEFF', '\uFEFF')], false⟩

/-- ASCII white space. -/
def asciiBlank : CharSet := ⟨[('\t', '\r'), (' ', ' ')], false⟩

/-- What no identifier holds: control characters, white space and the marks of the language. -/
def foreign : CharSet :=
  ⟨('\x00', '\x1F') :: blank.ranges ++ (CharSet.of ":;`\"'@#.,|^&<=>+-*/\\%?!~()[]\x7b\x7d").ranges,
    false⟩

/-- A character given by its code. -/
def unicodeEscape : Pattern :=
  alt (seq (word "\\u") (times 4 (oneOf hexDigit)))
    (chain [word "\\u\x7b", atLeastOnce (oneOf hexDigit), word "\x7d"])

def identifierStart : Pattern :=
  alt (oneOf { foreign.union digit with negated := true }) unicodeEscape

def identifierPart : Pattern := alt (oneOf { foreign with negated := true }) unicodeEscape

def identifier : Pattern := seq identifierStart (many identifierPart)

def hashBang : Pattern := seq (word "#!") (many (oneOf (.except "\n")))

def characterReference : Pattern :=
  chain
    [word "&",
      alt
        (seq (word "#")
          (alt (seq (oneOf (.of "xX")) (between 1 5 (oneOf hexDigit)))
            (between 1 4 (oneOf digit))))
        (between 1 29 (oneOf letter)),
      word ";"]

/-- An element name with a hyphen. -/
def hyphenatedName : Pattern :=
  let part := letter.union (digit.union (.of "_$"))
  chain
    [oneOf (letter.union (.of "_$")), many (oneOf part), word "-", many (oneOf (part.union (.of "-")))]

/-- Text of an attribute in quotes, in which a character reference may stand. -/
def attributeText (quote : String) : Pattern :=
  atLeastOnce
    (alt (oneOf (.except (quote ++ "&")))
      (seq (word "&") (oneOf { letter.union (.of "#") with negated := true })))

/-- Text of a string without escapes. -/
def stringText (quote : String) : Pattern := atLeastOnce (oneOf (.except (quote ++ "\\\r\n")))

def escapeSequence : Pattern :=
  seq (word "\\")
    (choice
      [oneOf { (CharSet.of "xu").union octalDigit with negated := true },
        between 1 2 (oneOf octalDigit),
        seq (word "x") (times 2 (oneOf hexDigit)),
        seq (word "u") (times 4 (oneOf hexDigit)),
        chain [word "u\x7b", atLeastOnce (oneOf hexDigit), word "\x7d"],
        seq (oneOf (.of "\r?")) (oneOf (.of "\n\u2028\u2029"))])

def comment : Pattern :=
  alt (seq (word "//") (many (oneOf (.except "\r\n\u2028\u2029"))))
    (chain
      [word "/*", many (oneOf (.except "*")), atLeastOnce (word "*"),
        many
          (chain
            [oneOf (.except "/*"), many (oneOf (.except "*")), atLeastOnce (word "*")]),
        word "/"])

def regexBody : Pattern :=
  let escaped := seq (word "\\") (oneOf (.except "\n"))
  atLeastOnce
    (choice
      [chain [word "[", many (alt escaped (oneOf (.except "]\n\\"))), word "]"], escaped,
        oneOf (.except "/\\[\n")])

/-- Digits, with an underscore between any two. -/
def digitsOf (chars : CharSet) : Pattern :=
  seq (oneOf chars) (many (seq (optional (word "_")) (oneOf chars)))

def number : Pattern :=
  let based (letters : String) (digits : CharSet) :=
    chain [word "0", oneOf (.of letters), digitsOf digits]
  let hex := based "xX" hexDigit
  let binary := based "bB" ⟨[('0', '1')], false⟩
  let octal := based "oO" octalDigit
  let decimal := digitsOf digit
  let exponent := chain [oneOf (.of "eE"), optional (oneOf (.of "-+")), decimal]
  let whole :=
    alt (word "0")
      (chain
        [optional (word "0"), oneOf ⟨[('1', '9')], false⟩,
          optional (seq (optional (word "_")) decimal)])
  choice
    [hex,
      chain [whole, word ".", optional decimal, optional exponent],
      chain [word ".", decimal, optional exponent],
      seq whole exponent,
      decimal,
      binary,
      octal,
      seq (choice [hex, binary, octal, decimal]) (word "n")]

/-- Both words with white space between them and a line break behind. -/
def staticGet : Pattern :=
  chain
    [word "static", atLeastOnce (oneOf asciiBlank), word "get", many (oneOf asciiBlank), word "\n"]

/-! ## Tokens -/

def keyword (name : String) : Token := ⟨name, .token, .keyword, 0, false⟩

/-- A keyword that stands for a value. -/
def valueWord (name : String) : Token := ⟨name, .named, .keyword, 0, false⟩

def mark (name : String) : Token := ⟨name, .token, .literal name, 0, false⟩

def named (name : String) (p : Pattern) : Token := ⟨name, .named, .pattern p, 0, false⟩

def fragment (p : Pattern) : Token := ⟨"string_fragment", .named, .pattern p, 1, true⟩

/-- The token that stands for the end of the text. -/
def endToken : Nat := 0

/-- The token that keywords are cut from. -/
def wordToken : Nat := 1

def tokens : List Token :=
  [⟨"end", .hidden, .scanned, 0, true⟩, named "identifier" identifier,
   named "hash_bang_line" hashBang, keyword "export", mark "*", keyword "default", keyword "as",
   mark "\x7b", mark ",", mark "\x7d", keyword "import", keyword "from", keyword "with",
   keyword "var", keyword "let", keyword "const", keyword "else", keyword "if", keyword "switch",
   keyword "for", mark "(", mark ";", mark ")", keyword "await", keyword "in", keyword "of",
   keyword "while", keyword "do", keyword "try", keyword "break", keyword "continue",
   keyword "debugger", keyword "return", keyword "throw", mark ":", keyword "case",
   keyword "catch", keyword "finally", keyword "yield", mark "=", mark "[", mark "]",
   named "html_character_reference" characterReference, mark "<", mark ">",
   named "identifier" hyphenatedName, mark ".", mark "</", mark "/>", mark "\"", mark "'",
   fragment (attributeText "\""), fragment (attributeText "'"), keyword "class", keyword "extends",
   keyword "async", keyword "function", mark "=>",
   ⟨"optional_chain", .named, .literal "?.", 0, false⟩, keyword "new", mark "+=", mark "-=",
   mark "*=", mark "/=", mark "%=", mark "^=", mark "&=", mark "|=", mark ">>=", mark ">>>=",
   mark "<<=", mark "**=", mark "&&=", mark "||=", mark "??=", mark "...", mark "&&", mark "||",
   mark ">>", mark ">>>", mark "<<", mark "&", mark "^", mark "|", mark "+", mark "-", mark "/",
   mark "%", mark "**", mark "<=", mark "==", mark "===", mark "!=", mark "!==", mark ">=",
   mark "??", keyword "instanceof", mark "!", mark "~", keyword "typeof", keyword "void",
   keyword "delete", mark "++", mark "--", fragment (stringText "\""), fragment (stringText "'"),
   ⟨"escape_sequence", .named, .pattern escapeSequence, 0, true⟩, named "comment" comment,
   mark "`", mark "$\x7b", ⟨"/", .token, .literal "/", 1, true⟩,
   ⟨"regex_pattern", .named, .pattern regexBody, -1, true⟩,
   ⟨"regex_flags", .named, .pattern (atLeastOnce (oneOf ⟨[('a', 'z')], false⟩)), 0, true⟩,
   named "number" number, named "private_property_identifier" (seq (word "#") identifier),
   keyword "target", keyword "meta", valueWord "this", valueWord "super", valueWord "true",
   valueWord "false", valueWord "null", valueWord "undefined", mark "@", keyword "static",
   ⟨"static get", .token, .pattern staticGet, 0, false⟩, keyword "get", keyword "set",
   ⟨"_automatic_semicolon", .hidden, .scanned, 0, true⟩,
   ⟨"string_fragment", .named, .scanned, 0, true⟩, ⟨"?", .token, .scanned, 0, true⟩,
   ⟨"html_comment", .named, .scanned, 0, true⟩, ⟨"jsx_text", .named, .scanned, 0, true⟩]

end Grammar

end PageLint.Script
