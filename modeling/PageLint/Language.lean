import PageLint.Path
import PageLint.Text.Classes

/-! The content languages, and how a tag, a file name or the content itself tells them apart. -/
namespace PageLint

inductive Language where
  /-- HTML. -/
  | markup
  /-- CSS with its Sass and Less dialects. -/
  | style
  /-- JavaScript. -/
  | script
  deriving DecidableEq, Repr

namespace Language

def all : List Language := [markup, style, script]

def name : Language → String
  | markup => "markup"
  | style => "style"
  | script => "script"

/-- File extensions, without the dot. -/
def extensions : Language → List String
  | markup => ["html", "htm", "xhtml"]
  | style => ["css", "scss", "sass", "less"]
  | script => ["js", "mjs", "cjs", "jsx"]

def ofExtension? (ext : String) : Option Language := all.find? (·.extensions.contains ext)

/-- The language of a tag: a name, a common other name, or a file extension, in any case. -/
def ofTag? (tag : String) : Option Language :=
  match String.ofList (Text.lower (Text.trim tag.toList)) with
  | "markup" | "html" => some markup
  | "style" | "css" => some style
  | "script" | "js" | "javascript" => some script
  | other => ofExtension? other

/-- The wording for a tag that names no language. -/
def unknownTag (tag : String) : String := s!"Unknown language: {tag}"

def ofPath? (path : Text) : Option Language :=
  (Path.extension? path).bind fun ext => ofExtension? (String.ofList (Text.lower ext))

/-! ## Guessing from content -/

def hintWords : List Text :=
  ["function", "const", "let", "var", "return", "import", "export"].map (·.toList)

/-- `t` starts with `word` as a whole word. -/
def startsWithWord (t word : Text) : Bool :=
  match Text.dropWord? word t with
  | none => false
  | some [] => true
  | some (c :: _) => !Text.isWord c

/-- A word, arrow or console access that only a script has. `inWord` tells whether the character
in front is part of a word. -/
def hasScriptHint : Bool → Text → Bool
  | _, [] => false
  | inWord, c :: t =>
    (!inWord && hintWords.any (startsWithWord (c :: t))) ||
      ['=', '>'].isPrefixOf (c :: t) || "console.".toList.isPrefixOf (c :: t) ||
      hasScriptHint (Text.isWord c) t

def isSelectorChar (c : Char) : Bool := Text.isWord c || "@.#:[]=*>+~, -".toList.contains c

/-- Read backwards, `t` is white space up to the start of a line. -/
def reachesLineStart (t : Text) : Bool :=
  t.all Text.isBlank || (t.takeWhile Text.isBlank).contains '\n'

/-- Read backwards, `t` is a selector that stands alone from the start of a line. -/
def endsSelector : Text → Bool
  | [] => false
  | c :: t => isSelectorChar c && (reachesLineStart t || endsSelector t)

/-- A nonempty value and its semicolon. -/
def startsValue (t : Text) : Bool :=
  let value := t.takeWhile fun c => c != '{' && c != '}' && c != ';'
  !value.isEmpty && (t.drop value.length).head? == some ';'

/-- `t` holds a property, a colon and a value before the next brace. `ready` tells whether the
last character that is no white space could end a property. -/
def startsBody : Bool → Text → Bool
  | _, [] => false
  | ready, c :: t =>
    if c = '{' || c = '}' then false
    else (c = ':' && ready && startsValue t) ||
      startsBody (if Text.isBlank c then ready else Text.isWord c || c = '-') t

/-- A selector with a block of declarations. `back` holds the characters in front, reversed. -/
def hasStyleRule (back : Text) : Text → Bool
  | [] => false
  | c :: t =>
    (c = '{' && endsSelector back && startsBody false t) || hasStyleRule (c :: back) t

/-- The language that the content looks like. -/
def sniff? (source : Text) : Option Language :=
  match source.trimStart with
  | [] => none
  | c :: _ =>
    if c = '<' then some markup
    else if hasScriptHint false source then some script
    else if hasStyleRule [] source then some style
    else none

end Language

end PageLint
