import PageLint.Checker
import PageLint.Markup.Attribute
import PageLint.Markup.Element
import PageLint.Markup.Issue
import PageLint.Markup.Token

/-!
The structure of a document: its tags are read from left to right, with a stack of the elements
that are open. A closing tag always closes the innermost element, so one wrong name is reported
once.
-/
namespace PageLint.Markup

structure OpenElement where
  name : String
  start : Nat
  deriving DecidableEq, Repr

/-! ## Attributes -/

/-- Takes the white space in front of the attribute along. -/
def Attribute.removal (a : Attribute) : Edit := .delete (a.start - a.blanks) a.stop

/-- The value is in quotes and blank. -/
def Attribute.isEmpty (a : Attribute) : Bool := a.quoted.any Text.isBlankText

/-- Issues of the attributes of one tag; `seen` holds the names in front. -/
def attributeIssues (seen : List String) : List Attribute → List Diagnostic
  | [] => []
  | a :: rest =>
    if seen.contains a.name then
      (Issue.duplicateAttribute a.name).report a.start a.stop [a.removal] ::
        attributeIssues seen rest
    else if a.isEmpty then
      (Issue.emptyAttribute a.name).report a.start a.stop [a.removal] ::
        attributeIssues (a.name :: seen) rest
    else attributeIssues (a.name :: seen) rest

/-! ## The open elements -/

/-- Issues of an element opened inside `stack`. -/
def placementIssues (stack : List OpenElement) (name : String) (start stop : Nat) :
    List Diagnostic :=
  let parent := stack.head?.map (·.name)
  (match requiredParents? name with
    | some parents =>
      if parent.any parents.contains then []
      else [(Issue.invalidParent name parents).report start stop]
    | none => []) ++
  match parent with
  | some outer =>
    if excludes outer name then [(Issue.invalidNesting outer name).report start stop] else []
  | none => []

def closingIssues (stack : List OpenElement) (name : String) (start stop : Nat) :
    List Diagnostic :=
  match stack with
  | [] => [(Issue.strayClosing name).report start stop [.delete start stop]]
  | e :: _ =>
    if e.name = name then []
    else
      [(Issue.mismatchedClosing e.name name).report start stop
        [⟨start + 2, start + 2 + name.utf8ByteSize, e.name.toList⟩]]

/-- The element has a body to come. -/
def hasBody (name : String) (selfClosing : Bool) : Bool := !selfClosing && !isVoid name

/-- The elements that are open behind a token. -/
def Token.push (stack : List OpenElement) : Token → List OpenElement
  | .opening name _ selfClosing start _ =>
    if hasBody name selfClosing then ⟨name, start⟩ :: stack else stack
  | .closing .. => stack.tail
  | .comment .. | .openComment _ => stack

/-- Issues of a token inside `stack`, in a document of `size` bytes. -/
def Token.issues (size : Nat) (stack : List OpenElement) : Token → List Diagnostic
  | .comment .. => []
  | .openComment start =>
    [Issue.unclosedComment.report start (start + 4) [.insert size "-->".toList]]
  | .opening name attrs selfClosing start stop =>
    attributeIssues [] (attributes (start + 1 + name.utf8ByteSize) attrs) ++
      if hasBody name selfClosing then placementIssues stack name start stop else []
  | .closing name start stop => closingIssues stack name start stop

/-- Issues of the tokens, and the elements that are open at the end. -/
def walk (size : Nat) (stack : List OpenElement) : List Token → List Diagnostic × List OpenElement
  | [] => ([], stack)
  | t :: rest =>
    let later := walk size (t.push stack) rest
    (t.issues size stack ++ later.1, later.2)

/-- One issue for each element that is still open. They come innermost first, and so do the closing
tags that are added at the end. -/
def unclosedIssues (size : Nat) : List OpenElement → List Diagnostic
  | [] => []
  | e :: rest =>
    (Issue.unclosedTag e.name (rest.head?.map (·.name))).report e.start
        (e.start + e.name.utf8ByteSize + 1) [.insert size ("</" ++ e.name ++ ">").toList] ::
      unclosedIssues size rest

/-! ## The document -/

/-- The names of all opening tags. -/
def openedNames (tokens : List Token) : List String :=
  tokens.filterMap fun
    | .opening name .. => some name
    | _ => none

/-- The elements that a whole document has to have. -/
def shapeIssues (names : List String) : List Diagnostic :=
  if !names.contains "html" then [Issue.missingRoot.report 0 0]
  else
    (["head", "body"].filter (!names.contains ·)).map fun name =>
      (Issue.missingSection name).report 0 0

/-- All issues of a document, given its tokens. -/
def issues (source : Text) (fragment : Bool) (tokens : List Token) : List Diagnostic :=
  let result := walk source.size [] tokens
  result.1 ++ unclosedIssues source.size result.2 ++
    if fragment || source.isBlankText then [] else shapeIssues (openedNames tokens)

/-- The tokens in front of the `<` at which the time is up. It is asked for at each `<` that has a
multiple of 64 tags in front of it. -/
def tokensInTime (d : Deadline) (source : Text) : Timed (List Token) :=
  let reached := d.reach 64 (·.any Token.isTag) 0 (brackets source)
  { reached with found := reached.found.filterMap id }

/-- Checks a document. Out of time, neither the elements that are open nor the shape of the document
are looked at. -/
def check (source : Text) (c : Context) : Findings :=
  let read := tokensInTime c.deadline source
  match read.left? with
  | none => { diagnostics := (walk source.size [] read.found).1, interrupted := true }
  | some _ => { diagnostics := issues source c.allowPartial read.found }

def checker : Checker where
  id := "markup"
  description := "Tag matching, element nesting and attribute checks for HTML"
  language := .markup
  check source c := .ok (check source c)

end PageLint.Markup
