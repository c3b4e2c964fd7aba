import PageLint.Script.Grammar.Lookahead
import PageLint.Script.Place

/-!
Tokens that no pattern describes: semicolons that line breaks stand for, text inside templates and
elements, the question mark of a conditional, and comments in the manner of a page.
-/
namespace PageLint.Script.Scanner

open Grammar (Scannable)

def isLineEnd (c : Char) : Bool := c = '\n' || c = '\u2028' || c = '\u2029'

def isBlank (c : Char) : Bool := ('\t' ≤ c && c ≤ '\r') || c = ' '

def isDigit (c : Char) : Bool := '0' ≤ c && c ≤ '9'

def isLetter (c : Char) : Bool := ('A' ≤ c && c ≤ 'Z') || ('a' ≤ c && c ≤ 'z')

/-- A character that stands for the end of the text ends every token. -/
def isEnd (c : Char) : Bool := c = '\x00'

structure Found where
  what : Scannable
  start : Place
  stop : Place

/-! ## Text inside templates and elements -/

/-- The text of a template up to its end, a substitution or an escape. -/
def templateText? : Text → Option Text
  | [] => none
  | '$' :: '\x7b' :: _ => some []
  | c :: t =>
    if c = '`' || c = '\\' then some []
    else if isEnd c then none
    else (templateText? t).map (c :: ·)

/-- Text between elements counts unless it is white space around line breaks. `fresh` tells whether
only white space has followed the last line break. -/
def hasContent (fresh : Bool) : Text → Bool
  | [] => false
  | c :: t =>
    let fresh := c = '\n' || (fresh && isBlank c)
    !fresh || hasContent fresh t

def isElementText (c : Char) : Bool := !isEnd c && !(['<', '>', '\x7b', '\x7d', '&'].contains c)

/-! ## White space and comments -/

/-- What white space and comments lead to. -/
inductive Gap where
  /-- They end here. -/
  | passed
  /-- They end in a block comment without a line break. -/
  | sameLine
  /-- A slash follows that starts no comment. -/
  | slash
  deriving DecidableEq, Repr

/-- The length of a block comment behind its opening, and whether it has a line break; it may end
with the text. -/
def blockComment (lineBreak : Bool) : Text → Nat × Bool × Bool
  | [] => (0, lineBreak, false)
  | '*' :: '/' :: _ => (2, lineBreak, true)
  | c :: t =>
    if isEnd c then (0, lineBreak, false)
    else
      let (n, found) := blockComment (lineBreak || isLineEnd c) t
      (n + 1, found)

/-- Passes white space and comments. With `through`, a comment on the line is passed like any
other. The flag tells whether there is a comment. -/
def passGap (through : Bool) : (fuel : Nat) → (lineBreak comment : Bool) → Place → Gap × Place × Bool
  | 0, _, comment, p => (.passed, p, comment)
  | fuel + 1, lineBreak, comment, p =>
    let p := p.skipWhile isBlank
    match p.rest with
    | '/' :: '/' :: _ =>
      passGap through fuel lineBreak true
        ((p.forward 2).skipWhile fun c => !isEnd c && !isLineEnd c)
    | '/' :: '*' :: body =>
      let (n, lineBreak, closed) := blockComment lineBreak body
      let p := p.forward (2 + n)
      if closed && p.next != '/' && !through then
        (if lineBreak then .passed else .sameLine, p, true)
      else passGap through fuel lineBreak (comment || closed) p
    | '/' :: _ => (.slash, p.advance, comment)
    | _ => (.passed, p, comment)

/-! ## Semicolons -/

/-- Behind a line break, the text goes on with a token that cannot belong to the statement in front
of the break. -/
def startsStatement (p : Place) : Bool × Place :=
  let c := p.next
  let after := p.advance
  if "`,:;*%><=[(?^|&/".toList.contains c then (false, p)
  else if c = '.' then (isDigit after.next, after)
  else if c = '+' || c = '-' then (after.next = c, after)
  else if c = '!' then (after.next != '=', after)
  else if c = 'i' then
    if after.next != 'n' then (true, after)
    else
      let after := after.advance
      if !isLetter after.next then (false, after)
      else
        let rest := "stanceof".toList
        let shared := ((rest.zip after.rest).takeWhile fun (a, b) => a = b).length
        let after := after.forward shared
        (shared != rest.length || isLetter after.next, after)
  else (true, p)

/-- A line break or an end stands for a semicolon here. The place is how far the scan has come, and
the last flag tells whether there is a comment on the way. -/
def endsStatement (orMayFollow : Bool) : (fuel : Nat) → (comment : Bool) → Place → Bool × Place × Bool
  | 0, comment, p => (false, p, comment)
  | fuel + 1, comment, p =>
    if isEnd p.next then (true, p, comment)
    else
      let (gap, p, comment) :=
        if p.next = '/' then passGap false (p.rest.length + 1) false comment p
        else (.sameLine, p, comment)
      let c := p.next
      if gap = .slash then (false, p, comment)
      else if gap = .passed && !orMayFollow && c != ',' && c != '=' then (true, p, comment)
      else if c = '\x7d' then (true, p, comment)
      else if isLineEnd c then
        let (gap, p, comment) := passGap true (p.rest.length + 1) false comment p.advance
        if gap = .slash then (false, p, comment)
        else
          let (found, p) := startsStatement p
          (found, p, comment)
      else if isBlank c then endsStatement orMayFollow fuel comment p.advance
      else (false, p, comment)

/-! ## Question marks and comments -/

/-- A question mark that is neither doubled nor part of an optional access. -/
def questionMark? (p : Place) : Option Found :=
  let start := p.skipWhile isBlank
  match start.rest with
  | '?' :: '?' :: _ => none
  | '?' :: '.' :: c :: _ =>
    if isDigit c then some ⟨.questionMark, start, start.advance⟩ else none
  | ['?', '.'] => none
  | '?' :: _ => some ⟨.questionMark, start, start.advance⟩
  | _ => none

/-- A comment as a page has it, up to the end of the line. `start` is where it counts from if no
white space is in front. -/
def htmlComment? (start p : Place) : Option Found :=
  let opening := p.skipWhile fun c => isBlank c || c = '\u2028' || c = '\u2029'
  let start := if opening.offset = p.offset then start else opening
  let found (n : Nat) : Found :=
    ⟨.htmlComment, start, (opening.forward n).skipWhile fun c => !isEnd c && !isLineEnd c⟩
  if "<!--".toList.isPrefixOf opening.rest then some (found 4)
  else if "-->".toList.isPrefixOf opening.rest then some (found 3)
  else none

/-! ## Scanning -/

/-- The text without a byte order mark at its start. -/
def skipMark (p : Place) : Place :=
  if p.offset = 0 && p.next = '\uFEFF' then p.advance else p

/-- The token at a place, if it is one of those asked for. -/
def scan (valid : List Scannable) (p : Place) : Option Found :=
  let start := skipMark p
  let has := valid.contains
  if has .templateText then
    if has .automaticSemicolon then none
    else match templateText? start.rest with
      | none | some [] => none
      | some text => some ⟨.templateText, start, start.forward text.length⟩
  else
    let element := if has .jsxText then start.skipWhile isElementText else start
    if has .jsxText && hasContent false (start.textTo element) then some ⟨.jsxText, start, element⟩
    else if has .automaticSemicolon then
      let (found, reached, comment) :=
        endsStatement (has .logicalOr) (element.rest.length + 1) false element
      if found then some ⟨.automaticSemicolon, start, start⟩
      else if !comment && has .questionMark && reached.next = '?' then questionMark? reached
      else none
    else if has .questionMark then questionMark? element
    else if has .htmlComment && !has .logicalOr && !has .escapeSequence && !has .regexBody then
      htmlComment? start element
    else none

end PageLint.Script.Scanner
