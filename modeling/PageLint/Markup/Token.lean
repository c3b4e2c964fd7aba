import PageLint.Markup.Element
import PageLint.Text.Classes

/-!
The tags and comments of a document, with the bytes they cover. Whatever else starts with `<` is
text. Behind the opening tag of an element whose body is raw text, the next token is its closing
tag.
-/
namespace PageLint.Markup

/-- The parts of a tag between its brackets, and the text behind it. -/
structure TagParts where
  closing : Bool
  name : Text
  /-- What stands between the name and the bracket. -/
  attributes : Text
  rest : Text

def isNameStart (c : Char) : Bool := Text.isAsciiLetter c

def isNameChar (c : Char) : Bool :=
  Text.isAsciiLetter c || Text.isAsciiDigit c || c = ':' || c = '.' || c = '_' || c = '-'

/-- The quote that is open behind `c`. -/
def nextQuote (quote : Option Char) (c : Char) : Option Char :=
  match quote with
  | none => if c = '"' || c = '\'' then some c else none
  | some q => if c = q then none else some q

/-- The text up to the first `>` that is outside of quotes, and the text behind it. `quote` is the
quote that is open. -/
def untilBracket? (quote : Option Char) : Text → Option (Text × Text)
  | [] => none
  | c :: t =>
    if quote = none ∧ c = '>' then some ([], t)
    else (untilBracket? (nextQuote quote c) t).map fun (front, rest) => (c :: front, rest)

theorem untilBracket?_eq {quote : Option Char} {t front rest : Text}
    (h : untilBracket? quote t = some (front, rest)) : t = front ++ '>' :: rest := by
  induction t generalizing quote front with
  | nil => simp [untilBracket?] at h
  | cons c t ih =>
    rw [untilBracket?] at h
    split at h
    · simp_all
    · obtain ⟨⟨front', rest'⟩, hr, he⟩ := Option.map_eq_some_iff.1 h
      simp only [Prod.mk.injEq] at he
      obtain ⟨rfl, rfl⟩ := he
      simp [ih hr]

/-- The tag whose name starts here. -/
def namedTag? (closing : Bool) (t : Text) : Option TagParts :=
  if t.head?.any isNameStart then
    (untilBracket? none (t.dropWhile isNameChar)).map fun (attributes, rest) =>
      { closing, name := t.takeWhile isNameChar, attributes, rest }
  else none

/-- The tag behind a `<`. -/
def tag? : Text → Option TagParts
  | '/' :: t => namedTag? true t
  | t => namedTag? false t

namespace TagParts

/-- The tag has no body to come. -/
def isSelfClosing (p : TagParts) : Bool := p.attributes.trimEnd.getLast? == some '/'

/-- Bytes from `<` to `>`. -/
def size (p : TagParts) : Nat :=
  2 + (if p.closing then 1 else 0) + p.name.size + p.attributes.size

end TagParts

theorem length_rest_of_namedTag? {closing : Bool} {t : Text} {p : TagParts}
    (h : namedTag? closing t = some p) : p.rest.length < t.length := by
  unfold namedTag? at h
  split at h
  · obtain ⟨⟨front, rest⟩, hr, rfl⟩ := Option.map_eq_some_iff.1 h
    have h1 := congrArg List.length (untilBracket?_eq hr)
    have h2 := (List.dropWhile_suffix isNameChar (l := t)).length_le
    simp at h1 h2 ⊢
    omega
  · simp at h

theorem length_rest_of_tag? {t : Text} {p : TagParts} (h : tag? t = some p) :
    p.rest.length < t.length := by
  unfold tag? at h
  split at h
  · exact Nat.lt_succ_of_lt (length_rest_of_namedTag? h)
  · exact length_rest_of_namedTag? h

inductive Token where
  | comment (start stop : Nat)
  /-- A comment that never ends. -/
  | openComment (start : Nat)
  | opening (name : String) (attributes : Text) (selfClosing : Bool) (start stop : Nat)
  | closing (name : String) (start stop : Nat)
  deriving DecidableEq, Repr

/-- It is no comment. -/
def Token.isTag : Token → Bool
  | .opening .. | .closing .. => true
  | .comment .. | .openComment _ => false

/-- The letters of a name in lower case. -/
def foldName (name : Text) : String := String.ofList (Text.lowerAscii name)

/-- The token of a tag that starts at `start`. -/
def TagParts.token (p : TagParts) (start : Nat) : Token :=
  if p.closing then .closing (foldName p.name) start (start + p.size)
  else .opening (foldName p.name) p.attributes p.isSelfClosing start (start + p.size)

/-- `t` starts with `word`, whose letters are in lower case, when case is ignored. -/
def startsFolded : Text → Text → Bool
  | [], _ => true
  | _ :: _, [] => false
  | l :: word, c :: t => c.toLower == l && startsFolded word t

/-- The text from the first `closer` on, compared without case; nothing if there is none. -/
def fromCloser (closer : Text) : Text → Text
  | [] => []
  | c :: t => if startsFolded closer (c :: t) then c :: t else fromCloser closer t

theorem fromCloser_suffix (closer t : Text) : fromCloser closer t <:+ t := by
  induction t with
  | nil => exact List.suffix_rfl
  | cons c t ih =>
    rw [fromCloser]
    split
    · exact List.suffix_rfl
    · exact ih.trans (List.suffix_cons c t)

theorem splitAtFirst?_eq {t needle front back : Text}
    (h : Text.splitAtFirst? t needle = some (front, back)) : t = front ++ back := by
  induction t generalizing front with
  | nil =>
    rw [Text.splitAtFirst?] at h
    split at h <;> simp_all
  | cons c t ih =>
    rw [Text.splitAtFirst?] at h
    split at h
    · simp_all
    · obtain ⟨⟨front', back'⟩, hr, he⟩ := Option.map_eq_some_iff.1 h
      simp only [Prod.mk.injEq] at he
      obtain ⟨rfl, rfl⟩ := he
      simp [ih hr]

/-- What a scan meets at a `<`. -/
structure Meeting where
  /-- The token that starts there; without one, the `<` is text. -/
  token? : Option Token
  /-- Where the scan goes on. -/
  next : Nat
  rest : Text

/-- What a `<` at offset `n` starts, with `t` behind it. -/
def meet (n : Nat) (t : Text) : Meeting :=
  if "!--".toList.isPrefixOf t then
    match Text.splitAtFirst? (t.drop 3) "-->".toList with
    | none => ⟨some (.openComment n), n + 1 + t.size, []⟩
    | some (body, rest) =>
      ⟨some (.comment n (n + 7 + body.size)), n + 7 + body.size, rest.drop 3⟩
  else match tag? t with
    | none => ⟨none, n + 1, t⟩
    | some p =>
      let next := n + p.size
      if !p.closing && !p.isSelfClosing && isRawText (foldName p.name) then
        let rest := fromCloser ("</".toList ++ Text.lowerAscii p.name) p.rest
        ⟨some (p.token n), next + (p.rest.size - rest.size), rest⟩
      else ⟨some (p.token n), next, p.rest⟩

theorem length_rest_meet (n : Nat) (t : Text) : (meet n t).rest.length ≤ t.length := by
  unfold meet
  split
  · split
    · exact Nat.zero_le _
    · rename_i h
      have := congrArg List.length (splitAtFirst?_eq h)
      simp only [List.length_append, List.length_drop] at this ⊢
      omega
  · split
    · exact Nat.le_refl _
    · rename_i p h
      have hrest := Nat.le_of_lt (length_rest_of_tag? h)
      have hcloser := fromCloser_suffix ("</".toList ++ Text.lowerAscii p.name) p.rest
      dsimp only
      split
      · exact Nat.le_trans hcloser.length_le hrest
      · exact hrest

/-- What each `<` starts that a scan meets in a text that starts at offset `n`. -/
def bracketsFrom (n : Nat) : Text → List (Option Token)
  | [] => []
  | c :: t =>
    if c ≠ '<' then bracketsFrom (n + c.utf8Size) t
    else (meet n t).token? :: bracketsFrom (meet n t).next (meet n t).rest
termination_by t => t.length
decreasing_by
  · simp
  · exact Nat.lt_succ_of_le (length_rest_meet n t)

def brackets (t : Text) : List (Option Token) := bracketsFrom 0 t

/-- The tokens of a text that starts at offset `n`. -/
def tokensFrom (n : Nat) (t : Text) : List Token := (bracketsFrom n t).filterMap id

/-- The tokens of a document, in order. -/
def tokens (t : Text) : List Token := tokensFrom 0 t

theorem tokensFrom_nil (n : Nat) : tokensFrom n [] = [] := by
  rw [tokensFrom, bracketsFrom, List.filterMap_nil]

theorem tokensFrom_cons {c : Char} (h : c ≠ '<') (n : Nat) (t : Text) :
    tokensFrom n (c :: t) = tokensFrom (n + c.utf8Size) t := by
  rw [tokensFrom, bracketsFrom, if_pos h, tokensFrom]

theorem tokensFrom_bracket (n : Nat) (t : Text) :
    tokensFrom n ('<' :: t) =
      (meet n t).token?.toList ++ tokensFrom (meet n t).next (meet n t).rest := by
  rw [tokensFrom, bracketsFrom, if_neg (by simp), tokensFrom]
  cases h : (meet n t).token? <;> simp

end PageLint.Markup
