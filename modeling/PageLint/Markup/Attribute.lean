import PageLint.Text.Classes

/-! The attributes of a tag, with the bytes they cover. -/
namespace PageLint.Markup

structure Attribute where
  /-- The name in lower case. -/
  name : String
  start : Nat
  stop : Nat
  /-- Bytes of white space directly in front. -/
  blanks : Nat
  /-- The value, if it is in quotes. -/
  quoted : Option Text
  deriving DecidableEq, Repr

namespace Attribute

def isNameChar (c : Char) : Bool :=
  !Text.isBlank c && !(['"', '\'', '<', '>', '/', '='].contains c)

def isUnquotedChar (c : Char) : Bool :=
  !Text.isBlank c && !(['"', '\'', '=', '<', '>', '`'].contains c)

/-- A value as it is written: its content if it is in quotes, and the text behind it. -/
def value? : Text → Option (Option Text × Text)
  | [] => none
  | c :: t =>
    if c = '"' || c = '\'' then
      match t.dropWhile (· != c) with
      | [] => none
      | _ :: rest => some (some (t.takeWhile (· != c)), rest)
    else if isUnquotedChar c then some (none, t.dropWhile isUnquotedChar)
    else none

/-- An equals sign and a value, with white space around the sign. -/
def assigned? (t : Text) : Option (Option Text × Text) :=
  match t.trimStart with
  | '=' :: rest => value? (Text.trimStart rest)
  | _ => none

theorem length_dropWhile_le (p : Char → Bool) (t : Text) : (t.dropWhile p).length ≤ t.length :=
  (List.dropWhile_suffix p).length_le

theorem length_rest_of_value? {t rest : Text} {quoted : Option Text}
    (h : value? t = some (quoted, rest)) : rest.length ≤ t.length := by
  cases t with
  | nil => simp [value?] at h
  | cons c t =>
    rw [value?] at h
    split at h
    · have := length_dropWhile_le (· != c) t
      split at h
      · simp at h
      · simp_all
        omega
    · split at h
      · have := length_dropWhile_le isUnquotedChar t
        simp_all
        omega
      · simp at h

theorem length_rest_of_assigned? {t rest : Text} {quoted : Option Text}
    (h : assigned? t = some (quoted, rest)) : rest.length ≤ t.length := by
  unfold assigned? at h
  split at h
  · rename_i u hu
    have h1 := length_rest_of_value? h
    have h2 := length_dropWhile_le Text.isBlank u
    have h3 := length_dropWhile_le Text.isBlank t
    simp only [Text.trimStart] at h1 hu
    simp [hu] at h3
    omega
  · simp at h

/-- What follows a name: the content of a quoted value, and the text behind the attribute. -/
def tail (t : Text) : Option Text × Text := (assigned? t).getD (none, t)

theorem length_tail_le (t : Text) : (tail t).2.length ≤ t.length := by
  unfold tail
  cases h : assigned? t with
  | none => simp
  | some r => simpa using length_rest_of_assigned? h

end Attribute

/-- The attributes of a text that starts at offset `n` behind `blanks` bytes of white space. -/
def attributesFrom (n blanks : Nat) : Text → List Attribute
  | [] => []
  | c :: t =>
    if Attribute.isNameChar c then
      let name := c :: t.takeWhile Attribute.isNameChar
      let tail := Attribute.tail (t.dropWhile Attribute.isNameChar)
      let stop := n + (Text.size (c :: t) - tail.2.size)
      { name := String.ofList (Text.lowerAscii name), start := n, stop, blanks, quoted := tail.1 } ::
        attributesFrom stop 0 tail.2
    else attributesFrom (n + c.utf8Size) (if Text.isBlank c then blanks + c.utf8Size else 0) t
termination_by t => t.length
decreasing_by
  · have h1 := Attribute.length_tail_le (t.dropWhile Attribute.isNameChar)
    have h2 := Attribute.length_dropWhile_le Attribute.isNameChar t
    simp only [List.length_cons]
    omega
  · simp

/-- The attributes of a text that starts at offset `n`. -/
def attributes (n : Nat) (t : Text) : List Attribute := attributesFrom n 0 t

end PageLint.Markup
