import PageLint.Proofs.Script.Faults
import PageLint.Proofs.Script.Introductions
import PageLint.Proofs.Text.Slices

/-! # Words and heads byte by byte

A reader of bytes takes every byte from 128 on for part of a word. What it asks for are slices of
the text, between offsets that it has counted up or down to. They are there, apart from the one of
the final word of a head. -/

namespace PageLint.Script

/-! ## Bytes -/

def isStartByte (b : UInt8) : Bool :=
  ('a'.toUInt8 ≤ b && b ≤ 'z'.toUInt8) || ('A'.toUInt8 ≤ b && b ≤ 'Z'.toUInt8) ||
    b = '_'.toUInt8 || b = '$'.toUInt8

def isWordByte (b : UInt8) : Bool :=
  isStartByte b || ('0'.toUInt8 ≤ b && b ≤ '9'.toUInt8) || 128 ≤ b.toNat

def isSpaceByte (b : UInt8) : Bool :=
  b = ' '.toUInt8 || b = '\t'.toUInt8 || b = '\n'.toUInt8 || b = '\x0c'.toUInt8 ||
    b = '\r'.toUInt8

theorem isStartByte_of_ascii {c : Char} (h : c.toNat < 128) :
    isStartByte c.toUInt8 = Pass.isWordStart c :=
  Text.forall_ascii (P := fun c => isStartByte c.toUInt8 = Pass.isWordStart c) (by decide) h

theorem isStartByte_of_le {b : UInt8} (h : 128 ≤ b.toNat) : isStartByte b = false := by
  rw [← Bool.not_eq_true]
  intro hstart
  simp only [isStartByte, Bool.or_eq_true, Bool.and_eq_true, decide_eq_true_eq,
    UInt8.le_iff_toNat_le] at hstart
  rcases hstart with ((⟨-, hle⟩ | ⟨-, hle⟩) | rfl) | rfl
  · exact absurd (Nat.le_trans h hle) (by decide)
  · exact absurd (Nat.le_trans h hle) (by decide)
  · exact absurd h (by decide)
  · exact absurd h (by decide)

theorem isSpaceByte_of_le {b : UInt8} (h : 128 ≤ b.toNat) : isSpaceByte b = false := by
  rw [← Bool.not_eq_true]
  intro hspace
  simp only [isSpaceByte, Bool.or_eq_true, decide_eq_true_eq] at hspace
  rcases hspace with (((rfl | rfl) | rfl) | rfl) | rfl
  all_goals exact absurd h (by decide)

section

variable {c : Char}

theorem isBlank_of_le (h : 128 ≤ c.toNat) : Pass.isBlank c = false := by
  rw [← Bool.not_eq_true]
  intro hblank
  simp only [Pass.isBlank, Bool.or_eq_true, decide_eq_true_eq] at hblank
  rcases hblank with (((rfl | rfl) | rfl) | rfl) | rfl
  all_goals exact absurd h (by decide)

/-- The bytes of a character are like it. -/
theorem isWordByte_eq : ∀ x ∈ String.utf8EncodeChar c, isWordByte x = Pass.isWordChar c := by
  intro x hx
  by_cases hc : c.toNat < 128
  · rw [Text.utf8EncodeChar_of_ascii hc] at hx
    obtain rfl := List.mem_singleton.mp hx
    exact Text.forall_ascii (P := fun c => isWordByte c.toUInt8 = Pass.isWordChar c) (by decide) hc
  · have hle := Text.le_of_mem_utf8EncodeChar (Nat.not_lt.mp hc) x hx
    simp [isWordByte, hle, Pass.isWordChar, Text.isAscii, hc]

theorem isSpaceByte_eq : ∀ x ∈ String.utf8EncodeChar c, isSpaceByte x = Pass.isBlank c := by
  intro x hx
  by_cases hc : c.toNat < 128
  · rw [Text.utf8EncodeChar_of_ascii hc] at hx
    obtain rfl := List.mem_singleton.mp hx
    exact Text.forall_ascii (P := fun c => isSpaceByte c.toUInt8 = Pass.isBlank c) (by decide) hc
  · have hle := Text.le_of_mem_utf8EncodeChar (Nat.not_lt.mp hc) x hx
    rw [isSpaceByte_of_le hle, isBlank_of_le (Nat.not_lt.mp hc)]

end

/-! ## Runs of bytes -/

/-- The bytes of a text from its end on, given its characters from their end on. -/
theorem reverse_bytes_cons (c : Char) (u : Text) : (Text.bytes (c :: u).reverse).reverse =
    (String.utf8EncodeChar c).reverse ++ (Text.bytes u.reverse).reverse := by
  simp

section

variable {q : UInt8 → Bool} {r : Char → Bool}

/-- A run of bytes is a run of characters that are like them. -/
theorem takeWhile_bytes (h : ∀ c, ∀ x ∈ String.utf8EncodeChar c, q x = r c) (t : Text) :
    t.bytes.takeWhile q = Text.bytes (t.takeWhile r) := by
  induction t with
  | nil => rfl
  | cons c t ih =>
      have hc := h c
      cases hr : r c with
      | true =>
          rw [hr] at hc
          rw [Text.bytes_cons, List.takeWhile_append_of_pos hc, ih, List.takeWhile_cons_of_pos hr,
            Text.bytes_cons]
      | false =>
          rw [hr] at hc
          obtain ⟨x, xs, hx⟩ := List.exists_cons_of_ne_nil (String.utf8EncodeChar_ne_nil (c := c))
          rw [hx] at hc
          rw [Text.bytes_cons, hx, List.cons_append, List.takeWhile_cons_of_neg (by simp [hc x]),
            List.takeWhile_cons_of_neg (by simp [hr]), Text.bytes_nil]

/-- And so is a run at the end. -/
theorem dropWhile_reverse_bytes (h : ∀ c, ∀ x ∈ String.utf8EncodeChar c, q x = r c) (u : Text) :
    (Text.bytes u.reverse).reverse.dropWhile q =
      (Text.bytes (u.dropWhile r).reverse).reverse := by
  induction u with
  | nil => rfl
  | cons c u ih =>
      have hc : ∀ x ∈ (String.utf8EncodeChar c).reverse, q x = r c :=
        fun x hx => h c x (List.mem_reverse.mp hx)
      rw [reverse_bytes_cons]
      cases hr : r c with
      | true =>
          rw [hr] at hc
          rw [List.dropWhile_append_of_pos hc, ih, List.dropWhile_cons_of_pos hr]
      | false =>
          rw [hr] at hc
          have hne : (String.utf8EncodeChar c).reverse ≠ [] :=
            List.reverse_ne_nil_iff.mpr String.utf8EncodeChar_ne_nil
          rw [List.dropWhile_cons_of_neg (by simp [hr]), reverse_bytes_cons]
          obtain ⟨x, xs, hx⟩ := List.exists_cons_of_ne_nil hne
          rw [hx] at hc ⊢
          rw [List.cons_append, List.dropWhile_cons_of_neg (by simp [hc x])]

end

theorem drop_bytes (front t : Text) : (Text.bytes (front ++ t)).drop front.size = t.bytes := by
  rw [Text.bytes_append, ← Text.length_bytes, List.drop_left]

theorem take_bytes (front t : Text) : (Text.bytes (front ++ t)).take front.size = front.bytes := by
  rw [Text.bytes_append, ← Text.length_bytes, List.take_left]

/-! ## Words -/

/-- A byte that may stand between a word and a name. -/
def isGapByte (b : UInt8) : Bool := isSpaceByte b || b = '*'.toUInt8

/-- Where the word ends that goes on at a place. -/
def wordEnd (bytes : List UInt8) (start : Nat) : Nat :=
  start + ((bytes.drop start).takeWhile isWordByte).length

/-- Where the next name starts and ends, behind blanks and stars. -/
def nextName? (bytes : List UInt8) (start : Nat) : Option (Nat × Nat) :=
  let first := start + ((bytes.drop start).takeWhile isGapByte).length
  if first ≠ start && bytes[first]?.any isStartByte then some (first, wordEnd bytes first) else none

/-- The last byte in front of a place that is no blank. -/
def lastVisible? (bytes : List UInt8) (stop : Nat) : Option UInt8 :=
  ((bytes.take stop).reverse.dropWhile isSpaceByte).head?

theorem isGapByte_eq {c : Char} :
    ∀ x ∈ String.utf8EncodeChar c, isGapByte x = (Pass.isBlank c || c = '*') := by
  intro x hx
  have hstar : x = '*'.toUInt8 ↔ c = '*' := by
    constructor
    · rintro rfl
      exact (Text.mem_utf8EncodeChar_iff (by decide)).mp hx
    · rintro rfl
      exact List.mem_singleton.mp hx
  rw [isGapByte, isSpaceByte_eq x hx, decide_eq_decide.mpr hstar]

theorem toNat_lt_of_isWordStart {c : Char} (h : Pass.isWordStart c) : c.toNat < 128 := by
  simp only [Pass.isWordStart, Bool.or_eq_true, decide_eq_true_eq] at h
  rcases h with (h | rfl) | rfl
  · exact Text.toNat_lt_of_isAsciiLetter h
  · decide
  · decide

/-- A text starts with a name if and only if its bytes do. -/
theorem any_head?_bytes (t : Text) :
    t.bytes.head?.any isStartByte = t.head?.any Pass.isWordStart := by
  cases t with
  | nil => rfl
  | cons c t =>
      rw [Text.bytes_cons]
      by_cases hc : c.toNat < 128
      · rw [Text.utf8EncodeChar_of_ascii hc]
        exact isStartByte_of_ascii hc
      · have hle := Text.le_of_mem_utf8EncodeChar (Nat.not_lt.mp hc)
        have hstart : Pass.isWordStart c = false :=
          Bool.eq_false_iff.mpr fun h => hc (toNat_lt_of_isWordStart h)
        obtain ⟨x, xs, hx⟩ := List.exists_cons_of_ne_nil (String.utf8EncodeChar_ne_nil (c := c))
        rw [hx] at hle ⊢
        rw [List.cons_append, List.head?_cons, List.head?_cons, Option.any_some, Option.any_some,
          isStartByte_of_le (hle x List.mem_cons_self), hstart]

/-- And it ends with a part of a word if and only if its bytes do. -/
theorem any_getLast?_bytes (t : Text) :
    t.bytes.getLast?.any isWordByte = t.getLast?.any Pass.isWordChar := by
  rcases List.eq_nil_or_concat t with rfl | ⟨front, c, rfl⟩
  · rfl
  · obtain ⟨xs, x, hx⟩ :=
      (List.eq_nil_or_concat (String.utf8EncodeChar c)).resolve_left String.utf8EncodeChar_ne_nil
    rw [List.concat_eq_append] at hx
    have hlast := isWordByte_eq x (by rw [hx]; exact List.mem_concat_self)
    rw [List.concat_eq_append, Text.bytes_append, Text.bytes_cons, Text.bytes_nil,
      List.append_nil, hx, ← List.append_assoc, List.getLast?_concat, List.getLast?_concat,
      Option.any_some, Option.any_some, hlast]

theorem wordEnd_eq (front t : Text) : wordEnd (Text.bytes (front ++ t)) front.size =
    front.size + Text.size (t.takeWhile Pass.isWordChar) := by
  rw [wordEnd, drop_bytes, takeWhile_bytes fun _ => isWordByte_eq, Text.length_bytes]

/-- The next word, behind a gap. -/
theorem nextWord?_append {gap rest : Text} (hgap : ∀ d ∈ gap, Pass.isBlank d || d = '*')
    (hrest : (rest.head?.any fun c => Pass.isBlank c || c = '*') = false) (n : Nat) :
    Pass.nextWord? n (gap ++ rest) =
      if !gap.isEmpty && rest.head?.any Pass.isWordStart then
        some (n + gap.size, rest.takeWhile Pass.isWordChar)
      else none := by
  rw [Pass.nextWord?, (Text.span_append hgap hrest).1, List.drop_left]

/-- The next name is found where it stands. -/
theorem nextName?_eq (front t : Text) : nextName? (Text.bytes (front ++ t)) front.size =
    (Pass.nextWord? front.size t).map fun (n, name) => (n, n + name.size) := by
  obtain ⟨gap, rest, rfl, hgap, hrest⟩ :=
    Text.exists_span (fun c => Pass.isBlank c || c = '*') t
  have hsize : (Text.bytes (gap ++ rest) |>.takeWhile isGapByte).length = gap.size := by
    rw [takeWhile_bytes fun _ => isGapByte_eq, (Text.span_append hgap hrest).1, Text.length_bytes]
  have hempty : decide (front.size + gap.size ≠ front.size) = !gap.isEmpty := by
    cases gap with
    | nil => simp
    | cons c gap =>
        have hpos := c.utf8Size_pos
        simp [Nat.ne_of_gt hpos]
  have hhead : (Text.bytes (front ++ (gap ++ rest)))[front.size + gap.size]? =
      rest.bytes.head? := by
    rw [Text.getElem?_bytes_append, ← Nat.add_zero gap.size, Text.getElem?_bytes_append,
      List.head?_eq_getElem?]
  rw [nextWord?_append hgap hrest, nextName?, drop_bytes, hsize, hempty, hhead, any_head?_bytes,
    ← List.append_assoc, ← Text.size_append, wordEnd_eq]
  split <;> rfl

theorem lastVisible?_eq_iff (front t : Text) :
    lastVisible? (Text.bytes (front ++ t)) front.size = some '.'.toUInt8 ↔
      (front.reverse.dropWhile Pass.isBlank).head? = some '.' := by
  have hrun := dropWhile_reverse_bytes (fun c => isSpaceByte_eq (c := c)) front.reverse
  rw [List.reverse_reverse] at hrun
  rw [lastVisible?, take_bytes, hrun, List.head?_reverse,
    Text.getLast?_bytes_eq_some_iff (by decide), List.getLast?_reverse]

/-! ## Heads -/

namespace Header

/-- Where the parenthesis stands that the last closing ones belong to, in a text whose bytes are
given from its end on. -/
def openingFrom (depth : Nat) : List UInt8 → Option Nat
  | [] => none
  | b :: front =>
    if b = ')'.toUInt8 then openingFrom (depth + 1) front
    else if b = '('.toUInt8 then
      match depth with
      | 0 => none
      | 1 => some front.length
      | n + 2 => openingFrom (n + 1) front
    else openingFrom depth front

/-- Where the final word starts, one byte behind the start of the character in front of it. -/
def wordStart (t : Text) : Nat :=
  match t.offsets.reverse.find? fun (_, c) => !isWordPart c with
  | some (n, _) => n + 1
  | none => 0

def trailingWord (t : Text) : Except Fault (Nat × Text) := do
  let word ← t.sliceFrom (wordStart t)
  return (wordStart t, word)

/-- The final word, which starts at `start`, is that of a loop over what is awaited. -/
def classifyLoop (front : Text) (start : Nat) (word : Text) : Except Fault Bool :=
  if word = "await".toList then do
    let before ← front.sliceTo start
    let (_, outer) ← trailingWord before.trimEnd
    return outer = "for".toList
  else .ok false

/-- The kind of a block behind parentheses with `front` before them. -/
def classifyCall (front : Text) : Except Fault BlockKind := do
  let (start, word) ← trailingWord front
  if (← classifyLoop front start word) || controlWords.contains word then return .other
  else if Matches functionWord front then return .function (Matches asyncFunction front)
  else if word.isEmpty then return .other
  else do
    let before ← front.sliceTo start
    return .function (isAsyncMethod before)

/-- The kind of a block with the header in front. -/
def classify (header : Text) : Except Fault BlockKind :=
  let header := header.trimEnd
  match header.reverse with
  | '>' :: '=' :: _ => .ok (.function (Matches finalAsyncArrow header))
  | ')' :: _ =>
    match openingFrom 0 header.bytes.reverse with
    | none => .ok .other
    | some opening => do
      let front ← header.sliceTo opening
      classifyCall front.trimEnd
  | _ => .ok .other

theorem openingFrom_append {depth : Nat} {high front : List UInt8}
    (h : ∀ x ∈ high, 128 ≤ x.toNat) : openingFrom depth (high ++ front) = openingFrom depth front := by
  induction high with
  | nil => rfl
  | cons b high ih =>
      obtain ⟨hb, hhigh⟩ := List.forall_mem_cons.mp h
      have hclose : b ≠ ')'.toUInt8 := Text.ne_toUInt8_of_le hb (by decide)
      have hopen : b ≠ '('.toUInt8 := Text.ne_toUInt8_of_le hb (by decide)
      rw [List.cons_append, openingFrom.eq_def]
      dsimp only
      rw [if_neg hclose, if_neg hopen, ih hhigh]

theorem openingFrom_eq (depth : Nat) (behind u : Text) :
    openingFrom depth (Text.bytes u.reverse).reverse =
      (backToOpening depth behind u).map (·.1.size) := by
  induction u generalizing depth behind with
  | nil => rfl
  | cons c u ih =>
      have hlength : (Text.bytes u.reverse).reverse.length = Text.size u.reverse := by simp
      rw [reverse_bytes_cons]
      by_cases hc : c.toNat < 128
      · rw [Text.utf8EncodeChar_of_ascii hc, List.reverse_singleton, List.singleton_append,
          openingFrom.eq_def, backToOpening.eq_def]
        dsimp only
        simp only [Text.toUInt8_inj hc (show ')'.toNat < 128 by decide),
          Text.toUInt8_inj hc (show '('.toNat < 128 by decide), hlength]
        split
        · exact ih _ _
        · split
          · split
            · rfl
            · rfl
            · exact ih _ _
          · exact ih _ _
      · have hclose : c ≠ ')' := by
          rintro rfl
          exact hc (by decide)
        have hopen : c ≠ '(' := by
          rintro rfl
          exact hc (by decide)
        have hhigh : ∀ x ∈ (String.utf8EncodeChar c).reverse, 128 ≤ x.toNat := fun x hx =>
          Text.le_of_mem_utf8EncodeChar (Nat.not_lt.mp hc) x (List.mem_reverse.mp hx)
        rw [openingFrom_append hhigh, backToOpening_other hopen hclose]
        exact ih _ _

theorem find?_offsetsFrom_word {word : Text} (h : ∀ d ∈ word, isWordPart d) (n : Nat) :
    (word.offsetsFrom n).reverse.find? (fun (_, c) => !isWordPart c) = none := by
  refine List.find?_eq_none.mpr fun (k, c) hx => ?_
  obtain ⟨before, behind, hsplit, -⟩ := Text.exists_of_mem_offsetsFrom (List.mem_reverse.mp hx)
  simpa using h c (by simp [hsplit])

theorem wordStart_whole {word : Text} (h : ∀ d ∈ word, isWordPart d) : wordStart word = 0 := by
  rw [wordStart, Text.offsets, find?_offsetsFrom_word h]

theorem wordStart_append {word : Text} (front : Text) {c : Char} (hc : isWordPart c = false)
    (h : ∀ d ∈ word, isWordPart d) : wordStart (front ++ c :: word) = front.size + 1 := by
  have hnext : Text.offsetsFrom (0 + front.size) (c :: word) =
      (front.size, c) :: word.offsetsFrom (front.size + c.utf8Size) := by
    rw [Nat.zero_add, Text.offsetsFrom]
  rw [wordStart, Text.offsets, Text.offsetsFrom_append, hnext, List.reverse_append,
    List.reverse_cons, List.append_assoc, List.find?_append, find?_offsetsFrom_word h,
    Option.none_or, List.singleton_append, List.find?_cons_of_pos (by simp [hc])]

/-- A word is cut out where it starts, unless the character in front of it has more bytes than the
one that is counted for it. -/
theorem trailingWord_eq (t : Text) :
    trailingWord t = (finalWord t).map fun (front, word) => (front.size, word) := by
  obtain ⟨front, word, hends⟩ := exists_endsWith t
  rcases List.eq_nil_or_concat front with rfl | ⟨front, c, rfl⟩
  · obtain rfl : t = word := hends.split
    have hfinal : finalWord t = .ok ([], t) := by
      rcases hends.finalWord_eq with ⟨hwide, -⟩ | ⟨-, hfinal⟩
      · rw [hends.hasWideBreak_iff] at hwide
        simp at hwide
      · exact hfinal
    rw [trailingWord, wordStart_whole hends.word, (Text.standsAt_zero t).sliceFrom_eq, hfinal]
    rfl
  · rw [List.concat_eq_append] at hends
    have hc := hends.before
    rw [List.getLast?_concat, Option.any_some] at hc
    have hsplit : t = front ++ c :: word := by simp [hends.split]
    have hwide := hends.hasWideBreak_iff
    simp only [List.getLast?_concat, Option.some.injEq, exists_eq_left'] at hwide
    rw [trailingWord, hsplit, wordStart_append front hc hends.word, ← hsplit]
    rcases hends.finalWord_eq with ⟨hbreak, hfinal⟩ | ⟨hbreak, hfinal⟩
    · have hnot : ¬ t.IsCut (Text.size front + 1) :=
        hsplit ▸ Text.not_isCut_inside front word (by decide) (hwide.mp hbreak)
      rw [Text.sliceFrom_eq_error hnot, hfinal]
      rfl
    · have hone : Text.size front + 1 = Text.size (front ++ [c]) := by
        have hpos := c.utf8Size_pos
        rw [hwide] at hbreak
        simp only [Text.size_append, Text.size_cons, Text.size_nil]
        omega
      have hstands : t.StandsAt (Text.size front + 1) word := ⟨front ++ [c], hends.split, hone.symm⟩
      rw [hstands.sliceFrom_eq, hfinal, hone]
      rfl

theorem classifyCall_eq (front : Text) : classifyCall front = kindOfCall front := by
  obtain ⟨before, word, hends⟩ := exists_endsWith front
  rcases hends.finalWord_eq with ⟨-, hfinal⟩ | ⟨-, hfinal⟩
  · rw [classifyCall, kindOfCall, trailingWord_eq, hfinal]
    rfl
  · have htrailing : trailingWord front = .ok (before.size, word) := by
      rw [trailingWord_eq, hfinal]
      rfl
    have hslice : front.sliceTo before.size = .ok before := by
      rw [hends.split, Text.sliceTo_append]
    have hloop : classifyLoop front before.size word = isAwaitingLoop before word := by
      rw [classifyLoop, isAwaitingLoop, hslice]
      simp only [bind, Except.bind, trailingWord_eq]
      cases finalWord before.trimEnd <;> rfl
    rw [classifyCall, kindOfCall, htrailing, hfinal]
    simp only [bind, Except.bind, hloop, hslice]

/-- Slices of its head tell the kind of a block, and no slice fails but those for final words. -/
theorem classify_eq (header : Text) : classify header = kind header := by
  have hopening := openingFrom_eq 0 [] header.trimEnd.reverse
  rw [List.reverse_reverse] at hopening
  rw [classify]
  split
  · rename_i hrev
    simp only [kind, hrev]
  · rename_i hrev
    obtain ⟨t, ht⟩ : ∃ t, header.trimEnd = t ++ [')'] := by
      rw [← List.getLast?_eq_some_iff, List.getLast?_eq_head?_reverse, hrev]
      rfl
    rw [kind_of_concat ht, hopening, ← splitAtOpening?, ht]
    cases hfound : splitAtOpening? (t ++ [')']) with
    | none => rfl
    | some found =>
        obtain ⟨front, group⟩ := found
        obtain ⟨inside, -, hsplit, -⟩ := splitAtOpening?_eq_some_iff.mp hfound
        have hslice : Text.sliceTo (t ++ [')']) front.size = .ok front := by
          rw [hsplit, Text.sliceTo_append]
        simp only [Option.map_some, hslice, bind, Except.bind, classifyCall_eq]
  · rename_i harrow hcall
    rw [kind]
    split
    · rename_i hrev
      exact absurd hrev (harrow _)
    · rename_i hrev
      exact absurd hrev (hcall _)
    · rfl

end Header

end PageLint.Script
