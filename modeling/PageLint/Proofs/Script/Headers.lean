import Mathlib.Data.List.Chain
import PageLint.Script.Blocks
import PageLint.Proofs.Text.Bytes
import PageLint.Proofs.Text.Names
import PageLint.Proofs.Text.Trimming

/-! # Heads of blocks

The kind of a block is told by the text between the last end of a statement and its brace: white
space, and the head that is written there. -/

namespace PageLint.Script

/-! ## Names and gaps -/

def isIdentifierChar (c : Char) : Bool := Pass.isWordStart c || Text.isAsciiDigit c

/-- Words that change what the pass knows of the block. -/
def loudWords : List String := ["await", "let", "const", "class", "var"]

/-- Words that mean something wherever they stand, or in front of parentheses. -/
def reservedWords : List Text := loudWords.map String.toList ++ Header.controlWords

/-- A name of ASCII characters. -/
structure Identifier where
  first : Char
  rest : Text
  first_start : Pass.isWordStart first
  rest_chars : rest.all isIdentifierChar
  free : first :: rest ∉ reservedWords

/-- White space, perhaps none. -/
structure Gap where
  text : Text
  blank : text.all Text.isBlank

/-- The last character takes no more than one byte, if there is one. -/
def Gap.EndsPlainly (gap : Gap) : Prop := ∀ c, gap.text.getLast? = some c → c.toNat < 128

instance (gap : Gap) : Decidable gap.EndsPlainly :=
  decidable_of_iff (gap.text.getLast?.all fun c => decide (c.toNat < 128)) (by
    rw [Gap.EndsPlainly]
    cases gap.text.getLast? <;> simp)

/-- What is written in front of the brace of a block. -/
inductive BlockHead where
  | plain
  | condition (c : Identifier)
  | function (isAsync : Bool) (f : Identifier)

namespace Identifier

def text (name : Identifier) : Text := name.first :: name.rest

end Identifier

namespace BlockHead

def text : BlockHead → Text
  | plain => []
  | condition c => "if ".toList ++ ('(' :: (c.text ++ [')', ' ']))
  | function isAsync f =>
    (if isAsync then "async ".toList else []) ++
      ("function ".toList ++ f.text ++ ['(', ')', ' '])

def kind : BlockHead → BlockKind
  | plain | condition _ => .other
  | function isAsync _ => .function isAsync

end BlockHead

/-! ## Characters -/

/-- What holds of the ASCII characters of names one by one holds of all characters of names. -/
theorem of_isIdentifierChar {P : Char → Prop}
    (h : ∀ n < 128, isIdentifierChar (Char.ofNat n) → P (Char.ofNat n)) {c : Char}
    (hc : isIdentifierChar c) : P c := by
  have hlt : c.toNat < 128 := by
    simp only [isIdentifierChar, Pass.isWordStart, Bool.or_eq_true, decide_eq_true_eq] at hc
    rcases hc with ((hc | rfl) | rfl) | hc
    · exact Text.toNat_lt_of_isAsciiLetter hc
    · decide
    · decide
    · exact Text.toNat_lt_of_isAsciiDigit hc
  exact Text.forall_ascii (P := fun c => isIdentifierChar c → P c) h hlt hc

namespace Identifier

variable {name : Identifier} {c : Char}

theorem isIdentifierChar_of_mem (h : c ∈ name.text) : isIdentifierChar c := by
  rcases List.mem_cons.mp h with rfl | h
  · exact Bool.or_eq_true_iff.mpr (.inl name.first_start)
  · exact List.all_eq_true.mp name.rest_chars c h

theorem ofList_not_mem (name : Identifier) : String.ofList name.text ∉ loudWords := by
  intro h
  have hmem := List.mem_map_of_mem (f := String.toList) h
  rw [String.toList_ofList] at hmem
  exact name.free (List.mem_append_left _ hmem)

theorem isWordPart_of_mem (h : c ∈ name.text) : Header.isWordPart c :=
  of_isIdentifierChar (P := fun c => Header.isWordPart c) (by decide) (isIdentifierChar_of_mem h)

theorem isNameChar_of_mem (h : c ∈ name.text) : Header.isNameChar c :=
  of_isIdentifierChar (P := fun c => Header.isNameChar c) (by decide) (isIdentifierChar_of_mem h)

theorem isBlank_of_mem (h : c ∈ name.text) : Text.isBlank c = false :=
  of_isIdentifierChar (P := fun c => Text.isBlank c = false) (by decide) (isIdentifierChar_of_mem h)

theorem isWordChar_of_mem (h : c ∈ name.text) : Pass.isWordChar c :=
  of_isIdentifierChar (P := fun c => Pass.isWordChar c) (by decide) (isIdentifierChar_of_mem h)

theorem ne_paren_of_mem (h : c ∈ name.text) : c ≠ '(' ∧ c ≠ ')' :=
  of_isIdentifierChar (P := fun c => c ≠ '(' ∧ c ≠ ')') (by decide) (isIdentifierChar_of_mem h)

end Identifier

namespace Gap

variable {gap : Gap} {c : Char}

theorem isBlank_of_mem (h : c ∈ gap.text) : Text.isBlank c := List.all_eq_true.mp gap.blank c h

theorem isBlank_of_getLast? (h : gap.text.getLast? = some c) : Text.isBlank c :=
  isBlank_of_mem (List.mem_of_getLast? h)

theorem ne_of_mem (h : c ∈ gap.text) {d : Char} (hd : Text.isBlank d = false) : c ≠ d := by
  rintro rfl
  rw [isBlank_of_mem h] at hd
  cases hd

/-- No word goes on behind white space. -/
theorem any_getLast? (gap : Gap) {p : Char → Bool} (hp : ∀ c, p c → Text.isBlank c = false) :
    gap.text.getLast?.any p = false := by
  cases hlast : gap.text.getLast? with
  | none => rfl
  | some c =>
      rw [Option.any_some, ← Bool.not_eq_true]
      intro hc
      have hblank := isBlank_of_getLast? hlast
      rw [hp c hc] at hblank
      cases hblank

end Gap

theorem isBlank_of_headerChar {c : Char} (h : Header.isNameChar c) : Text.isBlank c = false := by
  simp only [Header.isNameChar, Bool.or_eq_true, decide_eq_true_eq] at h
  rcases h with h | rfl
  · exact Text.isBlank_of_isWord h
  · decide

namespace Header

/-! ## Patterns -/

section

variable {α : Type} {p : Text.Pattern α} {t front u : Text} {c : Char}

theorem not_matches_iff : Matches p t = false ↔
    ∀ front c u, t = front ++ c :: u → p front.getLast? (c :: u) = none := by
  have hnone := @Text.matchesFrom_eq_nil_iff α p 0 none t
  simp only [Option.or_none] at hnone
  rw [← hnone, Matches, Text.matchesOf, Bool.not_eq_false', List.isEmpty_iff]

theorem matches_append (h : p front.getLast? (c :: u) ≠ none) : Matches p (front ++ c :: u) := by
  rw [← Bool.not_eq_false]
  exact fun hnone => h (not_matches_iff.mp hnone front c u rfl)

end

/-! ## The final word -/

theorem finalWord_concat (front : Text) {word : Text} {c : Char} (hc : isWordPart c = false)
    (hone : c.utf8Size = 1) (hword : ∀ d ∈ word, isWordPart d) :
    finalWord (front ++ [c] ++ word) = .ok (front ++ [c], word) := by
  have hfront : (front ++ [c]).dropEndWhile isWordPart = front ++ [c] := by
    simp [Text.dropEndWhile, hc]
  rw [finalWord, Text.dropEndWhile_append _ hword, hfront, List.getLast?_concat]
  dsimp only
  rw [if_pos hone, List.drop_left]

theorem finalWord_whole {word : Text} (hword : ∀ d ∈ word, isWordPart d) :
    finalWord word = .ok ([], word) := by
  have hfront : word.dropEndWhile isWordPart = [] := Text.dropEndWhile_append [] hword
  rw [finalWord, hfront]
  rfl

/-! ## Parentheses -/

theorem backToOpening_other {c : Char} (hopen : c ≠ '(') (hclose : c ≠ ')') (depth : Nat)
    (behind front : Text) :
    backToOpening depth behind (c :: front) = backToOpening depth (c :: behind) front := by
  rw [backToOpening.eq_def]
  dsimp only
  rw [if_neg hclose, if_neg hopen]

theorem backToOpening_append (depth : Nat) {behind w front : Text}
    (h : ∀ c ∈ w, c ≠ '(' ∧ c ≠ ')') :
    backToOpening depth behind (w ++ front) = backToOpening depth (w.reverse ++ behind) front := by
  induction w generalizing behind with
  | nil => rfl
  | cons c w ih =>
      obtain ⟨hc, hw⟩ := List.forall_mem_cons.mp h
      rw [List.cons_append, backToOpening_other hc.1 hc.2, ih hw, List.reverse_cons,
        List.append_assoc, List.singleton_append]

theorem splitAtOpening?_append (front args : Text) (h : ∀ c ∈ args, c ≠ '(' ∧ c ≠ ')') :
    splitAtOpening? (front ++ '(' :: (args ++ [')'])) = some (front, '(' :: (args ++ [')'])) := by
  have hrev : (front ++ '(' :: (args ++ [')'])).reverse =
      ')' :: (args.reverse ++ '(' :: front.reverse) := by simp
  have hargs : ∀ c ∈ args.reverse, c ≠ '(' ∧ c ≠ ')' := fun c hc => h c (List.mem_reverse.mp hc)
  rw [splitAtOpening?, hrev, backToOpening, if_pos rfl, backToOpening_append _ hargs, backToOpening]
  simp

/-- A head that ends with parentheses is one of the word in front of them. -/
theorem kind_call (front args : Text) (h : ∀ c ∈ args, c ≠ '(' ∧ c ≠ ')') :
    kind (front ++ '(' :: (args ++ [')', ' '])) = kindOfCall front.trimEnd := by
  have htrim : Text.trimEnd (front ++ '(' :: (args ++ [')', ' '])) =
      front ++ '(' :: (args ++ [')']) := by
    have hsplit : front ++ '(' :: (args ++ [')', ' ']) =
        front ++ '(' :: args ++ [')'] ++ [' '] := by simp
    have hspace : Text.isBlank ' ' = true := by decide
    have hclose : Text.isBlank ')' = false := by decide
    rw [hsplit, Text.trimEnd_concat, hspace, if_pos rfl, Text.trimEnd_concat, hclose]
    simp
  have hrev : (front ++ '(' :: (args ++ [')'])).reverse =
      ')' :: (args.reverse ++ '(' :: front.reverse) := by simp
  rw [kind, htrim, hrev, splitAtOpening?_append front args h]
  rfl

/-! ## Functions -/

theorem dropWord?_append (word t : Text) : Text.dropWord? word (word ++ t) = some t := by
  induction word with
  | nil => rfl
  | cons c word ih => rw [List.cons_append, Text.dropWord?, if_pos rfl, ih]

theorem matches_functionWord (front name : Text) (h : front.getLast?.any isNameChar = false) :
    Matches functionWord (front ++ ("function".toList ++ ' ' :: name)) := by
  refine matches_append (c := 'f') ?_
  have hword : Text.dropWord? "function".toList ("function".toList ++ ' ' :: name) =
      some (' ' :: name) := dropWord?_append _ _
  have hspace : Text.isWord ' ' = false := by decide
  change functionWord front.getLast? ("function".toList ++ ' ' :: name) ≠ none
  simp only [functionWord, hword, h, hspace, Bool.false_eq_true, ↓reduceIte, Option.bind_eq_bind,
    Option.bind_some, List.head?_cons, Option.any_some]
  exact Option.some_ne_none _

/-- The words of an asynchronous function, in front of its name at the end. -/
theorem matches_asyncFunction (front : Text) (name : Identifier)
    (h : front.getLast?.any Text.isWord = false) :
    Matches asyncFunction
      (front ++ ("async".toList ++ ' ' :: ("function".toList ++ ' ' :: name.text))) := by
  refine matches_append (c := 'a') ?_
  have hasync : Text.dropWord? "async".toList
      ("async".toList ++ ' ' :: ("function".toList ++ ' ' :: name.text)) =
        some (' ' :: ("function".toList ++ ' ' :: name.text)) := dropWord?_append _ _
  have hblanks : Text.dropBlanks? (' ' :: ("function".toList ++ ' ' :: name.text)) =
      some ("function".toList ++ ' ' :: name.text) := rfl
  have hfunction : Text.dropWord? "function".toList ("function".toList ++ ' ' :: name.text) =
      some (' ' :: name.text) := dropWord?_append _ _
  have hname : Text.trimStart (dropStar (Text.trimStart (' ' :: name.text))) = name.text := by
    have hfirst : Text.isBlank name.first = false := Identifier.isBlank_of_mem List.mem_cons_self
    have hstar : '*' ≠ name.first := by
      intro hstar
      have hstart := name.first_start
      rw [← hstar] at hstart
      exact absurd hstart (by decide)
    have htrim : Text.trimStart name.text = name.text := by
      rw [Identifier.text, Text.trimStart, List.dropWhile_cons_of_neg (by rw [hfirst]; decide)]
    have hdrop : dropStar name.text = name.text := by
      rw [Identifier.text, dropStar, Text.dropWord?, if_neg hstar]
      rfl
    have hspace : Text.trimStart (' ' :: name.text) = Text.trimStart name.text := rfl
    rw [hspace, htrim, hdrop, htrim]
  have hrest : (name.text ++ []).dropWhile isNameChar = [] :=
    List.dropWhile_append_of_pos fun c hc => Identifier.isNameChar_of_mem hc
  rw [List.append_nil] at hrest
  change asyncFunction front.getLast?
    ("async".toList ++ ' ' :: ("function".toList ++ ' ' :: name.text)) ≠ none
  simp only [asyncFunction, startsWord, h, hasync, hblanks, hfunction, hname, hrest,
    Bool.not_false, Bool.not_true, Bool.false_eq_true, ↓reduceIte, Option.bind_eq_bind,
    Option.bind_some, List.isEmpty_nil]
  exact Option.some_ne_none _

/-- Behind the word `async` stands white space. -/
theorem exists_of_asyncFunction {previous : Option Char} {t : Text} {found : Unit × Nat}
    (h : asyncFunction previous t = some found) :
    ∃ b u, t = "async".toList ++ b :: u ∧ Text.isBlank b = true := by
  cases hasync : Text.dropWord? "async".toList t with
  | none =>
      simp only [asyncFunction, hasync, Option.bind_eq_bind, Option.bind_none] at h
      split at h <;> cases h
  | some rest =>
      have hsplit := Text.eq_append_of_dropWord? hasync
      cases hblanks : Text.dropBlanks? rest with
      | none =>
          simp only [asyncFunction, hasync, Option.bind_eq_bind, Option.bind_some, hblanks,
            Option.bind_none] at h
          split at h <;> cases h
      | some behind =>
          unfold Text.dropBlanks? at hblanks
          split at hblanks
          · cases hblanks
          · rename_i b u
            split at hblanks
            · rename_i hb
              exact ⟨b, u, hsplit, hb⟩
            · cases hblanks

/-- The only character in front of white space that is none itself is the end of `function`. -/
theorem not_matches_asyncFunction (gap : Gap) (name : Identifier) :
    Matches asyncFunction (gap.text ++ ("function".toList ++ ' ' :: name.text)) = false := by
  have hchain : List.IsChain (fun c d => Text.isBlank d = true → c ≠ 'c')
      (gap.text ++ ("function".toList ++ ' ' :: name.text)) := by
    have hgap : gap.text.IsChain fun c d => Text.isBlank d = true → c ≠ 'c' :=
      (List.pairwise_of_forall_mem_list fun c hc d hd _ => Gap.ne_of_mem hc (by decide)).isChain
    have hname : name.text.IsChain fun c d => Text.isBlank d = true → c ≠ 'c' := by
      refine (List.pairwise_of_forall_mem_list fun c hc d hd hblank => ?_).isChain
      rw [Identifier.isBlank_of_mem hd] at hblank
      cases hblank
    have hspace : (' ' :: name.text).IsChain fun c d => Text.isBlank d = true → c ≠ 'c' :=
      List.isChain_cons.mpr ⟨fun d _ _ => by decide, hname⟩
    have hfunction : "function".toList.IsChain fun c d => Text.isBlank d = true → c ≠ 'c' := by
      decide
    refine hgap.append (hfunction.append hspace ?_) ?_
    · intro c hc d hd _
      obtain rfl : 'n' = c := by simpa using hc
      decide
    · intro c hc d hd _
      exact Gap.ne_of_mem (List.mem_of_getLast? hc) (by decide)
  rw [not_matches_iff]
  intro front c u heq
  cases hfound : asyncFunction front.getLast? (c :: u) with
  | none => rfl
  | some found =>
      obtain ⟨b, v, hsplit, hb⟩ := exists_of_asyncFunction hfound
      have htext : gap.text ++ ("function".toList ++ ' ' :: name.text) =
          (front ++ "asyn".toList) ++ 'c' :: b :: v := by
        rw [heq, hsplit, List.append_assoc]
        rfl
      exact absurd rfl (List.isChain_iff_forall_rel_of_append_cons_cons.mp hchain htext hb)

/-! ## Kinds of blocks -/

theorem kindOfCall_function {front : Text} (name : Identifier)
    (h : front.getLast?.any isNameChar = false) :
    kindOfCall (front ++ ("function".toList ++ ' ' :: name.text)) = .ok (.function
      (Matches asyncFunction (front ++ ("function".toList ++ ' ' :: name.text)))) := by
  have hword : finalWord (front ++ ("function".toList ++ ' ' :: name.text)) =
      .ok (front ++ "function".toList ++ [' '], name.text) := by
    have hname : ∀ d ∈ name.text, isWordPart d := fun d hd => Identifier.isWordPart_of_mem hd
    have hfinal := finalWord_concat (front ++ "function".toList) (c := ' ') (by decide) rfl hname
    simpa using hfinal
  have hawait : name.text ≠ "await".toList := fun heq => name.free (by
    rw [← Identifier.text, heq]
    decide)
  have hcontrol : controlWords.contains name.text = false := by
    rw [← Bool.not_eq_true, List.contains_iff_mem]
    exact fun hmem => name.free (List.mem_append_right _ hmem)
  have hfunction := matches_functionWord front name.text h
  have hloop : isAwaitingLoop (front ++ "function".toList ++ [' ']) name.text = .ok false := by
    rw [isAwaitingLoop, if_neg hawait]
  simp only [kindOfCall, hword, hloop, hcontrol, hfunction, bind, Except.bind, Bool.or_self,
    Bool.false_eq_true, ↓reduceIte]
  rfl

/-- A function is asynchronous if it says so. -/
theorem kind_function (gap : Gap) (isAsync : Bool) (name : Identifier) :
    kind (gap.text ++ (BlockHead.function isAsync name).text) = .ok (.function isAsync) := by
  have hgap : gap.text.getLast?.any isNameChar = false :=
    gap.any_getLast? fun c => isBlank_of_headerChar
  have hends : ∀ front : Text, (front ++ ("function".toList ++ ' ' :: name.text)).EndsVisibly := by
    intro front
    have hname : Text.EndsVisibly name.text :=
      Text.endsVisibly_of_forall (by simp [Identifier.text]) fun c hc => Identifier.isBlank_of_mem hc
    have hvisible := hname.append (front ++ "function".toList ++ [' '])
    simpa using hvisible
  cases isAsync with
  | false =>
      have hcall := kind_call (gap.text ++ ("function".toList ++ ' ' :: name.text)) [] (by simp)
      have hhead : gap.text ++ (BlockHead.function false name).text =
          gap.text ++ ("function".toList ++ ' ' :: name.text) ++ '(' :: ([] ++ [')', ' ']) := by
        simp [BlockHead.text]
      rw [hhead, hcall, (hends _).trimEnd_eq, kindOfCall_function name hgap,
        not_matches_asyncFunction]
  | true =>
      have hcall := kind_call (gap.text ++ "async ".toList ++ ("function".toList ++ ' ' :: name.text))
        [] (by simp)
      have hhead : gap.text ++ (BlockHead.function true name).text =
          gap.text ++ "async ".toList ++ ("function".toList ++ ' ' :: name.text) ++
            '(' :: ([] ++ [')', ' ']) := by
        simp [BlockHead.text]
      have hlast : (gap.text ++ "async ".toList).getLast?.any isNameChar = false := by
        simp; decide
      have hword : gap.text.getLast?.any Text.isWord = false :=
        gap.any_getLast? fun c => Text.isBlank_of_isWord
      have hasync := matches_asyncFunction gap.text name hword
      have hsplit : gap.text ++ "async ".toList ++ ("function".toList ++ ' ' :: name.text) =
          gap.text ++ ("async".toList ++ ' ' :: ("function".toList ++ ' ' :: name.text)) := by
        simp
      rw [hhead, hcall, (hends _).trimEnd_eq, kindOfCall_function name hlast, hsplit, hasync]

/-- White space whose last character is one byte does not hide the word for a condition. -/
theorem kind_condition {gap : Gap} (h : gap.EndsPlainly) (c : Identifier) :
    kind (gap.text ++ (BlockHead.condition c).text) = .ok .other := by
  have hcall := kind_call (gap.text ++ "if ".toList) c.text fun d hd =>
    Identifier.ne_paren_of_mem hd
  have hhead : gap.text ++ (BlockHead.condition c).text =
      gap.text ++ "if ".toList ++ '(' :: (c.text ++ [')', ' ']) := by
    simp [BlockHead.text]
  have htrim : Text.trimEnd (gap.text ++ "if ".toList) = gap.text ++ "if".toList := by
    have hsplit : gap.text ++ "if ".toList = gap.text ++ ['i'] ++ ['f'] ++ [' '] := by simp
    have hspace : Text.isBlank ' ' = true := by decide
    have hlast : Text.isBlank 'f' = false := by decide
    rw [hsplit, Text.trimEnd_concat, hspace, if_pos rfl, Text.trimEnd_concat, hlast]
    simp
  have hword : finalWord (gap.text ++ "if".toList) = .ok (gap.text, "if".toList) := by
    rcases List.eq_nil_or_concat gap.text with hnil | ⟨front, d, hconcat⟩
    · rw [hnil]
      exact finalWord_whole (List.all_eq_true.mp rfl)
    · rw [List.concat_eq_append] at hconcat
      have hlast : gap.text.getLast? = some d := by rw [hconcat, List.getLast?_concat]
      have hd : isWordPart d = false :=
        Text.forall_ascii (P := fun d => Text.isBlank d → isWordPart d = false) (by decide)
          (h d hlast) (Gap.isBlank_of_getLast? hlast)
      rw [hconcat]
      exact finalWord_concat front hd (Text.utf8Size_of_ascii (h d hlast))
        (List.all_eq_true.mp rfl)
  have hloop : isAwaitingLoop gap.text "if".toList = .ok false := rfl
  have hcontrol : controlWords.contains "if".toList = true := by decide
  rw [hhead, hcall, htrim]
  simp only [kindOfCall, hword, hloop, hcontrol, bind, Except.bind, Bool.or_true, ↓reduceIte]
  rfl

theorem kind_blank (gap : Gap) : kind gap.text = .ok .other := by
  have htrim : Text.trimEnd gap.text = [] :=
    Text.dropEndWhile_append [] fun c hc => Gap.isBlank_of_mem hc
  rw [kind, htrim]
  rfl

/-- The head of a block tells its kind. -/
theorem kind_head {gap : Gap} {head : BlockHead}
    (h : ∀ c, head = .condition c → gap.EndsPlainly) :
    kind (gap.text ++ head.text) = .ok head.kind := by
  cases head with
  | plain =>
      rw [BlockHead.text, List.append_nil]
      exact kind_blank gap
  | condition c => exact kind_condition (h c rfl) c
  | function isAsync name => exact kind_function gap isAsync name

end Header

end PageLint.Script
