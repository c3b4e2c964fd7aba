import PageLint.Proofs.Script.Unused
import PageLint.Proofs.Text.Depth
import PageLint.Proofs.Text.Lines

/-! # Names that the bare text introduces

The pass over the bare text knows of the names that certain words introduce outside of all blocks
and parentheses. What it knows in the end is told here by the places of those words alone. A name of
the program's own frame is reported where it is taken apart and no word introduces it, as the second
one of a list of declarators. -/

namespace PageLint.Script

/-! ## Words in a text -/

/-- The words that a name may follow. -/
def nameWords : List String := ["let", "const", "var", "class", "function"]

/-- The words that a pattern may follow. -/
def patternWords : List String := ["let", "const", "var"]

/-- A word, with what stands in front of it and behind it. -/
structure Mention where
  front : Text
  word : Text
  behind : Text

namespace Mention

/-- The word stands in the text and is not part of a longer one. -/
structure IsIn (m : Mention) (source : Text) : Prop where
  split : source = m.front ++ (m.word ++ m.behind)
  starts : m.word.head?.any Pass.isWordStart = true
  inside : ∀ c ∈ m.word, Pass.isWordChar c = true
  before : m.front.getLast?.any Pass.isWordChar = false
  ends : m.behind.head?.any Pass.isWordChar = false

/-- The word stands outside of all blocks and parentheses. -/
def isOutermost (m : Mention) : Bool :=
  Text.openAfter '{' '}' 0 m.front == 0 && Text.openAfter '(' ')' 0 m.front == 0

/-- The word is the name of a member. -/
def isMember (m : Mention) : Bool := (m.front.reverse.dropWhile Pass.isBlank).head? = some '.'

/-- The word may introduce names of the program. -/
def Counts (m : Mention) : Prop := m.isMember = false ∧ m.isOutermost = true

instance (m : Mention) : Decidable m.Counts := inferInstanceAs (Decidable (_ ∧ _))

def stop (m : Mention) : Nat := m.front.size + m.word.size

/-- The name right behind the word. -/
def nextName? (m : Mention) : Option Text := (Pass.nextWord? m.stop m.behind).map (·.2)

/-- The pattern right behind the word, if it takes its values from a name. -/
def pattern? (m : Mention) : Option Destructuring :=
  if String.ofList m.word ∈ patternWords ∧ m.nextName? = none then
    Destructuring.read? m.stop m.behind
  else none

/-- The names that the word introduces. -/
def names (m : Mention) : List Text :=
  (if String.ofList m.word ∈ nameWords then m.nextName?.toList else []) ++
    m.pattern?.toList.flatMap (·.names) ++
    if String.ofList m.word = "import" then ImportClause.names m.behind else []

/-- The word stands in the text that goes on with `t` behind `front`, and not in front of `t`. -/
def IsFrom (m : Mention) (front t : Text) : Prop := m.IsIn (front ++ t) ∧ front <+: m.front

section

variable {m : Mention} {front t : Text} {c : Char}

theorem isFrom_iff : m.IsFrom front t ↔ ∃ passed, m.front = front ++ passed ∧
    t = passed ++ (m.word ++ m.behind) ∧ m.IsIn (front ++ t) := by
  constructor
  · rintro ⟨hin, passed, hpassed⟩
    refine ⟨passed, hpassed.symm, ?_, hin⟩
    have hsplit := hin.split
    rw [← hpassed, List.append_assoc] at hsplit
    exact List.append_cancel_left hsplit
  · rintro ⟨passed, hpassed, -, hin⟩
    exact ⟨hin, passed, hpassed.symm⟩

theorem IsIn.word_ne_nil {source : Text} (h : m.IsIn source) : m.word ≠ [] := by
  intro hnil
  have hstarts := h.starts
  simp [hnil] at hstarts

theorem not_isFrom_nil : ¬ m.IsFrom front [] := by
  intro h
  obtain ⟨passed, -, hnil, hin⟩ := isFrom_iff.mp h
  simp [hin.word_ne_nil] at hnil

/-- Where no word starts, the next one comes later. -/
theorem isFrom_skip
    (h : (Pass.isWordStart c && !front.getLast?.any Pass.isWordChar) = false) :
    m.IsFrom front (c :: t) ↔ m.IsFrom (front ++ [c]) t := by
  have htext : front ++ [c] ++ t = front ++ c :: t := by simp
  rw [isFrom_iff, isFrom_iff, htext]
  constructor
  · rintro ⟨passed, hfront, ht, hin⟩
    cases passed with
    | nil =>
        rw [List.append_nil] at hfront
        have hbefore := hin.before
        have hstarts := hin.starts
        obtain ⟨d, word, hword⟩ := List.exists_cons_of_ne_nil hin.word_ne_nil
        rw [hword] at ht hstarts
        obtain ⟨rfl, -⟩ := List.cons.inj ht
        rw [hfront] at hbefore
        simp_all
    | cons d passed =>
        obtain ⟨rfl, htail⟩ := List.cons.inj ht
        exact ⟨passed, by simp [hfront], htail, hin⟩
  · rintro ⟨passed, hfront, ht, hin⟩
    exact ⟨c :: passed, by simp [hfront], by simp [ht], hin⟩

/-- A text starts with one longest word. -/
theorem eq_of_isWord {word word' rest rest' : Text} (h : word ++ rest = word' ++ rest')
    (hword : ∀ c ∈ word, Pass.isWordChar c = true) (hword' : ∀ c ∈ word', Pass.isWordChar c = true)
    (hrest : rest.head?.any Pass.isWordChar = false)
    (hrest' : rest'.head?.any Pass.isWordChar = false) : word = word' ∧ rest = rest' := by
  rcases List.append_eq_append_iff.mp h with ⟨more, rfl, rfl⟩ | ⟨more, rfl, rfl⟩
  · cases more with
    | nil => simp
    | cons c more => simp [hword' c (by simp)] at hrest
  · cases more with
    | nil => simp
    | cons c more => simp [hword c (by simp)] at hrest'

/-- Where a word starts, it is the next one. -/
theorem isFrom_word {word rest : Text} (hstarts : word.head?.any Pass.isWordStart = true)
    (hword : ∀ c ∈ word, Pass.isWordChar c = true)
    (hbefore : front.getLast?.any Pass.isWordChar = false)
    (hrest : rest.head?.any Pass.isWordChar = false) :
    m.IsFrom front (word ++ rest) ↔ m = ⟨front, word, rest⟩ ∨ m.IsFrom (front ++ word) rest := by
  rw [isFrom_iff, isFrom_iff, List.append_assoc]
  constructor
  · rintro ⟨passed, hfront, hsplit, hin⟩
    have hbefore' := hin.before
    cases hlast : passed.getLast? with
    | none =>
        rw [List.getLast?_eq_none_iff] at hlast
        rw [hlast, List.append_nil] at hfront
        rw [hlast, List.nil_append] at hsplit
        obtain ⟨rfl, rfl⟩ := eq_of_isWord hsplit hword hin.inside hrest hin.ends
        subst hfront
        exact .inl rfl
    | some c =>
        rw [hfront, List.getLast?_append, hlast, Option.some_or, Option.any_some] at hbefore'
        rcases List.append_eq_append_iff.mp hsplit with ⟨more, rfl, hmore⟩ | ⟨more, rfl, hmore⟩
        · exact .inr ⟨more, by simp [hfront], hmore, hin⟩
        · have hc := hword c (List.mem_append_left more (List.mem_of_getLast? hlast))
          rw [hc] at hbefore'
          cases hbefore'
  · rintro (rfl | ⟨passed, hfront, hsplit, hin⟩)
    · exact ⟨[], by simp, rfl, rfl, hstarts, hword, hbefore, hrest⟩
    · exact ⟨word ++ passed, by simp [hfront], by simp [hsplit], hin⟩

end

end Mention

/-- A word of the text introduces the name for the whole program. -/
def Introduces (source name : Text) : Prop :=
  ∃ m : Mention, m.IsIn source ∧ m.Counts ∧ name ∈ m.names

/-- A pattern of the program takes its values from the name. -/
def TakesApart (source name : Text) : Prop :=
  ∃ m : Mention, m.IsIn source ∧ m.Counts ∧ ∃ d, m.pattern? = some d ∧ d.source = name

/-! ## Where the pass stands -/

namespace Pass

/-- The pass has come to the end of a text. -/
structure IsBehind (p : Pass) (front : Text) : Prop where
  blocks : p.outer.length = Text.openAfter '{' '}' 0 front
  parens : p.parens = Text.openAfter '(' ')' 0 front
  lead : ∃ rest, front.reverse = p.lead ++ rest ∧
    ∀ c, rest.head? = some c → c = ';' ∨ c = '{' ∨ c = '}'

section

variable {p q : Pass} {front : Text} {m : Mention}

theorem isBehind_start : ({} : Pass).IsBehind [] := ⟨rfl, rfl, [], rfl, by simp⟩

namespace IsBehind

theorem isAtTopLevel_eq (h : p.IsBehind m.front) : p.isAtTopLevel = m.isOutermost := by
  rw [isAtTopLevel, Mention.isOutermost, ← h.blocks, ← h.parens]
  cases p.outer <;> simp

theorem isMember_eq (h : p.IsBehind m.front) : p.isMember = m.isMember := by
  obtain ⟨rest, hfront, hrest⟩ := h.lead
  rw [isMember, Mention.isMember, hfront, List.dropWhile_append]
  cases hlead : p.lead.dropWhile isBlank with
  | cons c t => simp
  | nil =>
      cases rest with
      | nil => simp
      | cons c t => rcases hrest c rfl with rfl | rfl | rfl <;> simp [isBlank]

theorem startsWord_eq (h : p.IsBehind front) (c : Char) :
    p.startsWord c = (isWordStart c && !front.getLast?.any isWordChar) := by
  obtain ⟨rest, hfront, hrest⟩ := h.lead
  rw [startsWord, List.getLast?_eq_head?_reverse, hfront]
  cases hlead : p.lead with
  | cons d t => simp
  | nil =>
      cases rest with
      | nil => simp
      | cons d t =>
          rcases hrest d rfl with rfl | rfl | rfl <;>
            simp [isWordChar, isWordStart, Text.isAsciiLetter, Text.isAsciiDigit, Text.isAscii]

end IsBehind

/-! ## Single characters -/

theorem IsBehind.endStatement {c : Char} {isNested : Bool}
    (hblocks : p.outer.length = Text.openAfter '{' '}' 0 (front ++ [c]))
    (hparens : p.parens = Text.openAfter '(' ')' 0 (front ++ [c]))
    (hlead : ∃ rest, front.reverse = p.lead ++ rest ∧
      ∀ c, rest.head? = some c → c = ';' ∨ c = '{' ∨ c = '}')
    (hc : c = ';' ∨ c = '{' ∨ c = '}') :
    (p.endStatement c isNested).IsBehind (front ++ [c]) := by
  obtain ⟨rest, hfront, hrest⟩ := hlead
  unfold Pass.endStatement
  split
  · exact ⟨hblocks, hparens, rest, by simp [hfront], hrest⟩
  · exact ⟨hblocks, hparens, c :: front.reverse, by simp, by simpa using hc⟩

theorem IsBehind.openBlock (h : p.IsBehind front) (hopened : p.openBlock = .ok q) :
    q.IsBehind (front ++ ['{']) := by
  obtain ⟨kind, -, hq⟩ := exists_of_bind_eq_ok hopened
  obtain rfl := Except.ok.inj hq
  refine .endStatement ?_ ?_ h.lead (.inr (.inl rfl))
  · simp [Text.openAfter_concat, h.blocks]
  · simpa [Text.openAfter_concat] using h.parens

theorem IsBehind.closeBlock (h : p.IsBehind front) : p.closeBlock.IsBehind (front ++ ['}']) := by
  have hblocks := h.blocks
  unfold Pass.closeBlock
  cases houter : p.outer
  all_goals
    refine .endStatement ?_ ?_ h.lead (.inr (.inr rfl))
    · simp [Text.openAfter_concat, ← hblocks, houter]
    · simpa [Text.openAfter_concat] using h.parens

theorem IsBehind.mark {c : Char} (h : p.IsBehind front) (hmark : p.mark c = .ok q) :
    q.IsBehind (front ++ [c]) := by
  unfold Pass.mark at hmark
  by_cases hopen : c = '{'
  · subst hopen
    exact h.openBlock hmark
  · by_cases hclose : c = '}'
    · subst hclose
      obtain rfl := Except.ok.inj hmark
      exact h.closeBlock
    · have hblocks : p.outer.length = Text.openAfter '{' '}' 0 (front ++ [c]) := by
        rw [Text.openAfter_concat, if_neg hopen, if_neg hclose, h.blocks]
      by_cases hend : c = ';'
      · subst hend
        obtain rfl := Except.ok.inj hmark
        refine .endStatement hblocks ?_ h.lead (.inl rfl)
        simpa [Text.openAfter_concat] using h.parens
      · obtain ⟨rest, hfront, hrest⟩ := h.lead
        simp only [if_neg hopen, if_neg hclose, if_neg hend] at hmark
        obtain rfl := Except.ok.inj hmark
        refine ⟨hblocks, ?_, rest, by simp [hfront], hrest⟩
        rw [Text.openAfter_concat, h.parens]

/-! ## Words -/

/-- A word has neither brackets nor ends of statements in it. -/
theorem IsBehind.append (h : p.IsBehind front) {word : Text}
    (hword : ∀ c ∈ word, isWordChar c = true) (hblocks : q.outer.length = p.outer.length)
    (hparens : q.parens = p.parens) (hlead : q.lead = word.reverse ++ p.lead) :
    q.IsBehind (front ++ word) := by
  have hplain : ∀ c ∈ word, (c ≠ '{' ∧ c ≠ '}') ∧ c ≠ '(' ∧ c ≠ ')' := by
    intro c hc
    have := hword c hc
    refine ⟨⟨?_, ?_⟩, ?_, ?_⟩
    all_goals
      rintro rfl
      revert this
      decide
  obtain ⟨rest, hfront, hrest⟩ := h.lead
  refine ⟨?_, ?_, rest, ?_, hrest⟩
  · rw [Text.openAfter_append, Text.openAfter_of_forall fun c hc => (hplain c hc).1, hblocks,
      h.blocks]
  · rw [Text.openAfter_append, Text.openAfter_of_forall fun c hc => (hplain c hc).2, hparens,
      h.parens]
  · rw [List.reverse_append, hfront, hlead, List.append_assoc]

/-- The pass learns of some names and patterns and stays where it is. -/
structure Adds (p q : Pass) (names : List Text) (patterns : List Destructuring) : Prop where
  outer : q.outer = p.outer
  parens : q.parens = p.parens
  lead : q.lead = p.lead
  known : q.known = names ++ p.known
  patterns : q.patterns = patterns ++ p.patterns

theorem adds_nothing (p : Pass) : p.Adds p [] [] := ⟨rfl, rfl, rfl, rfl, rfl⟩

theorem adds_learn (p : Pass) (name : Text) :
    p.Adds (p.learn name) (if p.isAtTopLevel then [name] else []) [] := by
  unfold learn
  split
  · exact ⟨rfl, rfl, rfl, rfl, rfl⟩
  · exact adds_nothing p

theorem adds_declare (p : Pass) (n : Nat) (name : Text) :
    p.Adds (p.declare n name) (if p.isAtTopLevel then [name] else []) [] := by
  unfold declare
  split
  · rename_i hnested
    have houter : p.isAtTopLevel = false := by
      simp only [isInParentheses, decide_eq_true_eq] at hnested
      simp only [isAtTopLevel, Bool.and_eq_false_iff, beq_eq_false_iff_ne]
      exact .inr (Nat.ne_of_gt (Nat.zero_lt_of_lt hnested))
    rw [houter]
    exact adds_nothing p
  · obtain ⟨houter, hparens, hlead, hknown, hpatterns⟩ := adds_learn p name
    dsimp only
    split
    · exact ⟨houter, hparens, hlead, hknown, hpatterns⟩
    · exact ⟨houter, hparens, hlead, hknown, hpatterns⟩

theorem adds_destructure (p : Pass) (n : Nat) (rest : Text) : p.Adds (p.destructure n rest)
    (if p.isAtTopLevel then (Destructuring.read? n rest).toList.flatMap (·.names) else [])
    (if p.isAtTopLevel then (Destructuring.read? n rest).toList else []) := by
  unfold destructure
  split
  · cases Destructuring.read? n rest with
    | none => exact adds_nothing p
    | some d => exact ⟨rfl, rfl, rfl, by simp, rfl⟩
  · exact adds_nothing p

/-- Outside of all blocks and parentheses, a word adds what it introduces. -/
theorem adds_meet (p : Pass) (m : Mention) (n : Nat) :
    p.Adds (p.meet (String.ofList m.word) n m.stop m.behind)
      (if p.isAtTopLevel then m.names else [])
      (if p.isAtTopLevel then m.pattern?.toList else []) := by
  unfold meet Mention.names Mention.pattern? Mention.nextName?
  generalize String.ofList m.word = word
  split
  · have hfound : p.Adds { p with found := p.awaitIssues n ++ p.found } [] [] :=
      ⟨rfl, rfl, rfl, rfl, rfl⟩
    simpa [nameWords, patternWords] using hfound
  · cases hnext : nextWord? m.stop m.behind with
    | some next => simpa [nameWords, patternWords] using adds_declare p next.1 next.2
    | none => simpa [nameWords, patternWords] using adds_destructure p m.stop m.behind
  · cases hnext : nextWord? m.stop m.behind with
    | some next => simpa [nameWords, patternWords] using adds_declare p next.1 next.2
    | none => simpa [nameWords, patternWords] using adds_destructure p m.stop m.behind
  · cases hnext : nextWord? m.stop m.behind with
    | some next => simpa [nameWords, patternWords] using adds_declare p next.1 next.2
    | none => simpa [nameWords, patternWords] using adds_nothing p
  · cases hnext : nextWord? m.stop m.behind with
    | some next => simpa [nameWords, patternWords] using adds_learn p next.2
    | none => simpa [nameWords, patternWords] using adds_destructure p m.stop m.behind
  · cases hnext : nextWord? m.stop m.behind with
    | some next => simpa [nameWords, patternWords] using adds_learn p next.2
    | none => simpa [nameWords, patternWords] using adds_nothing p
  · by_cases houter : p.isAtTopLevel = true
    · simpa [nameWords, patternWords, houter] using ⟨rfl, rfl, rfl, rfl, rfl⟩
    · simpa [nameWords, patternWords, houter] using adds_nothing p
  · rename_i hlet hconst hclass hvar hfunction himport
    have hname : word ∉ nameWords := by
      simpa [nameWords] using ⟨hlet, hconst, hvar, hclass, hfunction⟩
    have hpattern : word ∉ patternWords := by
      simpa [patternWords] using ⟨hlet, hconst, hvar⟩
    have hnot : ¬ word = "import" := himport
    simpa [hname, hpattern, hnot] using adds_nothing p

/-! ## The whole text -/

/-- From one to the other, the pass meets the words that satisfy `P`. -/
structure Meets (p q : Pass) (P : Mention → Prop) : Prop where
  known : ∀ name, name ∈ q.known ↔ name ∈ p.known ∨ ∃ m, P m ∧ m.Counts ∧ name ∈ m.names
  patterns : ∀ d, d ∈ q.patterns ↔ d ∈ p.patterns ∨ ∃ m, P m ∧ m.Counts ∧ m.pattern? = some d

namespace Meets

variable {r : Pass} {P Q : Mention → Prop}

theorem of_keeps (h : p.Keeps q) : p.Meets q fun _ => False :=
  ⟨by simp [h.known], by simp [h.patterns]⟩

theorem trans (h : p.Meets q P) (h' : q.Meets r Q) : p.Meets r fun m => P m ∨ Q m where
  known name := by
    simp only [h'.known, h.known, or_and_right, exists_or, or_assoc]
  patterns d := by
    simp only [h'.patterns, h.patterns, or_and_right, exists_or, or_assoc]

theorem congr (h : p.Meets q P) (hiff : ∀ m, P m ↔ Q m) : p.Meets q Q := by
  rwa [funext fun m => propext (hiff m)] at h

end Meets

theorem IsBehind.word (h : p.IsBehind m.front)
    (hword : ∀ c ∈ m.word, isWordChar c = true) :
    (p.word m.word m.front.size m.behind).IsBehind (m.front ++ m.word) ∧
      p.Meets (p.word m.word m.front.size m.behind) (· = m) := by
  have hadds := adds_meet p m m.front.size
  simp only [Mention.stop] at hadds
  unfold Pass.word
  cases hmember : p.isMember with
  | true =>
      have hcounts : ¬ m.Counts := by simp [Mention.Counts, ← h.isMember_eq, hmember]
      exact ⟨h.append hword rfl rfl rfl, by simp [hcounts], by simp [hcounts]⟩
  | false =>
      have hcounts : m.Counts ↔ p.isAtTopLevel = true := by
        simp [Mention.Counts, ← h.isMember_eq, hmember, h.isAtTopLevel_eq]
      refine ⟨h.append hword ?_ hadds.parens ?_, fun name => ?_, fun d => ?_⟩
      · exact congrArg List.length hadds.outer
      · exact congrArg (m.word.reverse ++ ·) hadds.lead
      · simp only [Bool.false_eq_true, ↓reduceIte, hadds.known, exists_eq_left, hcounts]
        split <;> simp [*, or_comm]
      · simp only [Bool.false_eq_true, ↓reduceIte, hadds.patterns, exists_eq_left, hcounts]
        split <;> simp [*, or_comm]

/-- From the end of a text on, the pass meets every word that is to come. -/
theorem IsBehind.run {n : Nat} {t : Text} (h : p.IsBehind front) (hn : n = front.size)
    (hrun : p.run n t = .ok q) : p.Meets q (·.IsFrom front t) := by
  -- By the recursion of the pass. What it has passed grows by a word or by a single character.
  induction p, n, t using Pass.run.induct generalizing front with
  | case1 p n =>
      rw [Pass.run] at hrun
      obtain rfl := Except.ok.inj hrun
      exact (Meets.of_keeps ⟨rfl, rfl, rfl⟩).congr fun m => by simp [Mention.not_isFrom_nil]
  | case2 p n c t hstarts word rest =>
      rename_i ih
      rw [Pass.run, ite_cond_eq_true _ _ (eq_true hstarts)] at hrun
      rw [h.startsWord_eq, Bool.and_eq_true, Bool.not_eq_true'] at hstarts
      have hword : ∀ d ∈ word, isWordChar d = true := by
        refine List.forall_mem_cons.mpr ⟨by simp [isWordChar, hstarts.1], fun d hd => ?_⟩
        exact List.all_eq_true.mp List.all_takeWhile d hd
      have hfirst : word.head?.any isWordStart = true := hstarts.1
      have ht : c :: t = word ++ rest := by
        rw [List.cons_append, List.takeWhile_append_dropWhile]
      obtain ⟨hbehind, hmeets⟩ := IsBehind.word (m := ⟨front, word, rest⟩) h hword
      subst hn
      refine (hmeets.trans (ih hbehind (by simp) hrun)).congr fun m => ?_
      rw [ht, Mention.isFrom_word hfirst hword hstarts.2 (Text.any_head?_dropWhile isWordChar t)]
  | case3 p n c t hstarts ih =>
      rw [Pass.run, ite_cond_eq_false _ _ (eq_false hstarts)] at hrun
      obtain ⟨next, hmark, hrest⟩ := exists_of_bind_eq_ok hrun
      rw [h.startsWord_eq, Bool.not_eq_true] at hstarts
      have hmeets := ih next (h.mark hmark) (by simp [hn]) hrest
      refine ((Meets.of_keeps (keeps_mark hmark)).trans hmeets).congr fun m => ?_
      rw [false_or, Mention.isFrom_skip hstarts]

theorem meets_run {source : Text} (hrun : Pass.run {} 0 source = .ok q) :
    ({} : Pass).Meets q (·.IsIn source) :=
  (isBehind_start.run rfl hrun).congr fun m => by simp [Mention.IsFrom]

end

end Pass

/-! ## Reports -/

/-- No other issue has the message of a pattern that takes its values from an unknown name. -/
theorem Issue.eq_undeclaredSource {i : Issue} {name : Text}
    (h : i.message = (undeclaredSource name).message) : i = undeclaredSource name := by
  have hlist := congrArg String.toList h
  unfold message at hlist
  cases i with
  | undeclaredSource other =>
      simp only [String.toList_append, String.toList_ofList] at hlist
      rw [List.append_cancel_left hlist]
  | _ => simp [String.toList_append] at hlist

/-- A pattern is reported to take its values from a name that nothing declares. -/
def ReportsUndeclared (ds : List Diagnostic) (name : Text) : Prop :=
  ∃ d ∈ ds, d.message = (Issue.undeclaredSource name).message

instance (ds : List Diagnostic) (name : Text) : Decidable (ReportsUndeclared ds name) :=
  inferInstanceAs (Decidable (∃ d ∈ ds, _))

/-- Reported are the names that are taken apart and that no word introduces. -/
theorem reportsUndeclared_iff {source : Text} {ds : List Diagnostic}
    (h : textIssues source = .ok ds) (name : Text) : ReportsUndeclared ds name ↔
      TakesApart source name ∧ isAmbient name = false ∧ ¬ Introduces source name := by
  obtain ⟨pass, first, hrun, rfl, hfirst⟩ := exists_of_textIssues h
  have hmeets := Pass.meets_run hrun
  have hknown : name ∈ pass.known ↔ Introduces source name := by
    rw [hmeets.known, Introduces]
    simp
  have hpatterns : (∃ d ∈ pass.patterns, d.source = name) ↔ TakesApart source name := by
    constructor
    · rintro ⟨d, hd, hsource⟩
      rcases (hmeets.patterns d).mp hd with hnone | ⟨m, hin, hcounts, hpattern⟩
      · cases hnone
      · exact ⟨m, hin, hcounts, d, hpattern, hsource⟩
    · rintro ⟨m, hin, hcounts, d, hpattern, hsource⟩
      exact ⟨d, (hmeets.patterns d).mpr (.inr ⟨m, hin, hcounts, hpattern⟩), hsource⟩
  rw [← hknown, ← hpatterns]
  constructor
  · rintro ⟨d, hd, hmessage⟩
    rcases List.mem_append.mp hd with hd | hd
    · obtain ⟨i, hi, hshown, -⟩ := hfirst d hd
      rw [Issue.eq_undeclaredSource (hshown.symm.trans hmessage)] at hi
      cases hi
    · obtain ⟨pattern, hpattern, rfl⟩ := List.mem_map.mp hd
      obtain ⟨hmem, hunknown⟩ := List.mem_filter.mp hpattern
      obtain rfl := Issue.undeclaredSource.inj (Issue.eq_undeclaredSource hmessage)
      simp at hunknown
      exact ⟨⟨pattern, by simpa using hmem, rfl⟩, hunknown.2, hunknown.1⟩
  · rintro ⟨⟨pattern, hmem, rfl⟩, hambient, hunknown⟩
    refine ⟨_, List.mem_append_right first (List.mem_map.mpr ⟨pattern, ?_, rfl⟩), rfl⟩
    exact List.mem_filter.mpr ⟨by simpa using hmem, by simp [hambient, hunknown]⟩

/-- No name of the program's own frame is reported if and only if the words of the bare text
introduce each of them that is taken apart. -/
theorem textIssues_spares_iff {source : Text} {ds : List Diagnostic}
    (h : textIssues source = .ok ds) (root : Node) :
    (∀ name, (root.walk source).scopes.Binds 0 name → ¬ ReportsUndeclared ds name) ↔
      ∀ name ∈ Action.namesOf .program (root.actions source), TakesApart source name →
        isAmbient name = true ∨ Introduces source name := by
  simp only [Node.walk, Walk.binds_start, reportsUndeclared_iff h]
  refine forall₂_congr fun name _ => ?_
  cases isAmbient name <;> simp

/-- A variable that is taken apart. -/
def onlyDeclarator : Text := "let a = \x7b\x7d;\nconst \x7b x \x7d = a;".toList

theorem textIssues_spares_onlyDeclarator :
    textIssues onlyDeclarator = .ok [] ∧
      ((∀ name, ((Node.ofSource onlyDeclarator).walk onlyDeclarator).scopes.Binds 0 name →
          ¬ ReportsUndeclared [] name) ↔
        ∀ name ∈ Action.namesOf .program ((Node.ofSource onlyDeclarator).actions onlyDeclarator),
          TakesApart onlyDeclarator name →
            isAmbient name = true ∨ Introduces onlyDeclarator name) := by
  have hissues : textIssues onlyDeclarator = .ok [] := by decide +kernel
  exact ⟨hissues, textIssues_spares_iff hissues _⟩

/-- A list of two variables, the second one of which is taken apart. -/
def secondDeclarator : Text :=
  "let a = \x7b\x7d, b = \x7b\x7d;\nconst \x7b x \x7d = b;".toList

/-- The second variable belongs to the program's own frame and is reported. -/
theorem reportsUndeclared_secondDeclarator :
    ∃ (root : Node) (ds : List Diagnostic), root.IsProgram secondDeclarator ∧
      textIssues secondDeclarator = .ok ds ∧
      (root.walk secondDeclarator).scopes.Binds 0 ['b'] ∧ ReportsUndeclared ds ['b'] := by
  have hread : ((Reading.tree? secondDeclarator).bind Node.ofTree?).any (!·.hasError) = true ∧
      textIssues secondDeclarator = .ok [(Issue.undeclaredSource ['b']).report 34 35] ∧
      ((Node.ofSource secondDeclarator).walk secondDeclarator).scopes.bound? 0 ['b'] ≠ none := by
    decide +kernel
  exact ⟨_, _, Node.isProgram_ofSource hread.1, hread.2.1, hread.2.2, by decide⟩

end PageLint.Script
