import PageLint.Proofs.Script.Comparisons
import PageLint.Proofs.Script.Headers

/-! # Programs of nested blocks

A program can be put together from declarations, waits and blocks. What the pass over its text
reports can be told from the program itself: the names that are declared twice in one block, and the
waits that no asynchronous function holds. White space of more than one byte hides the word behind
it, if it comes directly in front. -/

namespace PageLint.Script

/-! ## Programs -/

/-- Statements, with white space in front of each of them and behind the last. -/
inductive Program where
  | done (gap : Gap)
  | declare (gap : Gap) (isConst : Bool) (name : Identifier) (rest : Program)
  | await (gap : Gap) (name : Identifier) (rest : Program)
  | block (gap : Gap) (head : BlockHead) (body rest : Program)

/-- The nearest function around the block is asynchronous, or else `outer` tells whether one is. -/
def BlockHead.isAsync (outer : Bool) : BlockHead → Bool
  | plain | condition _ => outer
  | function isAsync _ => isAsync

def BlockHead.isCondition : BlockHead → Bool
  | condition _ => true
  | plain | function .. => false

/-- The word that a declaration begins with. -/
def declarationWord (isConst : Bool) : Text := if isConst then "const".toList else "let".toList

namespace Program

def render : Program → Text
  | done gap => gap.text
  | declare gap isConst name rest =>
    gap.text ++ (declarationWord isConst ++ (' ' :: (name.text ++ ';' :: rest.render)))
  | await gap name rest =>
    gap.text ++ ("await".toList ++ (' ' :: (name.text ++ ';' :: rest.render)))
  | block gap head body rest =>
    gap.text ++ (head.text ++ '{' :: (body.render ++ '}' :: rest.render))

/-- The reports about a program that starts at offset `n`, behind declarations of `names` in the
same block. -/
def reports (isAsync : Bool) (names : List Text) (n : Nat) : Program → List Diagnostic
  | done _ => []
  | declare gap isConst name rest =>
    let start := n + gap.text.size + (declarationWord isConst).size + 1
    let stop := start + name.text.size
    (if names.contains name.text then [(Issue.redeclared name.text).report start stop] else []) ++
      rest.reports isAsync (names.insert name.text) (stop + 1)
  | await gap name rest =>
    let start := n + gap.text.size
    (if isAsync then [] else [Issue.strayAwait.report start (start + 5)]) ++
      rest.reports isAsync names (start + 5 + 1 + name.text.size + 1)
  | block gap head body rest =>
    let inside := n + gap.text.size + head.text.size + 1
    body.reports (head.isAsync isAsync) [] inside ++
      rest.reports isAsync names (inside + body.render.size + 1)

/-- The words that count are told from the white space in front of them. -/
def IsSeparated : Program → Prop
  | done _ => True
  | declare gap _ _ rest => gap.EndsPlainly ∧ rest.IsSeparated
  | await gap _ rest => gap.EndsPlainly ∧ rest.IsSeparated
  | block gap head body rest =>
    (head.isCondition → gap.EndsPlainly) ∧ body.IsSeparated ∧ rest.IsSeparated

end Program

/-! ## The way of the pass -/

namespace Pass

/-- From `p` at offset `n`, the pass comes to `q` behind `t`, in front of `rest`. -/
def Leads (p : Pass) (n : Nat) (t rest : Text) (q : Pass) : Prop :=
  p.run n (t ++ rest) = q.run (n + t.size) rest

/-- The pass takes note of nothing in `t`, except for names that are declared. -/
def Skips (p : Pass) (n : Nat) (t rest : Text) : Prop :=
  ∃ known, p.Leads n t rest { p with lead := t.reverse ++ p.lead, known }

section

variable {p q r : Pass} {n : Nat} {t u rest : Text} {c : Char}

theorem Leads.trans (h : p.Leads n t (u ++ rest) q) (h' : q.Leads (n + t.size) u rest r) :
    p.Leads n (t ++ u) rest r := by
  rw [Leads, List.append_assoc, h, h', Text.size_append, Nat.add_assoc]

theorem Skips.append (h : p.Skips n t (u ++ rest))
    (h' : ∀ known, { p with lead := t.reverse ++ p.lead, known }.Skips (n + t.size) u rest) :
    p.Skips n (t ++ u) rest := by
  obtain ⟨known, hlead⟩ := h
  obtain ⟨known', hlead'⟩ := h' known
  have hboth := hlead.trans hlead'
  rw [← List.append_assoc, ← List.reverse_append] at hboth
  exact ⟨known', hboth⟩

theorem skips_nil (p : Pass) (n : Nat) (rest : Text) : p.Skips n [] rest := ⟨p.known, rfl⟩

/-! ### Characters -/

theorem leads_mark (hstart : p.startsWord c = false) (hmark : p.mark c = .ok q) (n : Nat)
    (rest : Text) : p.Leads n [c] rest q := by
  rw [Leads, List.singleton_append, run, hstart, hmark]
  rfl

/-- Brackets and semicolons apart, a character that begins no word only adds to the lead. -/
theorem skips_char (hstart : p.startsWord c = false)
    (hc : c ≠ '{' ∧ c ≠ '}' ∧ c ≠ ';' ∧ c ≠ '(' ∧ c ≠ ')') (n : Nat) (rest : Text) :
    p.Skips n [c] rest := by
  obtain ⟨hopen, hclose, hend, hleft, hright⟩ := hc
  refine ⟨p.known, leads_mark hstart ?_ n rest⟩
  rw [mark, if_neg hopen, if_neg hclose, if_neg hend, if_neg hleft, if_neg hright]
  rfl

theorem startsWord_eq_false (h : isWordStart c = false) : p.startsWord c = false := by
  rw [startsWord, h, Bool.false_and]

theorem skips_space (p : Pass) (n : Nat) (rest : Text) : p.Skips n [' '] rest :=
  skips_char (startsWord_eq_false (by decide)) (by decide) n rest

theorem isWordStart_of_isBlank (h : Text.isBlank c) : isWordStart c = false := by
  rw [← Bool.not_eq_true]
  intro hstart
  have hblank := of_isIdentifierChar (P := fun c => Text.isBlank c = false) (by decide)
    (Bool.or_eq_true_iff.mpr (.inl hstart))
  rw [h] at hblank
  cases hblank

theorem skips_gap (p : Pass) (gap : Gap) (n : Nat) (rest : Text) : p.Skips n gap.text rest := by
  obtain ⟨gap, hgap⟩ := gap
  induction gap generalizing p n with
  | nil => exact skips_nil p n rest
  | cons c gap ih =>
      rw [List.all_cons, Bool.and_eq_true] at hgap
      have hne : ∀ d, Text.isBlank d = false → c ≠ d := by
        rintro d hd rfl
        cases hd.symm.trans hgap.1
      have hchar : p.Skips n [c] (gap ++ rest) :=
        skips_char (startsWord_eq_false (isWordStart_of_isBlank hgap.1))
          ⟨hne _ (by decide), hne _ (by decide), hne _ (by decide), hne _ (by decide),
            hne _ (by decide)⟩ n _
      exact hchar.append fun known => ih _ _ hgap.2

/-! ### Words -/

/-- Inside of a word, no other one begins. -/
theorem skips_inside (hlast : p.lead.head?.any isWordChar = true)
    (hword : ∀ c ∈ t, isWordChar c = true) (n : Nat) (rest : Text) : p.Skips n t rest := by
  induction t generalizing p n with
  | nil => exact skips_nil p n rest
  | cons c t ih =>
      obtain ⟨hc, ht⟩ := List.forall_mem_cons.mp hword
      have hstart : p.startsWord c = false := by rw [startsWord, hlast, Bool.not_true, Bool.and_false]
      have hplain : c ≠ '{' ∧ c ≠ '}' ∧ c ≠ ';' ∧ c ≠ '(' ∧ c ≠ ')' := by
        refine ⟨?_, ?_, ?_, ?_, ?_⟩
        all_goals
          rintro rfl
          revert hc
          decide
      have hchar : p.Skips n [c] (t ++ rest) := skips_char hstart hplain n _
      exact hchar.append fun known =>
        ih (p := { p with lead := [c].reverse ++ p.lead, known }) hc ht _

theorem not_isMember (h : '.' ∉ p.lead) : p.isMember = false := by
  rw [isMember, decide_eq_false_iff_not]
  intro hhead
  have hmem := List.mem_of_mem_head? hhead
  exact h ((List.dropWhile_suffix isBlank).subset hmem)

/-- Where a word begins, the pass takes all of it. -/
theorem leads_word (hstart : p.startsWord c = true) (ht : ∀ d ∈ t, isWordChar d = true)
    (hrest : rest.head?.any isWordChar = false) (n : Nat) :
    p.Leads n (c :: t) rest (p.word (c :: t) n rest) := by
  obtain ⟨htake, hdrop⟩ := Text.span_append ht hrest
  rw [Leads, List.cons_append, run, if_pos hstart, htake, hdrop]

theorem exists_meet_eq {word : String} (h : word ∉ loudWords) (n stop : Nat) (rest : Text) :
    ∃ known, p.meet word n stop rest = { p with known } := by
  unfold meet
  split
  · simp [loudWords] at h
  · simp [loudWords] at h
  · simp [loudWords] at h
  · simp [loudWords] at h
  · simp [loudWords] at h
  · split
    · unfold learn
      split
      · exact ⟨_, rfl⟩
      · exact ⟨p.known, rfl⟩
    · exact ⟨p.known, rfl⟩
  · split
    · exact ⟨_, rfl⟩
    · exact ⟨p.known, rfl⟩
  · exact ⟨p.known, rfl⟩

/-- A word without meaning is passed over, whether it is taken for a word or not. -/
theorem skips_word (hc : isWordStart c = true) (ht : ∀ d ∈ t, isWordChar d = true)
    (hrest : rest.head?.any isWordChar = false) (h : String.ofList (c :: t) ∉ loudWords) (n : Nat) :
    p.Skips n (c :: t) rest := by
  have hall : ∀ d ∈ c :: t, isWordChar d = true :=
    List.forall_mem_cons.mpr ⟨by simp [isWordChar, hc], ht⟩
  cases hinside : p.lead.head?.any isWordChar with
  | true => exact skips_inside hinside hall n rest
  | false =>
      have hstart : p.startsWord c = true := by rw [startsWord, hc, hinside]; rfl
      obtain ⟨known, hmeet⟩ := exists_meet_eq (p := p) h n (n + Text.size (c :: t)) rest
      have hword : ∃ known, p.word (c :: t) n rest =
          { p with lead := (c :: t).reverse ++ p.lead, known } := by
        unfold word
        cases p.isMember with
        | true => exact ⟨p.known, rfl⟩
        | false => exact ⟨known, by rw [hmeet]; rfl⟩
      obtain ⟨known, hword⟩ := hword
      exact ⟨known, hword ▸ leads_word hstart ht hrest n⟩

/-! ### Names and heads -/

theorem skips_name (name : Identifier) (hrest : rest.head?.any isWordChar = false) (n : Nat) :
    p.Skips n name.text rest :=
  skips_word name.first_start
    (fun _ hd => @Identifier.isWordChar_of_mem name _ (List.mem_cons_of_mem _ hd)) hrest
    name.ofList_not_mem n

theorem skips_parentheses {args : Text}
    (h : { p with parens := p.parens + 1, lead := '(' :: p.lead }.Skips (n + 1) args
      (')' :: rest)) : p.Skips n ('(' :: (args ++ [')'])) rest := by
  obtain ⟨known, hargs⟩ := h
  have hopen : p.Leads n ['('] ((args ++ [')']) ++ rest)
      { p with parens := p.parens + 1, lead := '(' :: p.lead } :=
    leads_mark (startsWord_eq_false (by decide)) rfl n _
  have hclose : Leads { p with parens := p.parens + 1, lead := args.reverse ++ '(' :: p.lead, known }
      (n + 1 + Text.size args) [')'] rest
      { p with parens := p.parens + 1 - 1, lead := ')' :: (args.reverse ++ '(' :: p.lead), known } :=
    leads_mark (startsWord_eq_false (by decide)) rfl _ rest
  have hall := hopen.trans (hargs.trans hclose)
  refine ⟨known, ?_⟩
  have hlead : ('(' :: (args ++ [')'])).reverse ++ p.lead =
      ')' :: (args.reverse ++ '(' :: p.lead) := by simp
  rw [hlead]
  exact hall

theorem skips_head (head : BlockHead) (n : Nat) (rest : Text) : p.Skips n head.text rest := by
  cases head with
  | plain => exact skips_nil p n rest
  | condition c =>
      have htext : (BlockHead.condition c).text =
          "if".toList ++ ([' '] ++ ('(' :: (c.text ++ [')']) ++ [' '])) := by
        simp [BlockHead.text]
      rw [htext]
      refine Skips.append (skips_word (by decide) (List.all_eq_true.mp rfl) rfl (by decide) n)
        fun _ => ?_
      refine Skips.append (skips_space _ _ _) fun _ => ?_
      exact Skips.append (skips_parentheses (skips_name c rfl _)) fun _ => skips_space _ _ _
  | function isAsync name =>
      have hfunction : ∀ (q : Pass) (m : Nat), q.Skips m
          ("function".toList ++ ([' '] ++ (name.text ++ ('(' :: ([] ++ [')']) ++ [' '])))) rest := by
        intro q m
        refine Skips.append (skips_word (by decide) (List.all_eq_true.mp rfl) rfl (by decide) m)
          fun _ => ?_
        refine Skips.append (skips_space _ _ _) fun _ => ?_
        refine Skips.append (skips_name name rfl _) fun _ => ?_
        exact Skips.append (skips_parentheses (skips_nil _ _ _)) fun _ => skips_space _ _ _
      cases isAsync with
      | false =>
          have htext : (BlockHead.function false name).text =
              "function".toList ++ ([' '] ++ (name.text ++ ('(' :: ([] ++ [')']) ++ [' ']))) := by
            simp [BlockHead.text]
          rw [htext]
          exact hfunction p n
      | true =>
          have htext : (BlockHead.function true name).text = "async".toList ++ ([' '] ++
              ("function".toList ++ ([' '] ++ (name.text ++ ('(' :: ([] ++ [')']) ++ [' ']))))) := by
            simp [BlockHead.text]
          rw [htext]
          refine Skips.append (skips_word (by decide) (List.all_eq_true.mp rfl) rfl (by decide) n)
            fun _ => ?_
          exact Skips.append (skips_space _ _ _) fun _ => hfunction _ _

/-! ### Statements -/

theorem not_isInParentheses (h : p.parens = p.block.parens) : p.isInParentheses = false := by
  rw [isInParentheses, h, decide_eq_false (Nat.lt_irrefl _)]

theorem leads_semicolon (h : p.parens = p.block.parens) (n : Nat) (rest : Text) :
    p.Leads n [';'] rest { p with lead := [] } := by
  refine leads_mark (startsWord_eq_false (by decide)) ?_ n rest
  have hmark : p.mark ';' = .ok (p.endStatement ';' p.isInParentheses) := rfl
  rw [hmark, not_isInParentheses h]
  rfl

/-- What stands behind the word of a statement. -/
theorem leads_name (h : p.parens = p.block.parens) (name : Identifier) (n : Nat) (rest : Text) :
    ∃ known, p.Leads n (' ' :: (name.text ++ [';'])) rest { p with lead := [], known } := by
  have hname : p.Skips n ([' '] ++ name.text) ([';'] ++ rest) :=
    (skips_space p n _).append fun _ => skips_name name rfl _
  obtain ⟨known, hname⟩ := hname
  exact ⟨known, hname.trans (leads_semicolon (by exact h) _ rest)⟩

theorem declare_eq (h : p.isInParentheses = false) (n : Nat) (name : Text) :
    ∃ known, p.declare n name = { p with
      known
      block := { p.block with names := p.block.names.insert name }
      found := (if p.block.names.contains name then
        [(Issue.redeclared name).report n (n + name.size)] else []) ++ p.found } := by
  have hlearn : ∃ known, p.learn name = { p with known } := by
    unfold learn
    split
    · exact ⟨_, rfl⟩
    · exact ⟨p.known, rfl⟩
  obtain ⟨known, hlearn⟩ := hlearn
  refine ⟨known, ?_⟩
  rw [declare, h, hlearn]
  cases hnames : p.block.names.contains name with
  | true =>
      have hmem : name ∈ p.block.names := List.contains_iff_mem.mp hnames
      simp [hmem]
  | false =>
      have hmem : name ∉ p.block.names := by
        rw [← List.contains_iff_mem, hnames]
        exact Bool.false_ne_true
      simp [hmem]

theorem nextWord?_name (name : Identifier) (hrest : rest.head?.any isWordChar = false) (n : Nat) :
    nextWord? n (' ' :: (name.text ++ rest)) = some (n + 1, name.text) := by
  have hfirst : (isBlank name.first || name.first = '*') = false :=
    of_isIdentifierChar (P := fun c => (isBlank c || c = '*') = false) (by decide)
      (@Identifier.isIdentifierChar_of_mem name _ List.mem_cons_self)
  have hskipped : (' ' :: (name.text ++ rest)).takeWhile (fun c => isBlank c || c = '*') = [' '] := by
    rw [Identifier.text, List.takeWhile_cons_of_pos (by decide), List.cons_append,
      List.takeWhile_cons_of_neg (by rw [hfirst]; decide)]
  have hname : (name.text ++ rest).takeWhile isWordChar = name.text :=
    (Text.span_append (fun c hc => Identifier.isWordChar_of_mem hc) hrest).1
  have hstart : (name.text ++ rest).head?.any isWordStart = true := name.first_start
  have hdrop : (' ' :: (name.text ++ rest)).drop (Text.size [' ']) = name.text ++ rest := rfl
  rw [nextWord?, hskipped]
  change (if (!List.isEmpty [' '] && (name.text ++ rest).head?.any isWordStart) = true then
    some (n + Text.size [' '], (name.text ++ rest).takeWhile isWordChar) else none) = _
  rw [hstart, hname]
  rfl

/-- Behind white space that ends with a single byte, a word is told from what is in front. -/
theorem leads_gap {gap : Gap} (hgap : gap.EndsPlainly) (hlead : p.lead = [])
    (hc : isWordStart c = true) (ht : ∀ d ∈ t, isWordChar d = true)
    (hrest : rest.head?.any isWordChar = false) (n : Nat) :
    ∃ known q, q = meet { p with lead := gap.text.reverse, known } (String.ofList (c :: t))
        (n + gap.text.size) (n + gap.text.size + Text.size (c :: t)) rest ∧
      p.Leads n (gap.text ++ c :: t) rest { q with lead := (c :: t).reverse ++ q.lead } := by
  obtain ⟨known, hskip⟩ := skips_gap p gap n ((c :: t) ++ rest)
  rw [hlead, List.append_nil] at hskip
  have hlast : (gap.text.reverse.head?.any isWordChar) = false := by
    rw [List.head?_reverse]
    cases hlast : gap.text.getLast? with
    | none => rfl
    | some d =>
        exact Text.forall_ascii (P := fun d => Text.isBlank d → isWordChar d = false) (by decide)
          (hgap d hlast) (Gap.isBlank_of_getLast? hlast)
  have hstart : startsWord { p with lead := gap.text.reverse, known } c = true := by
    rw [startsWord, hc, hlast]
    rfl
  have hmember : isMember { p with lead := gap.text.reverse, known } = false :=
    not_isMember fun hmem => Gap.ne_of_mem (List.mem_reverse.mp hmem) (by decide) rfl
  refine ⟨known, _, rfl, hskip.trans ?_⟩
  have hword := leads_word hstart ht hrest (n + gap.text.size)
  rw [word, hmember] at hword
  exact hword

/-- A statement of a word and a name does what the word means, and ends. -/
theorem leads_statement {gap : Gap} (hgap : gap.EndsPlainly) (hlead : p.lead = [])
    (hc : isWordStart c = true) (ht : ∀ d ∈ t, isWordChar d = true) (name : Identifier) (n : Nat)
    (rest : Text) :
    ∃ known q, q = meet { p with lead := gap.text.reverse, known } (String.ofList (c :: t))
        (n + gap.text.size) (n + gap.text.size + Text.size (c :: t))
        (' ' :: (name.text ++ ';' :: rest)) ∧
      (q.parens = q.block.parens → ∃ known,
        p.Leads n (gap.text ++ c :: t ++ ' ' :: (name.text ++ [';'])) rest
          { q with lead := [], known }) := by
  have hsplit : ' ' :: (name.text ++ [';']) ++ rest = ' ' :: (name.text ++ ';' :: rest) := by simp
  have hspace : (' ' :: (name.text ++ ';' :: rest)).head?.any isWordChar = false := rfl
  obtain ⟨known, q, hq, hword⟩ := leads_gap hgap hlead hc ht hspace n
  refine ⟨known, q, hq, fun hparens => ?_⟩
  obtain ⟨known', hname⟩ :=
    leads_name (p := { q with lead := (c :: t).reverse ++ q.lead }) hparens name
      (n + Text.size (gap.text ++ c :: t)) rest
  rw [← hsplit] at hword
  exact ⟨known', hword.trans hname⟩

theorem exists_declarationWord_eq (isConst : Bool) : ∃ c t, declarationWord isConst = c :: t ∧
    isWordStart c = true ∧ ∀ d ∈ t, isWordChar d = true := by
  cases isConst
  · exact ⟨'l', ['e', 't'], rfl, by decide, List.all_eq_true.mp rfl⟩
  · exact ⟨'c', ['o', 'n', 's', 't'], rfl, by decide, List.all_eq_true.mp rfl⟩

theorem meet_declarationWord (p : Pass) (isConst : Bool) (name : Identifier)
    (hrest : rest.head?.any isWordChar = false) (n stop : Nat) :
    p.meet (String.ofList (declarationWord isConst)) n stop (' ' :: (name.text ++ rest)) =
      p.declare (stop + 1) name.text := by
  have hnext := nextWord?_name name hrest stop
  cases isConst <;> simp [meet, declarationWord, hnext]

theorem leads_declare (gap : Gap) (isConst : Bool) (name : Identifier) (hgap : gap.EndsPlainly)
    (hparens : p.parens = p.block.parens) (hlead : p.lead = []) (n : Nat) (rest : Text) :
    let start := n + gap.text.size + (declarationWord isConst).size + 1
    ∃ known, p.Leads n (gap.text ++ declarationWord isConst ++ ' ' :: (name.text ++ [';'])) rest
      { p with
        lead := []
        known
        block := { p.block with names := p.block.names.insert name.text }
        found := (if p.block.names.contains name.text then
          [(Issue.redeclared name.text).report start (start + name.text.size)] else []) ++
            p.found } := by
  intro start
  obtain ⟨c, t, hword, hc, ht⟩ := exists_declarationWord_eq isConst
  obtain ⟨known, q, hq, hleads⟩ := leads_statement hgap hlead hc ht name n rest
  rw [← hword, meet_declarationWord _ _ _ rfl] at hq
  have houter : isInParentheses { p with lead := gap.text.reverse, known } = false :=
    not_isInParentheses hparens
  obtain ⟨known', hdeclare⟩ := declare_eq houter start name.text
  rw [hdeclare] at hq
  subst hq
  rw [hword]
  exact hleads hparens

/-- White space holds no arrow. -/
theorem not_matches_asyncArrow (gap : Gap) : Header.Matches Header.asyncArrow gap.text = false := by
  rw [Header.not_matches_iff]
  intro front c u heq
  have hmem : c ∈ gap.text := by simp [heq]
  have hc : 'a' ≠ c := (Gap.ne_of_mem hmem (by decide)).symm
  have hnone : Header.dropAsyncArrow? (c :: u) = none := by
    simp [Header.dropAsyncArrow?, Text.dropWord?, hc]
  simp only [Header.asyncArrow, hnone, Option.bind_eq_bind, Option.bind_none]
  split <;> rfl

theorem leads_await (gap : Gap) (name : Identifier) (hgap : gap.EndsPlainly)
    (hparens : p.parens = p.block.parens) (hlead : p.lead = []) (n : Nat) (rest : Text) :
    let start := n + gap.text.size
    ∃ known, p.Leads n (gap.text ++ "await".toList ++ ' ' :: (name.text ++ [';'])) rest
      { p with
        lead := []
        known
        found := (if p.isAsync? = some true then []
          else [Issue.strayAwait.report start (start + 5)]) ++ p.found } := by
  intro start
  obtain ⟨known, q, hq, hleads⟩ :=
    leads_statement (c := 'a') (t := ['w', 'a', 'i', 't']) hgap hlead (by decide)
      (List.all_eq_true.mp rfl) name n rest
  have hmeet : q = { p with
      lead := gap.text.reverse
      known
      found := awaitIssues { p with lead := gap.text.reverse, known } start ++ p.found } := hq
  have hissues : awaitIssues { p with lead := gap.text.reverse, known } start =
      if p.isAsync? = some true then [] else [Issue.strayAwait.report start (start + 5)] := by
    have hasync : isAsync? { p with lead := gap.text.reverse, known } = p.isAsync? := rfl
    rw [awaitIssues, hasync, List.reverse_reverse, not_matches_asyncArrow, Bool.or_false]
    simp
  rw [hissues] at hmeet
  subst hmeet
  exact hleads hparens

theorem leads_open (gap : Gap) (head : BlockHead) (hgap : head.isCondition → gap.EndsPlainly)
    (hparens : p.parens = p.block.parens) (hlead : p.lead = []) (n : Nat) (rest : Text) :
    ∃ known, p.Leads n (gap.text ++ head.text ++ ['{']) rest
      { p with
        block := ⟨head.kind, p.parens, []⟩
        outer := p.block :: p.outer
        lead := []
        known } := by
  obtain ⟨known, hskip⟩ := (skips_gap p gap n (head.text ++ (['{'] ++ rest))).append fun _ =>
    skips_head head _ _
  rw [hlead, List.append_nil] at hskip
  have hkind : Header.kind (gap.text ++ head.text) = .ok head.kind :=
    Header.kind_head fun c hc => hgap (by rw [hc]; rfl)
  have houter : isInParentheses { p with lead := (gap.text ++ head.text).reverse, known } = false :=
    not_isInParentheses hparens
  refine ⟨known, hskip.trans (leads_mark (startsWord_eq_false (by decide)) ?_ _ rest)⟩
  have hmark : ∀ q : Pass, q.mark '{' = q.openBlock := fun _ => rfl
  rw [hmark, openBlock, List.reverse_reverse, hkind, houter]
  rfl

/-- At its end, the pass leaves a block for the one around it. -/
theorem Leads.close {b : Block} {outer : List Block} (h : p.Leads n t ('}' :: rest) q)
    (houter : q.outer = b :: outer) (hparens : q.parens = b.parens) :
    p.Leads n (t ++ ['}']) rest { q with block := b, outer, lead := [] } := by
  have hinside : isInParentheses { q with block := b, outer } = false := not_isInParentheses hparens
  refine h.trans (leads_mark (startsWord_eq_false (by decide)) ?_ _ rest)
  have hmark : q.mark '}' = .ok q.closeBlock := rfl
  rw [hmark, closeBlock, houter]
  dsimp only
  rw [hinside]
  rfl

end

end Pass

/-! ## The whole program -/

/-- A block is asynchronous if it is an asynchronous function or none in an asynchronous block. -/
theorem BlockHead.isAsync?_eq (head : BlockHead) (p : Pass) (lead : Text) (known : List Text) :
    decide (Pass.isAsync? { p with
        block := ⟨head.kind, p.parens, []⟩, outer := p.block :: p.outer, lead, known } =
          some true) = head.isAsync (p.isAsync? = some true) := by
  cases head with
  | plain => rfl
  | condition c => rfl
  | function isAsync name => cases isAsync <;> rfl

namespace Program

/-- The pass reads a program that stands at the beginning of a statement, finds what there is to
report, and comes to the end of the program in the block where it began. -/
def IsRead (program : Program) : Prop :=
  ∀ p : Pass, p.parens = p.block.parens → p.lead = [] → ∀ n rest, ∃ names known lead,
    p.Leads n program.render rest
      { p with
        block := { p.block with names }
        known
        lead
        found := (program.reports (p.isAsync? = some true) p.block.names n).reverse ++ p.found }

section

variable {p q : Pass} {n : Nat} {t rest : Text} {gap : Gap} {name : Identifier} {more body : Program}

/-- What is found behind a statement is found on top of what was found in it. -/
theorem IsRead.behind (hmore : more.IsRead) (h : p.Leads n t (more.render ++ rest) q)
    (hparens : q.parens = q.block.parens) (hlead : q.lead = []) : ∃ names known lead,
      p.Leads n (t ++ more.render) rest
        { q with
          block := { q.block with names }
          known
          lead
          found := (more.reports (q.isAsync? = some true) q.block.names (n + t.size)).reverse ++
            q.found } := by
  obtain ⟨names, known, lead, hrest⟩ := hmore q hparens hlead (n + t.size) rest
  exact ⟨names, known, lead, h.trans hrest⟩

theorem isRead_done (gap : Gap) : (done gap).IsRead := by
  intro p hparens hlead n rest
  obtain ⟨known, hgap⟩ := Pass.skips_gap p gap n rest
  exact ⟨_, known, _, hgap⟩

theorem isRead_declare (hgap : gap.EndsPlainly) (isConst : Bool) (hmore : more.IsRead) :
    (declare gap isConst name more).IsRead := by
  intro p hparens hlead n rest
  obtain ⟨known, hdeclare⟩ := Pass.leads_declare gap isConst name hgap hparens hlead n
    (more.render ++ rest)
  obtain ⟨names, known', lead, hall⟩ := hmore.behind hdeclare hparens rfl
  have htext : gap.text ++ declarationWord isConst ++ ' ' :: (name.text ++ [';']) ++ more.render =
      (declare gap isConst name more).render := by simp [render]
  have hsize : n + Text.size
      (gap.text ++ declarationWord isConst ++ ' ' :: (name.text ++ [';'])) =
        n + gap.text.size + (declarationWord isConst).size + 1 + name.text.size + 1 := by
    have hspace : ' '.utf8Size = 1 := rfl
    have hend : ';'.utf8Size = 1 := rfl
    simp only [Text.size_append, Text.size_cons, Text.size_nil, hspace, hend]
    omega
  rw [htext, hsize] at hall
  refine ⟨names, known', lead, ?_⟩
  rw [reports, List.reverse_append, List.append_assoc, apply_ite List.reverse]
  exact hall

theorem isRead_await (hgap : gap.EndsPlainly) (hmore : more.IsRead) :
    (await gap name more).IsRead := by
  intro p hparens hlead n rest
  obtain ⟨known, hawait⟩ := Pass.leads_await gap name hgap hparens hlead n (more.render ++ rest)
  obtain ⟨names, known', lead, hall⟩ := hmore.behind hawait hparens rfl
  have htext : gap.text ++ "await".toList ++ ' ' :: (name.text ++ [';']) ++ more.render =
      (await gap name more).render := by simp [render]
  have hsize : n + Text.size (gap.text ++ "await".toList ++ ' ' :: (name.text ++ [';'])) =
      n + gap.text.size + 5 + 1 + name.text.size + 1 := by
    have hword : Text.size "await".toList = 5 := rfl
    have hspace : ' '.utf8Size = 1 := rfl
    have hend : ';'.utf8Size = 1 := rfl
    simp only [Text.size_append, Text.size_cons, Text.size_nil, hword, hspace, hend]
    omega
  rw [htext, hsize] at hall
  refine ⟨names, known', lead, ?_⟩
  rw [reports, List.reverse_append, List.append_assoc, apply_ite List.reverse]
  simp only [decide_eq_true_eq]
  exact hall

theorem isRead_block {head : BlockHead} (hgap : head.isCondition → gap.EndsPlainly)
    (hbody : body.IsRead) (hmore : more.IsRead) : (block gap head body more).IsRead := by
  intro p hparens hlead n rest
  obtain ⟨known, hopen⟩ := Pass.leads_open gap head hgap hparens hlead n
    (body.render ++ ('}' :: (more.render ++ rest)))
  obtain ⟨names, known', lead, hinside⟩ := hbody.behind hopen rfl rfl
  obtain ⟨names', known'', lead', hall⟩ := hmore.behind (hinside.close rfl hparens) hparens rfl
  have htext : gap.text ++ head.text ++ ['{'] ++ body.render ++ ['}'] ++ more.render =
      (block gap head body more).render := by simp [render]
  have hinner : n + Text.size (gap.text ++ head.text ++ ['{']) =
      n + gap.text.size + head.text.size + 1 := by
    have hbrace : '{'.utf8Size = 1 := rfl
    simp only [Text.size_append, Text.size_cons, Text.size_nil, hbrace]
    omega
  have houter : n + Text.size (gap.text ++ head.text ++ ['{'] ++ body.render ++ ['}']) =
      n + gap.text.size + head.text.size + 1 + body.render.size + 1 := by
    have hopened : '{'.utf8Size = 1 := rfl
    have hclosed : '}'.utf8Size = 1 := rfl
    simp only [Text.size_append, Text.size_cons, Text.size_nil, hopened, hclosed]
    omega
  rw [htext, hinner, houter] at hall
  simp only [head.isAsync?_eq] at hall
  refine ⟨names', known'', lead', ?_⟩
  rw [reports, List.reverse_append, List.append_assoc]
  exact hall

end

/-- The pass reads every program in which the words that count are told. -/
theorem isRead (program : Program) (h : program.IsSeparated) : program.IsRead := by
  induction program with
  | done gap => exact isRead_done gap
  | declare gap isConst name more ih => exact isRead_declare h.1 isConst (ih h.2)
  | await gap name more ih => exact isRead_await h.1 (ih h.2)
  | block gap head body more ihbody ih => exact isRead_block h.1 (ihbody h.2.1) (ih h.2.2)

end Program

/-! ## Operators -/

theorem Gap.not_mem_text (gap : Gap) : '=' ∉ gap.text := fun h => Gap.ne_of_mem h (by decide) rfl

theorem Identifier.not_mem_text (name : Identifier) : '=' ∉ name.text := fun h =>
  of_isIdentifierChar (P := fun c => c ≠ '=') (by decide) (isIdentifierChar_of_mem h) rfl

theorem BlockHead.not_mem_text (head : BlockHead) : '=' ∉ head.text := by
  cases head with
  | plain => simp [text]
  | condition c => simp [text, c.not_mem_text]
  | function isAsync f => cases isAsync <;> simp [text, f.not_mem_text]

/-- Programs hold no operators. -/
theorem Program.not_mem_render (program : Program) : '=' ∉ program.render := by
  induction program with
  | done gap => exact gap.not_mem_text
  | declare gap isConst name more ih =>
      cases isConst <;> simp [render, declarationWord, gap.not_mem_text, name.not_mem_text, ih]
  | await gap name more ih => simp [render, gap.not_mem_text, name.not_mem_text, ih]
  | block gap head body more ihbody ih =>
      simp [render, gap.not_mem_text, head.not_mem_text, ihbody, ih]

theorem equalityIssues_of_not_mem {t : Text} (h : '=' ∉ t) : equalityIssues t = [] := by
  have hnone : Text.matchesOf equality t = [] := by
    refine Text.matchesFrom_eq_nil_iff.mpr fun front c u heq => ?_
    refine Comparison.equality_of_forall_ne fun o behind hsplit => h ?_
    rw [heq, hsplit]
    simp [Comparison.text]
  rw [equalityIssues, hnone]
  rfl

/-! ## Reports -/

/-- Reported are the names that a declaration in the same block declares already, and the waits
whose nearest function is not asynchronous, if there is one at all, in the order of the text. -/
theorem textIssues_program {program : Program} (h : program.IsSeparated) :
    textIssues program.render = .ok (program.reports false [] 0) := by
  obtain ⟨names, known, lead, hleads⟩ := program.isRead h {} rfl rfl 0 []
  rw [Pass.Leads, List.append_nil, Pass.run] at hleads
  have hasync : decide (({} : Pass).isAsync? = some true) = false := rfl
  rw [textIssues, hleads, equalityIssues_of_not_mem program.not_mem_render, hasync]
  simp [bind, Except.bind, pure, Except.pure, Pass.undeclaredIssues]

def Gap.none : Gap := ⟨[], rfl⟩

def Gap.space : Gap := ⟨[' '], rfl⟩

def letterA : Identifier := ⟨'a', [], rfl, rfl, by decide⟩

def letterF : Identifier := ⟨'f', [], rfl, rfl, by decide⟩

/-- A name that is declared twice in one block, and waits in a function and behind it. -/
def waiting : Program :=
  .declare .none false letterA <|
    .declare .space true letterA <|
      .block .space (.function true letterF)
        (.await .space letterA <|
          .block .space (.condition letterA) (.declare .space false letterA (.done .space))
            (.done .space)) <|
        .await .space letterA (.done .none)

theorem textIssues_waiting :
    textIssues
        "let a; const a; async function f() \x7b await a; if (a) \x7b let a; \x7d \x7d await a;".toList =
      .ok [(Issue.redeclared ['a']).report 13 14, Issue.strayAwait.report 66 71] := by
  have hnone : Gap.none.EndsPlainly := by decide
  have hspace : Gap.space.EndsPlainly := by decide
  have hseparated : waiting.IsSeparated :=
    ⟨hnone, hspace, fun _ => hspace, ⟨hspace, fun _ => hspace, ⟨hspace, trivial⟩, trivial⟩, hspace,
      trivial⟩
  exact (textIssues_program hseparated).trans (by decide)

/-- A space of two bytes in front of a condition. -/
def wideGap : Program :=
  .declare .none false letterA <|
    .block ⟨['\u00a0'], rfl⟩ (.condition letterA) (.done .space) (.done .none)

/-- A space of two bytes in front of a wait. -/
def wideWait : Program :=
  .declare .none false letterA <| .await ⟨['\u00a0'], rfl⟩ letterA (.done .none)

/-- The space takes the pass to its end in the first program and hides the wait in the second. -/
theorem textIssues_wideGap :
    wideGap.render = "let a;\u00a0if (a) \x7b \x7d".toList ∧
      textIssues wideGap.render = .error .splitCharacter ∧ wideGap.reports false [] 0 = [] ∧
      wideWait.render = "let a;\u00a0await a;".toList ∧
      textIssues wideWait.render = .ok [] ∧
      wideWait.reports false [] 0 = [Issue.strayAwait.report 8 13] := by
  decide +kernel

end PageLint.Script
