import PageLint.Proofs.Style.Declarations
import PageLint.Proofs.Style.Hiding
import PageLint.Proofs.Style.Repetition

/-! # Style sheets of nested rules

A style sheet can be put together from rules: selectors with blocks behind them, in which pairs of a
property and a value and further rules stand, and white space between all of these. Masking keeps
such a style sheet as it is, and its declarations are its pairs, at the places where they stand. -/

namespace PageLint.Style

/-! ## Rules -/

/-- What opens blocks, strings and comments. -/
def openers : List Char := ['{', '"', '\'', '/']

/-- What ends statements as well. -/
def delimiters : List Char := '}' :: ';' :: openers

structure Blank where
  text : Text
  blank : ∀ c ∈ text, Text.isBlank c

structure Selector where
  text : Text
  plain : ∀ c ∈ text, c ∉ delimiters

structure Pair where
  property : Text
  value : Text
  named : isPropertyName property
  plain : ∀ c ∈ value, c ∉ delimiters
  begins : value.BeginsVisibly
  ends : value.EndsVisibly

/-- What stands in a block. -/
inductive Items where
  | nil
  | pair (front : Blank) (p : Pair) (rest : Items)
  | rule (front : Blank) (s : Selector) (body : Items) (back : Blank) (rest : Items)

/-- A selector and its block. -/
structure Rule where
  front : Blank
  selector : Selector
  body : Items
  back : Blank

/-- The pairs in the order of the text. -/
def Items.pairs : Items → List Pair
  | nil => []
  | pair _ p rest => p :: rest.pairs
  | rule _ _ body _ rest => body.pairs ++ rest.pairs

def pairs (rules : List Rule) : List Pair := rules.flatMap fun r => r.body.pairs

/-! ## Rendering -/

/-- A part of a style sheet: a pair, or text that declares nothing. -/
inductive Piece where
  | other (t : Text)
  | pair (p : Pair)

def Piece.text : Piece → Text
  | other t => t
  | pair p => p.property ++ [':', ' '] ++ p.value ++ [';']

/-- A block with its selector. -/
def block (front : Blank) (s : Selector) (inside : List Piece) (back : Blank) : List Piece :=
  .other (front.text ++ s.text ++ [' '] ++ ['{']) :: (inside ++ [.other (back.text ++ ['}'])])

def Items.pieces : Items → List Piece
  | nil => []
  | pair front p rest => .other front.text :: .pair p :: rest.pieces
  | rule front s body back rest => block front s body.pieces back ++ rest.pieces

def pieces (rules : List Rule) : List Piece :=
  rules.flatMap fun r => block r.front r.selector r.body.pieces r.back

def render (ps : List Piece) : Text := ps.flatMap Piece.text

/-- The property in lower case. -/
def Pair.folded (p : Pair) : String := String.ofList (Text.lowerAscii p.property)

/-- The declaration that a pair makes at offset `n`. -/
def Pair.declaration (n : Nat) (p : Pair) : Declaration where
  property := p.folded
  propertyStart := n
  value := p.value
  valueStart := n + Text.size (p.property ++ [':', ' '])

/-- The declarations of pieces that start at offset `n`. -/
def placedFrom (n : Nat) : List Piece → List Declaration
  | [] => []
  | .other t :: ps => placedFrom (n + t.size) ps
  | .pair p :: ps => p.declaration n :: placedFrom (n + Text.size (Piece.pair p).text) ps

@[simp] theorem render_nil : render [] = [] := rfl

@[simp] theorem render_cons (p : Piece) (ps : List Piece) :
    render (p :: ps) = p.text ++ render ps := rfl

@[simp] theorem render_append (ps qs : List Piece) : render (ps ++ qs) = render ps ++ render qs :=
  List.flatMap_append

theorem placedFrom_append (n : Nat) (ps qs : List Piece) :
    placedFrom n (ps ++ qs) = placedFrom n ps ++ placedFrom (n + (render ps).size) qs := by
  induction ps generalizing n with
  | nil => rfl
  | cons p ps ih =>
      cases p <;>
        simp only [List.cons_append, placedFrom, ih, render_cons, Text.size_append, Nat.add_assoc,
          Piece.text]

theorem placedFrom_block (n : Nat) (front : Blank) (s : Selector) (ps : List Piece) (back : Blank) :
    placedFrom n (block front s ps back) =
      placedFrom (n + Text.size (front.text ++ s.text ++ [' '] ++ ['{'])) ps := by
  rw [block, placedFrom, placedFrom_append]
  exact List.append_nil _

/-! ## Plain characters -/

theorem not_mem_openers {c : Char} (h : c ∉ delimiters) : c ∉ openers := fun hmem =>
  h (List.mem_cons_of_mem _ (List.mem_cons_of_mem _ hmem))

theorem not_mem_delimiters {c : Char} {p : Char → Bool} (hp : delimiters.any p = false)
    (h : p c) : c ∉ delimiters := fun hmem => List.any_eq_false.mp hp c hmem h

theorem Blank.plain (b : Blank) : ∀ c ∈ b.text, c ∉ delimiters := fun c hc =>
  not_mem_delimiters (by decide) (b.blank c hc)

theorem Pair.isPropertyChar_of_mem (p : Pair) : ∀ c ∈ p.property, isPropertyChar c :=
  (isPropertyChar_of_isPropertyName p.named).2

theorem Pair.plain_property (p : Pair) : ∀ c ∈ p.property, c ∉ delimiters := fun c hc =>
  not_mem_delimiters (by decide) (p.isPropertyChar_of_mem c hc)

/-- What stands in front of the semicolon of a pair. -/
theorem Pair.plain_statement (p : Pair) :
    ∀ c ∈ p.property ++ [':', ' '] ++ p.value, c ∉ delimiters :=
  List.forall_mem_append.mpr
    ⟨List.forall_mem_append.mpr ⟨p.plain_property, by simp [delimiters, openers]⟩, p.plain⟩

/-! ## Masking -/

/-- In code, and in no interpolation. -/
structure MaskState.IsBare (s : MaskState) : Prop where
  mode : s.mode = .code
  interpolations : s.interpolations = 0

/-- Masking keeps the word, whatever follows. -/
def IsKept (w : Text) : Prop :=
  ∀ (n : Nat) (s : MaskState) (t : Text), s.IsBare →
    ∃ s' : MaskState, s'.IsBare ∧
      maskFrom n s (w ++ t) = write w (maskFrom (n + w.size) s' t)

theorem isKept_nil : IsKept [] := fun _ s _ hs => ⟨s, hs, rfl⟩

theorem IsKept.append {a b : Text} (ha : IsKept a) (hb : IsKept b) : IsKept (a ++ b) := by
  intro n s t hs
  obtain ⟨s', hs', hfront⟩ := ha n s (b ++ t) hs
  obtain ⟨s'', hs'', hback⟩ := hb (n + a.size) s' t hs'
  refine ⟨s'', hs'', ?_⟩
  rw [List.append_assoc, hfront, hback, write_write, Text.size_append, Nat.add_assoc]

/-- A single character is kept that opens nothing: no comment, no string and no interpolation. -/
theorem exists_maskFrom_cons {c : Char} {t : Text} {s : MaskState} (n : Nat)
    (hc : c ∉ ['"', '\'', '/']) (hnext : ¬ ∃ u, c = '#' ∧ t = '{' :: u) (hs : s.IsBare) :
    ∃ s' : MaskState, s'.IsBare ∧
      maskFrom n s (c :: t) = write [c] (maskFrom (n + Text.size [c]) s' t) := by
  have hne : ∀ d ∈ ['"', '\'', '/'], c ≠ d := fun d hd => (ne_of_mem_of_not_mem hd hc).symm
  have hslash : c ≠ '/' := hne '/' (by decide)
  have hquotes : ¬ (c = '"' ∨ c = '\'') :=
    not_or.mpr ⟨hne '"' (by decide), hne '\'' (by decide)⟩
  have hbrace : ¬ (c = '}' ∧ s.interpolations > 0) := by
    rintro ⟨-, hopen⟩
    rw [hs.interpolations] at hopen
    cases hopen
  rw [maskFrom_code n hs.mode (fun ⟨_, h, _⟩ => hslash h) hnext, codeStep]
  dsimp only
  rw [if_neg fun h => hslash h.1, if_neg hquotes, if_neg hbrace]
  split
  · rename_i hopen
    subst hopen
    exact ⟨{ s.behind '(' with parens := s.parens + 1 }, ⟨hs.mode, hs.interpolations⟩, rfl⟩
  · split
    · rename_i hclose
      subst hclose
      exact ⟨{ s.behind ')' with parens := s.parens - 1 }, ⟨hs.mode, hs.interpolations⟩, rfl⟩
    · exact ⟨s.behind c, ⟨hs.mode, hs.interpolations⟩, rfl⟩

/-- A word is kept whose last character cannot open an interpolation with a brace behind it. -/
theorem isKept_of_forall {w : Text} (hlast : w.getLast? ≠ some '#')
    (h : ∀ c ∈ w, c ∉ openers) : IsKept w := by
  induction w with
  | nil => exact isKept_nil
  | cons c w ih =>
      obtain ⟨hc, hw⟩ := List.forall_mem_cons.mp h
      intro n s t hs
      -- Behind a hash within the word stands another character of it, which is no brace.
      have hnext : ¬ ∃ u, c = '#' ∧ w ++ t = '{' :: u := by
        rintro ⟨u, rfl, hu⟩
        cases w with
        | nil => exact hlast rfl
        | cons d w =>
            obtain ⟨rfl, -⟩ := List.cons.inj hu
            exact hw '{' List.mem_cons_self (by decide)
      have hrest : IsKept w := by
        refine ih ?_ hw
        cases w with
        | nil => simp
        | cons d w => rwa [List.getLast?_cons_cons] at hlast
      obtain ⟨s', hs', hfront⟩ :=
        exists_maskFrom_cons n (List.not_mem_of_not_mem_cons hc) hnext hs
      obtain ⟨s'', hs'', hback⟩ := hrest (n + Text.size [c]) s' t hs'
      refine ⟨s'', hs'', ?_⟩
      rw [List.cons_append, hfront, hback, write_write, Nat.add_assoc]
      rfl

theorem isKept_opening : IsKept ['{'] := fun n _ _ hs =>
  exists_maskFrom_cons n (by decide) (by rintro ⟨_, h, _⟩; exact absurd h (by decide)) hs

theorem IsKept.mask_eq {t : Text} (h : IsKept t) : mask t = t := by
  obtain ⟨s, -, hmask⟩ := h 0 {} [] ⟨rfl, rfl⟩
  rw [List.append_nil] at hmask
  rw [mask, hmask]
  exact List.append_nil t

/-! ## What masking keeps -/

/-- Plain text with one more character, which opens nothing. -/
theorem isKept_concat {w : Text} {d : Char} (hd : d ∉ '#' :: openers)
    (h : ∀ c ∈ w, c ∉ delimiters) : IsKept (w ++ [d]) := by
  refine isKept_of_forall ?_ (List.forall_mem_append.mpr ⟨fun c hc => ?_, ?_⟩)
  · rw [List.getLast?_concat, Ne, Option.some_inj]
    exact List.ne_of_not_mem_cons hd
  · exact not_mem_openers (h c hc)
  · rw [List.forall_mem_singleton]
    exact List.not_mem_of_not_mem_cons hd

theorem Blank.isKept (b : Blank) : IsKept b.text := by
  refine isKept_of_forall (fun hlast => ?_) fun c hc => ?_
  · exact absurd (b.blank _ (List.mem_of_getLast? hlast)) (by decide)
  · exact not_mem_openers (b.plain c hc)

theorem isKept_block {inside : List Piece} (front : Blank) (s : Selector) (back : Blank)
    (h : IsKept (render inside)) : IsKept (render (block front s inside back)) := by
  have hfront : IsKept (front.text ++ s.text ++ [' ']) :=
    isKept_concat (by decide) (List.forall_mem_append.mpr ⟨front.plain, s.plain⟩)
  have hback : IsKept (back.text ++ ['}']) := isKept_concat (by decide) back.plain
  rw [block, render_cons, render_append, render_cons, render_nil, List.append_nil]
  exact (hfront.append isKept_opening).append (h.append hback)

theorem Items.isKept (items : Items) : IsKept (render items.pieces) := by
  induction items with
  | nil => exact isKept_nil
  | pair front p rest ih =>
      have hpair : IsKept (Piece.pair p).text := isKept_concat (by decide) p.plain_statement
      exact front.isKept.append (hpair.append ih)
  | rule front s body back rest ihbody ihrest =>
      rw [pieces, render_append]
      exact (isKept_block front s back ihbody).append ihrest

theorem isKept_pieces (rules : List Rule) : IsKept (render (pieces rules)) := by
  induction rules with
  | nil => exact isKept_nil
  | cons r rules ih =>
      rw [pieces, List.flatMap_cons, render_append]
      exact (isKept_block r.front r.selector r.back r.body.isKept).append ih

/-! ## Statements -/

/-- The declarations of a text at offset `n`, where a statement begins inside `depth` blocks. -/
def declarationsFrom (n depth : Nat) (t : Text) : List Declaration :=
  (statementsFrom n n depth [] t).filterMap fun (n, statement) => declaration? n statement

section

variable {w t : Text} {n start depth : Nat} {back : Text}

theorem statementsFrom_append (h : ∀ c ∈ w, c ∉ delimiters) :
    statementsFrom n start depth back (w ++ t) =
      statementsFrom (n + w.size) start depth (w.reverse ++ back) t := by
  induction w generalizing n back with
  | nil => rfl
  | cons c w ih =>
      obtain ⟨hc, hw⟩ := List.forall_mem_cons.mp h
      have hne : ∀ d ∈ delimiters, c ≠ d := fun d hd => (ne_of_mem_of_not_mem hd hc).symm
      rw [List.cons_append, statementsFrom, if_neg (hne '{' (by decide)),
        if_neg (hne '}' (by decide)), if_neg (hne ';' (by decide)), ih hw, List.reverse_cons,
        List.append_assoc, List.singleton_append, Text.size_cons, Nat.add_assoc]

/-- A selector is no statement. -/
theorem declarationsFrom_open (h : ∀ c ∈ w, c ∉ delimiters) :
    declarationsFrom n depth (w ++ '{' :: t) =
      declarationsFrom (n + Text.size (w ++ ['{'])) (depth + 1) t := by
  rw [declarationsFrom, statementsFrom_append h, statementsFrom, Text.size_append, ← Nat.add_assoc]
  rfl

theorem filterMap_declaration?_cons (n : Nat) (statement : Text) (statements : List (Nat × Text)) :
    (((n, statement) :: statements).filterMap fun (n, statement) => declaration? n statement) =
      (declaration? n statement).toList ++
        statements.filterMap fun (n, statement) => declaration? n statement := by
  cases h : declaration? n statement <;> simp [h]

theorem declarationsFrom_semicolon (h : ∀ c ∈ w, c ∉ delimiters) :
    declarationsFrom n (depth + 1) (w ++ ';' :: t) = (declaration? n w).toList ++
      declarationsFrom (n + Text.size (w ++ [';'])) (depth + 1) t := by
  rw [declarationsFrom, statementsFrom_append h, statementsFrom, if_neg (by decide),
    if_neg (by decide), if_pos rfl, if_pos depth.succ_pos, List.append_nil, List.reverse_reverse,
    List.singleton_append, filterMap_declaration?_cons, Text.size_append, ← Nat.add_assoc]
  rfl

theorem declarationsFrom_close (h : ∀ c ∈ w, c ∉ delimiters) :
    declarationsFrom n (depth + 1) (w ++ '}' :: t) = (declaration? n w).toList ++
      declarationsFrom (n + Text.size (w ++ ['}'])) depth t := by
  rw [declarationsFrom, statementsFrom_append h, statementsFrom, if_neg (by decide), if_pos rfl,
    if_pos depth.succ_pos, List.append_nil, List.reverse_reverse, List.singleton_append,
    filterMap_declaration?_cons, Text.size_append, ← Nat.add_assoc]
  rfl

end

/-! ## Declarations -/

theorem Blank.declaration?_eq_none (b : Blank) (n : Nat) : declaration? n b.text = none := by
  refine declaration?_of_all (List.all_eq_true.mpr fun c hc => ?_)
  rw [bne_iff_ne]
  rintro rfl
  exact absurd (b.blank _ hc) (by decide)

theorem Pair.visible_property (p : Pair) : p.property.BeginsVisibly ∧ p.property.EndsVisibly := by
  obtain ⟨hne, hchars⟩ := isPropertyChar_of_isPropertyName p.named
  have hvisible : ∀ c ∈ p.property, Text.isBlank c = false := fun c hc =>
    Text.forall_ascii (P := fun c => isPropertyChar c → Text.isBlank c = false) (by decide)
      (toNat_lt_of_isPropertyChar (hchars c hc)) (hchars c hc)
  exact ⟨Text.beginsVisibly_of_forall hne hvisible, Text.endsVisibly_of_forall hne hvisible⟩

theorem Pair.declarationOf_eq (p : Pair) (front : Blank) (n : Nat) :
    declarationOf n (front.text ++ p.property) ([' '] ++ p.value) =
      some (p.declaration (n + front.text.size)) := by
  obtain ⟨hbegins, hends⟩ := p.visible_property
  have hspace : ∀ c ∈ [' '], Text.isBlank c := List.forall_mem_singleton.mpr rfl
  have hvalid : (isPropertyName p.property && !p.value.isEmpty) = true := by
    obtain ⟨c, rest, hvalue, -⟩ := p.begins
    rw [p.named, hvalue]
    rfl
  rw [declarationOf, Text.trim_append front.blank hbegins hends,
    Text.trimStart_append front.blank hbegins, Text.trim_append hspace p.begins p.ends,
    Text.trimStart_append hspace p.begins, if_pos hvalid, Text.size_append, Text.size_append,
    Nat.add_sub_cancel, Nat.add_sub_cancel, declaration, Text.size_append]
  simp only [Nat.add_assoc]
  rfl

/-- The colon behind the property is the first one. -/
theorem Pair.declaration?_eq (p : Pair) (front : Blank) (n : Nat) :
    declaration? n (front.text ++ (p.property ++ [':', ' '] ++ p.value)) =
      some (p.declaration (n + front.text.size)) := by
  have hcolon : ∀ c ∈ front.text ++ p.property, (c != ':') = true := by
    intro c hc
    rw [bne_iff_ne]
    rintro rfl
    rcases List.mem_append.mp hc with hc | hc
    · exact absurd (front.blank _ hc) (by decide)
    · exact absurd (p.isPropertyChar_of_mem _ hc) (by decide)
  have hjoin : front.text ++ (p.property ++ [':', ' '] ++ p.value) =
      front.text ++ p.property ++ ':' :: ([' '] ++ p.value) := by simp
  have hdrop : (front.text ++ p.property ++ ':' :: ([' '] ++ p.value)).dropWhile (· != ':') =
      ':' :: ([' '] ++ p.value) := by
    rw [List.dropWhile_append_of_pos hcolon]
    rfl
  have htake : (front.text ++ p.property ++ ':' :: ([' '] ++ p.value)).takeWhile (· != ':') =
      front.text ++ p.property := by
    rw [List.takeWhile_append_of_pos hcolon]
    exact List.append_nil _
  rw [hjoin, declaration?_of_colon hdrop, htake, p.declarationOf_eq front]

/-- Inside `depth` blocks, the pieces declare their pairs where these stand, whatever follows: a
statement begins in front of them and behind them. -/
def Declares (depth : Nat) (ps : List Piece) : Prop :=
  ∀ n t, declarationsFrom n depth (render ps ++ t) =
    placedFrom n ps ++ declarationsFrom (n + (render ps).size) depth t

section

variable {depth : Nat} {ps qs : List Piece}

theorem declares_nil (depth : Nat) : Declares depth [] := fun _ _ => rfl

theorem Declares.append (hps : Declares depth ps) (hqs : Declares depth qs) :
    Declares depth (ps ++ qs) := by
  intro n t
  rw [render_append, List.append_assoc, hps, hqs, placedFrom_append, Text.size_append,
    List.append_assoc, Nat.add_assoc]

theorem declares_pair (depth : Nat) (front : Blank) (p : Pair) :
    Declares (depth + 1) [.other front.text, .pair p] := by
  intro n t
  have hplain : ∀ c ∈ front.text ++ (p.property ++ [':', ' '] ++ p.value), c ∉ delimiters :=
    List.forall_mem_append.mpr ⟨front.plain, p.plain_statement⟩
  have hrender : render [.other front.text, .pair p] =
      front.text ++ (p.property ++ [':', ' '] ++ p.value) ++ [';'] := by
    simp [Piece.text]
  rw [hrender, List.append_assoc _ [';'], List.singleton_append, declarationsFrom_semicolon hplain,
    p.declaration?_eq front]
  rfl

theorem declares_block (front : Blank) (s : Selector) (back : Blank)
    (h : Declares (depth + 1) ps) : Declares depth (block front s ps back) := by
  intro n t
  have hplain : ∀ c ∈ front.text ++ s.text ++ [' '], c ∉ delimiters :=
    List.forall_mem_append.mpr
      ⟨List.forall_mem_append.mpr ⟨front.plain, s.plain⟩, by simp [delimiters, openers]⟩
  have hrender : render (block front s ps back) ++ t =
      front.text ++ s.text ++ [' '] ++ '{' :: (render ps ++ (back.text ++ '}' :: t)) := by
    simp [block, Piece.text]
  have hsize : (render (block front s ps back)).size =
      Text.size (front.text ++ s.text ++ [' '] ++ ['{']) +
        ((render ps).size + Text.size (back.text ++ ['}'])) := by
    rw [block, render_cons, render_append, Text.size_append, Text.size_append, render_cons,
      render_nil, List.append_nil]
    rfl
  -- In front of the closing brace only white space is left, which declares nothing.
  rw [hrender, declarationsFrom_open hplain, h, declarationsFrom_close back.plain,
    back.declaration?_eq_none, placedFrom_block, hsize, ← Nat.add_assoc, ← Nat.add_assoc]
  rfl

theorem Items.declares (depth : Nat) (items : Items) : Declares (depth + 1) items.pieces := by
  induction items generalizing depth with
  | nil => exact declares_nil _
  | pair front p rest ih => exact (declares_pair depth front p).append (ih depth)
  | rule front s body back rest ihbody ihrest =>
      exact (declares_block front s back (ihbody (depth + 1))).append (ihrest depth)

theorem declares_pieces (rules : List Rule) : Declares 0 (pieces rules) := by
  induction rules with
  | nil => exact declares_nil 0
  | cons r rules ih =>
      exact (declares_block r.front r.selector r.back (r.body.declares 0)).append ih

end

/-! ## Style sheets -/

theorem Items.map_placedFrom (n : Nat) (items : Items) :
    (placedFrom n items.pieces).map (fun d => (d.property, d.value)) =
      items.pairs.map fun p => (p.folded, p.value) := by
  induction items generalizing n with
  | nil => rfl
  | pair front p rest ih => exact congrArg ((p.folded, p.value) :: ·) (ih _)
  | rule front s body back rest ihbody ihrest =>
      rw [pieces, placedFrom_append, placedFrom_block, List.map_append, ihbody, ihrest, pairs,
        List.map_append]

/-- The declarations are the pairs of the rules, in the same order. -/
theorem map_placedFrom (n : Nat) (rules : List Rule) :
    (placedFrom n (pieces rules)).map (fun d => (d.property, d.value)) =
      (pairs rules).map fun p => (p.folded, p.value) := by
  induction rules generalizing n with
  | nil => rfl
  | cons r rules ih =>
      have hrest := ih (n + (render (block r.front r.selector r.body.pieces r.back)).size)
      rw [pieces, List.flatMap_cons, placedFrom_append, placedFrom_block, List.map_append,
        Items.map_placedFrom, pairs, List.flatMap_cons, List.map_append]
      exact congrArg _ hrest

theorem Pair.utf8ByteSize_folded (p : Pair) : p.folded.utf8ByteSize = p.property.size := by
  rw [folded, Text.utf8ByteSize_ofList, size_lowerAscii p.isPropertyChar_of_mem]

/-- The declarations of nested rules are their pairs, with property and value where they stand, and
there are as many warnings of duplicates as there are pairs beyond one of each property. -/
theorem declarations_mask_render (rules : List Rule) :
    declarations (mask (render (pieces rules))) = placedFrom 0 (pieces rules) ∧
      (placedFrom 0 (pieces rules)).map (fun d => (d.property, d.value)) =
        (pairs rules).map (fun p => (p.folded, p.value)) ∧
      (∀ p ∈ pairs rules, p.folded.utf8ByteSize = p.property.size) ∧
      ∀ (validators : Validators) (o : Context), o.deadline = .never →
        ((check validators (render (pieces rules)) o).diagnostics.filter
            isDuplicateWarning).length + ((pairs rules).map Pair.folded).dedup.length =
          (pairs rules).length := by
  have hdeclarations :
      declarations (mask (render (pieces rules))) = placedFrom 0 (pieces rules) := by
    have hread := declares_pieces rules 0 []
    rw [List.append_nil] at hread
    rw [(isKept_pieces rules).mask_eq]
    exact hread.trans (List.append_nil _)
  have hpairs := map_placedFrom 0 rules
  refine ⟨hdeclarations, hpairs, fun p _ => p.utf8ByteSize_folded, fun validators o ho => ?_⟩
  have hproperties : (placedFrom 0 (pieces rules)).map (·.property) =
      (pairs rules).map Pair.folded := by
    have hfirst := congrArg (List.map Prod.fst) hpairs
    rwa [List.map_map, List.map_map] at hfirst
  have hlength : (placedFrom 0 (pieces rules)).length = (pairs rules).length := by
    simpa using congrArg List.length hpairs
  rw [duplicates_check validators _ ho, hdeclarations, List.length_map, ← hproperties, ← hlength]
  exact length_repeated_add_length_dedup _

/-- A rule in another one, with a colon in its selector and a property of the outer one in capital
letters. -/
def hoverRules : List Rule :=
  let space : Blank := ⟨[' '], by simp [Text.isBlank, Text.isAsciiBlank]⟩
  let color : Pair := ⟨"color".toList, "red".toList, by decide, by simp [delimiters, openers],
    ⟨'r', ['e', 'd'], rfl, by decide⟩, ⟨['r', 'e'], 'd', rfl, by decide⟩⟩
  let capital : Pair := ⟨"COLOR".toList, "blue".toList, by decide, by simp [delimiters, openers],
    ⟨'b', ['l', 'u', 'e'], rfl, by decide⟩, ⟨['b', 'l', 'u'], 'e', rfl, by decide⟩⟩
  let hover : Selector := ⟨"&:hover".toList, by simp [delimiters, openers]⟩
  [⟨⟨[], by simp⟩, ⟨['a'], by simp [delimiters, openers]⟩,
    .pair space color (.rule space hover (.pair space capital .nil) space .nil), space⟩]

/-- Two declarations of one property make one warning. -/
theorem declarations_mask_render_hoverRules :
    render (pieces hoverRules) = "a \x7b color: red; &:hover \x7b COLOR: blue; \x7d \x7d".toList ∧
      ({} : Context).deadline = .never ∧
      ((check .standard (render (pieces hoverRules)) {}).diagnostics.filter
        isDuplicateWarning).length = 1 := by
  refine ⟨by decide, rfl, ?_⟩
  have hcount := (declarations_mask_render hoverRules).2.2.2 .standard {} rfl
  have hdistinct : ((pairs hoverRules).map Pair.folded).dedup.length = 1 := by decide
  have hlength : (pairs hoverRules).length = 2 := rfl
  omega

end PageLint.Style
