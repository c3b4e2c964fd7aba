import PageLint.Style.Block
import PageLint.Proofs.Style.Masking
import PageLint.Proofs.Text.Depth

/-! # How a style sheet ends

Masking looks at the character behind the one at hand, so what it makes of a text depends on what is
put behind the text. Here a style sheet is read without looking ahead: the last character is kept in
mind until the next one shows whether the two belong together. Both come to the same end, the same
comments, strings and blocks being open there. -/

namespace PageLint.Style

/-! ## Blocks -/

/-- How many blocks are open behind a text, if `k` are in front of it. -/
abbrev openAfter : Nat → Text → Nat := Text.openAfter '{' '}'

theorem openAfter_blanked (k : Nat) (c : Char) : openAfter k (blanked c) = k := by
  refine Text.openAfter_of_forall (fun d hd => ?_) k
  unfold blanked at hd
  split at hd
  · obtain rfl := List.mem_singleton.mp hd
    decide
  · obtain rfl := List.eq_of_mem_replicate hd
    decide

theorem length_unclosed_bracesFrom (n : Nat) (stack : List Nat) (t : Text) :
    (bracesFrom n stack t).unclosed.length = openAfter stack.length t := by
  induction t generalizing n stack with
  | nil => rfl
  | cons c t ih =>
      have hcons : openAfter stack.length (c :: t) =
          openAfter (openAfter stack.length [c]) t := rfl
      rw [bracesFrom.eq_def, hcons]
      by_cases hopen : c = '{'
      · simp [hopen, ih, openAfter]
      · by_cases hclose : c = '}'
        · cases stack <;> simp [hclose, ih, openAfter]
        · simp [hopen, hclose, ih, openAfter]

/-! ## Reading without looking ahead -/

/-- What the characters at hand belong to. -/
inductive Region where
  | code
  | lineComment
  /-- That many comments are open. -/
  | comment (depth : Nat)
  | quoted (quote : Char)
  deriving DecidableEq, Repr

def Mode.region : Mode → Region
  | code => .code
  | lineComment => .lineComment
  | comment _ depth => .comment depth
  | quoted quote => .quoted quote

/-- What is open behind some text, and the end of that text as far as it matters. -/
structure Ending where
  region : Region := .code
  /-- The last character, unless it belongs to the one in front of it. -/
  last : Option Char := none
  /-- A colon is in front of the last character. -/
  afterColon : Bool := false
  interpolations : Nat := 0
  parens : Nat := 0
  blocks : Nat := 0
  deriving DecidableEq, Repr

namespace Ending

/-- The last character and the one behind it, where the two belong together. -/
def pair? (e : Ending) (c : Char) : Option Ending :=
  match e.region with
  | .code =>
    if e.last = some '/' ∧ c = '*' then some { e with region := .comment 1, last := none }
    else if e.last = some '/' ∧ c = '/' ∧ e.parens = 0 ∧ e.afterColon = false then
      some { e with region := .lineComment, last := none }
    else if e.last = some '#' ∧ c = '{' then
      some { e with interpolations := e.interpolations + 1, last := none }
    else none
  | .lineComment => none
  | .comment depth =>
    if e.last = some '/' ∧ c = '*' then
      some { e with region := .comment (depth + 1), last := none }
    else if e.last = some '*' ∧ c = '/' then
      some { e with region := if depth = 1 then .code else .comment (depth - 1), last := none }
    else none
  | .quoted _ => if e.last = some '\\' then some { e with last := none } else none

/-- A character that does not belong to the one in front of it. -/
def alone (e : Ending) (c : Char) : Ending :=
  let next := { e with last := some c, afterColon := decide (e.last = some ':') }
  match e.region with
  | .code =>
    if c = '"' ∨ c = '\'' then { next with region := .quoted c }
    else if c = '}' ∧ e.interpolations > 0 then
      { next with interpolations := e.interpolations - 1 }
    else if c = '(' then { next with parens := e.parens + 1 }
    else if c = ')' then { next with parens := e.parens - 1 }
    else { next with blocks := openAfter e.blocks [c] }
  | .lineComment => if c = '\n' then { next with region := .code } else next
  | .comment _ => next
  | .quoted quote => if c = quote ∨ c = '\n' then { next with region := .code } else next

def read (e : Ending) (c : Char) : Ending := (e.pair? c).getD (e.alone c)

/-- What is open behind a text that stands behind `e`. -/
def readAll (e : Ending) (t : Text) : Ending := t.foldl read e

/-- How a text ends. -/
def of (t : Text) : Ending := readAll {} t

@[simp] theorem readAll_nil (e : Ending) : e.readAll [] = e := rfl

@[simp] theorem readAll_cons (e : Ending) (c : Char) (t : Text) :
    e.readAll (c :: t) = (e.read c).readAll t := rfl

theorem readAll_append (e : Ending) (t u : Text) :
    e.readAll (t ++ u) = (e.readAll t).readAll u := List.foldl_append

theorem of_append (t u : Text) : of (t ++ u) = (of t).readAll u := readAll_append {} t u

theorem read_of_pair? {e next : Ending} {c : Char} (h : e.pair? c = some next) :
    e.read c = next := by
  rw [read, h, Option.getD_some]

theorem read_of_alone {e : Ending} {c : Char} (h : e.pair? c = none) : e.read c = e.alone c := by
  rw [read, h, Option.getD_none]

end Ending

/-! ## Masking and reading -/

/-- Reading and masking have come to the same place. -/
structure Ending.Follows (e : Ending) (s : MaskState) : Prop where
  region : e.region = s.mode.region
  interpolations : e.interpolations = s.interpolations
  parens : e.parens = s.parens
  colon : s.mode = .code → (e.last = some ':' ↔ s.afterColon = true)
  inside : s.mode ≠ .code → s.afterColon = false
  quote : ∀ q, s.mode = .quoted q → q = '"' ∨ q = '\''
  depth : ∀ start depth, s.mode = .comment start depth → 0 < depth

/-- A piece of a text that masking takes at once, and what reading makes of it. -/
structure Ending.ReadsAt (e : Ending) (n : Nat) (s : MaskState) (t word out rest : Text)
    (m : Nat) (s' : MaskState) : Prop where
  split : t = word ++ rest
  consumes : word ≠ []
  text : maskFrom n s t = write out (maskFrom m s' rest)
  follows : (e.readAll word).Follows s'
  blocks : (e.readAll word).blocks = openAfter e.blocks out
  apart : ∀ c, rest.head? = some c → (e.readAll word).pair? c = none

section

variable {e next : Ending} {n : Nat} {s : MaskState} {c d : Char} {t : Text}

namespace Ending

theorem pair?_of_last_eq_none (h : e.last = none) (c : Char) : e.pair? c = none := by
  unfold pair?
  split <;> simp [h]

theorem readAll_singleton (h : e.pair? c = none) : e.readAll [c] = e.alone c := by
  rw [readAll_cons, readAll_nil, read_of_alone h]

theorem readAll_two (h : e.pair? c = none) (hpair : (e.alone c).pair? d = some next) :
    e.readAll [c, d] = next := by
  rw [readAll_cons, read_of_alone h, readAll_cons, read_of_pair? hpair, readAll_nil]

/-- Two characters that belong together leave nothing open for the next one. -/
theorem ReadsAt.of_pair {out rest : Text} {m : Nat} {s' : MaskState} (hc : e.pair? c = none)
    (hpair : (e.alone c).pair? d = some next) (hlast : next.last = none)
    (htext : maskFrom n s (c :: d :: rest) = write out (maskFrom m s' rest))
    (hfollows : next.Follows s') (hblocks : next.blocks = openAfter e.blocks out) :
    e.ReadsAt n s (c :: d :: rest) [c, d] out rest m s' := by
  have hread := readAll_two hc hpair
  refine ⟨rfl, by simp, htext, ?_, ?_, fun x _ => ?_⟩
  · rwa [hread]
  · rwa [hread]
  · rw [hread]
    exact pair?_of_last_eq_none hlast x

theorem ReadsAt.of_alone {out rest : Text} {m : Nat} {s' : MaskState} (hc : e.pair? c = none)
    (htext : maskFrom n s (c :: rest) = write out (maskFrom m s' rest))
    (hfollows : (e.alone c).Follows s') (hblocks : (e.alone c).blocks = openAfter e.blocks out)
    (hapart : ∀ x, rest.head? = some x → (e.alone c).pair? x = none) :
    e.ReadsAt n s (c :: rest) [c] out rest m s' := by
  have hread := readAll_singleton hc
  exact ⟨rfl, by simp, htext, by rwa [hread], by rwa [hread], by rwa [hread]⟩

namespace Follows

theorem readsAt_comment {start depth : Nat} (h : e.Follows s)
    (hmode : s.mode = .comment start depth) (hc : e.pair? c = none) :
    ∃ word out rest m s', e.ReadsAt n s (c :: t) word out rest m s' := by
  have hregion : e.region = .comment depth := by rw [h.region, hmode, Mode.region]
  have hpositive := h.depth start depth hmode
  have hcolon : s.afterColon = false := h.inside (by simp [hmode])
  have halone : e.alone c =
      { e with last := some c, afterColon := decide (e.last = some ':') } := by
    simp only [alone, hregion]
  by_cases hopen : ∃ u, c = '/' ∧ t = '*' :: u
  · obtain ⟨u, rfl, rfl⟩ := hopen
    have hpair : (e.alone '/').pair? '*' =
        some { e.alone '/' with region := .comment (depth + 1), last := none } := by
      simp [pair?, halone, hregion]
    refine ⟨_, [' ', ' '], u, n + 2, { s with mode := .comment start (depth + 1) },
      .of_pair hc hpair rfl ?_ ?_ (by rw [halone]; rfl)⟩
    · rw [maskFrom.eq_def n s]
      simp only [hmode]
    · rw [halone]
      exact ⟨rfl, h.interpolations, h.parens, by simp, fun _ => hcolon, by simp, by simp⟩
  · by_cases hclose : ∃ u, c = '*' ∧ t = '/' :: u
    · obtain ⟨u, rfl, rfl⟩ := hclose
      have hpair : (e.alone '*').pair? '/' =
          some { e.alone '*' with
            region := if depth = 1 then .code else .comment (depth - 1), last := none } := by
        simp [pair?, halone, hregion]
      refine ⟨_, [' ', ' '], u, n + 2, { s with mode := .leaveComment start depth },
        .of_pair hc hpair rfl ?_ ?_ (by rw [halone]; rfl)⟩
      · rw [maskFrom.eq_def n s]
        simp only [hmode]
      · rw [halone]
        obtain ⟨k, rfl⟩ := Nat.exists_eq_add_of_le' hpositive
        cases k with
        | zero =>
            exact ⟨rfl, h.interpolations, h.parens, by simp [hcolon], fun _ => hcolon,
              by simp [Mode.leaveComment], by simp [Mode.leaveComment]⟩
        | succ k =>
            exact ⟨rfl, h.interpolations, h.parens, by simp [Mode.leaveComment],
              fun _ => hcolon, by simp [Mode.leaveComment], by simp [Mode.leaveComment]⟩
    · refine ⟨_, blanked c, t, n + c.utf8Size, s, .of_alone hc ?_ ?_ ?_ ?_⟩
      · rw [maskFrom.eq_def n s]
        simp only [hmode]
        split
        · exact absurd ⟨_, rfl, rfl⟩ hopen
        · exact absurd ⟨_, rfl, rfl⟩ hclose
        · rfl
      · rw [halone]
        exact ⟨h.region, h.interpolations, h.parens, by simp [hmode], h.inside, h.quote, h.depth⟩
      · rw [halone, openAfter_blanked]
      · intro x hx
        obtain ⟨u, rfl⟩ := List.head?_eq_some_iff.mp hx
        simp only [halone, pair?, hregion, Option.some.injEq]
        split
        · rename_i hpair
          exact absurd ⟨u, hpair.1, by rw [hpair.2]⟩ hopen
        · split
          · rename_i hpair
            exact absurd ⟨u, hpair.1, by rw [hpair.2]⟩ hclose
          · rfl

theorem readsAt_lineComment (h : e.Follows s) (hmode : s.mode = .lineComment)
    (hc : e.pair? c = none) : ∃ word out rest m s', e.ReadsAt n s (c :: t) word out rest m s' := by
  have hregion : e.region = .lineComment := by rw [h.region, hmode, Mode.region]
  by_cases hend : c = '\n'
  · subst hend
    refine ⟨_, ['\n'], t, n + 1, { s with mode := .code, afterColon := false },
      .of_alone hc ?_ ?_ ?_ ?_⟩
    · rw [maskFrom.eq_def n s]
      simp only [hmode, ↓reduceIte]
    · simp only [alone, hregion, ↓reduceIte]
      exact ⟨rfl, h.interpolations, h.parens, by simp, by simp, by simp, by simp⟩
    · simp [alone, hregion, openAfter]
    · intro x _
      simp [alone, hregion, pair?]
  · refine ⟨_, blanked c, t, n + c.utf8Size, s, .of_alone hc ?_ ?_ ?_ ?_⟩
    · rw [maskFrom.eq_def n s]
      simp only [hmode, hend, ↓reduceIte]
    · simp only [alone, hregion, hend, ↓reduceIte]
      exact ⟨by rw [hmode, Mode.region], h.interpolations, h.parens, by simp [hmode], h.inside,
        h.quote, h.depth⟩
    · simp [alone, hregion, hend, openAfter_blanked]
    · intro x _
      simp [alone, hregion, hend, pair?]

theorem readsAt_quoted {quote : Char} (h : e.Follows s) (hmode : s.mode = .quoted quote)
    (hc : e.pair? c = none) : ∃ word out rest m s', e.ReadsAt n s (c :: t) word out rest m s' := by
  have hregion : e.region = .quoted quote := by rw [h.region, hmode, Mode.region]
  have hquote := h.quote quote hmode
  have hcolon : s.afterColon = false := h.inside (by simp [hmode])
  have hkeep : ¬ (c = quote ∨ c = '\n') → e.alone c =
      { e with last := some c, afterColon := decide (e.last = some ':') } := by
    intro hend
    simp only [alone, hregion, hend, ↓reduceIte]
  have hstays : ∀ last colon, ({ e with last, afterColon := colon } : Ending).Follows s :=
    fun _ _ =>
      ⟨h.region, h.interpolations, h.parens, by simp [hmode], h.inside, h.quote, h.depth⟩
  by_cases hescape : c = '\\'
  · have hend : ¬ (c = quote ∨ c = '\n') := by
      rcases hquote with rfl | rfl <;> simp [hescape]
    have halone := hkeep hend
    subst hescape
    cases t with
    | nil =>
        refine ⟨_, [' '], [], n + 1, s, .of_alone hc ?_ ?_ ?_ (by simp)⟩
        · rw [maskFrom.eq_def n s]
          simp only [hmode, ↓reduceIte]
        · rw [halone]
          exact hstays _ _
        · rw [halone]
          rfl
    | cons d u =>
        have hpair : (e.alone '\\').pair? d = some { e.alone '\\' with last := none } := by
          simp [pair?, halone, hregion]
        refine ⟨_, ' ' :: blanked d, u, n + 1 + d.utf8Size, s, .of_pair hc hpair rfl ?_ ?_ ?_⟩
        · rw [maskFrom.eq_def n s]
          simp only [hmode, ↓reduceIte]
        · rw [halone]
          exact hstays _ _
        · rw [halone]
          exact (openAfter_blanked e.blocks d).symm
  · by_cases hend : c = quote ∨ c = '\n'
    · have halone : e.alone c =
          { e with region := .code, last := some c, afterColon := decide (e.last = some ':') } := by
        simp only [alone, hregion, hend, ↓reduceIte]
      obtain ⟨hcolon', hbrace, hslash, hhash⟩ :
          c ≠ ':' ∧ (c ≠ '{' ∧ c ≠ '}') ∧ c ≠ '/' ∧ c ≠ '#' := by
        rcases hend with rfl | rfl
        · rcases hquote with rfl | rfl <;> decide
        · decide
      refine ⟨_, [c], t, n + 1, { s with mode := .code, afterColon := false },
        .of_alone hc ?_ ?_ ?_ fun x _ => ?_⟩
      · rw [maskFrom.eq_def n s]
        simp only [hmode, hescape, hend, ↓reduceIte]
      · rw [halone]
        exact ⟨rfl, h.interpolations, h.parens, by simp [hcolon'], by simp, by simp, by simp⟩
      · rw [halone]
        exact (Text.openAfter_of_forall (by simpa using hbrace) e.blocks).symm
      · simp [halone, pair?, hslash, hhash]
    · have halone := hkeep hend
      refine ⟨_, blanked c, t, n + c.utf8Size, s, .of_alone hc ?_ ?_ ?_ fun x _ => ?_⟩
      · rw [maskFrom.eq_def n s]
        simp only [hmode, hescape, hend, ↓reduceIte]
      · rw [halone]
        exact hstays _ _
      · rw [halone, openAfter_blanked]
      · simp [halone, pair?, hregion, hescape]

theorem of_code (hregion : e.region = .code) (hmode : s.mode = .code)
    (hinterpolations : e.interpolations = s.interpolations) (hparens : e.parens = s.parens)
    (hcolon : e.last = some ':' ↔ s.afterColon = true) : e.Follows s :=
  ⟨by rw [hregion, hmode, Mode.region], hinterpolations, hparens, fun _ => hcolon, by simp [hmode],
    by simp [hmode], by simp [hmode]⟩

/-- A single character of code, unless it starts a line comment. -/
theorem follows_codeStep (h : e.Follows s) (hmode : s.mode = .code) (n : Nat)
    (hline : ¬ (c = '/' ∧ t.head? = some '/' ∧ s.parens = 0 ∧ !s.afterColon)) :
    (e.alone c).Follows (codeStep n s c t).2.2 ∧
      (e.alone c).blocks = openAfter e.blocks (codeStep n s c t).1 := by
  have hregion : e.region = .code := by rw [h.region, hmode, Mode.region]
  have hlast : (some c = some ':') ↔ decide (c = ':') = true := by simp
  simp only [codeStep, hline, alone, hregion, h.interpolations, h.parens, ↓reduceIte]
  by_cases hquote : c = '"' ∨ c = '\''
  · have hplain : c ≠ ':' ∧ c ≠ '{' ∧ c ≠ '}' := by rcases hquote with rfl | rfl <;> decide
    simp only [hquote, ↓reduceIte]
    refine ⟨⟨rfl, rfl, rfl, by simp, by simp [hplain.1], ?_, by simp⟩, ?_⟩
    · rintro q ⟨⟩
      exact hquote
    · exact (Text.openAfter_of_forall (by simpa using hplain.2) _).symm
  · by_cases hbrace : c = '}' ∧ s.interpolations > 0
    · simp only [if_neg hquote, if_pos hbrace]
      exact ⟨.of_code rfl hmode rfl rfl hlast, rfl⟩
    · by_cases hopen : c = '('
      · subst hopen
        exact ⟨.of_code rfl hmode rfl rfl hlast, rfl⟩
      · by_cases hclose : c = ')'
        · subst hclose
          exact ⟨.of_code rfl hmode rfl rfl hlast, rfl⟩
        · simp only [if_neg hquote, if_neg hbrace, if_neg hopen, if_neg hclose]
          exact ⟨.of_code rfl hmode rfl rfl hlast, trivial⟩

/-- The character behind one that masking takes alone does not belong to it. -/
theorem pair?_alone (h : e.Follows s) (hmode : s.mode = .code) {x : Char}
    (hopen : ¬ (c = '/' ∧ x = '*')) (hinterpolation : ¬ (c = '#' ∧ x = '{'))
    (hline : ¬ (c = '/' ∧ x = '/' ∧ s.parens = 0 ∧ !s.afterColon)) :
    (e.alone c).pair? x = none := by
  have hregion : e.region = .code := by rw [h.region, hmode, Mode.region]
  by_cases hslash : c = '/'
  · subst hslash
    have hcolon : decide (e.last = some ':') = s.afterColon := by
      rw [Bool.eq_iff_iff, decide_eq_true_iff]
      exact h.colon hmode
    have hstar : x ≠ '*' := by simpa using hopen
    have hline' : ¬ (x = '/' ∧ s.parens = 0 ∧ s.afterColon = false) := by simpa using hline
    simp [alone, pair?, hregion, hcolon, hstar, hline', h.parens]
  · by_cases hquote : c = '"' ∨ c = '\''
    · have hescape : c ≠ '\\' := by rcases hquote with rfl | rfl <;> decide
      simp [alone, pair?, hregion, hquote, hescape]
    · have hhash : ¬ (c = '#' ∧ x = '{') := hinterpolation
      have hlast : (e.alone c).last = some c ∧ (e.alone c).region = .code := by
        simp only [alone, hregion, if_neg hquote]
        repeat' split
        all_goals exact ⟨rfl, rfl⟩
      simp [pair?, hlast, hslash, hhash]

theorem readsAt_code (h : e.Follows s) (hmode : s.mode = .code) (hc : e.pair? c = none) :
    ∃ word out rest m s', e.ReadsAt n s (c :: t) word out rest m s' := by
  have hregion : e.region = .code := by rw [h.region, hmode, Mode.region]
  -- Two characters belong together in three cases; masking takes the second slash of a line
  -- comment in a step of its own.
  by_cases hopen : ∃ u, c = '/' ∧ t = '*' :: u
  · obtain ⟨u, rfl, rfl⟩ := hopen
    have halone : (e.alone '/') =
        { e with last := some '/', afterColon := decide (e.last = some ':') } := by
      simp [alone, hregion, openAfter]
    have hpair : (e.alone '/').pair? '*' =
        some { e.alone '/' with region := .comment 1, last := none } := by
      simp [pair?, halone, hregion]
    refine ⟨_, [' ', ' '], u, n + 2,
      { s with afterColon := decide ('/' = ':'), mode := .comment n 1 },
      .of_pair hc hpair rfl ?_ ?_ (by rw [halone]; rfl)⟩
    · rw [maskFrom.eq_def n s]
      simp only [hmode]
    · rw [halone]
      exact ⟨rfl, h.interpolations, h.parens, by simp, by simp, by simp, by simp⟩
  · by_cases hinterpolation : ∃ u, c = '#' ∧ t = '{' :: u
    · obtain ⟨u, rfl, rfl⟩ := hinterpolation
      have halone : (e.alone '#') =
          { e with last := some '#', afterColon := decide (e.last = some ':') } := by
        simp [alone, hregion, openAfter]
      have hpair : (e.alone '#').pair? '{' =
          some { e.alone '#' with interpolations := e.interpolations + 1, last := none } := by
        simp [pair?, halone, hregion]
      refine ⟨_, ['#', '('], u, n + 2,
        { s with afterColon := decide ('#' = ':'), interpolations := s.interpolations + 1 },
        .of_pair hc hpair rfl ?_ ?_ (by rw [halone]; rfl)⟩
      · rw [maskFrom.eq_def n s]
        simp only [hmode]
      · rw [halone]
        exact ⟨h.region, congrArg (· + 1) h.interpolations, h.parens, by simp, by simp,
          h.quote, h.depth⟩
    · by_cases hline : c = '/' ∧ t.head? = some '/' ∧ s.parens = 0 ∧ !s.afterColon
      · obtain ⟨rfl, hhead, hparens, hcolon⟩ := hline
        obtain ⟨u, rfl⟩ := List.head?_eq_some_iff.mp hhead
        have halone : (e.alone '/') =
            { e with last := some '/', afterColon := decide (e.last = some ':') } := by
          simp [alone, hregion, openAfter]
        have hlast : e.last ≠ some ':' := by simpa [h.colon hmode] using hcolon
        have hpair : (e.alone '/').pair? '/' =
            some { e.alone '/' with region := .lineComment, last := none } := by
          simp [pair?, halone, hregion, hlast, h.parens, hparens]
        have hline : codeStep n s '/' ('/' :: u) =
            ([' '], n + 1, { s with afterColon := decide ('/' = ':'), mode := .lineComment }) := by
          simp [codeStep, hparens, hcolon]
        refine ⟨_, [' ', ' '], u, n + 2,
          { s with afterColon := decide ('/' = ':'), mode := .lineComment },
          .of_pair hc hpair rfl ?_ ?_ (by rw [halone]; rfl)⟩
        · rw [maskFrom_code n hmode hopen hinterpolation, hline, maskFrom.eq_def (n + 1)]
          rfl
        · rw [halone]
          exact ⟨rfl, h.interpolations, h.parens, by simp, by simp, by simp, by simp⟩
      · obtain ⟨hfollows, hblocks⟩ := h.follows_codeStep hmode n hline
        refine ⟨_, _, t, _, _, .of_alone hc (maskFrom_code n hmode hopen hinterpolation)
          hfollows hblocks fun x hx => ?_⟩
        obtain ⟨u, rfl⟩ := List.head?_eq_some_iff.mp hx
        refine h.pair?_alone hmode ?_ ?_ ?_
        · rintro ⟨hc, rfl⟩
          exact hopen ⟨u, hc, rfl⟩
        · rintro ⟨hc, rfl⟩
          exact hinterpolation ⟨u, hc, rfl⟩
        · simpa using hline

theorem exists_readsAt (h : e.Follows s) (hc : e.pair? c = none) :
    ∃ word out rest m s', e.ReadsAt n s (c :: t) word out rest m s' := by
  cases hmode : s.mode with
  | code => exact h.readsAt_code hmode hc
  | lineComment => exact h.readsAt_lineComment hmode hc
  | comment start depth => exact h.readsAt_comment hmode hc
  | quoted quote => exact h.readsAt_quoted hmode hc

/-- Reading and masking come to the same end. -/
theorem readAll (h : e.Follows s) (hc : ∀ c, t.head? = some c → e.pair? c = none) :
    (∃ s', s'.mode = (maskFrom n s t).2 ∧ (e.readAll t).Follows s') ∧
      (e.readAll t).blocks = openAfter e.blocks (maskFrom n s t).1 := by
  -- By what is left of the text, since masking takes one or two characters at once.
  induction hlength : t.length using Nat.strongRecOn generalizing e n s t with
  | ind length ih =>
      cases t with
      | nil =>
          rw [maskFrom]
          exact ⟨⟨s, rfl, h⟩, rfl⟩
      | cons c t =>
          obtain ⟨word, out, rest, m, s', hat⟩ := h.exists_readsAt (n := n) (t := t) (hc c rfl)
          have hsplit := hat.split
          have hshorter : rest.length < length := by
            have hword := List.length_pos_iff.mpr hat.consumes
            rw [← hlength, hsplit, List.length_append]
            omega
          obtain ⟨hend, hblocks⟩ := ih rest.length hshorter hat.follows (n := m) hat.apart rfl
          rw [hat.text, hsplit, readAll_append]
          refine ⟨hend, ?_⟩
          rw [hblocks, hat.blocks]
          exact (Text.openAfter_append _ out _).symm

end Follows

/-- Both start with nothing open. -/
theorem follows_start : Follows {} {} := .of_code rfl rfl rfl rfl (by simp)

theorem of_spec (t : Text) :
    (∃ s, s.mode = (maskFrom 0 {} t).2 ∧ (of t).Follows s) ∧
      (of t).blocks = (braces (mask t)).unclosed.length := by
  rw [braces, length_unclosed_bracesFrom]
  exact follows_start.readAll fun c _ => pair?_of_last_eq_none rfl c

end Ending

end

end PageLint.Style
