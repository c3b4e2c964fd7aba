import PageLint.Proofs.Style.Mask

/-! # The strides of masking

Masking takes one or two characters at once. Which it takes, what it writes for them and in which
state it goes on is told by the state, the character at hand and the one behind it: nothing else of
the text matters. -/

namespace PageLint.Style

/-! ## Steps -/

/-- What is written for a single character of code in front of `t`, where to go on, and in which
state. -/
def codeStep (pos : Nat) (s : MaskState) (c : Char) (t : Text) : Text × Nat × MaskState :=
  let s' := { s with afterColon := decide (c = ':') }
  if c = '/' ∧ t.head? = some '/' ∧ s.parens = 0 ∧ !s.afterColon then
    ([' '], pos + 1, { s' with mode := .lineComment })
  else if c = '"' ∨ c = '\'' then ([c], pos + 1, { s' with mode := .quoted c })
  else if c = '}' ∧ s.interpolations > 0 then
    ([')'], pos + 1, { s' with interpolations := s.interpolations - 1 })
  else if c = '(' then ([c], pos + 1, { s' with parens := s.parens + 1 })
  else if c = ')' then ([c], pos + 1, { s' with parens := s.parens - 1 })
  else ([c], pos + c.utf8Size, s')

/-- What is written for the text at an offset, where to go on, and in which state. -/
def maskStep (source : Text) (pos : Nat) (s : MaskState) :
    Except Fault (Option (Text × Nat × MaskState)) := do
  match ← source.sliceFrom pos with
  | [] => return none
  | c :: t =>
    match s.mode with
    | .comment start depth =>
      match c, t with
      | '/', '*' :: _ =>
        return some ([' ', ' '], pos + 2, { s with mode := .comment start (depth + 1) })
      | '*', '/' :: _ =>
        return some ([' ', ' '], pos + 2, { s with mode := .leaveComment start depth })
      | c, _ => return some (blanked c, pos + c.utf8Size, s)
    | .quoted quote =>
      if c = '\\' then
        match ← source.sliceFrom (pos + 1) with
        | [] => return some ([' '], pos + 1, s)
        | e :: _ => return some (' ' :: blanked e, pos + 1 + e.utf8Size, s)
      else if c = quote ∨ c = '\n' then
        return some ([c], pos + 1, { s with mode := .code, afterColon := false })
      else return some (blanked c, pos + c.utf8Size, s)
    | .lineComment =>
      if c = '\n' then return some ([c], pos + 1, { s with mode := .code, afterColon := false })
      else return some (blanked c, pos + c.utf8Size, s)
    | .code =>
      let s' := { s with afterColon := decide (c = ':') }
      match c, t with
      | '/', '*' :: _ => return some ([' ', ' '], pos + 2, { s' with mode := .comment pos 1 })
      | '#', '{' :: _ =>
        return some (['#', '('], pos + 2, { s' with interpolations := s.interpolations + 1 })
      | c, t => return some (codeStep pos s c t)

theorem size_singleton (c : Char) : Text.size [c] = c.utf8Size := rfl

/-- A single character of code, the one behind it not being read together with it. -/
theorem maskFrom_code (pos : Nat) {s : MaskState} (hmode : s.mode = .code) {c : Char} {t : Text}
    (hopen : ¬ ∃ u, c = '/' ∧ t = '*' :: u) (hinterpolation : ¬ ∃ u, c = '#' ∧ t = '{' :: u) :
    maskFrom pos s (c :: t) = write (codeStep pos s c t).1
      (maskFrom (codeStep pos s c t).2.1 (codeStep pos s c t).2.2 t) := by
  rw [maskFrom.eq_def pos s]
  simp only [hmode]
  split
  · exact absurd ⟨_, rfl, rfl⟩ hopen
  · exact absurd ⟨_, rfl, rfl⟩ hinterpolation
  · unfold codeStep
    dsimp only
    repeat' split
    -- where the mode is kept, it is that of code
    all_goals first | rfl | rw [hmode]

/-! ## Strides -/

/-- The state behind a character of code. -/
def MaskState.behind (s : MaskState) (c : Char) : MaskState :=
  { s with afterColon := decide (c = ':') }

/-- A stride at offset `n` in a state, from the character at hand and the one behind it: the word
that it takes, what it writes, and the state that it leads to. -/
inductive Stride (n : Nat) (s : MaskState) :
    Char → Option Char → (word out : Text) → MaskState → Prop where
  | nest {start depth : Nat} (hmode : s.mode = .comment start depth) :
      Stride n s '/' (some '*') ['/', '*'] [' ', ' ']
        { s with mode := .comment start (depth + 1) }
  | unnest {start depth : Nat} (hmode : s.mode = .comment start depth) :
      Stride n s '*' (some '/') ['*', '/'] [' ', ' ']
        { s with mode := .leaveComment start depth }
  | commented {start depth : Nat} {c : Char} {next : Option Char}
      (hmode : s.mode = .comment start depth) (hopen : ¬ (c = '/' ∧ next = some '*'))
      (hclose : ¬ (c = '*' ∧ next = some '/')) : Stride n s c next [c] (blanked c) s
  | escape {q : Char} (hmode : s.mode = .quoted q) (c : Char) :
      Stride n s '\\' (some c) ['\\', c] (' ' :: blanked c) s
  | lastEscape {q : Char} (hmode : s.mode = .quoted q) : Stride n s '\\' none ['\\'] [' '] s
  | unquote {q c : Char} {next : Option Char} (hmode : s.mode = .quoted q) (hescape : c ≠ '\\')
      (hend : c = q ∨ c = '\n') :
      Stride n s c next [c] [c] { s with mode := .code, afterColon := false }
  | quoted {q c : Char} {next : Option Char} (hmode : s.mode = .quoted q) (hescape : c ≠ '\\')
      (hend : ¬ (c = q ∨ c = '\n')) : Stride n s c next [c] (blanked c) s
  | endLine {next : Option Char} (hmode : s.mode = .lineComment) :
      Stride n s '\n' next ['\n'] ['\n'] { s with mode := .code, afterColon := false }
  | inLine {c : Char} {next : Option Char} (hmode : s.mode = .lineComment) (hend : c ≠ '\n') :
      Stride n s c next [c] (blanked c) s
  | comment (hmode : s.mode = .code) :
      Stride n s '/' (some '*') ['/', '*'] [' ', ' '] { s.behind '/' with mode := .comment n 1 }
  | interpolation (hmode : s.mode = .code) :
      Stride n s '#' (some '{') ['#', '{'] ['#', '(']
        { s.behind '#' with interpolations := s.interpolations + 1 }
  | lineComment (hmode : s.mode = .code) (hparens : s.parens = 0) (hcolon : s.afterColon = false) :
      Stride n s '/' (some '/') ['/'] [' '] { s.behind '/' with mode := .lineComment }
  | quote {c : Char} {next : Option Char} (hmode : s.mode = .code) (hquote : c = '"' ∨ c = '\'') :
      Stride n s c next [c] [c] { s.behind c with mode := .quoted c }
  | closeInterpolation {next : Option Char} (hmode : s.mode = .code)
      (hopen : s.interpolations > 0) :
      Stride n s '}' next ['}'] [')']
        { s.behind '}' with interpolations := s.interpolations - 1 }
  | openParen {next : Option Char} (hmode : s.mode = .code) :
      Stride n s '(' next ['('] ['('] { s.behind '(' with parens := s.parens + 1 }
  | closeParen {next : Option Char} (hmode : s.mode = .code) :
      Stride n s ')' next [')'] [')'] { s.behind ')' with parens := s.parens - 1 }
  | plain {c : Char} {next : Option Char} (hmode : s.mode = .code)
      (hcomment : ¬ (c = '/' ∧ next = some '*')) (hinterpolation : ¬ (c = '#' ∧ next = some '{'))
      (hline : ¬ (c = '/' ∧ next = some '/' ∧ s.parens = 0 ∧ s.afterColon = false))
      (hquote : ¬ (c = '"' ∨ c = '\'')) (hbrace : ¬ (c = '}' ∧ s.interpolations > 0))
      (hparens : c ≠ '(' ∧ c ≠ ')') : Stride n s c next [c] [c] (s.behind c)

/-- The quotes of strings are single or double. -/
def MaskState.IsQuoted (s : MaskState) : Prop := ∀ q, s.mode = .quoted q → q = '"' ∨ q = '\''

theorem MaskState.isQuoted_start : MaskState.IsQuoted {} := by rintro q ⟨⟩

section

variable {source t word out : Text} {n : Nat} {s s' : MaskState} {c : Char} {next : Option Char}

/-- A stride can be taken in every state and at every character. -/
theorem exists_stride (n : Nat) (s : MaskState) (c : Char) (next : Option Char) :
    ∃ word out s', Stride n s c next word out s' := by
  cases hmode : s.mode with
  | comment start depth =>
      by_cases hopen : c = '/' ∧ next = some '*'
      · obtain ⟨rfl, rfl⟩ := hopen
        exact ⟨_, _, _, .nest hmode⟩
      · by_cases hclose : c = '*' ∧ next = some '/'
        · obtain ⟨rfl, rfl⟩ := hclose
          exact ⟨_, _, _, .unnest hmode⟩
        · exact ⟨_, _, _, .commented hmode hopen hclose⟩
  | quoted q =>
      by_cases hescape : c = '\\'
      · subst hescape
        cases next with
        | none => exact ⟨_, _, _, .lastEscape hmode⟩
        | some e => exact ⟨_, _, _, .escape hmode e⟩
      · by_cases hend : c = q ∨ c = '\n'
        · exact ⟨_, _, _, .unquote hmode hescape hend⟩
        · exact ⟨_, _, _, .quoted hmode hescape hend⟩
  | lineComment =>
      by_cases hend : c = '\n'
      · subst hend
        exact ⟨_, _, _, .endLine hmode⟩
      · exact ⟨_, _, _, .inLine hmode hend⟩
  | code =>
      by_cases hcomment : c = '/' ∧ next = some '*'
      · obtain ⟨rfl, rfl⟩ := hcomment
        exact ⟨_, _, _, .comment hmode⟩
      by_cases hinterpolation : c = '#' ∧ next = some '{'
      · obtain ⟨rfl, rfl⟩ := hinterpolation
        exact ⟨_, _, _, .interpolation hmode⟩
      by_cases hline : c = '/' ∧ next = some '/' ∧ s.parens = 0 ∧ s.afterColon = false
      · obtain ⟨rfl, rfl, hparens, hcolon⟩ := hline
        exact ⟨_, _, _, .lineComment hmode hparens hcolon⟩
      by_cases hquote : c = '"' ∨ c = '\''
      · exact ⟨_, _, _, .quote hmode hquote⟩
      by_cases hbrace : c = '}' ∧ s.interpolations > 0
      · obtain ⟨rfl, hopen⟩ := hbrace
        exact ⟨_, _, _, .closeInterpolation hmode hopen⟩
      by_cases hopen : c = '('
      · subst hopen
        exact ⟨_, _, _, .openParen hmode⟩
      by_cases hclose : c = ')'
      · subst hclose
        exact ⟨_, _, _, .closeParen hmode⟩
      exact ⟨_, _, _, .plain hmode hcomment hinterpolation hline hquote hbrace ⟨hopen, hclose⟩⟩

namespace Stride

/-- The word starts with the character at hand. -/
theorem word_eq (h : Stride n s c next word out s') :
    word = [c] ∨ ∃ d, next = some d ∧ word = [c, d] := by
  cases h <;> simp

theorem isQuoted (h : Stride n s c next word out s') (hs : s.IsQuoted) : s'.IsQuoted := by
  cases h with
  | unnest hmode =>
      intro q hq
      simp only [Mode.leaveComment] at hq
      split at hq <;> cases hq
  | quote hmode hquote =>
      rintro q ⟨⟩
      exact hquote
  | commented | escape | lastEscape | quoted | inLine => exact hs
  | interpolation hmode | closeInterpolation hmode | openParen hmode | closeParen hmode
  | plain hmode =>
      intro q hq
      exact hs q hq
  | _ => rintro q ⟨⟩

/-- The text in front of which the stride stops. -/
theorem exists_rest (h : Stride n s c next word out s') (hnext : t.head? = next) :
    ∃ rest, c :: t = word ++ rest := by
  obtain rfl | ⟨d, hd, rfl⟩ := h.word_eq
  · exact ⟨t, rfl⟩
  · obtain ⟨u, rfl⟩ := List.head?_eq_some_iff.mp (hnext.trans hd)
    exact ⟨u, rfl⟩

/-- Less is left behind a stride. -/
theorem length_lt {rest : Text} (h : Stride n s c next word out s') (hsplit : c :: t = word ++ rest) :
    rest.length < (c :: t).length := by
  have hword : 0 < word.length := by
    obtain rfl | ⟨d, -, rfl⟩ := h.word_eq <;> exact Nat.succ_pos _
  rw [hsplit, List.length_append]
  omega

/-- A stride over a single character of code. -/
theorem codeStep_eq (h : Stride n s c next [c] out s') (hmode : s.mode = .code)
    (hnext : t.head? = next) : codeStep n s c t = (out, n + c.utf8Size, s') := by
  cases h with
  | lineComment _ hparens hcolon =>
      simp [codeStep, hnext, hparens, hcolon, MaskState.behind]
      rfl
  | quote _ hquote =>
      have hslash : c ≠ '/' := by rcases hquote with rfl | rfl <;> decide
      have hone : c.utf8Size = 1 := by rcases hquote with rfl | rfl <;> rfl
      simp [codeStep, hquote, hslash, hone, MaskState.behind]
  | closeInterpolation _ hopen =>
      simp [codeStep, hopen, MaskState.behind]
      rfl
  | openParen | closeParen =>
      simp [codeStep, MaskState.behind]
      rfl
  | plain _ hcomment hinterpolation hline hquote hbrace hparens =>
      have hline' : ¬ (c = '/' ∧ t.head? = some '/' ∧ s.parens = 0 ∧ !s.afterColon) := by
        simpa [hnext] using hline
      simp only [codeStep, if_neg hline', if_neg hquote, if_neg hbrace, if_neg hparens.1,
        if_neg hparens.2, MaskState.behind]
  | commented hother | lastEscape hother | unquote hother | quoted hother | endLine hother
  | inLine hother => cases hmode.symm.trans hother

/-- Code is taken one character at a time, but for what opens a comment or an interpolation. -/
theorem not_pair (h : Stride n s c next [c] out s') (hmode : s.mode = .code) :
    ¬ (c = '/' ∧ next = some '*') ∧ ¬ (c = '#' ∧ next = some '{') := by
  cases h with
  | plain _ hcomment hinterpolation => exact ⟨hcomment, hinterpolation⟩
  | quote _ hquote => rcases hquote with rfl | rfl <;> simp
  | commented hother | lastEscape hother | unquote hother | quoted hother | endLine hother
  | inLine hother => cases hmode.symm.trans hother
  | _ => simp

/-- Masking takes the stride and goes on behind it. -/
theorem maskFrom_eq (h : Stride n s c next word out s') (hs : s.IsQuoted)
    (hnext : t.head? = next) {rest : Text} (hrest : c :: t = word ++ rest) :
    maskFrom n s (c :: t) = write out (maskFrom (n + word.size) s' rest) := by
  by_cases hsingle : s.mode = .code ∧ word = [c]
  · obtain ⟨hmode, rfl⟩ := hsingle
    obtain ⟨hcomment, hinterpolation⟩ := h.not_pair hmode
    obtain ⟨-, rfl⟩ := List.cons.inj hrest
    rw [maskFrom_code n hmode, h.codeStep_eq hmode hnext, size_singleton]
    · rintro ⟨u, hc, rfl⟩
      exact hcomment ⟨hc, hnext.symm⟩
    · rintro ⟨u, hc, rfl⟩
      exact hinterpolation ⟨hc, hnext.symm⟩
  · rw [maskFrom.eq_def n s]
    cases h with
    | nest hmode | unnest hmode | comment hmode =>
        obtain ⟨-, rfl⟩ := List.cons.inj hrest
        simp only [hmode]
        rfl
    | interpolation hmode =>
        obtain ⟨-, rfl⟩ := List.cons.inj hrest
        simp only [hmode, MaskState.behind]
        rfl
    | commented hmode hopen hclose =>
        obtain ⟨-, rfl⟩ := List.cons.inj hrest
        simp only [hmode]
        split
        · exact absurd ⟨rfl, hnext.symm⟩ hopen
        · exact absurd ⟨rfl, hnext.symm⟩ hclose
        · rfl
    | escape hmode e =>
        obtain ⟨-, rfl⟩ := List.cons.inj hrest
        simp only [hmode, ↓reduceIte, Text.size_cons, Text.size_nil, Nat.add_zero, Nat.add_assoc]
        rfl
    | lastEscape hmode =>
        obtain ⟨-, rfl⟩ := List.cons.inj hrest
        obtain rfl := List.head?_eq_none_iff.mp hnext
        simp only [hmode, ↓reduceIte]
        rfl
    | unquote hmode hescape hend =>
        obtain ⟨-, rfl⟩ := List.cons.inj hrest
        have hone : c.utf8Size = 1 := by
          rcases hend with rfl | rfl
          · rcases hs _ hmode with rfl | rfl <;> rfl
          · rfl
        simp only [hmode, hescape, hend, ↓reduceIte, size_singleton, hone]
    | quoted hmode hescape hend =>
        obtain ⟨-, rfl⟩ := List.cons.inj hrest
        simp only [hmode, hescape, hend, ↓reduceIte, size_singleton]
    | endLine hmode =>
        obtain ⟨-, rfl⟩ := List.cons.inj hrest
        simp only [hmode, ↓reduceIte]
        rfl
    | inLine hmode hend =>
        obtain ⟨-, rfl⟩ := List.cons.inj hrest
        simp only [hmode, hend, ↓reduceIte, size_singleton]
    | lineComment hmode | quote hmode | closeInterpolation hmode | openParen hmode
    | closeParen hmode | plain hmode => exact absurd ⟨hmode, rfl⟩ hsingle

/-- A step at an offset is a stride from what stands there. -/
theorem maskStep_eq (h : Stride n s c next word out s') (hs : s.IsQuoted)
    (hstands : source.StandsAt n (c :: t)) (hnext : t.head? = next) :
    maskStep source n s = .ok (some (out, n + word.size, s')) := by
  have hslice := hstands.sliceFrom_eq
  have hbehind := hstands.skip_cons.sliceFrom_eq
  simp only [maskStep, hslice, bind, Except.bind]
  by_cases hsingle : s.mode = .code ∧ word = [c]
  · obtain ⟨hmode, rfl⟩ := hsingle
    obtain ⟨hcomment, hinterpolation⟩ := h.not_pair hmode
    simp only [hmode]
    split
    · exact absurd ⟨rfl, hnext.symm⟩ hcomment
    · exact absurd ⟨rfl, hnext.symm⟩ hinterpolation
    · rw [h.codeStep_eq hmode hnext, size_singleton]
      rfl
  · cases h with
    | nest hmode | unnest hmode | comment hmode =>
        obtain ⟨u, rfl⟩ := List.head?_eq_some_iff.mp hnext
        simp only [hmode]
        rfl
    | interpolation hmode =>
        obtain ⟨u, rfl⟩ := List.head?_eq_some_iff.mp hnext
        simp only [hmode, MaskState.behind]
        rfl
    | commented hmode hopen hclose =>
        simp only [hmode]
        split
        · exact absurd ⟨rfl, hnext.symm⟩ hopen
        · exact absurd ⟨rfl, hnext.symm⟩ hclose
        · rfl
    | escape hmode e =>
        obtain ⟨u, rfl⟩ := List.head?_eq_some_iff.mp hnext
        have hone : '\\'.utf8Size = 1 := rfl
        rw [hone] at hbehind
        simp only [hmode, ↓reduceIte, hbehind, Text.size_cons, Text.size_nil, hone, Nat.add_zero,
          Nat.add_assoc]
        rfl
    | lastEscape hmode =>
        obtain rfl := List.head?_eq_none_iff.mp hnext
        have hone : '\\'.utf8Size = 1 := rfl
        rw [hone] at hbehind
        simp only [hmode, ↓reduceIte, hbehind]
        rfl
    | unquote hmode hescape hend =>
        have hone : c.utf8Size = 1 := by
          rcases hend with rfl | rfl
          · rcases hs _ hmode with rfl | rfl <;> rfl
          · rfl
        simp only [hmode, hescape, hend, ↓reduceIte, size_singleton, hone]
        rfl
    | quoted hmode hescape hend =>
        simp only [hmode, hescape, hend, ↓reduceIte, size_singleton]
        rfl
    | endLine hmode =>
        simp only [hmode, ↓reduceIte]
        rfl
    | inLine hmode hend =>
        simp only [hmode, hend, ↓reduceIte, size_singleton]
        rfl
    | lineComment hmode | quote hmode | closeInterpolation hmode | openParen hmode
    | closeParen hmode | plain hmode => exact absurd ⟨hmode, rfl⟩ hsingle

end Stride

/-- What holds of all that strides take and write, and of texts that are put together from such,
holds of a text and what masking makes of it. -/
theorem maskFrom_related {R : Text → Text → Prop} (hnil : R [] [])
    (happend : ∀ {word out rest copy}, R word out → R rest copy → R (word ++ rest) (out ++ copy))
    (hstride : ∀ {n s c next word out s'}, Stride n s c next word out s' → R word out)
    (n : Nat) (hs : s.IsQuoted) (t : Text) : R t (maskFrom n s t).1 := by
  induction hlength : t.length using Nat.strongRecOn generalizing n s t with
  | ind length ih =>
      cases t with
      | nil =>
          rw [maskFrom]
          exact hnil
      | cons c t =>
          obtain ⟨word, out, s', h⟩ := exists_stride n s c t.head?
          obtain ⟨rest, hsplit⟩ := h.exists_rest rfl
          have hshorter := hlength ▸ h.length_lt hsplit
          rw [h.maskFrom_eq hs rfl hsplit, hsplit]
          exact happend (hstride h) (ih rest.length hshorter _ (h.isQuoted hs) rest rfl)

/-! ## The copy -/

theorem Stride.isCopy (h : Stride n s c next word out s') : IsCopy word out := by
  cases h with
  | nest | unnest | comment | lineComment | lastEscape => exact .blanks _
  | commented | quoted | inLine =>
      have hword := IsCopy.blanks [c]
      rwa [List.flatMap_singleton] at hword
  | escape _ e =>
      have hword := IsCopy.blanks ['\\', e]
      rwa [List.flatMap_cons, List.flatMap_singleton] at hword
  | interpolation => exact .keep '#' (.brace (.inl ⟨rfl, rfl⟩) .nil)
  | closeInterpolation => exact .brace (.inr ⟨rfl, rfl⟩) .nil
  | unquote | endLine | quote | openParen | closeParen | plain => exact .refl _

theorem isCopy_mask (source : Text) : IsCopy source (mask source) :=
  maskFrom_related .nil .append Stride.isCopy 0 MaskState.isQuoted_start source

end

end PageLint.Style
