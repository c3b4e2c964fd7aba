import PageLint.Proofs.Style.Strides

/-! # The masking of a style sheet

Masking goes through a style sheet by offsets and takes slices of it there. None of them fails, and
the pieces that are written make up the masked copy. -/

namespace PageLint.Style

/-- Steps from an offset lead to the end of the source: what they write, and the mode at the end. -/
inductive Masking (source : Text) : Nat → MaskState → Text × Mode → Prop where
  | done {pos : Nat} {s : MaskState} (h : maskStep source pos s = .ok none) :
      Masking source pos s ([], s.mode)
  | next {pos next : Nat} {s s' : MaskState} {out : Text} {result : Text × Mode}
      (h : maskStep source pos s = .ok (some (out, next, s')))
      (rest : Masking source next s' result) :
      Masking source pos s (write out result)

/-- A quote is a single byte, and an open comment starts at a cut of the source. -/
structure Mode.IsSound (source : Text) (mode : Mode) : Prop where
  quoted : ∀ q, mode = .quoted q → q.utf8Size = 1
  comment : ∀ start depth, mode = .comment start depth → source.IsCut start

theorem Mode.isSound_code {source : Text} : Mode.code.IsSound source :=
  ⟨by rintro q ⟨⟩, by rintro start depth ⟨⟩⟩

theorem Mode.isSound_lineComment {source : Text} : Mode.lineComment.IsSound source :=
  ⟨by rintro q ⟨⟩, by rintro start depth ⟨⟩⟩

theorem Mode.isSound_quoted {source : Text} {q : Char} (h : q.utf8Size = 1) :
    (Mode.quoted q).IsSound source :=
  ⟨by rintro q ⟨⟩; exact h, by rintro start depth ⟨⟩⟩

theorem Mode.isSound_comment {source : Text} {start : Nat} (h : source.IsCut start) (depth : Nat) :
    (Mode.comment start depth).IsSound source :=
  ⟨by rintro q ⟨⟩, by rintro start depth ⟨⟩; exact h⟩

theorem Mode.isSound_leaveComment {source : Text} {start : Nat} (h : source.IsCut start)
    (depth : Nat) : (Mode.leaveComment start depth).IsSound source := by
  unfold leaveComment
  split
  · exact isSound_code
  · exact isSound_code
  · exact isSound_comment h _

section

variable {source t word out : Text} {n : Nat} {s s' : MaskState} {c : Char} {next : Option Char}

theorem Stride.isSound (h : Stride n s c next word out s') (hs : s.IsQuoted) (hn : source.IsCut n)
    (hsound : s.mode.IsSound source) : s'.mode.IsSound source := by
  have hquoted := h.isQuoted hs
  cases h with
  | nest hmode => exact Mode.isSound_comment (hsound.comment _ _ hmode) _
  | unnest hmode => exact Mode.isSound_leaveComment (hsound.comment _ _ hmode) _
  | comment => exact Mode.isSound_comment hn 1
  | lineComment => exact Mode.isSound_lineComment
  | @quote c =>
      refine Mode.isSound_quoted ?_
      rcases hquoted c rfl with rfl | rfl <;> rfl
  | unquote | endLine => exact Mode.isSound_code
  | commented | escape | lastEscape | quoted | inLine | interpolation | closeInterpolation
  | openParen | closeParen | plain => exact hsound

/-- What masking comes to from a cut of the source on. -/
theorem masking_maskFrom (h : source.StandsAt n t) (hs : s.IsQuoted)
    (hsound : s.mode.IsSound source) :
    Masking source n s (maskFrom n s t) ∧ (maskFrom n s t).2.IsSound source := by
  induction hlength : t.length using Nat.strongRecOn generalizing n s t with
  | ind length ih =>
      cases t with
      | nil =>
          rw [maskFrom]
          refine ⟨.done ?_, hsound⟩
          simp only [maskStep, h.sliceFrom_eq, bind, Except.bind]
          rfl
      | cons c t =>
          obtain ⟨word, out, s', hstride⟩ := exists_stride n s c t.head?
          obtain ⟨rest, hsplit⟩ := hstride.exists_rest rfl
          have hshorter := hlength ▸ hstride.length_lt hsplit
          have hbehind : source.StandsAt (n + word.size) rest := (hsplit ▸ h).skip
          obtain ⟨hmasking, hmode⟩ := ih rest.length hshorter hbehind (hstride.isQuoted hs)
            (hstride.isSound hs h.isCut hsound) rfl
          rw [hstride.maskFrom_eq hs rfl hsplit]
          exact ⟨.next (hstride.maskStep_eq hs h rfl) hmasking, hmode⟩

end

theorem masking_mask (source : Text) :
    Masking source 0 {} (maskFrom 0 {} source) ∧ Masks source (mask source) ∧
      (maskFrom 0 {} source).2.IsSound source := by
  obtain ⟨hmasking, hsound⟩ :=
    masking_maskFrom (Text.standsAt_zero source) MaskState.isQuoted_start Mode.isSound_code
  exact ⟨hmasking, (isCopy_mask source).masks, hsound⟩

end PageLint.Style
