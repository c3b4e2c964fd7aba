import PageLint.Style.Check
import PageLint.Proofs.Style.MaskedBytes

/-! # What comments and strings hide

The masked copy tells no more of the inside of a comment or a string than how long it is and where
its lines end. So two style sheets that differ only there have the same issues. -/

namespace PageLint.Style

/-- The steps of masking come to offset `n` of the source in a state. -/
inductive Reaches (source : Text) : Nat → MaskState → Prop where
  | start : Reaches source 0 {}
  | step {n next : Nat} {s s' : MaskState} {out : Text} (h : Reaches source n s)
      (hstep : maskStep source n s = .ok (some (out, next, s'))) : Reaches source next s'

/-- The delimiters make a comment or a string of the body between them, and the body does not end it
and opens none in it. -/
inductive Encloses : (opener body closer : Text) → Prop where
  | comment {body : Text} (h : ∀ c ∈ body, c ≠ '*' ∧ c ≠ '/') :
      Encloses ['/', '*'] body ['*', '/']
  | quoted {q : Char} {body : Text} (hquote : q = '"' ∨ q = '\'')
      (h : ∀ c ∈ body, c ≠ q ∧ c ≠ '\\' ∧ c ≠ '\n') : Encloses [q] body [q]

section

variable {source t front back opener closer a b body : Text} {n : Nat} {s : MaskState}

theorem write_write (out out' : Text) (r : Text × Mode) :
    write out (write out' r) = write (out ++ out') r := by
  rw [write, write, write, List.append_assoc]

/-! ## In front of the body -/

/-- Behind what masking has gone through, it goes on in the same way whatever text follows, if only
that text has the first character of the one that was there. -/
theorem Reaches.exists_out (h : Reaches source n s) :
    s.IsQuoted ∧ ∃ head rest out : Text, source = head ++ rest ∧ head.size = n ∧
      ∀ t : Text, t.head? = rest.head? →
        maskFrom 0 {} (head ++ t) = write out (maskFrom n s t) := by
  induction h with
  | start =>
      exact ⟨MaskState.isQuoted_start, [], source, [], rfl, rfl, fun t _ => rfl⟩
  | @step n next s s' out' hreach hstep ih =>
      obtain ⟨hs, head, rest, out, hsource, hn, hmask⟩ := ih
      have hstands : source.StandsAt n rest := ⟨head, hsource, hn⟩
      cases rest with
      | nil =>
          rw [maskStep, hstands.sliceFrom_eq] at hstep
          cases hstep
      | cons c t =>
          obtain ⟨word, out'', s'', hstride⟩ := exists_stride n s c t.head?
          rw [hstride.maskStep_eq hs hstands rfl] at hstep
          cases hstep
          obtain ⟨rest, hsplit⟩ := hstride.exists_rest rfl
          refine ⟨hstride.isQuoted hs, head ++ word, rest, out ++ out', ?_, ?_, fun t' ht' => ?_⟩
          · rw [hsource, hsplit, List.append_assoc]
          · rw [Text.size_append, hn]
          · -- the stride is taken in front of `t'`, too
            obtain ⟨u, hu, hnext⟩ : ∃ u : Text, word ++ t' = c :: u ∧ u.head? = t.head? := by
              obtain rfl | ⟨d, hd, rfl⟩ := hstride.word_eq
              · obtain ⟨-, rfl⟩ := List.cons.inj hsplit
                exact ⟨t', rfl, ht'⟩
              · exact ⟨d :: t', rfl, hd.symm⟩
            rw [List.append_assoc, hu, hmask (c :: u) rfl, hstride.maskFrom_eq hs hnext hu.symm,
              write_write]

/-! ## The body -/

/-- Characters that are hidden whatever follows leave the state as it is. -/
theorem maskFrom_hidden (n : Nat) (hs : s.IsQuoted)
    (h : ∀ c ∈ body, ∀ n next, Stride n s c next [c] (blanked c) s) (t : Text) :
    maskFrom n s (body ++ t) = write (body.flatMap blanked) (maskFrom (n + body.size) s t) := by
  induction body generalizing n with
  | nil => rfl
  | cons c body ih =>
      obtain ⟨hc, hbody⟩ := List.forall_mem_cons.mp h
      rw [List.cons_append, (hc n _).maskFrom_eq hs rfl (List.singleton_append (x := c)).symm,
        size_singleton, ih _ hbody, write_write, List.flatMap_cons, Text.size_cons, Nat.add_assoc]

/-- A body is hidden from the state that its opener leads to, which its closer leads out of. -/
theorem maskFrom_enclosed {opened closed : Text} {inside s' : MaskState}
    (hinside : inside.IsQuoted)
    (hopen : ∀ t, maskFrom n s (opener ++ t) = write opened (maskFrom (n + opener.size) inside t))
    (hhidden : ∀ c ∈ body, ∀ m next, Stride m inside c next [c] (blanked c) inside)
    (hclose : ∀ m t, maskFrom m inside (closer ++ t) =
      write closed (maskFrom (m + closer.size) s' t)) (back : Text) :
    maskFrom n s (opener ++ (body ++ (closer ++ back))) =
      write (opened ++ body.flatMap blanked ++ closed)
        (maskFrom (n + opener.size + body.size + closer.size) s' back) := by
  rw [hopen, maskFrom_hidden _ hinside hhidden, hclose, write_write, write_write]

/-- What is written for a comment or a string, and the state behind it, come from the delimiters and
the size of the body, but for the blanks of the body itself. -/
theorem Encloses.exists_maskFrom_eq (h : Encloses opener a closer) (hmode : s.mode = .code)
    (n : Nat) :
    ∃ opened closed s', ∀ (body : Text), Encloses opener body closer → ∀ back,
      maskFrom n s (opener ++ (body ++ (closer ++ back))) =
        write (opened ++ body.flatMap blanked ++ closed)
          (maskFrom (n + opener.size + body.size + closer.size) s' back) := by
  have hs : s.IsQuoted := by simp [MaskState.IsQuoted, hmode]
  cases h with
  | comment =>
      let inside : MaskState := { s.behind '/' with mode := .comment n 1 }
      have hopen : Stride n s '/' (some '*') ['/', '*'] [' ', ' '] inside := .comment hmode
      have hclose : ∀ m, Stride m inside '*' (some '/') ['*', '/'] [' ', ' ']
          { inside with mode := .leaveComment n 1 } := fun m => .unnest rfl
      have hinside := hopen.isQuoted hs
      refine ⟨[' ', ' '], [' ', ' '], { inside with mode := .leaveComment n 1 },
        fun body hbody => ?_⟩
      cases hbody with
      | comment h =>
          exact maskFrom_enclosed hinside
            (fun t => hopen.maskFrom_eq hs (t := '*' :: t) rfl rfl)
            (fun c hc m next =>
              .commented rfl (fun hc' => (h c hc).2 hc'.1) fun hc' => (h c hc).1 hc'.1)
            (fun m t => (hclose m).maskFrom_eq hinside (t := '/' :: t) rfl rfl)
  | @quoted q _ hquote =>
      let inside : MaskState := { s.behind q with mode := .quoted q }
      have hopen : ∀ next, Stride n s q next [q] [q] inside := fun next => .quote hmode hquote
      have hescape : q ≠ '\\' := by rcases hquote with rfl | rfl <;> decide
      have hclose : ∀ m next, Stride m inside q next [q] [q]
          { inside with mode := .code, afterColon := false } :=
        fun m next => .unquote rfl hescape (.inl rfl)
      have hinside := (hopen none).isQuoted hs
      refine ⟨[q], [q], { inside with mode := .code, afterColon := false },
        fun body hbody => ?_⟩
      cases hbody with
      | quoted _ h =>
          exact maskFrom_enclosed hinside (fun t => (hopen t.head?).maskFrom_eq hs rfl rfl)
            (fun c hc m next =>
              .quoted rfl (h c hc).2.1 (not_or.mpr ⟨(h c hc).1, (h c hc).2.2⟩))
            (fun m t => (hclose m t.head?).maskFrom_eq hinside rfl rfl)

/-- The blanks for a text tell its size and where its lines end. -/
theorem flatMap_blanked_eq (hsize : a.size = b.size)
    (hlines : ∀ n : Nat, a.bytes[n]? = some '\n'.toUInt8 ↔ b.bytes[n]? = some '\n'.toUInt8) :
    a.flatMap blanked = b.flatMap blanked := by
  refine Text.bytes_inj.mp ?_
  rw [bytes_flatMap_blanked, bytes_flatMap_blanked]
  have hlength : a.bytes.length = b.bytes.length := by rw [Text.length_bytes, Text.length_bytes, hsize]
  refine List.ext_getElem (by simpa using hlength) fun n ha hb => ?_
  rw [List.length_map] at ha hb
  have hline := hlines n
  rw [List.getElem?_eq_getElem ha, List.getElem?_eq_getElem hb, Option.some_inj,
    Option.some_inj] at hline
  rw [List.getElem_map, List.getElem_map, blankByte, blankByte]
  by_cases h : a.bytes[n] = '\n'.toUInt8
  · rw [if_pos h, if_pos (hline.mp h), h, hline.mp h]
  · rw [if_neg h, if_neg (mt hline.mpr h)]

/-! ## The whole style sheet -/

/-- The inside of a comment or a string, where masking comes to it in code, does not show in the
masked text or the mode in which it ends. -/
theorem maskFrom_eq_of_encloses (ha : Encloses opener a closer) (hb : Encloses opener b closer)
    (hsize : a.size = b.size)
    (hlines : ∀ n : Nat, a.bytes[n]? = some '\n'.toUInt8 ↔ b.bytes[n]? = some '\n'.toUInt8)
    (hreach : Reaches (front ++ opener ++ a ++ closer ++ back) front.size s)
    (hmode : s.mode = .code) :
    maskFrom 0 {} (front ++ opener ++ a ++ closer ++ back) =
      maskFrom 0 {} (front ++ opener ++ b ++ closer ++ back) := by
  simp only [List.append_assoc] at hreach ⊢
  obtain ⟨-, head, rest, out, hsource, hhead, hmask⟩ := hreach.exists_out
  obtain ⟨opened, closed, s', henclosed⟩ := ha.exists_maskFrom_eq hmode front.size
  obtain rfl : front = head := by
    have hfront := congrArg (Text.before · front.size) hsource
    rw [Text.before_size_append, ← hhead, Text.before_size_append] at hfront
    exact hfront
  obtain rfl := List.append_cancel_left hsource
  have hfirst : ∀ body, List.head? (opener ++ (body ++ (closer ++ back))) = opener.head? := by
    intro body
    cases ha <;> rfl
  rw [hmask _ rfl, hmask _ ((hfirst b).trans (hfirst a).symm), henclosed a ha, henclosed b hb,
    flatMap_blanked_eq hsize hlines, hsize]

end

/-- Where masking comes in code to a comment or a string, what stands inside of it, but for its size
and the ends of its lines, changes neither the masked text nor the issues that are found. -/
theorem check_eq_of_encloses {front opener a b closer back : Text} {s : MaskState}
    (ha : Encloses opener a closer) (hb : Encloses opener b closer) (hsize : a.size = b.size)
    (hlines : ∀ n : Nat, a.bytes[n]? = some '\n'.toUInt8 ↔ b.bytes[n]? = some '\n'.toUInt8)
    (hreach : Reaches (front ++ opener ++ a ++ closer ++ back) front.size s)
    (hmode : s.mode = .code) :
    mask (front ++ opener ++ a ++ closer ++ back) =
        mask (front ++ opener ++ b ++ closer ++ back) ∧
      ∀ validators o, check validators (front ++ opener ++ a ++ closer ++ back) o =
        check validators (front ++ opener ++ b ++ closer ++ back) o := by
  have hmask := maskFrom_eq_of_encloses ha hb hsize hlines hreach hmode
  have hmasked : mask (front ++ opener ++ a ++ closer ++ back) =
      mask (front ++ opener ++ b ++ closer ++ back) := congrArg Prod.fst hmask
  have hopen : openComment? (front ++ opener ++ a ++ closer ++ back) =
      openComment? (front ++ opener ++ b ++ closer ++ back) := by
    rw [openComment?, openComment?, hmask]
  have hlength : Text.size (front ++ opener ++ a ++ closer ++ back) =
      Text.size (front ++ opener ++ b ++ closer ++ back) := by
    simp only [Text.size_append, hsize]
  refine ⟨hmasked, fun validators o => ?_⟩
  rw [check, check, structureIssues, structureIssues, commentIssues, commentIssues, hmasked, hopen,
    hlength]
  simp only [contentInTime, hmasked]

/-- A comment with braces and one with a letter of two bytes. -/
theorem check_eq_bracesInComment :
    mask (['a', '{'] ++ ['/', '*'] ++ ['}', '{'] ++ ['*', '/'] ++ ['}']) =
        mask (['a', '{'] ++ ['/', '*'] ++ ['é'] ++ ['*', '/'] ++ ['}']) ∧
      ∀ validators o,
        check validators (['a', '{'] ++ ['/', '*'] ++ ['}', '{'] ++ ['*', '/'] ++ ['}']) o =
          check validators (['a', '{'] ++ ['/', '*'] ++ ['é'] ++ ['*', '/'] ++ ['}']) o := by
  have hletter : Reaches (['a', '{'] ++ ['/', '*'] ++ ['}', '{'] ++ ['*', '/'] ++ ['}']) 1 {} :=
    .step .start rfl
  have hlines : ∀ n : Nat, (Text.bytes ['}', '{'])[n]? = some '\n'.toUInt8 ↔
      (Text.bytes ['é'])[n]? = some '\n'.toUInt8 := by
    rintro (_ | _ | n)
    · decide
    · decide
    · exact Iff.rfl
  exact check_eq_of_encloses (.comment (by simp)) (.comment (by simp)) rfl hlines
    (.step hletter rfl) rfl

end PageLint.Style
