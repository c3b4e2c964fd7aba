import PageLint.Proofs.Style.ByteScan

/-! # The scan over the bytes and masking

The scan over the bytes of a style sheet and masking go along together: behind each word the two have
the same things open, and the copy has what masking has written in front of the bytes that are left.
Where masking goes through a line comment, the scan is already behind it. -/

namespace PageLint.Style

/-- How many comments are open. -/
def Mode.depth : Mode → Nat
  | comment _ depth => depth
  | _ => 0

/-- The quote that is open. -/
def Mode.quote? : Mode → Option Char
  | quoted q => some q
  | _ => none

/-- The scan and masking have the same things open. Inside of a line comment the scan is not to be
found. -/
structure ByteScan.Agrees (b : ByteScan) (s : MaskState) : Prop where
  openers : b.openers.length = s.mode.depth
  quote : b.quote = s.mode.quote?.map Char.toUInt8
  interpolations : b.interpolations = s.interpolations
  parens : b.parens = s.parens
  isQuoted : s.IsQuoted
  depth_pos : ∀ start depth, s.mode = .comment start depth → 0 < depth
  line : s.mode ≠ .lineComment
  inside : s.mode ≠ .code → s.afterColon = false

/-- The scan and masking have come behind `head`, for which masking has written `front`. -/
structure ByteScan.Follows (source : Text) (b : ByteScan) (head front : Text) (s : MaskState)
    (t : Text) : Prop where
  split : source = head ++ t
  pos : b.pos = head.size
  size : front.size = head.size
  out : b.out = front.bytes ++ t.bytes
  agrees : b.Agrees s
  colon : s.mode = .code → (s.afterColon = true ↔ head.getLast? = some ':')

namespace ByteScan

section

variable {source head front word rest t out : Text} {b : ByteScan} {s s' : MaskState} {c : Char}

theorem pair_iff {d e : Char} (hc : c.toNat < 128) (hd : d.toNat < 128) (he : e.toNat < 128) :
    (c.toUInt8 = d.toUInt8 ∧ t.bytes.head? = some e.toUInt8) ↔ (c = d ∧ t.head? = some e) := by
  rw [Text.toUInt8_inj hc hd, Text.head?_bytes_eq_some_iff he]

namespace Agrees

theorem comment {start depth : Nat} (h : b.Agrees s) (hmode : s.mode = .comment start depth) :
    b.openers.length = depth ∧ b.openers ≠ [] ∧ b.quote = none := by
  have hlength := h.openers
  have hquote := h.quote
  have hpos := h.depth_pos start depth hmode
  rw [hmode] at hlength hquote
  exact ⟨hlength, List.ne_nil_of_length_pos (hlength ▸ hpos), hquote⟩

theorem quoted {q : Char} (h : b.Agrees s) (hmode : s.mode = .quoted q) :
    b.openers = [] ∧ b.quote = some q.toUInt8 ∧ q.toNat < 128 := by
  have hlength := h.openers
  have hquote := h.quote
  rw [hmode] at hlength hquote
  refine ⟨List.length_eq_zero_iff.mp hlength, hquote, ?_⟩
  rcases h.isQuoted q hmode with rfl | rfl <;> decide

theorem code (h : b.Agrees s) (hmode : s.mode = .code) : b.openers = [] ∧ b.quote = none := by
  have hlength := h.openers
  have hquote := h.quote
  rw [hmode] at hlength hquote
  exact ⟨List.length_eq_zero_iff.mp hlength, hquote⟩

theorem quote_lt (h : b.Agrees s) : ∀ q, b.quote = some q → q.toNat < 128 := by
  intro q hq
  cases hmode : s.mode with
  | quoted q' =>
      obtain ⟨-, hquote, hlt⟩ := h.quoted hmode
      obtain rfl := Option.some.inj (hq.symm.trans hquote)
      rwa [Text.toNat_toUInt8 hlt]
  | _ =>
      have hquote := h.quote
      rw [hmode, hq] at hquote
      cases hquote

end Agrees

theorem size_flatMap_blanked (t : Text) : Text.size (t.flatMap blanked) = t.size := by
  rw [← Text.length_bytes, bytes_flatMap_blanked, List.length_map, Text.length_bytes]

/-- Both have gone on behind a word. -/
theorem Follows.advance {b' : ByteScan} (h : Follows source b head front s (word ++ rest))
    (hpos : b'.pos = b.pos + word.size) (hsize : out.size = word.size)
    (hout : b'.out = (front ++ out).bytes ++ rest.bytes) (hagrees : b'.Agrees s')
    (hcolon : s'.mode = .code → (s'.afterColon = true ↔ (head ++ word).getLast? = some ':')) :
    Follows source b' (head ++ word) (front ++ out) s' rest where
  split := by rw [h.split, List.append_assoc]
  pos := by rw [hpos, h.pos, Text.size_append]
  size := by rw [Text.size_append, Text.size_append, h.size, hsize]
  out := hout
  agrees := hagrees
  colon := hcolon

theorem Follows.pos_front (h : Follows source b head front s t) : b.pos = front.bytes.length := by
  rw [h.pos, ← h.size, Text.length_bytes]

theorem Follows.out_hide (h : Follows source b head front s (word ++ rest)) :
    (b.hide word.size).out = (front ++ word.flatMap blanked).bytes ++ rest.bytes := by
  rw [hide, skip]
  dsimp only
  rw [h.out, h.pos_front, ← Text.length_bytes word, Text.bytes_append, ← List.append_assoc,
    blankBetween_append, Text.bytes_append, bytes_flatMap_blanked]

theorem Follows.out_skip (h : Follows source b head front s (word ++ rest)) :
    (b.skip word.size).out = (front ++ word).bytes ++ rest.bytes := by
  rw [skip]
  dsimp only
  rw [h.out, Text.bytes_append, Text.bytes_append, List.append_assoc]

/-- The scan takes steps over a word that masking takes, too. -/
structure Advance (source : Text) (b : ByteScan) (head front : Text) (s : MaskState) (t : Text)
    (word out rest : Text) (s' : MaskState) (b' : ByteScan) (k : Nat) : Prop where
  split : t = word ++ rest
  consumes : word ≠ []
  steps_le : k ≤ word.size
  run : Run source k b b'
  text : (maskFrom b.pos s t).1 = out ++ (maskFrom b'.pos s' rest).1
  follows : Follows source b' (head ++ word) (front ++ out) s' rest

namespace Follows

variable {b' : ByteScan} {k : Nat}

theorem run_single (h : Follows source b head front s (c :: t)) (hc : c.toNat < 128)
    (hact : b.act source head.bytes.getLast? c.toUInt8 t.bytes.head? = .ok b') :
    Run source 1 b b' := by
  have hbytes : source.bytes = head.bytes ++ c.toUInt8 :: t.bytes := by
    rw [h.split, Text.bytes_append, Text.bytes_cons, Text.utf8EncodeChar_of_ascii hc,
      List.singleton_append]
  have hpos : b.pos = head.bytes.length := by rw [h.pos, Text.length_bytes]
  refine .single ?_
  rw [step?_eq hbytes hpos, hact]
  rfl

theorem advance_stride (h : Follows source b head front s (c :: t))
    (hstride : Stride b.pos s c t.head? word out s') (hsplit : c :: t = word ++ rest)
    (hk : k ≤ word.size) (hrun : Run source k b b') (hpos : b'.pos = b.pos + word.size)
    (hsize : out.size = word.size) (hout : b'.out = (front ++ out).bytes ++ rest.bytes)
    (hagrees : b'.Agrees s')
    (hcolon : s'.mode = .code → (s'.afterColon = true ↔ (head ++ word).getLast? = some ':')) :
    Advance source b head front s (c :: t) word out rest s' b' k where
  split := hsplit
  consumes := by
    obtain rfl | ⟨d, -, rfl⟩ := hstride.word_eq <;> simp
  steps_le := hk
  run := hrun
  text := by
    rw [hstride.maskFrom_eq h.agrees.isQuoted rfl hsplit, hpos]
    rfl
  follows := (hsplit ▸ h).advance hpos hsize hout hagrees hcolon

/-- A word that is hidden. -/
theorem advance_hide (h : Follows source b head front s (c :: t))
    (hstride : Stride b.pos s c t.head? word (word.flatMap blanked) s')
    (hsplit : c :: t = word ++ rest) (hk : k ≤ word.size) (hrun : Run source k b b')
    (hpos : b'.pos = b.pos + word.size) (hout : b'.out = (b.hide word.size).out)
    (hagrees : b'.Agrees s') (hcolon : s'.mode = .code → s'.afterColon = false ∧
      (head ++ word).getLast? ≠ some ':') :
    Advance source b head front s (c :: t) word (word.flatMap blanked) rest s' b' k := by
  refine h.advance_stride hstride hsplit hk hrun hpos (size_flatMap_blanked word) ?_ hagrees ?_
  · rw [hout]
    exact (hsplit ▸ h).out_hide
  · intro hmode
    obtain ⟨hfalse, hlast⟩ := hcolon hmode
    rw [hfalse]
    exact iff_of_false Bool.false_ne_true hlast

/-! ### Comments -/

theorem advance_comment {start depth : Nat} (h : Follows source b head front s (c :: t))
    (hmode : s.mode = .comment start depth) :
    ∃ word out rest s' b' k, Advance source b head front s (c :: t) word out rest s' b' k := by
  have ha := h.agrees
  obtain ⟨hlength, hopeners, hquote⟩ := ha.comment hmode
  have hinside := ha.inside (by simp [hmode])
  by_cases hopen : c = '/' ∧ t.head? = some '*'
  · obtain ⟨rfl, hnext⟩ := hopen
    have hact : b.act source head.bytes.getLast? '/'.toUInt8 t.bytes.head? =
        .ok { b.hide 2 with openers := b.pos :: b.openers } := by
      rw [act, if_pos hopeners, if_pos ⟨rfl, (Text.head?_bytes_eq_some_iff (by decide)).mpr hnext⟩]
    obtain ⟨u, rfl⟩ := List.head?_eq_some_iff.mp hnext
    refine ⟨_, _, u, _, _, 1, h.advance_hide (.nest hmode) rfl (by decide)
      (h.run_single (by decide) hact) rfl rfl ?_ (by simp)⟩
    exact ⟨congrArg (· + 1) hlength, hquote, ha.interpolations, ha.parens, by rintro q ⟨⟩,
      by rintro _ _ ⟨⟩; omega, by simp, fun _ => hinside⟩
  · by_cases hclose : c = '*' ∧ t.head? = some '/'
    · obtain ⟨rfl, hnext⟩ := hclose
      have hact : b.act source head.bytes.getLast? '*'.toUInt8 t.bytes.head? =
          .ok { b.hide 2 with openers := b.openers.tail } := by
        rw [act, if_pos hopeners, if_neg (fun h => absurd h.1 (by decide)),
          if_pos ⟨rfl, (Text.head?_bytes_eq_some_iff (by decide)).mpr hnext⟩]
      have hleft : b.openers.tail.length = (Mode.leaveComment start depth).depth ∧
          (Mode.leaveComment start depth).quote? = none ∧
          Mode.leaveComment start depth ≠ .lineComment ∧
          ∀ start' depth', Mode.leaveComment start depth = .comment start' depth' → 0 < depth' := by
        rw [List.length_tail, hlength]
        match depth with
        | 0 | 1 => exact ⟨rfl, rfl, by simp [Mode.leaveComment], by simp [Mode.leaveComment]⟩
        | n + 2 =>
            refine ⟨rfl, rfl, by simp [Mode.leaveComment], ?_⟩
            rintro _ _ ⟨⟩
            exact Nat.succ_pos n
      obtain ⟨hdepth, hnone, hline, hpositive⟩ := hleft
      obtain ⟨u, rfl⟩ := List.head?_eq_some_iff.mp hnext
      refine ⟨_, _, u, _, _, 1, h.advance_hide (.unnest hmode) rfl (by decide)
        (h.run_single (by decide) hact) rfl rfl ?_ (by simp [hinside])⟩
      refine ⟨hdepth, ?_, ha.interpolations, ha.parens, ?_, hpositive, hline, fun _ => hinside⟩
      · exact hquote.trans (by rw [hnone]; rfl)
      · exact (Stride.unnest (n := b.pos) hmode).isQuoted ha.isQuoted
    · have hact : c.toNat < 128 →
          b.act source head.bytes.getLast? c.toUInt8 t.bytes.head? = .ok (b.pass 1) := by
        intro hc
        have hopen' := mt (pair_iff hc (by decide) (by decide)).mp hopen
        have hclose' := mt (pair_iff hc (by decide) (by decide)).mp hclose
        rw [act, if_pos hopeners, if_neg hopen', if_neg hclose', pass, if_pos (.inl hopeners)]
      have hrun := run_char h.split h.pos ha.quote_lt hact
      rw [pass, if_pos (.inl hopeners)] at hrun
      have hstride : Stride b.pos s c t.head? [c] ([c].flatMap blanked) s := by
        rw [List.flatMap_singleton]
        exact .commented hmode hopen hclose
      refine ⟨_, _, t, _, _, _, h.advance_hide hstride rfl (Nat.le_refl _) hrun rfl rfl
        ?_ (by simp [hmode])⟩
      exact ⟨ha.openers, ha.quote, ha.interpolations, ha.parens, ha.isQuoted, ha.depth_pos,
        ha.line, ha.inside⟩

/-! ### Strings -/

theorem standsAt (h : Follows source b head front s t) : source.StandsAt b.pos t :=
  ⟨head, h.split, h.pos.symm⟩

theorem advance_quoted {q : Char} (h : Follows source b head front s (c :: t))
    (hmode : s.mode = .quoted q) :
    ∃ word out rest s' b' k, Advance source b head front s (c :: t) word out rest s' b' k := by
  have ha := h.agrees
  obtain ⟨hopeners, hquote, hascii⟩ := ha.quoted hmode
  have hagrees : ∀ k, (b.hide k).Agrees s := fun k =>
    ⟨ha.openers, ha.quote, ha.interpolations, ha.parens, ha.isQuoted, ha.depth_pos, ha.line,
      ha.inside⟩
  by_cases hescape : c = '\\'
  · subst hescape
    have hslice : source.sliceFrom (b.pos + 1) = .ok t := h.standsAt.skip_cons.sliceFrom_eq
    have hact : b.act source head.bytes.getLast? '\\'.toUInt8 t.bytes.head? =
        .ok (b.hide (1 + t.head?.elim 0 Char.utf8Size)) := by
      simp only [act, hopeners, hquote, ne_eq, not_true_eq_false, ↓reduceIte, hslice]
      rfl
    have hrun := h.run_single (by decide) hact
    cases t with
    | nil =>
        have hstride : Stride b.pos s '\\' none ['\\'] (['\\'].flatMap blanked) s := .lastEscape hmode
        exact ⟨_, _, [], _, _, 1, h.advance_hide hstride rfl (by decide) hrun rfl rfl (hagrees _)
          (by simp [hmode])⟩
    | cons e u =>
        have hsize : Text.size ['\\', e] = 1 + e.utf8Size := rfl
        have hstride : Stride b.pos s '\\' (some e) ['\\', e] (['\\', e].flatMap blanked) s := by
          have hout : ['\\', e].flatMap blanked = ' ' :: blanked e := by
            rw [List.flatMap_cons, List.flatMap_singleton]
            rfl
          rw [hout]
          exact .escape hmode e
        refine ⟨_, _, u, _, _, 1, h.advance_hide hstride rfl (by omega) hrun ?_ ?_ (hagrees _)
          (by simp [hmode])⟩
        · rw [hsize]
          rfl
        · rw [hsize]
          rfl
  · by_cases hend : c = q ∨ c = '\n'
    · have hc : c.toNat < 128 := by
        rcases hend with rfl | rfl
        · exact hascii
        · decide
      have hact : b.act source head.bytes.getLast? c.toUInt8 t.bytes.head? =
          .ok { b.skip 1 with quote := none } := by
        have hescape' := mt (Text.toUInt8_inj hc (show '\\'.toNat < 128 by decide)).mp hescape
        have hend' : c.toUInt8 = q.toUInt8 ∨ c.toUInt8 = '\n'.toUInt8 :=
          hend.imp (congrArg _) (congrArg _)
        simp only [act, hopeners, hquote, hescape', hend', ne_eq, not_true_eq_false, ↓reduceIte]
      have hone : Text.size [c] = 1 := Text.utf8Size_of_ascii hc
      have hcolon : c ≠ ':' := by
        rcases hend with rfl | rfl
        · rcases ha.isQuoted c hmode with rfl | rfl <;> decide
        · decide
      have hout : (b.skip 1).out = (front ++ [c]).bytes ++ t.bytes :=
        (show Follows source b head front s ([c] ++ t) from h).out_skip
      refine ⟨_, _, t, _, _, 1, h.advance_stride (.unquote hmode hescape hend) rfl (by omega)
        (h.run_single hc hact) (by rw [hone]; rfl) rfl hout ?_ ?_⟩
      · exact ⟨congrArg List.length hopeners, rfl, ha.interpolations, ha.parens,
          by rintro q ⟨⟩, by rintro _ _ ⟨⟩, by simp, by simp⟩
      · simp [hcolon]
    · have hact : c.toNat < 128 →
          b.act source head.bytes.getLast? c.toUInt8 t.bytes.head? = .ok (b.pass 1) := by
        intro hc
        have hescape' := mt (Text.toUInt8_inj hc (show '\\'.toNat < 128 by decide)).mp hescape
        have hend' : ¬ (c.toUInt8 = q.toUInt8 ∨ c.toUInt8 = '\n'.toUInt8) := by
          rwa [Text.toUInt8_inj hc hascii, Text.toUInt8_inj hc (by decide)]
        simp only [act, pass, hopeners, hquote, hescape', hend', ne_eq, not_true_eq_false,
          ↓reduceIte, reduceCtorEq, not_false_eq_true, or_true]
      have hrun := run_char h.split h.pos ha.quote_lt hact
      rw [pass, if_pos (.inr (by simp [hquote]))] at hrun
      have hstride : Stride b.pos s c t.head? [c] ([c].flatMap blanked) s := by
        rw [List.flatMap_singleton]
        exact .quoted hmode hescape hend
      exact ⟨_, _, t, _, _, _, h.advance_hide hstride rfl (Nat.le_refl _) hrun rfl rfl (hagrees _)
        (by simp [hmode])⟩

end Follows

/-! ### Code -/

/-- A step at an ASCII character of code, told by the characters around it. -/
theorem act_code (hopeners : b.openers = []) (hquote : b.quote = none) (hc : c.toNat < 128) :
    b.act source head.bytes.getLast? c.toUInt8 t.bytes.head? =
      if c = '/' ∧ t.head? = some '*' then .ok { b.hide 2 with openers := [b.pos] }
      else if c = '/' ∧ t.head? = some '/' ∧ b.parens = 0 ∧ head.getLast? ≠ some ':' then do
        let rest ← source.sliceFrom b.pos
        return b.hide (Text.size (rest.takeWhile (· != '\n')))
      else if c = '"' ∨ c = '\'' then .ok { b.skip 1 with quote := some c.toUInt8 }
      else if c = '#' ∧ t.head? = some '\x7b' then
        .ok { b.skip 2 with
          out := b.out.set (b.pos + 1) '('.toUInt8
          interpolations := b.interpolations + 1 }
      else if c = '\x7d' ∧ b.interpolations > 0 then
        .ok { b.skip 1 with
          out := b.out.set b.pos ')'.toUInt8
          interpolations := b.interpolations - 1 }
      else if c = '(' then .ok { b.skip 1 with parens := b.parens + 1 }
      else if c = ')' then .ok { b.skip 1 with parens := b.parens - 1 }
      else .ok (b.skip 1) := by
  have hchar := fun (d : Char) (hd : d.toNat < 128) => Text.toUInt8_inj hc hd
  have hnext := fun (d : Char) (hd : d.toNat < 128) =>
    Text.head?_bytes_eq_some_iff (t := t) hd
  have hprevious := Text.getLast?_bytes_eq_some_iff (t := head) (show ':'.toNat < 128 by decide)
  simp only [act, hopeners, hquote, ne_eq, not_true_eq_false, ↓reduceIte, hprevious,
    hchar '/' (by decide), hnext '*' (by decide), hnext '/' (by decide), hchar '"' (by decide),
    hchar '\'' (by decide), hchar '#' (by decide), hnext '\x7b' (by decide),
    hchar '\x7d' (by decide), hchar '(' (by decide), hchar ')' (by decide)]

theorem Agrees.of_code (hopeners : b.openers = []) (hquote : b.quote = none)
    (hmode : s.mode = .code) (hinterpolations : b.interpolations = s.interpolations)
    (hparens : b.parens = s.parens) : b.Agrees s :=
  ⟨by rw [hopeners, hmode]; rfl, by rw [hquote, hmode]; rfl, hinterpolations, hparens,
    by simp [MaskState.IsQuoted, hmode], by simp [hmode], by simp [hmode], by simp [hmode]⟩

namespace Follows

variable {b' : ByteScan} {d : Char}

/-- A single ASCII character of code. -/
theorem advance_single (h : Follows source b head front s (c :: t)) (hc : c.toNat < 128)
    (hstride : Stride b.pos s c t.head? [c] [d] s')
    (hact : b.act source head.bytes.getLast? c.toUInt8 t.bytes.head? = .ok b')
    (hpos : b'.pos = b.pos + 1) (hd : d.utf8Size = 1)
    (hout : b'.out = (front ++ [d]).bytes ++ t.bytes) (hagrees : b'.Agrees s')
    (hcolon : s'.mode = .code → (s'.afterColon = true ↔ c = ':')) :
    Advance source b head front s (c :: t) [c] [d] t s' b' 1 := by
  have hone : Text.size [c] = 1 := Text.utf8Size_of_ascii hc
  refine h.advance_stride hstride rfl (by omega) (h.run_single hc hact) (by rw [hone, hpos])
    (by rw [hone, ← hd]; rfl) hout hagrees fun hmode => ?_
  rw [hcolon hmode, List.getLast?_concat, Option.some_inj]

/-- One byte of the copy is overwritten. -/
theorem out_set (h : Follows source b head front s (c :: t)) (hc : c.toNat < 128)
    (hd : d.toNat < 128) :
    b.out.set b.pos d.toUInt8 = (front ++ [d]).bytes ++ t.bytes := by
  rw [h.out, h.pos_front, Text.bytes_cons, Text.utf8EncodeChar_of_ascii hc, List.singleton_append,
    List.set_append_right _ _ (Nat.le_refl _), Nat.sub_self, List.set_cons_zero,
    Text.bytes_append, Text.bytes_cons, Text.utf8EncodeChar_of_ascii hd, List.append_assoc]
  rfl

/-- Masking goes through a line comment one character at a time and takes its end for code. -/
theorem maskFrom_lineComment (n : Nat) (hmode : s.mode = .lineComment) (colon : Bool) (t : Text) :
    (maskFrom n s t).1 = (t.takeWhile (· != '\n')).flatMap blanked ++
      (maskFrom (n + Text.size (t.takeWhile (· != '\n')))
        { s with mode := .code, afterColon := colon } (t.dropWhile (· != '\n'))).1 := by
  have hquoted : s.IsQuoted := by simp [MaskState.IsQuoted, hmode]
  induction t generalizing n with
  | nil => rw [List.takeWhile_nil, List.dropWhile_nil, maskFrom, maskFrom]; rfl
  | cons c t ih =>
      by_cases hend : c = '\n'
      · subst hend
        have hplain : Stride n { s with mode := .code, afterColon := colon } '\n' t.head? ['\n']
            ['\n'] (MaskState.behind { s with mode := .code, afterColon := colon } '\n') :=
          .plain rfl (by simp) (by simp) (by simp) (by simp) (by simp) (by simp)
        have hleave : Stride n s '\n' t.head? ['\n'] ['\n']
            { s with mode := .code, afterColon := false } := .endLine hmode
        have hline := hleave.maskFrom_eq hquoted rfl
          (List.singleton_append (x := '\n') (l := t)).symm
        have hcode := hplain.maskFrom_eq (by rintro q ⟨⟩) rfl
          (List.singleton_append (x := '\n') (l := t)).symm
        rw [List.takeWhile_cons_of_neg (by simp), List.dropWhile_cons_of_neg (by simp),
          List.flatMap_nil, List.nil_append, Text.size_nil, Nat.add_zero, hline, hcode]
        rfl
      · have hstay : Stride n s c t.head? [c] (blanked c) s := .inLine hmode hend
        have hline := hstay.maskFrom_eq hquoted rfl (List.singleton_append (x := c) (l := t)).symm
        rw [List.takeWhile_cons_of_pos (by simpa using hend),
          List.dropWhile_cons_of_pos (by simpa using hend), List.flatMap_cons, hline,
          size_singleton, List.append_assoc, Text.size_cons, ← Nat.add_assoc]
        exact congrArg (blanked c ++ ·) (ih _)

/-- A line comment takes the scan one step. -/
theorem advance_line (h : Follows source b head front s (c :: t)) (hmode : s.mode = .code)
    (hline : c = '/' ∧ t.head? = some '/' ∧ s.parens = 0 ∧ s.afterColon = false) :
    ∃ word out rest s' b' k, Advance source b head front s (c :: t) word out rest s' b' k := by
  have ha := h.agrees
  obtain ⟨hopeners, hquote⟩ := ha.code hmode
  obtain ⟨rfl, hnext, hparens, hafter⟩ := hline
  have hcolon : head.getLast? ≠ some ':' := by
    rw [Ne, ← h.colon hmode, hafter]
    simp
  let word : Text := ('/' :: t).takeWhile (· != '\n')
  let rest : Text := ('/' :: t).dropWhile (· != '\n')
  let colon := decide ((head ++ word).getLast? = some ':')
  have hword : word = '/' :: t.takeWhile (· != '\n') := List.takeWhile_cons_of_pos (by decide)
  have hrest : rest = t.dropWhile (· != '\n') := List.dropWhile_cons_of_pos (by decide)
  have hsplit : '/' :: t = word ++ rest := List.takeWhile_append_dropWhile.symm
  have hact : b.act source head.bytes.getLast? '/'.toUInt8 t.bytes.head? =
      .ok (b.hide word.size) := by
    rw [act_code hopeners hquote (by decide), if_neg (by simp [hnext]),
      if_pos ⟨rfl, hnext, by rw [ha.parens, hparens], hcolon⟩, h.standsAt.sliceFrom_eq]
    rfl
  have hstride : Stride b.pos s '/' (some '/') ['/'] [' ']
      { s.behind '/' with mode := .lineComment } := .lineComment hmode hparens hafter
  have htext : (maskFrom b.pos s ('/' :: t)).1 = word.flatMap blanked ++
      (maskFrom (b.pos + word.size) { s with afterColon := colon } rest).1 := by
    rw [hstride.maskFrom_eq ha.isQuoted hnext (List.singleton_append (x := '/') (l := t)).symm,
      hword, hrest, size_singleton, List.flatMap_cons, List.append_assoc, Text.size_cons,
      ← Nat.add_assoc, hmode]
    exact congrArg ([' '] ++ ·) (maskFrom_lineComment (b.pos + 1) rfl colon t)
  refine ⟨word, word.flatMap blanked, rest, { s with afterColon := colon }, b.hide word.size, 1,
    hsplit, by simp [hword], ?_, h.run_single (by decide) hact, htext, ?_⟩
  · rw [hword, Text.size_cons]
    exact Nat.le_add_right 1 _
  · exact (hsplit ▸ h).advance rfl (size_flatMap_blanked word) (hsplit ▸ h).out_hide
      (.of_code hopeners hquote hmode ha.interpolations ha.parens) fun _ => by simp [colon]

/-- An interpolation opens. -/
theorem advance_interpolation (h : Follows source b head front s (c :: t)) (hmode : s.mode = .code)
    (hinterpolation : c = '#' ∧ t.head? = some '{') :
    ∃ word out rest s' b' k, Advance source b head front s (c :: t) word out rest s' b' k := by
  have ha := h.agrees
  obtain ⟨hopeners, hquote⟩ := ha.code hmode
  obtain ⟨rfl, hnext⟩ := hinterpolation
  have hact : b.act source head.bytes.getLast? '#'.toUInt8 t.bytes.head? =
      .ok { b.skip 2 with
        out := b.out.set (b.pos + 1) '('.toUInt8
        interpolations := b.interpolations + 1 } := by
    rw [act_code hopeners hquote (by decide), if_neg (by simp), if_neg (by simp), if_neg (by simp),
      if_pos ⟨rfl, hnext⟩]
  obtain ⟨u, rfl⟩ := List.head?_eq_some_iff.mp hnext
  have hout : b.out.set (b.pos + 1) '('.toUInt8 =
      (front ++ ['#', '(']).bytes ++ Text.bytes u := by
    rw [h.out, h.pos_front, List.set_append_right _ _ (Nat.le_add_right _ 1), Nat.add_sub_cancel_left,
      Text.bytes_append, List.append_assoc]
    rfl
  refine ⟨['#', '{'], ['#', '('], u, _, _, 1, h.advance_stride (.interpolation hmode) rfl (by decide)
    (h.run_single (by decide) hact) rfl rfl hout
    (.of_code hopeners hquote hmode (congrArg (· + 1) ha.interpolations) ha.parens) ?_⟩
  simp [MaskState.behind]

/-- A character of code that masking takes alone and the scan does not leave out. -/
theorem advance_character (h : Follows source b head front s (c :: t)) (hmode : s.mode = .code)
    (hcomment : ¬ (c = '/' ∧ t.head? = some '*')) (hinterpolation : ¬ (c = '#' ∧ t.head? = some '{'))
    (hline : ¬ (c = '/' ∧ t.head? = some '/' ∧ s.parens = 0 ∧ s.afterColon = false)) :
    ∃ word out rest s' b' k, Advance source b head front s (c :: t) word out rest s' b' k := by
  have ha := h.agrees
  obtain ⟨hopeners, hquote⟩ := ha.code hmode
  have hout : (b.skip 1).out = (front ++ [c]).bytes ++ t.bytes :=
    (show Follows source b head front s ([c] ++ t) from h).out_skip
  have hbehind : ∀ parens interpolations, (({ s.behind c with
      parens := parens, interpolations := interpolations } : MaskState).afterColon = true ↔
        c = ':') := by simp [MaskState.behind]
  have hline' : ¬ (c = '/' ∧ t.head? = some '/' ∧ b.parens = 0 ∧ head.getLast? ≠ some ':') := by
    rwa [ha.parens, Ne, ← h.colon hmode, Bool.not_eq_true]
  -- the branches of the step are ruled out in its own order, down to the one that passes on
  have hact := fun hc =>
    (act_code hopeners hquote hc : b.act source head.bytes.getLast? c.toUInt8 t.bytes.head? = _)
  simp only [hcomment, hinterpolation, hline', if_false] at hact
  by_cases hquoted : c = '"' ∨ c = '\''
  · have hc : c.toNat < 128 := by rcases hquoted with rfl | rfl <;> decide
    have hone : c.utf8Size = 1 := by rcases hquoted with rfl | rfl <;> rfl
    refine ⟨_, _, t, _, _, 1, h.advance_single hc (.quote hmode hquoted)
      ((hact hc).trans (if_pos hquoted)) rfl hone hout ?_ (by rintro ⟨⟩)⟩
    refine ⟨congrArg List.length hopeners, rfl, ha.interpolations, ha.parens, ?_, by rintro _ _ ⟨⟩,
      by simp, fun _ => ?_⟩
    · rintro q ⟨⟩
      exact hquoted
    · rcases hquoted with rfl | rfl <;> rfl
  simp only [hquoted, if_false] at hact
  by_cases hbrace : c = '}' ∧ s.interpolations > 0
  · obtain ⟨rfl, hopen⟩ := hbrace
    rw [← ha.interpolations] at hopen
    refine ⟨_, _, t, _, _, 1, h.advance_single (by decide)
      (.closeInterpolation hmode (ha.interpolations ▸ hopen))
      ((hact (by decide)).trans (if_pos ⟨rfl, hopen⟩)) rfl rfl
      (h.out_set (by decide) (by decide))
      (.of_code hopeners hquote hmode (congrArg (· - 1) ha.interpolations) ha.parens)
      fun _ => hbehind _ _⟩
  rw [← ha.interpolations] at hbrace
  simp only [hbrace, if_false] at hact
  by_cases hopen : c = '('
  · subst hopen
    exact ⟨_, _, t, _, _, 1, h.advance_single (by decide) (.openParen hmode)
      ((hact (by decide)).trans (if_pos rfl)) rfl rfl hout
      (.of_code hopeners hquote hmode ha.interpolations (congrArg (· + 1) ha.parens))
      fun _ => hbehind _ _⟩
  by_cases hclose : c = ')'
  · subst hclose
    exact ⟨_, _, t, _, _, 1, h.advance_single (by decide) (.closeParen hmode)
      ((hact (by decide)).trans ((if_neg (by decide)).trans (if_pos rfl))) rfl rfl hout
      (.of_code hopeners hquote hmode ha.interpolations (congrArg (· - 1) ha.parens))
      fun _ => hbehind _ _⟩
  have hpass : ∀ k, b.pass k = b.skip k := fun k =>
    if_neg (by simp [hopeners, hquote])
  have hrun := run_char h.split h.pos ha.quote_lt fun hc => by
    rw [hact hc, if_neg hopen, if_neg hclose, hpass]
  rw [hpass] at hrun
  refine ⟨_, _, t, _, _, _, h.advance_stride
    (.plain hmode hcomment hinterpolation hline hquoted (ha.interpolations ▸ hbrace)
      ⟨hopen, hclose⟩) rfl (Nat.le_refl _) hrun rfl rfl hout
    (.of_code hopeners hquote hmode ha.interpolations ha.parens) fun _ => ?_⟩
  rw [List.getLast?_concat, Option.some_inj]
  exact hbehind _ _

theorem advance_code (h : Follows source b head front s (c :: t)) (hmode : s.mode = .code) :
    ∃ word out rest s' b' k, Advance source b head front s (c :: t) word out rest s' b' k := by
  by_cases hcomment : c = '/' ∧ t.head? = some '*'
  · have ha := h.agrees
    obtain ⟨hopeners, hquote⟩ := ha.code hmode
    obtain ⟨rfl, hnext⟩ := hcomment
    have hact : b.act source head.bytes.getLast? '/'.toUInt8 t.bytes.head? =
        .ok { b.hide 2 with openers := [b.pos] } := by
      rw [act_code hopeners hquote (by decide), if_pos ⟨rfl, hnext⟩]
    obtain ⟨u, rfl⟩ := List.head?_eq_some_iff.mp hnext
    refine ⟨_, _, u, _, _, 1, h.advance_hide (.comment hmode) rfl (by decide)
      (h.run_single (by decide) hact) rfl rfl ?_ (by simp)⟩
    exact ⟨rfl, hquote, ha.interpolations, ha.parens, by rintro q ⟨⟩,
      by rintro _ _ ⟨⟩; exact Nat.one_pos, by simp, fun _ => rfl⟩
  by_cases hinterpolation : c = '#' ∧ t.head? = some '{'
  · exact h.advance_interpolation hmode hinterpolation
  by_cases hline : c = '/' ∧ t.head? = some '/' ∧ s.parens = 0 ∧ s.afterColon = false
  · exact h.advance_line hmode hline
  exact h.advance_character hmode hcomment hinterpolation hline

/-! ### The whole scan -/

/-- Where there is text left, the scan goes on. -/
theorem exists_advance (h : Follows source b head front s (c :: t)) :
    ∃ word out rest s' b' k, Advance source b head front s (c :: t) word out rest s' b' k := by
  cases hmode : s.mode with
  | code => exact h.advance_code hmode
  | lineComment => exact absurd hmode h.agrees.line
  | comment start depth => exact h.advance_comment hmode
  | quoted q => exact h.advance_quoted hmode

/-- The scan comes to its end in at most a step for each byte, with what masking writes in the
copy. -/
theorem exists_run (h : Follows source b head front s t) :
    ∃ k last, k ≤ t.size ∧ Run source k b last ∧ last.step? source = .ok none ∧
      last.out = (front ++ (maskFrom b.pos s t).1).bytes := by
  induction hlength : t.length using Nat.strongRecOn generalizing b head front s t with
  | ind length ih =>
      cases t with
      | nil =>
          refine ⟨0, b, Nat.zero_le _, .done b, step?_end ?_, ?_⟩
          · rw [h.pos, h.split, List.append_nil]
          · rw [h.out, maskFrom, List.append_nil]
            exact List.append_nil _
      | cons c t =>
          obtain ⟨word, out, rest, s', b', j, hadvance⟩ := h.exists_advance
          have hshorter : rest.length < length := by
            have hword := List.length_pos_iff.mpr hadvance.consumes
            rw [← hlength, hadvance.split, List.length_append]
            omega
          obtain ⟨k, last, hle, hrun, hend, hout⟩ := ih rest.length hshorter hadvance.follows rfl
          refine ⟨j + k, last, ?_, hadvance.run.trans hrun, hend, ?_⟩
          · rw [hadvance.split, Text.size_append]
            exact Nat.add_le_add hadvance.steps_le hle
          · rw [hout, hadvance.text, List.append_assoc]

/-- At the start the copy is the source itself. -/
theorem start (source : Text) : Follows source { out := source.bytes } [] [] {} source where
  split := rfl
  pos := rfl
  size := rfl
  out := rfl
  agrees := .of_code rfl rfl rfl rfl rfl
  colon _ := by simp

end Follows

end

end ByteScan

end PageLint.Style
