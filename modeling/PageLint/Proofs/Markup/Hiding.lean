import PageLint.Proofs.Markup.Interruption
import PageLint.Proofs.Markup.Scan

/-! # What comments and raw text hide

What stands in a comment, or in an element whose body is raw text, is passed over in one go with the
opener in front of it. So two documents that differ only there have the same tokens and the same
issues, if the scan comes to the opener in both of them. -/

namespace PageLint.Markup

/-! ## Tags at the front of a text -/

theorem untilBracket?_replace {quote : Option Char} {t inside rest : Text}
    (h : untilBracket? quote t = some (inside, rest)) (s : Text) :
    untilBracket? quote (inside ++ '>' :: s) = some (inside, s) := by
  induction t generalizing quote inside with
  | nil => cases h
  | cons c t ih =>
      rw [untilBracket?] at h
      split at h
      · rename_i hend
        obtain ⟨rfl, rfl⟩ := Prod.mk.inj (Option.some.inj h)
        simp [untilBracket?, hend.1]
      · rename_i hinside
        obtain ⟨⟨inside', rest'⟩, hrest, heq⟩ := Option.map_eq_some_iff.mp h
        obtain ⟨rfl, rfl⟩ := Prod.mk.inj heq
        rw [List.cons_append, untilBracket?, if_neg hinside, ih hrest]
        rfl

/-- The name of a tag, and what stands up to the bracket. -/
theorem exists_name_of_namedTag? {closing : Bool} {t : Text} {p : TagParts}
    (h : namedTag? closing t = some p) :
    ∃ name : Name, p.name = name.text ∧ (∀ c, p.attributes.head? = some c → ¬ isNameChar c) ∧
      ∀ s, untilBracket? none (p.attributes ++ '>' :: s) = some (p.attributes, s) := by
  unfold namedTag? at h
  split at h
  · rename_i hhead
    obtain ⟨⟨attributes, rest⟩, hbracket, rfl⟩ := Option.map_eq_some_iff.mp h
    cases t with
    | nil => cases hhead
    | cons c t =>
        have hstart : isNameStart c := by simpa using hhead
        have hname : (c :: t).takeWhile isNameChar = c :: t.takeWhile isNameChar :=
          List.takeWhile_cons_of_pos (isNameChar_of_isNameStart hstart)
        refine ⟨⟨c, t.takeWhile isNameChar, hstart, List.all_takeWhile⟩, hname, fun d hd => ?_,
          untilBracket?_replace hbracket⟩
        have hsplit := untilBracket?_eq hbracket
        have hbehind := List.head?_dropWhile_not isNameChar (c :: t)
        change attributes.head? = some d at hd
        rw [hsplit, List.head?_append, hd] at hbehind
        simpa using hbehind
  · cases h

/-- A tag is read from its own text, whatever follows. -/
theorem exists_word_of_tag? {t : Text} {p : TagParts} (h : tag? t = some p) :
    ∃ word, t = word ++ p.rest ∧ ∀ s, tag? (word ++ s) = some { p with rest := s } := by
  refine ⟨(if p.closing then ['/'] else []) ++ (p.name ++ (p.attributes ++ ['>'])), ?_, fun s => ?_⟩
  · rw [(isOf_of_tag? h).text]
    simp
  · unfold tag? at h
    split at h
    · obtain ⟨name, hname, hapart, hbracket⟩ := exists_name_of_namedTag? h
      have hclosing := (isOf_of_namedTag? h).2
      rw [hclosing, hname]
      simp only [↓reduceIte, List.append_assoc, List.cons_append, List.nil_append]
      rw [tag?, namedTag?_of_untilBracket? true name (hbracket s) hapart, ← hname, ← hclosing]
    · obtain ⟨name, hname, hapart, hbracket⟩ := exists_name_of_namedTag? h
      have hclosing := (isOf_of_namedTag? h).2
      rw [hclosing, hname]
      simp only [Bool.false_eq_true, ↓reduceIte, List.append_assoc, List.cons_append,
        List.nil_append]
      rw [tag?_of_untilBracket? name (hbracket s) hapart, ← hname, ← hclosing]

/-- A whole tag may stand in front of any text. -/
theorem tag?_append {t : Text} {p : TagParts} (h : tag? t = some p) (hend : p.rest = []) (s : Text) :
    tag? (t ++ s) = some { p with rest := s } := by
  obtain ⟨word, hword, htag⟩ := exists_word_of_tag? h
  rw [hend, List.append_nil] at hword
  rw [hword, htag]

theorem size_of_tag? {t : Text} {p : TagParts} (h : tag? t = some p) (hend : p.rest = []) :
    Text.size ('<' :: t) = p.size := by
  obtain ⟨front, hfront, hsize⟩ := (isOf_of_tag? h).standsAt (Text.standsAt_zero ('<' :: t))
  rw [hend, List.append_nil] at hfront
  rw [hfront, hsize, Nat.zero_add]

theorem TagParts.ahead_rest (p : TagParts) (t : Text) :
    TagParts.ahead { p with rest := t } =
      if p.opensRawText then fromCloser ("</".toList ++ Text.lowerAscii p.name) t else t := rfl

theorem TagParts.IsOf.not_mem_lowerAscii {t : Text} {p : TagParts} (h : p.IsOf t) :
    '<' ∉ Text.lowerAscii p.name := by
  intro hmem
  obtain ⟨c, hc, hlower⟩ := List.mem_map.mp hmem
  have hchar := isNameChar_toLower (h.name_chars c hc)
  rw [hlower] at hchar
  exact absurd hchar (by decide)

/-! ## Closers

A closer holds no `<` behind its first character, so none begins in a text and ends behind a `<`
that follows. -/

section

variable {l t s raw v X X' : Text}

theorem startsFolded_iff {word : Text} :
    startsFolded word t = true ↔ word <+: Text.lowerAscii t := by
  induction word generalizing t with
  | nil => simp [startsFolded]
  | cons c word ih =>
      cases t with
      | nil => simp [startsFolded, Text.lowerAscii]
      | cons d t =>
          have hcons : Text.lowerAscii (d :: t) = d.toLower :: Text.lowerAscii t := rfl
          rw [startsFolded, Bool.and_eq_true, ih, hcons, List.cons_prefix_cons, beq_iff_eq, eq_comm]

theorem startsFolded_append (hl : '<' ∉ l) : startsFolded l (t ++ '<' :: s) = startsFolded l t := by
  induction l generalizing t with
  | nil => rw [startsFolded, startsFolded]
  | cons c l ih =>
      obtain ⟨hc, hl⟩ := List.ne_and_not_mem_of_not_mem_cons hl
      cases t with
      | nil =>
          have hopen : '<'.toLower = '<' := by decide
          rw [List.nil_append, startsFolded, startsFolded, hopen, beq_false_of_ne hc, Bool.false_and]
      | cons d t => rw [List.cons_append, startsFolded, startsFolded, ih hl]

/-- Whether a closer begins at a character does not depend on what follows the next `<`. -/
theorem startsFolded_closer (hl : '<' ∉ l) (c : Char) :
    startsFolded ('<' :: l) (c :: (t ++ '<' :: s)) = startsFolded ('<' :: l) (c :: t) := by
  rw [startsFolded, startsFolded, startsFolded_append hl]

theorem fromCloser_eq_nil_or (closer t : Text) :
    fromCloser closer t = [] ∨ startsFolded closer (fromCloser closer t) = true := by
  induction t with
  | nil => exact .inl rfl
  | cons c t ih =>
      rw [fromCloser]
      split
      · rename_i hstarts
        exact .inr hstarts
      · exact ih

/-- A text that holds no closer is passed over. -/
theorem fromCloser_append (hl : '<' ∉ l) (ht : ¬ ('<' :: l) <:+: Text.lowerAscii t) :
    fromCloser ('<' :: l) (t ++ '<' :: s) = fromCloser ('<' :: l) ('<' :: s) := by
  induction t with
  | nil => rfl
  | cons c t ih =>
      have hstarts : startsFolded ('<' :: l) (c :: t) = false := by
        rw [← Bool.not_eq_true, startsFolded_iff]
        exact fun hprefix => ht hprefix.isInfix
      have hrest : ¬ ('<' :: l) <:+: Text.lowerAscii t := fun hin => ht (List.infix_cons hin)
      rw [List.cons_append, fromCloser, startsFolded_closer hl, hstarts, ← ih hrest]
      rfl

/-- The text begins as comments and opening tags do. -/
def IsOpener (t : Text) : Prop := ∃ c back, t = '<' :: c :: back ∧ (c = '!' ∨ isNameStart c)

theorem toLower_ne_slash {c : Char} (h : c = '!' ∨ isNameStart c) : c.toLower ≠ '/' := by
  rcases h with rfl | h
  · decide
  · exact Text.forall_ascii (P := fun c => isNameStart c → c.toLower ≠ '/') (by decide)
      (Text.toNat_lt_of_isAsciiLetter h) h

/-- A closer that is found in front of an opener is found there in front of any other. -/
theorem fromCloser_replace (hl : '<' ∉ l) (hX : IsOpener X) (hX' : IsOpener X')
    (h : fromCloser ('<' :: '/' :: l) (raw ++ (v ++ X)) = v ++ X) :
    fromCloser ('<' :: '/' :: l) (raw ++ (v ++ X')) = v ++ X' := by
  obtain ⟨c, s, rfl, hc⟩ := hX
  obtain ⟨c', s', rfl, -⟩ := hX'
  have hl : '<' ∉ '/' :: l := by simp [hl]
  have hfound : startsFolded ('<' :: '/' :: l) (v ++ '<' :: c :: s) = true := by
    have hor := fromCloser_eq_nil_or ('<' :: '/' :: l) (raw ++ (v ++ '<' :: c :: s))
    rw [h] at hor
    exact hor.resolve_left (by simp)
  cases v with
  | nil =>
      simp [startsFolded, toLower_ne_slash hc] at hfound
  | cons d v =>
      rw [List.cons_append, startsFolded_closer hl] at hfound
      induction raw with
      | nil =>
          rw [List.nil_append, List.cons_append, fromCloser, startsFolded_closer hl, hfound]
          rfl
      | cons e raw ih =>
          have hjoin : ∀ u : Text, raw ++ (d :: v ++ u) = (raw ++ d :: v) ++ u := by
            intro u
            rw [List.append_assoc]
          have hnot : startsFolded ('<' :: '/' :: l) (e :: (raw ++ d :: v)) = false := by
            rw [← Bool.not_eq_true]
            intro hstarts
            rw [List.cons_append, hjoin, fromCloser, startsFolded_closer hl, hstarts] at h
            have hlength := congrArg List.length h
            simp at hlength
            omega
          rw [List.cons_append, hjoin, fromCloser, startsFolded_closer hl, hnot] at h ⊢
          rw [← hjoin] at h ⊢
          exact ih h

end

/-! ## Tokens -/

/-- The offset of the `<`. -/
def Token.start : Token → Nat
  | .comment n _ | .openComment n | .opening _ _ _ n _ | .closing _ n _ => n

/-- One of the tokens starts at offset `m`. -/
def Reach (tokens : List Token) (m : Nat) : Prop := ∃ tok ∈ tokens, tok.start = m

/-- At offset `n`, the scan makes a token of `word` and goes on with `rest`. -/
inductive Takes (n : Nat) : (word rest : Text) → Token → Prop where
  | comment {body rest : Text} (h : ¬ "-->".toList <:+: body) :
      Takes n ("<!--".toList ++ (body ++ "-->".toList)) rest (.comment n (n + 7 + body.size))
  | openComment {t : Text} (h : Text.splitAtFirst? t "-->".toList = none) :
      Takes n ("<!--".toList ++ t) [] (.openComment n)
  | tag {t raw rest : Text} {p : TagParts} (htag : tag? t = some p) (hend : p.rest = [])
      (hahead : TagParts.ahead { p with rest := raw ++ rest } = rest) :
      Takes n ('<' :: (t ++ raw)) rest (p.token n)

theorem not_infix_of_splitAtFirst? {t needle front back : Text} (hneedle : needle ≠ [])
    (h : Text.splitAtFirst? t needle = some (front, back)) : ¬ needle <:+: front := by
  induction t generalizing front with
  | nil =>
      rw [Text.splitAtFirst?] at h
      split at h
      · obtain ⟨rfl, -⟩ := Prod.mk.inj (Option.some.inj h)
        simpa using hneedle
      · cases h
  | cons c t ih =>
      have hall := splitAtFirst?_eq h
      rw [Text.splitAtFirst?] at h
      split at h
      · obtain ⟨rfl, -⟩ := Prod.mk.inj (Option.some.inj h)
        simpa using hneedle
      · rename_i hprefix
        obtain ⟨⟨front', back'⟩, hrest, heq⟩ := Option.map_eq_some_iff.mp h
        obtain ⟨rfl, rfl⟩ := Prod.mk.inj heq
        intro hinfix
        rcases List.infix_cons_iff.mp hinfix with hstart | hinside
        · refine hprefix (List.isPrefixOf_iff_prefix.mpr ?_)
          rw [hall]
          exact hstart.trans (List.prefix_append _ _)
        · exact ih hrest hinside

namespace Takes

variable {n : Nat} {word rest v X X' : Text} {tok : Token}

theorem start_eq (h : Takes n word rest tok) : tok.start = n := by
  cases h with
  | comment => rfl
  | openComment => rfl
  | @tag t raw rest p htag hend hahead =>
      unfold TagParts.token
      split <;> rfl

theorem size_pos (h : Takes n word rest tok) : 0 < word.length := by
  cases h with
  | comment => exact Nat.zero_lt_succ _
  | openComment => exact Nat.zero_lt_succ _
  | tag => exact Nat.zero_lt_succ _

theorem tokensFrom_eq (h : Takes n word rest tok) :
    tokensFrom n (word ++ rest) = tok :: tokensFrom (n + word.size) rest := by
  cases h with
  | @comment body rest hbody =>
      have hsize : n + Text.size ("<!--".toList ++ (body ++ "-->".toList)) = n + 7 + body.size := by
        simp only [Text.size_append]
        change n + (4 + (body.size + 3)) = n + 7 + body.size
        omega
      rw [tokensFrom_comment hbody, hsize]
  | @openComment t hnone =>
      rw [List.append_nil, tokensFrom_nil]
      exact tokensFrom_openComment hnone n
  | @tag t raw rest p htag hend hahead =>
      have hparts := tag?_append htag hend (raw ++ rest)
      have hread := tokensFrom_anyTag hparts n
      have hsize : n + TagParts.size { p with rest := raw ++ rest } +
          ((raw ++ rest).size - rest.size) = n + Text.size ('<' :: (t ++ raw)) := by
        have htext := size_of_tag? htag hend
        have hcons : Text.size ('<' :: (t ++ raw)) = Text.size ('<' :: t) + raw.size := by
          rw [← List.cons_append, Text.size_append]
        rw [hcons, htext, Text.size_append, Nat.add_sub_cancel, Nat.add_assoc]
        rfl
      rw [hahead, hsize] at hread
      rw [List.cons_append, List.append_assoc, hread]
      rfl

/-- What is taken from in front of an opener is taken from in front of any other. -/
theorem replace (h : Takes n word (v ++ X) tok) (hX : IsOpener X) (hX' : IsOpener X') :
    Takes n word (v ++ X') tok := by
  generalize hrest : v ++ X = rest at h
  cases h with
  | comment hbody => exact .comment hbody
  | openComment =>
      obtain ⟨c, back, rfl, -⟩ := hX
      simp at hrest
  | @tag t raw _ p htag hend hahead =>
      subst hrest
      refine .tag htag hend ?_
      rw [TagParts.ahead_rest] at hahead ⊢
      cases hraw : p.opensRawText with
      | true =>
          rw [hraw] at hahead
          exact fromCloser_replace (isOf_of_tag? htag).not_mem_lowerAscii hX hX' hahead
      | false =>
          rw [hraw] at hahead
          obtain rfl : raw = [] := List.append_left_eq_self.mp hahead
          rfl

end Takes

/-- Behind a `<`, either a token is taken or nothing. -/
theorem tokensFrom_cases (n : Nat) (t : Text) :
    tokensFrom n ('<' :: t) = tokensFrom (n + 1) t ∨
      ∃ word rest tok, '<' :: t = word ++ rest ∧ Takes n word rest tok := by
  cases hcomment : "!--".toList.isPrefixOf t with
  | true =>
      obtain ⟨inside, rfl⟩ := List.isPrefixOf_iff_prefix.mp hcomment
      right
      cases hclose : Text.splitAtFirst? inside "-->".toList with
      | none => exact ⟨_, [], _, (List.append_nil _).symm, .openComment hclose⟩
      | some parts =>
          obtain ⟨body, back⟩ := parts
          obtain ⟨rest, rfl⟩ := isPrefixOf_of_splitAtFirst? hclose
          refine ⟨_, rest, _, ?_, .comment (not_infix_of_splitAtFirst? (by simp) hclose)⟩
          rw [splitAtFirst?_eq hclose]
          simp
  | false =>
      cases htag : tag? t with
      | none => exact .inl (tokensFrom_stray hcomment htag n)
      | some p =>
          right
          obtain ⟨word, hword, hall⟩ := exists_word_of_tag? htag
          obtain ⟨raw, hraw⟩ := p.ahead_suffix
          have hend := hall []
          rw [List.append_nil] at hend
          refine ⟨'<' :: (word ++ raw), p.ahead, _, ?_, .tag hend rfl ?_⟩
          · rw [hword, ← hraw]
            simp
          · rw [hraw]

/-- The tokens of a text that starts at an offset start there or behind. -/
theorem le_start_of_mem_tokensFrom {n : Nat} {t : Text} {tok : Token} (h : tok ∈ tokensFrom n t) :
    n ≤ tok.start := by
  induction hlength : t.length using Nat.strongRecOn generalizing n t with
  | ind length ih =>
      cases t with
      | nil =>
          rw [tokensFrom_nil] at h
          cases h
      | cons c t =>
          by_cases hc : c = '<'
          · subst hc
            rcases tokensFrom_cases n t with heq | ⟨word, rest, first, hsplit, htakes⟩
            · rw [heq] at h
              exact Nat.le_of_succ_le (ih t.length (by simp [← hlength]) h rfl)
            · rw [hsplit, htakes.tokensFrom_eq] at h
              rcases List.mem_cons.mp h with rfl | h
              · exact Nat.le_of_eq htakes.start_eq.symm
              · have hshorter : rest.length < length := by
                  have hpos := htakes.size_pos
                  rw [← hlength, hsplit, List.length_append]
                  omega
                exact Nat.le_trans (Nat.le_add_right n (Text.size word)) (ih rest.length hshorter h rfl)
          · rw [tokensFrom_cons hc] at h
            have hle := ih t.length (by simp [← hlength]) h rfl
            omega

/-! ## In front of the opener -/

/-- The scan comes through `front` in the same way, whichever of the two texts follows. -/
def Agrees (n : Nat) (front X X' : Text) : Prop :=
  ∃ toks, tokensFrom n (front ++ X) = toks ++ tokensFrom (n + front.size) X ∧
    tokensFrom n (front ++ X') = toks ++ tokensFrom (n + front.size) X'

section

variable {n m : Nat} {front X X' word rest : Text} {tok : Token}

namespace Agrees

theorem symm (h : Agrees n front X X') : Agrees n front X' X :=
  let ⟨toks, h, h'⟩ := h
  ⟨toks, h', h⟩

/-- What is passed over in front of both texts makes no difference. -/
theorem skip {t : Text} (h : Agrees (n + t.size) front X X')
    (hX : tokensFrom n (t ++ (front ++ X)) = tokensFrom (n + t.size) (front ++ X))
    (hX' : tokensFrom n (t ++ (front ++ X')) = tokensFrom (n + t.size) (front ++ X')) :
    Agrees n (t ++ front) X X' := by
  obtain ⟨toks, h, h'⟩ := h
  refine ⟨toks, ?_, ?_⟩
  · rw [List.append_assoc, hX, h, Text.size_append, Nat.add_assoc]
  · rw [List.append_assoc, hX', h', Text.size_append, Nat.add_assoc]

theorem token (h : Agrees (n + word.size) front X X') (hX : Takes n word (front ++ X) tok)
    (hX' : Takes n word (front ++ X') tok) : Agrees n (word ++ front) X X' := by
  obtain ⟨toks, h, h'⟩ := h
  refine ⟨tok :: toks, ?_, ?_⟩
  · rw [List.append_assoc, hX.tokensFrom_eq, h, Text.size_append, Nat.add_assoc, List.cons_append]
  · rw [List.append_assoc, hX'.tokensFrom_eq, h', Text.size_append, Nat.add_assoc, List.cons_append]

end Agrees

theorem Reach.tail {toks : List Token} (h : Reach (tok :: toks) m) (hne : tok.start ≠ m) :
    Reach toks m := by
  obtain ⟨other, hmem, hstart⟩ := h
  rcases List.mem_cons.mp hmem with rfl | hmem
  · exact absurd hstart hne
  · exact ⟨other, hmem, hstart⟩

/-- A token in front of one that is reached ends in front of it. -/
theorem Takes.exists_behind (h : Takes n word rest tok) (hsplit : front ++ X = word ++ rest)
    (hpos : 0 < Text.size front) (hreach : Reach (tokensFrom n (front ++ X)) (n + front.size)) :
    ∃ v, front = word ++ v ∧ rest = v ++ X ∧
      Reach (tokensFrom (n + Text.size word) rest) (n + Text.size front) := by
  have hstart := h.start_eq
  rw [hsplit, h.tokensFrom_eq] at hreach
  have hrest := hreach.tail (by omega)
  obtain ⟨other, hmem, hother⟩ := hrest
  have hle := le_start_of_mem_tokensFrom hmem
  rcases List.append_eq_append_iff.mp hsplit with ⟨u, hword, hX⟩ | ⟨v, hfront, hbehind⟩
  · have hu : u = [] := Text.eq_nil_of_size_eq_zero (by
      rw [hword, Text.size_append] at hle
      omega)
    rw [hu, List.append_nil] at hword
    rw [hu, List.nil_append] at hX
    exact ⟨[], by rw [hword, List.append_nil], by rw [hX, List.nil_append], other, hmem, hother⟩
  · exact ⟨v, hfront, hbehind, other, hmem, hother⟩

/-- If the scan comes to an opener, and to another in its place, then what it finds in front of them
is the same. -/
theorem agrees_of_reach (hX : IsOpener X) (hX' : IsOpener X')
    (h : Reach (tokensFrom n (front ++ X)) (n + front.size))
    (h' : Reach (tokensFrom n (front ++ X')) (n + front.size)) : Agrees n front X X' := by
  induction hlength : front.length using Nat.strongRecOn generalizing n front X X' with
  | ind length ih =>
      cases front with
      | nil => exact ⟨[], rfl, rfl⟩
      | cons c front =>
          -- both scans go on behind the first character, or none does
          have hskip : (∀ Y : Text, Y = X ∨ Y = X' →
              tokensFrom n (c :: (front ++ Y)) = tokensFrom (n + c.utf8Size) (front ++ Y)) →
              Agrees n (c :: front) X X' := by
            intro hall
            have heq := hall X (.inl rfl)
            have heq' := hall X' (.inr rfl)
            rw [List.cons_append, heq, Text.size_cons, ← Nat.add_assoc] at h
            rw [List.cons_append, heq', Text.size_cons, ← Nat.add_assoc] at h'
            have hrest := ih front.length (by simp [← hlength]) hX hX' h h' rfl
            exact Agrees.skip (t := [c]) hrest heq heq'
          by_cases hc : c = '<'
          · subst hc
            have hpos : 0 < Text.size ('<' :: front) := by
              rw [Text.size_cons]
              exact Nat.lt_of_lt_of_le Nat.zero_lt_one (Nat.le_add_right 1 (Text.size front))
            -- a token that is taken in front of one of the openers is taken in front of the other
            have htaken : ∀ {Y Y' : Text}, IsOpener Y → IsOpener Y' →
                Reach (tokensFrom n ('<' :: front ++ Y)) (n + Text.size ('<' :: front)) →
                Reach (tokensFrom n ('<' :: front ++ Y')) (n + Text.size ('<' :: front)) →
                (∃ word rest tok, '<' :: front ++ Y = word ++ rest ∧ Takes n word rest tok) →
                Agrees n ('<' :: front) Y Y' := by
              rintro Y Y' hY hY' hreach hreach' ⟨word, rest, tok, hsplit, htakes⟩
              obtain ⟨v, hfront, rfl, hmore⟩ := htakes.exists_behind hsplit hpos hreach
              have htakes' := htakes.replace hY hY'
              have hsplit' : '<' :: front ++ Y' = word ++ (v ++ Y') := by
                rw [hfront, List.append_assoc]
              obtain ⟨-, -, -, hmore'⟩ := htakes'.exists_behind hsplit' hpos hreach'
              have hshorter : v.length < length := by
                have hword := htakes.size_pos
                rw [← hlength, hfront, List.length_append]
                omega
              rw [hfront, Text.size_append, ← Nat.add_assoc] at hmore hmore'
              rw [hfront]
              exact (ih v.length hshorter hY hY' hmore hmore' rfl).token htakes htakes'
            rcases tokensFrom_cases n (front ++ X) with heq | hfound
            · rcases tokensFrom_cases n (front ++ X') with heq' | hfound'
              · exact hskip (by rintro Y (rfl | rfl) <;> assumption)
              · exact (htaken hX' hX h' h hfound').symm
            · exact htaken hX hX' h h' hfound
          · exact hskip fun Y _ => tokensFrom_cons hc n (front ++ Y)

end

/-! ## The body -/

theorem isOpener_of_tag? {t : Text} {p : TagParts} (h : tag? t = some p) (hopening : p.closing = false)
    (s : Text) : IsOpener ('<' :: t ++ s) := by
  have htext := (isOf_of_tag? h).text
  rw [hopening] at htext
  unfold tag? at h
  split at h
  · exact absurd ((isOf_of_namedTag? h).2.symm.trans hopening) (by decide)
  · obtain ⟨name, hname, -, -⟩ := exists_name_of_namedTag? h
    rw [hname] at htext
    exact ⟨name.first, name.rest ++ (p.attributes ++ '>' :: p.rest) ++ s, by rw [htext]; rfl,
      .inr name.first_start⟩

/-- What stands around a text in which no tags are looked for. -/
inductive Delimiters where
  | comment
  /-- An opening tag, and a closing tag of the same name. -/
  | rawText (tag : Text) (parts : TagParts) (name : Text) (read : tag? tag = some parts)
      (whole : parts.rest = []) (raw : parts.opensRawText)
      (same : Text.lowerAscii name = Text.lowerAscii parts.name)

namespace Delimiters

def opener : Delimiters → Text
  | comment => "<!--".toList
  | rawText tag .. => '<' :: tag

def closer : Delimiters → Text
  | comment => "-->".toList
  | rawText _ _ name .. => "</".toList ++ (name ++ ['>'])

/-- The body does not end what the opener begins. -/
def Hides : Delimiters → Text → Prop
  | comment, body => ¬ "-->".toList <:+: body
  | rawText _ parts .., body =>
    ¬ ("</".toList ++ Text.lowerAscii parts.name) <:+: Text.lowerAscii body

variable (d : Delimiters) {a b : Text}

theorem isOpener (t : Text) : IsOpener (d.opener ++ t) := by
  cases d with
  | comment => exact ⟨'!', _, rfl, .inl rfl⟩
  | rawText tag parts name hread hwhole hraw hsame =>
      have hopening : parts.closing = false := by
        simp only [TagParts.opensRawText, Bool.and_eq_true, Bool.not_eq_true'] at hraw
        exact hraw.1.1
      exact isOpener_of_tag? hread hopening t

/-- The scan goes on with the closing tag of the same name. -/
theorem takes_rawText {tag name body : Text} {parts : TagParts} (hread : tag? tag = some parts)
    (hwhole : parts.rest = []) (hraw : parts.opensRawText)
    (hsame : Text.lowerAscii name = Text.lowerAscii parts.name)
    (h : ¬ ("</".toList ++ Text.lowerAscii parts.name) <:+: Text.lowerAscii body) (n : Nat)
    (back : Text) :
    Takes n ('<' :: (tag ++ body)) ("</".toList ++ (name ++ ['>']) ++ back) (parts.token n) := by
  refine .tag hread hwhole ?_
  have hname : '<' ∉ '/' :: Text.lowerAscii parts.name := by
    simpa using (isOf_of_tag? hread).not_mem_lowerAscii
  have hcloser : startsFolded ('<' :: '/' :: Text.lowerAscii parts.name)
      ('<' :: '/' :: (name ++ ['>'] ++ back)) = true := by
    rw [startsFolded_iff, ← hsame]
    exact ⟨Text.lowerAscii (['>'] ++ back), by simp [Text.lowerAscii]⟩
  have hpass : fromCloser ('<' :: '/' :: Text.lowerAscii parts.name)
      (body ++ '<' :: '/' :: (name ++ ['>'] ++ back)) = _ := fromCloser_append hname h
  rw [TagParts.ahead_rest, if_pos hraw]
  refine hpass.trans ?_
  rw [fromCloser, if_pos hcloser]
  rfl

/-- The tokens do not tell two bodies of one size apart. -/
theorem tokensFrom_eq (ha : d.Hides a) (hb : d.Hides b) (hsize : a.size = b.size) (n : Nat)
    (back : Text) :
    tokensFrom n (d.opener ++ (a ++ (d.closer ++ back))) =
      tokensFrom n (d.opener ++ (b ++ (d.closer ++ back))) := by
  cases d with
  | comment =>
      have hread := tokensFrom_comment ha n back
      have hread' := tokensFrom_comment hb n back
      rw [List.append_assoc, List.append_assoc] at hread hread'
      rw [opener, closer, hread, hread', hsize]
  | rawText tag parts name hread hwhole hraw hsame =>
      have htake := (takes_rawText hread hwhole hraw hsame ha n back).tokensFrom_eq
      have htake' := (takes_rawText hread hwhole hraw hsame hb n back).tokensFrom_eq
      have hbody : ∀ body : Text, Text.size ('<' :: (tag ++ body)) =
          Text.size ('<' :: tag) + body.size := fun body => Text.size_append ('<' :: tag) body
      rw [hbody, List.cons_append, List.append_assoc] at htake htake'
      rw [opener, closer, List.cons_append, List.cons_append, htake, htake', hsize]

/-- The scan comes to an opener behind text in which nothing begins. -/
theorem reach_of_text {front body : Text} (hfront : '<' ∉ front) (h : d.Hides body) (back : Text) :
    Reach (tokens (front ++ d.opener ++ body ++ d.closer ++ back)) front.size := by
  have htakes : ∃ word rest tok, d.opener ++ (body ++ (d.closer ++ back)) = word ++ rest ∧
      Takes front.size word rest tok := by
    cases d with
    | comment =>
        refine ⟨_, back, _, ?_, .comment h⟩
        simp only [opener, closer, List.append_assoc]
    | rawText tag parts name hread hwhole hraw hsame =>
        refine ⟨_, _, _, ?_, takes_rawText hread hwhole hraw hsame h front.size back⟩
        simp only [opener, closer, List.append_assoc, List.cons_append]
  obtain ⟨word, rest, tok, hsplit, htakes⟩ := htakes
  have hread := tokensFrom_text hfront 0 (word ++ rest)
  rw [Nat.zero_add, htakes.tokensFrom_eq] at hread
  simp only [List.append_assoc]
  rw [tokens, hsplit, hread]
  exact ⟨tok, List.mem_cons_self, htakes.start_eq⟩

end Delimiters

/-! ## The whole document -/

/-- The tokens in front of an opener that is reached are the same, and so are those from it on. -/
theorem tokens_eq_of_hides {d : Delimiters} {front a b back : Text} (ha : d.Hides a)
    (hb : d.Hides b) (hsize : a.size = b.size)
    (hreach : Reach (tokens (front ++ d.opener ++ a ++ d.closer ++ back)) front.size)
    (hreach' : Reach (tokens (front ++ d.opener ++ b ++ d.closer ++ back)) front.size) :
    tokens (front ++ d.opener ++ a ++ d.closer ++ back) =
      tokens (front ++ d.opener ++ b ++ d.closer ++ back) := by
  simp only [List.append_assoc] at hreach hreach' ⊢
  rw [tokens, ← Nat.zero_add front.size] at hreach hreach'
  obtain ⟨toks, heq, heq'⟩ := agrees_of_reach (d.isOpener _) (d.isOpener _) hreach hreach'
  rw [tokens, tokens, heq, heq', d.tokensFrom_eq ha hb hsize]

/-- Where the scan comes to an opener, what is hidden behind it changes no issue but by its size. -/
theorem check_eq_of_hides {d : Delimiters} {front a b back : Text} {o : Context}
    (ho : o.deadline = .never) (ha : d.Hides a) (hb : d.Hides b) (hsize : a.size = b.size)
    (hreach : Reach (tokens (front ++ d.opener ++ a ++ d.closer ++ back)) front.size)
    (hreach' : Reach (tokens (front ++ d.opener ++ b ++ d.closer ++ back)) front.size) :
    check (front ++ d.opener ++ a ++ d.closer ++ back) o =
      check (front ++ d.opener ++ b ++ d.closer ++ back) o := by
  have htokens := tokens_eq_of_hides ha hb hsize hreach hreach'
  have hlength : Text.size (front ++ d.opener ++ a ++ d.closer ++ back) =
      Text.size (front ++ d.opener ++ b ++ d.closer ++ back) := by
    simp only [Text.size_append, hsize]
  have hblank : ∀ body : Text,
      Text.isBlankText (front ++ d.opener ++ body ++ d.closer ++ back) = false := by
    intro body
    obtain ⟨c, t, hopener, -⟩ := d.isOpener (body ++ (d.closer ++ back))
    have hopen : Text.isBlank '<' = false := by decide
    simp only [List.append_assoc]
    rw [hopener]
    simp [Text.isBlankText, hopen]
  rw [check_never _ ho, check_never _ ho]
  simp only [issues, htokens, hlength, hblank]

/-- A script that holds most of a closing tag, and one that holds a quote and a letter of two
bytes. -/
theorem check_eq_script :
    check (['a'] ++ "<script>".toList ++ "</scrip".toList ++ "</SCRIPT>".toList ++ []) {} =
      check (['a'] ++ "<script>".toList ++ "a<b\"é-".toList ++ "</SCRIPT>".toList ++ []) {} :=
  let d : Delimiters := .rawText "script>".toList ⟨false, "script".toList, [], []⟩ "SCRIPT".toList
    rfl rfl (by decide) (by decide)
  have ha : d.Hides "</scrip".toList := by simp [d, Delimiters.Hides]; decide
  have hb : d.Hides "a<b\"é-".toList := by simp [d, Delimiters.Hides]; decide
  check_eq_of_hides (d := d) rfl ha hb (by decide) (d.reach_of_text (by decide) ha [])
    (d.reach_of_text (by decide) hb [])

end PageLint.Markup
