import PageLint.Proofs.Markup.Document
import PageLint.Proofs.Markup.Places

/-! # The scan of a document

The scan goes through a document by offsets, from one `<` to the next, and takes slices of the
document there. None of them fails, the scan comes to the end with the tokens of the document, and
the offsets of the tokens are cuts of it. -/

namespace PageLint.Markup

/-! ## Tags -/

theorem utf8ByteSize_foldName {name : Text} (h : ∀ c ∈ name, isNameChar c) :
    (foldName name).utf8ByteSize = name.size := by
  have hlower : ∀ c ∈ name.map Char.toLower, isNameChar c := by
    intro c hc
    obtain ⟨d, hd, rfl⟩ := List.mem_map.mp hc
    exact isNameChar_toLower (h d hd)
  rw [foldName, Text.utf8ByteSize_ofList, Text.lowerAscii, size_eq_length hlower, List.length_map,
    size_eq_length h]

/-- What the parts of a tag are the parts of. -/
structure TagParts.IsOf (t : Text) (p : TagParts) : Prop where
  text : t = (if p.closing then ['/'] else []) ++ (p.name ++ (p.attributes ++ '>' :: p.rest))
  name_chars : ∀ c ∈ p.name, isNameChar c

theorem isOf_of_namedTag? {closing : Bool} {t : Text} {p : TagParts}
    (h : namedTag? closing t = some p) :
    p.IsOf ((if closing then ['/'] else []) ++ t) ∧ p.closing = closing := by
  unfold namedTag? at h
  split at h
  · obtain ⟨⟨attributes, rest⟩, hbracket, rfl⟩ := Option.map_eq_some_iff.mp h
    refine ⟨⟨?_, fun c hc => List.all_eq_true.mp List.all_takeWhile c hc⟩, rfl⟩
    rw [← untilBracket?_eq hbracket, List.takeWhile_append_dropWhile]
  · cases h

theorem isOf_of_tag? {t : Text} {p : TagParts} (h : tag? t = some p) : p.IsOf t := by
  unfold tag? at h
  split at h
  · exact (isOf_of_namedTag? h).1
  · exact (isOf_of_namedTag? h).1

/-! ## Tokens -/

/-- The offsets of the token, and those that follow from the sizes of its parts, are cuts of the
source. -/
def Token.LiesIn (source : Text) : Token → Prop
  | .comment .. => True
  | .openComment start => source.IsRange start (start + 4)
  | .opening name attrs _ start stop =>
    source.IsRange start stop ∧ source.IsRange start (start + name.utf8ByteSize + 1) ∧
      ∃ back, source.StandsAt (start + 1 + name.utf8ByteSize) (attrs ++ back)
  | .closing name start stop =>
    source.IsRange start stop ∧ source.IsRange (start + 2) (start + 2 + name.utf8ByteSize)

section

variable {source t : Text} {p : TagParts} {place : Nat}

theorem TagParts.IsOf.standsAt (h : p.IsOf t) (ht : source.StandsAt place ('<' :: t)) :
    source.StandsAt (place + p.size) p.rest := by
  have hsize : p.size = Text.size ('<' :: ((if p.closing then ['/'] else []) ++
      (p.name ++ (p.attributes ++ ['>'])))) := by
    simp only [size, Text.size_cons, Text.size_append, Text.size_nil]
    have hopen : '<'.utf8Size = 1 := rfl
    have hclose : '>'.utf8Size = 1 := rfl
    have hslash : Text.size (if p.closing then ['/'] else []) = if p.closing then 1 else 0 := by
      split <;> rfl
    omega
  rw [hsize]
  refine Text.StandsAt.skip ?_
  have htext := h.text
  rw [htext] at ht
  simpa using ht

theorem TagParts.IsOf.liesIn (h : p.IsOf t) (ht : source.StandsAt place ('<' :: t)) :
    (p.token place).LiesIn source := by
  have hstop := (h.standsAt ht).isCut
  have hrange : source.IsRange place (place + p.size) :=
    ht.isCut.isRange hstop (Nat.le_add_right _ _)
  have hname := utf8ByteSize_foldName h.name_chars
  have hone : '<'.utf8Size = 1 := rfl
  have htext := h.text
  cases hclosing : p.closing with
  | true =>
      rw [hclosing] at htext
      rw [htext] at ht
      have hbehind : source.StandsAt (place + 2) (p.name ++ (p.attributes ++ '>' :: p.rest)) :=
        ht.skip_cons.skip_cons
      have htoken : p.token place =
          .closing (foldName p.name) place (place + p.size) := by
        rw [token, hclosing]
        rfl
      rw [htoken]
      refine ⟨hrange, ?_⟩
      rw [hname]
      exact hbehind.isRange
  | false =>
      rw [hclosing] at htext
      rw [htext] at ht
      have hbehind : source.StandsAt (place + 1) (p.name ++ (p.attributes ++ '>' :: p.rest)) :=
        ht.skip_cons
      have htoken : p.token place = .opening (foldName p.name) p.attributes p.isSelfClosing place
          (place + p.size) := by
        rw [token, hclosing]
        rfl
      rw [htoken]
      refine ⟨hrange, ?_, '>' :: p.rest, ?_⟩
      · rw [hname, Nat.add_right_comm]
        exact ht.isCut.isRange hbehind.isRange.stop_cut (by omega)
      · rw [hname]
        exact hbehind.skip

/-! ## Steps -/

/-- What a scan finds at a `<`, and where it goes on. -/
def stepAt (source : Text) (place : Nat) : Except Fault (Option Token × Nat) := do
  let rest ← source.sliceFrom place
  if "<!--".toList.isPrefixOf rest then
    let inside ← rest.sliceFrom 4
    match Text.splitAtFirst? inside "-->".toList with
    | none => return (some (.openComment place), source.size)
    | some (body, _) =>
      let next := place + 4 + body.size + 3
      return (some (.comment place next), next)
  else match tag? (rest.drop 1) with
    | none => return (none, place + 1)
    | some p =>
      let next := place + p.size
      if !p.closing && !p.isSelfClosing && isRawText (foldName p.name) then
        let ahead ← source.sliceFrom next
        let closer := fromCloser ("</".toList ++ Text.lowerAscii p.name) ahead
        return (some (p.token place), next + (ahead.size - closer.size))
      else return (some (p.token place), next)

/-- The next `<` behind an offset, if there is one: what is found there, and where to go on. -/
def step (source : Text) (pos : Nat) : Except Fault (Option (Option Token × Nat)) := do
  let ahead ← source.sliceFrom pos
  if ahead.all (· != '<') then return none
  else
    let found ← stepAt source (pos + Text.size (ahead.takeWhile (· != '<')))
    return some found

/-- Steps from an offset lead to the end of the source, and what they find are the tokens. -/
inductive Scans (source : Text) : Nat → List Token → Prop where
  | done {pos : Nat} (h : step source pos = .ok none) : Scans source pos []
  | next {pos next : Nat} {token : Option Token} {tokens : List Token}
      (h : step source pos = .ok (some (token, next))) (rest : Scans source next tokens) :
      Scans source pos (token.toList ++ tokens)

theorem isPrefixOf_of_splitAtFirst? {t needle front back : Text}
    (h : Text.splitAtFirst? t needle = some (front, back)) : ∃ rest, back = needle ++ rest := by
  induction t generalizing front with
  | nil =>
      rw [Text.splitAtFirst?] at h
      split at h
      · rename_i hprefix
        obtain ⟨rest, hrest⟩ := List.isPrefixOf_iff_prefix.mp hprefix
        simp only [Option.some.injEq, Prod.mk.injEq] at h
        exact ⟨rest, h.2.symm.trans hrest.symm⟩
      · cases h
  | cons c t ih =>
      rw [Text.splitAtFirst?] at h
      split at h
      · rename_i hprefix
        obtain ⟨rest, hrest⟩ := List.isPrefixOf_iff_prefix.mp hprefix
        simp only [Option.some.injEq, Prod.mk.injEq] at h
        exact ⟨rest, h.2.symm.trans hrest.symm⟩
      · obtain ⟨⟨front', back'⟩, hrest, heq⟩ := Option.map_eq_some_iff.mp h
        simp only [Prod.mk.injEq] at heq
        obtain ⟨-, rfl⟩ := heq
        exact ih hrest

/-- What a step at a `<` has to do with the tokens from there on. -/
structure StepsAt (source : Text) (place : Nat) (t : Text) (token : Option Token) (next : Nat)
    (rest : Text) : Prop where
  step : stepAt source place = .ok (token, next)
  tokens : tokensFrom place ('<' :: t) = token.toList ++ tokensFrom next rest
  liesIn : ∀ tok, token = some tok → tok.LiesIn source
  standsAt : source.StandsAt next rest
  length_le : rest.length ≤ t.length

/-! ### Comments -/

theorem tokensFrom_openComment {t : Text} (h : Text.splitAtFirst? t "-->".toList = none) (n : Nat) :
    tokensFrom n ('<' :: '!' :: '-' :: '-' :: t) = [.openComment n] := by
  have hopen : "!--".toList.isPrefixOf ('!' :: '-' :: '-' :: t) = true := rfl
  have hdrop : List.drop 3 ('!' :: '-' :: '-' :: t) = t := rfl
  simp only [tokensFrom_bracket, meet, hopen, ↓reduceIte, hdrop, h, tokensFrom_nil]
  rfl

theorem tokensFrom_closedComment {t body back : Text}
    (h : Text.splitAtFirst? t "-->".toList = some (body, back)) (n : Nat) :
    tokensFrom n ('<' :: '!' :: '-' :: '-' :: t) =
      .comment n (n + 7 + body.size) :: tokensFrom (n + 7 + body.size) (back.drop 3) := by
  rw [tokensFrom_bracket, meet_comment h]
  rfl

theorem stepsAt_comment {inside : Text}
    (ht : source.StandsAt place ('<' :: '!' :: '-' :: '-' :: inside)) :
    ∃ token next rest, StepsAt source place ('!' :: '-' :: '-' :: inside) token next rest := by
  have hslice : Text.sliceFrom ('<' :: '!' :: '-' :: '-' :: inside) 4 = .ok inside :=
    Text.StandsAt.sliceFrom_eq ⟨"<!--".toList, rfl, rfl⟩
  have hopen : "<!--".toList.isPrefixOf ('<' :: '!' :: '-' :: '-' :: inside) = true := rfl
  have hinside : source.StandsAt (place + 4) inside :=
    ht.skip_cons.skip_cons.skip_cons.skip_cons
  cases hclose : Text.splitAtFirst? inside "-->".toList with
  | none =>
      refine ⟨some (.openComment place), source.size, [], ?_, ?_, ?_, ?_, Nat.zero_le _⟩
      · simp only [stepAt, ht.sliceFrom_eq, bind, Except.bind, hopen, ↓reduceIte, hslice, hclose]
        rfl
      · rw [tokensFrom_openComment hclose, tokensFrom_nil]
        rfl
      · intro tok htok
        obtain rfl := Option.some.inj htok
        exact ht.isCut.isRange hinside.isCut (by omega)
      · exact ⟨source, by simp, rfl⟩
  | some parts =>
      obtain ⟨body, back⟩ := parts
      obtain ⟨rest, rfl⟩ := isPrefixOf_of_splitAtFirst? hclose
      have hsplit := splitAtFirst?_eq hclose
      have hnext : place + 4 + body.size + 3 = place + 7 + body.size := by omega
      refine ⟨some (.comment place (place + 7 + body.size)), place + 7 + body.size, rest,
        ?_, ?_, ?_, ?_, ?_⟩
      · simp only [stepAt, ht.sliceFrom_eq, bind, Except.bind, hopen, ↓reduceIte, hslice, hclose,
          hnext]
        rfl
      · rw [tokensFrom_closedComment hclose]
        rfl
      · intro tok htok
        obtain rfl := Option.some.inj htok
        trivial
      · rw [hsplit] at hinside
        have hbehind := hinside.skip.skip
        rwa [← hnext]
      · have hlength := congrArg List.length hsplit
        simp only [List.length_append, List.length_cons] at hlength ⊢
        omega

/-! ### Tags -/

theorem tokensFrom_stray {t : Text} (hcomment : "!--".toList.isPrefixOf t = false)
    (h : tag? t = none) (n : Nat) : tokensFrom n ('<' :: t) = tokensFrom (n + 1) t := by
  simp only [tokensFrom_bracket, meet, hcomment, Bool.false_eq_true, ↓reduceIte, h]
  rfl

/-- Where a raw body starts, the next token is looked for from its closing tag on. -/
def TagParts.opensRawText (p : TagParts) : Bool :=
  !p.closing && !p.isSelfClosing && isRawText (foldName p.name)

/-- What is left behind the tag. -/
def TagParts.ahead (p : TagParts) : Text :=
  if p.opensRawText then fromCloser ("</".toList ++ Text.lowerAscii p.name) p.rest else p.rest

theorem TagParts.ahead_suffix (p : TagParts) : p.ahead <:+ p.rest := by
  unfold ahead
  split
  · exact fromCloser_suffix _ _
  · exact List.suffix_rfl

theorem tokensFrom_anyTag {t : Text} {p : TagParts} (h : tag? t = some p) (n : Nat) :
    tokensFrom n ('<' :: t) =
      p.token n :: tokensFrom (n + p.size + (p.rest.size - p.ahead.size)) p.ahead := by
  simp only [tokensFrom_bracket, meet, not_comment_of_tag? h, Bool.false_eq_true, ↓reduceIte, h]
  unfold TagParts.ahead TagParts.opensRawText
  split
  · rfl
  · rw [Nat.sub_self, Nat.add_zero]
    rfl

theorem stepAt_anyTag {t : Text} {p : TagParts} (ht : source.StandsAt place ('<' :: t))
    (h : tag? t = some p) :
    stepAt source place =
      .ok (some (p.token place), place + p.size + (p.rest.size - p.ahead.size)) := by
  have hopen : "<!--".toList.isPrefixOf ('<' :: t) = false := not_comment_of_tag? h
  have hrest := ((isOf_of_tag? h).standsAt ht).sliceFrom_eq
  have hdrop : List.drop 1 ('<' :: t) = t := rfl
  simp only [stepAt, ht.sliceFrom_eq, bind, Except.bind, hopen, Bool.false_eq_true, ↓reduceIte,
    hdrop, h]
  unfold TagParts.ahead TagParts.opensRawText
  split
  · simp only [hrest]
    rfl
  · rw [Nat.sub_self, Nat.add_zero]
    rfl

theorem stepsAt_tag {t : Text} {p : TagParts} (ht : source.StandsAt place ('<' :: t))
    (h : tag? t = some p) : ∃ token next rest, StepsAt source place t token next rest := by
  have hrest := (isOf_of_tag? h).standsAt ht
  refine ⟨some (p.token place), place + p.size + (p.rest.size - p.ahead.size), p.ahead,
    stepAt_anyTag ht h, ?_, ?_, ?_, ?_⟩
  · rw [tokensFrom_anyTag h]
    rfl
  · intro tok htok
    obtain rfl := Option.some.inj htok
    exact (isOf_of_tag? h).liesIn ht
  · have hback : source.StandsAt (place + p.size) (p.rest ++ []) := by rwa [List.append_nil]
    have hahead := hback.suffix p.ahead_suffix
    rwa [List.append_nil] at hahead
  · exact Nat.le_trans p.ahead_suffix.length_le (Nat.le_of_lt (length_rest_of_tag? h))

theorem stepsAt_stray {t : Text} (ht : source.StandsAt place ('<' :: t))
    (hcomment : "!--".toList.isPrefixOf t = false) (h : tag? t = none) :
    StepsAt source place t none (place + 1) t where
  step := by
    have hopen : "<!--".toList.isPrefixOf ('<' :: t) = false := hcomment
    have hdrop : List.drop 1 ('<' :: t) = t := rfl
    simp only [stepAt, ht.sliceFrom_eq, bind, Except.bind, hopen, Bool.false_eq_true, ↓reduceIte,
      hdrop, h]
    rfl
  tokens := tokensFrom_stray hcomment h place
  liesIn := by
    intro tok htok
    cases htok
  standsAt := ht.skip_cons
  length_le := Nat.le_refl _

theorem exists_stepsAt {t : Text} (ht : source.StandsAt place ('<' :: t)) :
    ∃ token next rest, StepsAt source place t token next rest := by
  cases hcomment : "!--".toList.isPrefixOf t with
  | true =>
      obtain ⟨inside, rfl⟩ := List.isPrefixOf_iff_prefix.mp hcomment
      exact stepsAt_comment ht
  | false =>
      cases htag : tag? t with
      | none => exact ⟨none, place + 1, t, stepsAt_stray ht hcomment htag⟩
      | some p => exact stepsAt_tag ht htag

end

/-! ## The whole scan -/

theorem step_text {source text : Text} {pos : Nat} (hpos : source.StandsAt pos text)
    (h : '<' ∉ text) : step source pos = .ok none := by
  have hall : text.all (· != '<') = true :=
    List.all_eq_true.mpr fun c hc => bne_iff_ne.mpr fun he => h (he ▸ hc)
  simp only [step, hpos.sliceFrom_eq, bind, Except.bind, hall, ↓reduceIte]
  rfl

theorem step_stepAt {source text t : Text} {pos next : Nat} {token : Option Token}
    (hpos : source.StandsAt pos (text ++ '<' :: t)) (h : '<' ∉ text)
    (hat : stepAt source (pos + text.size) = .ok (token, next)) :
    step source pos = .ok (some (token, next)) := by
  have hall : (text ++ '<' :: t).all (· != '<') = false := by simp
  have htake : (text ++ '<' :: t).takeWhile (· != '<') = text := by
    have hpass : ∀ c ∈ text, (c != '<') = true :=
      fun c hc => bne_iff_ne.mpr fun he => h (he ▸ hc)
    rw [List.takeWhile_append_of_pos hpass]
    simp
  simp only [step, hpos.sliceFrom_eq, bind, Except.bind, hall, Bool.false_eq_true, ↓reduceIte,
    htake, hat]
  rfl

theorem exists_text (t : Text) :
    '<' ∉ t ∨ ∃ text rest, t = text ++ '<' :: rest ∧ '<' ∉ text := by
  by_cases h : '<' ∈ t
  · obtain ⟨text, rest, hsplit, hnot⟩ := List.eq_append_cons_of_mem h
    exact .inr ⟨text, rest, hsplit, hnot⟩
  · exact .inl h

/-- From any cut of the source, the scan comes to the end without a fault. -/
theorem scans_tokensFrom {source : Text} (n : Nat) (t : Text) (h : source.StandsAt n t) :
    Scans source n (tokensFrom n t) ∧ ∀ tok ∈ tokensFrom n t, tok.LiesIn source := by
  induction hlength : t.length using Nat.strongRecOn generalizing n t with
  | ind length ih =>
      rcases exists_text t with htext | ⟨text, rest, rfl, htext⟩
      · have htokens := tokensFrom_text htext n []
        rw [List.append_nil, tokensFrom_nil] at htokens
        rw [htokens]
        exact ⟨.done (step_text h htext), by simp⟩
      · obtain ⟨token, next, back, hstep⟩ := exists_stepsAt h.skip
        have hshorter : back.length < length := by
          have hle := hstep.length_le
          rw [← hlength, List.length_append, List.length_cons]
          omega
        obtain ⟨hscans, hlies⟩ := ih back.length hshorter next back hstep.standsAt rfl
        rw [tokensFrom_text htext, hstep.tokens]
        refine ⟨.next (step_stepAt h htext hstep.step) hscans, fun tok htok => ?_⟩
        rcases List.mem_append.mp htok with htok | htok
        · exact hstep.liesIn tok (Option.mem_toList.mp htok)
        · exact hlies tok htok

theorem scans_tokens (source : Text) :
    Scans source 0 (tokens source) ∧ ∀ tok ∈ tokens source, tok.LiesIn source :=
  scans_tokensFrom 0 source (Text.standsAt_zero source)

end PageLint.Markup
