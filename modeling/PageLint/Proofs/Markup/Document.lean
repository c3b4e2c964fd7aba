import PageLint.Proofs.Markup.Name

/-! # Documents in pieces

A document can be put together from plain text, tags without attributes and complete comments. The
scanner takes it apart again: its tokens are those of the pieces, one after the other. -/

namespace PageLint.Markup

/-- A part of a document. Void tags are openings. -/
inductive Piece where
  | text (t : Text) (plain : '<' ∉ t)
  | comment (body : Text) (closed : ¬ "-->".toList <:+: body)
  | opening (name : Name)
  | selfClosing (name : Name)
  | closing (name : Name)

namespace Piece

def render : Piece → Text
  | text t _ => t
  | comment body _ => "<!--".toList ++ (body ++ "-->".toList)
  | opening name => '<' :: (name.text ++ ['>'])
  | selfClosing name => '<' :: (name.text ++ ['/', '>'])
  | closing name => '<' :: '/' :: (name.text ++ ['>'])

/-- What follows would be read as raw text. -/
def opensRawText : Piece → Bool
  | opening name => isRawText name.folded
  | _ => false

/-- The tokens of a piece that starts at offset `n`. -/
def tokens (n : Nat) (p : Piece) : List Token :=
  match p with
  | text .. => []
  | comment .. => [.comment n (n + p.render.size)]
  | opening name => [.opening name.folded [] false n (n + p.render.size)]
  | selfClosing name => [.opening name.folded ['/'] true n (n + p.render.size)]
  | closing name => [.closing name.folded n (n + p.render.size)]

end Piece

def render (doc : List Piece) : Text := doc.flatMap Piece.render

@[simp] theorem render_nil : render [] = [] := rfl

@[simp] theorem render_cons (p : Piece) (doc : List Piece) :
    render (p :: doc) = p.render ++ render doc := rfl

/-- The tokens of pieces that start at offset `n`. -/
def pieceTokens (n : Nat) : List Piece → List Token
  | [] => []
  | p :: doc => p.tokens n ++ pieceTokens (n + p.render.size) doc

/-! ## Text and comments -/

theorem tokensFrom_text {t : Text} (h : '<' ∉ t) (n : Nat) (rest : Text) :
    tokensFrom n (t ++ rest) = tokensFrom (n + t.size) rest := by
  induction t generalizing n with
  | nil => rfl
  | cons c t ih =>
      have hc : c ≠ '<' := fun he => h (by simp [he])
      have ht : '<' ∉ t := fun hmem => h (by simp [hmem])
      rw [List.cons_append, tokensFrom_cons hc, ih ht, Text.size_cons, Nat.add_assoc]

/-- A comment ends at the first closer: none can begin in the body and end in the closer. -/
theorem splitAtFirst?_comment {body : Text} (h : ¬ "-->".toList <:+: body) (rest : Text) :
    Text.splitAtFirst? (body ++ "-->".toList ++ rest) "-->".toList =
      some (body, "-->".toList ++ rest) := by
  induction body with
  | nil => rfl
  | cons c body ih =>
      have hbody : ¬ "-->".toList <:+: body := fun hin => h (List.infix_cons hin)
      have hprefix : "-->".toList.isPrefixOf (c :: body ++ "-->".toList ++ rest) = false := by
        rw [← Bool.not_eq_true, List.isPrefixOf_iff_prefix]
        intro hp
        rcases body with _ | ⟨d, _ | ⟨e, body⟩⟩
        · simp at hp
        · simp at hp
        · have hbegin : "-->".toList <+: c :: d :: e :: body := by
            simpa [List.cons_prefix_cons] using hp
          exact h hbegin.isInfix
      rw [List.cons_append, List.cons_append] at hprefix ⊢
      rw [Text.splitAtFirst?, hprefix, ih hbody]
      rfl

theorem meet_comment {t body back : Text}
    (h : Text.splitAtFirst? t "-->".toList = some (body, back)) (n : Nat) :
    meet n ('!' :: '-' :: '-' :: t) =
      ⟨some (.comment n (n + 7 + body.size)), n + 7 + body.size, back.drop 3⟩ := by
  have hopen : "!--".toList.isPrefixOf ('!' :: '-' :: '-' :: t) = true := rfl
  have hdrop : List.drop 3 ('!' :: '-' :: '-' :: t) = t := rfl
  simp only [meet, hopen, ↓reduceIte, hdrop, h]

theorem tokensFrom_comment {body : Text} (h : ¬ "-->".toList <:+: body) (n : Nat) (rest : Text) :
    tokensFrom n ("<!--".toList ++ (body ++ "-->".toList) ++ rest) =
      .comment n (n + 7 + body.size) :: tokensFrom (n + 7 + body.size) rest := by
  have htext : "<!--".toList ++ (body ++ "-->".toList) ++ rest =
      '<' :: '!' :: '-' :: '-' :: (body ++ "-->".toList ++ rest) := rfl
  rw [htext, tokensFrom_bracket, meet_comment (splitAtFirst?_comment h rest)]
  rfl

/-! ## Tags -/

/-- What stands between name and bracket holds no bracket and no quote, and does not go on with the
name. -/
structure IsTail (attrs : Text) : Prop where
  plain : ∀ c ∈ attrs, c ≠ '>' ∧ c ≠ '"' ∧ c ≠ '\''
  apart : ∀ c, attrs.head? = some c → ¬ isNameChar c

theorem untilBracket?_plain {front t inside rest : Text}
    (hfront : ∀ c ∈ front, c ≠ '>' ∧ c ≠ '"' ∧ c ≠ '\'')
    (h : untilBracket? none t = some (inside, rest)) :
    untilBracket? none (front ++ t) = some (front ++ inside, rest) := by
  induction front with
  | nil => exact h
  | cons c front ih =>
      obtain ⟨hbracket, hdouble, hsingle⟩ := hfront c (by simp)
      have hrest := ih fun d hd => hfront d (by simp [hd])
      simp [untilBracket?, nextQuote, hbracket, hdouble, hsingle, hrest]

theorem untilBracket?_append {attrs : Text} (h : ∀ c ∈ attrs, c ≠ '>' ∧ c ≠ '"' ∧ c ≠ '\'')
    (rest : Text) : untilBracket? none (attrs ++ '>' :: rest) = some (attrs, rest) := by
  have hend := @untilBracket?_plain attrs ('>' :: rest) [] rest h rfl
  rwa [List.append_nil] at hend

/-- A name and what stands up to the bracket behind it, if that does not go on with the name. -/
theorem namedTag?_of_untilBracket? (closing : Bool) (name : Name) {attrs rest : Text}
    (h : untilBracket? none (attrs ++ '>' :: rest) = some (attrs, rest))
    (hapart : ∀ c, attrs.head? = some c → ¬ isNameChar c) :
    namedTag? closing (name.text ++ (attrs ++ '>' :: rest)) =
      some { closing, name := name.text, attributes := attrs, rest } := by
  have hhead : (name.text ++ (attrs ++ '>' :: rest)).head?.any isNameStart := name.first_start
  have hname : ∀ c ∈ name.text, isNameChar c := fun c hc => Name.isNameChar_of_mem_text hc
  have hstop : ∀ c, (attrs ++ '>' :: rest).head? = some c → ¬ isNameChar c := by
    intro c hc
    cases attrs with
    | nil =>
        obtain rfl : '>' = c := by simpa using hc
        decide
    | cons d attrs => exact hapart c hc
  have htake : (attrs ++ '>' :: rest).takeWhile isNameChar = [] := by
    cases hu : attrs ++ '>' :: rest with
    | nil => rfl
    | cons d u =>
        rw [hu] at hstop
        exact List.takeWhile_cons_of_neg (hstop d rfl)
  have hdrop : (attrs ++ '>' :: rest).dropWhile isNameChar = attrs ++ '>' :: rest := by
    cases hu : attrs ++ '>' :: rest with
    | nil => rfl
    | cons d u =>
        rw [hu] at hstop
        exact List.dropWhile_cons_of_neg (hstop d rfl)
  rw [namedTag?, hhead, List.takeWhile_append_of_pos hname, List.dropWhile_append_of_pos hname,
    htake, hdrop, h, List.append_nil]
  rfl

/-- The name of an opening tag begins with no slash. -/
theorem tag?_of_untilBracket? (name : Name) {attrs rest : Text}
    (h : untilBracket? none (attrs ++ '>' :: rest) = some (attrs, rest))
    (hapart : ∀ c, attrs.head? = some c → ¬ isNameChar c) :
    tag? (name.text ++ (attrs ++ '>' :: rest)) =
      some { closing := false, name := name.text, attributes := attrs, rest } := by
  rw [tag?]
  · exact namedTag?_of_untilBracket? false name h hapart
  · intro t ht
    have hstart := name.first_start
    rw [Name.text, List.cons_append] at ht
    rw [(List.cons.inj ht).1] at hstart
    exact absurd hstart (by decide)

theorem tag?_opening (name : Name) (attrs rest : Text) (h : IsTail attrs) :
    tag? (name.text ++ (attrs ++ '>' :: rest)) =
      some { closing := false, name := name.text, attributes := attrs, rest } :=
  tag?_of_untilBracket? name (untilBracket?_append h.plain rest) h.apart

theorem tag?_closing (name : Name) (rest : Text) :
    tag? ('/' :: (name.text ++ '>' :: rest)) =
      some { closing := true, name := name.text, attributes := [], rest } :=
  @namedTag?_of_untilBracket? true name [] rest rfl (by simp)

/-- A tag is not taken for a comment. -/
theorem not_comment_of_tag? {t : Text} {p : TagParts} (h : tag? t = some p) :
    "!--".toList.isPrefixOf t = false := by
  rw [← Bool.not_eq_true, List.isPrefixOf_iff_prefix]
  rintro ⟨rest, rfl⟩
  cases h

theorem tokensFrom_tag {t : Text} {p : TagParts} (h : tag? t = some p)
    (hraw : (!p.closing && !p.isSelfClosing && isRawText (foldName p.name)) = false) (n : Nat) :
    tokensFrom n ('<' :: t) = p.token n :: tokensFrom (n + p.size) p.rest := by
  have hmeet : meet n t = ⟨some (p.token n), n + p.size, p.rest⟩ := by
    simp only [meet, not_comment_of_tag? h, h, hraw, Bool.false_eq_true, ↓reduceIte]
  rw [tokensFrom_bracket, hmeet]
  rfl

/-! ## Documents -/

namespace Piece

@[simp] theorem size_render_comment (body : Text) (closed : ¬ "-->".toList <:+: body) :
    (comment body closed).render.size = body.size + 7 := by
  simp only [render, Text.size_append]
  change 4 + (body.size + 3) = body.size + 7
  omega

@[simp] theorem size_render_opening (name : Name) :
    (opening name).render.size = name.text.size + 2 := by
  simp only [render, Text.size_cons, Text.size_append]
  change 1 + (name.text.size + 1) = name.text.size + 2
  omega

@[simp] theorem size_render_selfClosing (name : Name) :
    (selfClosing name).render.size = name.text.size + 3 := by
  simp only [render, Text.size_cons, Text.size_append]
  change 1 + (name.text.size + 2) = name.text.size + 3
  omega

@[simp] theorem size_render_closing (name : Name) :
    (closing name).render.size = name.text.size + 3 := by
  simp only [render, Text.size_cons, Text.size_append]
  change 1 + (1 + (name.text.size + 1)) = name.text.size + 3
  omega

end Piece

/-- The scanner takes one piece off a document. -/
theorem tokensFrom_piece {p : Piece} (h : p.opensRawText = false) (n : Nat) (rest : Text) :
    tokensFrom n (p.render ++ rest) = p.tokens n ++ tokensFrom (n + p.render.size) rest := by
  cases p with
  | text t plain => exact tokensFrom_text plain n rest
  | comment body closed =>
      have hsize : n + (Piece.comment body closed).render.size = n + 7 + body.size := by
        rw [Piece.size_render_comment]
        omega
      rw [Piece.tokens, hsize]
      exact tokensFrom_comment closed n rest
  | opening name =>
      have htag : tag? (name.text ++ '>' :: rest) = some ⟨false, name.text, [], rest⟩ :=
        tag?_opening name [] rest ⟨by simp, by simp⟩
      have htext : (Piece.opening name).render ++ rest = '<' :: (name.text ++ '>' :: rest) := by
        simp [Piece.render]
      have hsize : (Piece.opening name).render.size =
          TagParts.size ⟨false, name.text, [], rest⟩ := by
        simp [TagParts.size, Nat.add_comm]
      rw [htext, tokensFrom_tag htag h, Piece.tokens, hsize]
      rfl
  | selfClosing name =>
      have htag : tag? (name.text ++ '/' :: '>' :: rest) = some ⟨false, name.text, ['/'], rest⟩ :=
        tag?_opening name ['/'] rest ⟨by simp, by simp; decide⟩
      have htext : (Piece.selfClosing name).render ++ rest =
          '<' :: (name.text ++ '/' :: '>' :: rest) := by
        simp [Piece.render]
      have hsize : (Piece.selfClosing name).render.size =
          TagParts.size ⟨false, name.text, ['/'], rest⟩ := by
        rw [Piece.size_render_selfClosing]
        change name.text.size + 3 = 2 + 0 + name.text.size + 1
        omega
      rw [htext, tokensFrom_tag htag rfl, Piece.tokens, hsize]
      rfl
  | closing name =>
      have htext : (Piece.closing name).render ++ rest =
          '<' :: '/' :: (name.text ++ '>' :: rest) := by
        simp [Piece.render]
      have hsize : (Piece.closing name).render.size =
          TagParts.size ⟨true, name.text, [], rest⟩ := by
        simp [TagParts.size, Nat.add_comm]
      rw [htext, tokensFrom_tag (tag?_closing name rest) rfl, Piece.tokens, hsize]
      rfl

/-- Reading a document gives the tokens of its pieces. -/
theorem tokensFrom_render {doc : List Piece} (h : ∀ p ∈ doc, p.opensRawText = false) (n : Nat) :
    tokensFrom n (render doc) = pieceTokens n doc := by
  induction doc generalizing n with
  | nil => rw [render_nil, tokensFrom_nil, pieceTokens]
  | cons p doc ih =>
      have hdoc := ih fun q hq => h q (by simp [hq])
      rw [render_cons, tokensFrom_piece (h p (by simp)), hdoc, pieceTokens]

end PageLint.Markup
