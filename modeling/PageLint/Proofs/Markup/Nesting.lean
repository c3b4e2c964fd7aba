import PageLint.Proofs.Markup.Interruption
import PageLint.Proofs.Markup.Document

/-! # Well nested documents

A document is well nested when it is a forest of elements. The scan of a document is silent about
pairs of tags exactly when there is such a forest, and then it says of each element what the tables
say of it and of the element around it. -/

namespace PageLint.Markup

/-! ## Forests -/

/-- Text, comments, and tags of which no closing tag is expected. -/
def Piece.isLeaf : Piece → Bool
  | text .. | comment .. | selfClosing _ => true
  | opening name => isVoid name.folded
  | closing _ => false

theorem Piece.leaf_or_tag (p : Piece) :
    p.isLeaf = true ∨ (∃ name, p = .opening name ∧ isVoid name.folded = false) ∨
      ∃ name, p = .closing name := by
  cases p with
  | text t plain => exact .inl rfl
  | comment body closed => exact .inl rfl
  | selfClosing name => exact .inl rfl
  | closing name => exact .inr (.inr ⟨name, rfl⟩)
  | opening name =>
      cases hvoid : isVoid name.folded with
      | true => exact .inl hvoid
      | false => exact .inr (.inl ⟨name, rfl, hvoid⟩)

/-- Elements side by side, each with a forest for a body. Names agree up to the case of letters. -/
inductive Forest where
  | nil
  | leaf (p : Piece) (isLeaf : p.isLeaf = true) (rest : Forest)
  | element (opener closer : Name) (hasBody : isVoid opener.folded = false)
      (same : closer.folded = opener.folded) (body rest : Forest)

namespace Forest

def pieces : Forest → List Piece
  | nil => []
  | leaf p _ rest => p :: rest.pieces
  | element opener closer _ _ body rest =>
      .opening opener :: (body.pieces ++ .closing closer :: rest.pieces)

end Forest

/-- What the tables say of an element directly inside `parent`. -/
def tableIssues (parent : Option String) (name : String) : List Issue :=
  ((requiredParents? name).toList.filter fun parents => !parent.any parents.contains).map
      (.invalidParent name) ++
    (parent.toList.filter fun outer => excludes outer name).map (.invalidNesting · name)

/-- What the tables say of the elements of a forest that starts at offset `n` inside `parent`, in
the order of their opening tags. -/
def Forest.misplacements (parent : Option String) (n : Nat) : Forest → List Diagnostic
  | nil => []
  | leaf p _ rest => rest.misplacements parent (n + p.render.size)
  | element opener closer _ _ body rest =>
      let inside := n + (Piece.opening opener).render.size
      let behind := inside + (render body.pieces).size + (Piece.closing closer).render.size
      (tableIssues parent opener.folded).map (·.report n inside) ++
        body.misplacements (some opener.folded) inside ++ rest.misplacements parent behind

/-- A tag without its partner. -/
def isPairing (d : Diagnostic) : Bool :=
  d.rule == some "mismatched-closing-tag" || d.rule == some "unclosed-tag"

/-- An element in the wrong place. -/
def isPlacement (d : Diagnostic) : Bool :=
  d.rule == some "invalid-parent" || d.rule == some "invalid-nesting"

/-- The rule alone decides, not the place nor the edits. -/
theorem isPairing_report (i : Issue) (start stop : Nat) (edits : List Edit) :
    isPairing (i.report start stop edits) =
      (i.rule == "mismatched-closing-tag" || i.rule == "unclosed-tag") := rfl

theorem isPlacement_report (i : Issue) (start stop : Nat) (edits : List Edit) :
    isPlacement (i.report start stop edits) =
      (i.rule == "invalid-parent" || i.rule == "invalid-nesting") := rfl

/-! ## The walk over a piece -/

/-- The answer of a walk with issues in front of its own. -/
def ahead (ds : List Diagnostic) (answer : List Diagnostic × List OpenElement) :
    List Diagnostic × List OpenElement :=
  (ds ++ answer.1, answer.2)

theorem ahead_nil (answer : List Diagnostic × List OpenElement) : ahead [] answer = answer := rfl

theorem ahead_ahead (ds es : List Diagnostic) (answer : List Diagnostic × List OpenElement) :
    ahead ds (ahead es answer) = ahead (ds ++ es) answer := by
  simp [ahead]

theorem attributes_nil (n : Nat) : attributes n [] = [] := by
  rw [attributes, attributesFrom]

theorem attributes_slash (n : Nat) : attributes n ['/'] = [] := by
  rw [attributes, attributesFrom, ite_cond_eq_false _ _ (eq_false (by decide)), attributesFrom]

theorem placementIssues_eq (stack : List OpenElement) (name : String) (start stop : Nat) :
    placementIssues stack name start stop =
      (tableIssues (stack.head?.map (·.name)) name).map (·.report start stop) := by
  unfold placementIssues tableIssues
  cases requiredParents? name with
  | none =>
      cases stack with
      | nil => rfl
      | cons e outer => by_cases hn : excludes e.name name <;> simp [hn]
  | some parents =>
      cases stack with
      | nil => rfl
      | cons e outer =>
          by_cases hp : e.name ∈ parents <;> by_cases hn : excludes e.name name <;> simp [hp, hn]

section Walk

variable {size : Nat} {stack : List OpenElement} {n : Nat} {doc : List Piece}

theorem walk_leaf {p : Piece} (h : p.isLeaf = true) :
    walk size stack (pieceTokens n (p :: doc)) =
      walk size stack (pieceTokens (n + p.render.size) doc) := by
  cases p with
  | text t plain => rfl
  | comment body closed => rfl
  | opening name =>
      have hbody : hasBody name.folded false = false := by
        have hvoid : isVoid name.folded = true := h
        rw [hasBody, hvoid]
        rfl
      simp [pieceTokens, Piece.tokens, walk, Token.issues, Token.push, hbody, attributes_nil,
        attributeIssues]
  | selfClosing name =>
      simp [pieceTokens, Piece.tokens, walk, Token.issues, Token.push, hasBody, attributes_slash,
        attributeIssues]
  | closing name => cases h

/-- An opening tag is looked up in the tables and left open. -/
theorem walk_opening {name : Name} (h : isVoid name.folded = false) :
    walk size stack (pieceTokens n (.opening name :: doc)) =
      ahead ((tableIssues (stack.head?.map (·.name)) name.folded).map
          (·.report n (n + (Piece.opening name).render.size)))
        (walk size (⟨name.folded, n⟩ :: stack)
          (pieceTokens (n + (Piece.opening name).render.size) doc)) := by
  have hbody : hasBody name.folded false = true := by
    rw [hasBody, h]
    rfl
  simp [pieceTokens, Piece.tokens, walk, Token.issues, Token.push, hbody, attributes_nil,
    attributeIssues, placementIssues_eq, ahead]

/-- Nothing is said of a closing tag that meets its element. -/
theorem closingIssues_same {e : OpenElement} {outer : List OpenElement} {name : String}
    (h : e.name = name) (start stop : Nat) : closingIssues (e :: outer) name start stop = [] := by
  rw [closingIssues, if_pos h]

/-- A closing tag closes the innermost element, whatever its name. -/
theorem walk_closing (name : Name) :
    walk size stack (pieceTokens n (.closing name :: doc)) =
      ahead (closingIssues stack name.folded n (n + (Piece.closing name).render.size))
        (walk size stack.tail (pieceTokens (n + (Piece.closing name).render.size) doc)) := rfl

end Walk

/-! ## Forests are silent -/

/-- A forest leaves the open elements as they are, and all that is reported is what the tables say
of its elements. -/
theorem walk_forest (size : Nat) (stack : List OpenElement) (n : Nat) (f : Forest)
    (doc : List Piece) :
    walk size stack (pieceTokens n (f.pieces ++ doc)) =
      ahead (f.misplacements (stack.head?.map (·.name)) n)
        (walk size stack (pieceTokens (n + (render f.pieces).size) doc)) := by
  induction f generalizing stack n doc with
  | nil => rfl
  | leaf p isLeaf rest ih =>
      rw [Forest.pieces, List.cons_append, walk_leaf isLeaf, ih, Forest.misplacements,
        render_cons, Text.size_append, Nat.add_assoc]
  | element opener closer hasBody same body rest ihBody ihRest =>
      have hpieces : (Forest.element opener closer hasBody same body rest).pieces ++ doc =
          .opening opener :: (body.pieces ++ .closing closer :: (rest.pieces ++ doc)) := by
        simp [Forest.pieces]
      rw [hpieces, walk_opening hasBody, ihBody, walk_closing, closingIssues_same same.symm,
        List.tail_cons, ihRest, ahead_nil, ahead_ahead, ahead_ahead]
      simp [Forest.misplacements, Forest.pieces, render, Nat.add_assoc]

/-! ## Silence needs a forest -/

/-- `doc` closes the elements of `stack`, innermost first, with forests in front of, between and
behind the closing tags. -/
inductive Unwinds : List String → List Piece → Prop where
  | done (f : Forest) : Unwinds [] f.pieces
  | close (f : Forest) (closer : Name) {name stack doc} (same : closer.folded = name) :
      Unwinds stack doc → Unwinds (name :: stack) (f.pieces ++ .closing closer :: doc)

namespace Unwinds

variable {stack : List String} {doc : List Piece}

theorem leaf {p : Piece} (hp : p.isLeaf = true) (h : Unwinds stack doc) :
    Unwinds stack (p :: doc) := by
  cases h with
  | done f => exact .done (.leaf p hp f)
  | close f closer same h => exact .close (.leaf p hp f) closer same h

/-- The first forest is the body of the element, and it goes on behind its closing tag. -/
theorem opening {name : Name} (hbody : isVoid name.folded = false)
    (h : Unwinds (name.folded :: stack) doc) : Unwinds stack (.opening name :: doc) := by
  cases h with
  | close body closer same h =>
      cases h with
      | done rest => exact .done (.element name closer hbody same body rest)
      | close rest outer sameOuter h =>
          have hclose := close (.element name closer hbody same body rest) outer sameOuter h
          simpa [Forest.pieces] using hclose

theorem forest (h : Unwinds [] doc) : ∃ f : Forest, f.pieces = doc := by
  cases h with
  | done f => exact ⟨f, rfl⟩

end Unwinds

/-- The answer of a walk in which every tag has found its partner. -/
def IsPaired (answer : List Diagnostic × List OpenElement) : Prop :=
  (∀ d ∈ answer.1, isPairing d = false) ∧ answer.2 = []

theorem isPaired_ahead {ds : List Diagnostic} {answer : List Diagnostic × List OpenElement} :
    IsPaired (ahead ds answer) ↔ (∀ d ∈ ds, isPairing d = false) ∧ IsPaired answer := by
  simp only [IsPaired, ahead, List.mem_append, or_imp, forall_and, and_assoc]

theorem closingIssues_silent {stack : List OpenElement} {name : String} {start stop : Nat}
    (h : ∀ d ∈ closingIssues stack name start stop, isPairing d = false) :
    ∃ e outer, stack = e :: outer ∧ e.name = name := by
  cases stack with
  | nil =>
      have hpairing := h _ (List.mem_singleton.mpr rfl)
      rw [isPairing_report] at hpairing
      exact absurd hpairing (by simp [Issue.rule])
  | cons e outer =>
      by_cases hname : e.name = name
      · exact ⟨e, outer, rfl, hname⟩
      · rw [closingIssues, ite_cond_eq_false _ _ (eq_false hname)] at h
        have hpairing := h _ (List.mem_singleton.mpr rfl)
        rw [isPairing_report] at hpairing
        exact absurd hpairing (by simp [Issue.rule])

/-- Where every tag finds its partner, the document closes what is open. -/
theorem unwinds_of_isPaired {size n : Nat} {stack : List OpenElement} {doc : List Piece}
    (h : IsPaired (walk size stack (pieceTokens n doc))) :
    Unwinds (stack.map (·.name)) doc := by
  induction doc generalizing stack n with
  | nil =>
      have hstack : stack = [] := h.2
      rw [hstack]
      exact .done .nil
  | cons p doc ih =>
      rcases p.leaf_or_tag with hleaf | ⟨name, rfl, hbody⟩ | ⟨name, rfl⟩
      · rw [walk_leaf hleaf] at h
        exact (ih h).leaf hleaf
      · rw [walk_opening hbody, isPaired_ahead] at h
        exact (ih h.2).opening hbody
      · rw [walk_closing, isPaired_ahead] at h
        obtain ⟨e, outer, rfl, hname⟩ := closingIssues_silent h.1
        exact .close .nil name hname.symm (ih h.2)

/-! ## Checking a document -/

theorem isPlacement_of_mem_tableIssues {parent : Option String} {name : String} {start stop : Nat}
    {d : Diagnostic} (h : d ∈ (tableIssues parent name).map (·.report start stop)) :
    isPlacement d = true ∧ isPairing d = false := by
  obtain ⟨i, hi, rfl⟩ := List.mem_map.mp h
  rw [isPlacement_report, isPairing_report]
  rcases List.mem_append.mp hi with hi | hi
  · obtain ⟨parents, -, rfl⟩ := List.mem_map.mp hi
    simp [Issue.rule]
  · obtain ⟨outer, -, rfl⟩ := List.mem_map.mp hi
    simp [Issue.rule]

theorem isPlacement_of_mem_misplacements {f : Forest} {parent : Option String} {n : Nat}
    {d : Diagnostic} (h : d ∈ f.misplacements parent n) :
    isPlacement d = true ∧ isPairing d = false := by
  induction f generalizing parent n with
  | nil => cases h
  | leaf p isLeaf rest ih => exact ih h
  | element opener closer hasBody same body rest ihBody ihRest =>
      rw [Forest.misplacements, List.append_assoc] at h
      rcases List.mem_append.mp h with h | h
      · exact isPlacement_of_mem_tableIssues h
      · rcases List.mem_append.mp h with h | h
        · exact ihBody h
        · exact ihRest h

theorem rule_of_mem_shapeIssues {names : List String} {d : Diagnostic}
    (h : d ∈ shapeIssues names) :
    d.rule = some "missing-root" ∨ d.rule = some "missing-section" := by
  unfold shapeIssues at h
  split at h
  · obtain rfl := List.mem_singleton.mp h
    exact .inl rfl
  · obtain ⟨name, -, rfl⟩ := List.mem_map.mp h
    exact .inr rfl

theorem rule_of_mem_unclosedIssues {size : Nat} {stack : List OpenElement} {d : Diagnostic}
    (h : d ∈ unclosedIssues size stack) : d.rule = some "unclosed-tag" := by
  induction stack with
  | nil => cases h
  | cons e outer ih =>
      rcases List.mem_cons.mp h with rfl | h
      · rfl
      · exact ih h

/-- What a document as a whole lacks is not about pairs of tags, and every element that is left open
is reported. -/
theorem forall_issues_iff {source : Text} {fragment : Bool} {tokens : List Token} :
    (∀ d ∈ issues source fragment tokens, isPairing d = false) ↔
      IsPaired (walk source.size [] tokens) := by
  unfold issues
  constructor
  · intro h
    refine ⟨fun d hd => h d (by simp [hd]), ?_⟩
    cases hopen : (walk source.size [] tokens).2 with
    | nil => rfl
    | cons e outer =>
        have hmem : (Issue.unclosedTag e.name (outer.head?.map (·.name))).report e.start
            (e.start + e.name.utf8ByteSize + 1)
            [.insert source.size ("</" ++ e.name ++ ">").toList] ∈
            unclosedIssues source.size (walk source.size [] tokens).2 := by
          rw [hopen]
          exact List.mem_cons_self
        have hpairing := h _ (List.mem_append_left _ (List.mem_append_right _ hmem))
        rw [isPairing_report] at hpairing
        exact absurd hpairing (by simp [Issue.rule])
  · rintro ⟨hwalk, hopen⟩ d hd
    simp only [hopen, unclosedIssues, List.append_nil] at hd
    rcases List.mem_append.mp hd with hd | hd
    · exact hwalk d hd
    · split at hd
      · cases hd
      · rcases rule_of_mem_shapeIssues hd with hrule | hrule <;> simp [isPairing, hrule]

theorem filter_issues (source : Text) (fragment : Bool) (tokens : List Token) :
    (issues source fragment tokens).filter isPlacement =
      (walk source.size [] tokens).1.filter isPlacement := by
  have hunclosed : (unclosedIssues source.size (walk source.size [] tokens).2).filter isPlacement =
      [] := by
    rw [List.filter_eq_nil_iff]
    intro d hd
    simp [isPlacement, rule_of_mem_unclosedIssues hd]
  have hshape : (shapeIssues (openedNames tokens)).filter isPlacement = [] := by
    rw [List.filter_eq_nil_iff]
    intro d hd
    rcases rule_of_mem_shapeIssues hd with hrule | hrule <;> simp [isPlacement, hrule]
  unfold issues
  rw [List.filter_append, List.filter_append, hunclosed, List.append_nil]
  split
  · rw [List.filter_nil, List.append_nil]
  · rw [hshape, List.append_nil]

/-- With time enough, a document in pieces is checked by a walk over their tokens. -/
theorem diagnostics_check {doc : List Piece} {o : Context}
    (hraw : ∀ p ∈ doc, p.opensRawText = false) (ho : o.deadline = .never) :
    (check (render doc) o).diagnostics =
      issues (render doc) o.allowPartial (pieceTokens 0 doc) := by
  rw [check_never (render doc) ho, tokens, tokensFrom_render hraw]

/-- A check is silent about pairs of tags exactly when the document is a forest, and then it says of
each element, in order, what the tables say of it inside the element around it. -/
theorem check_silent_iff_forest {doc : List Piece} {o : Context}
    (hraw : ∀ p ∈ doc, p.opensRawText = false) (ho : o.deadline = .never) :
    ((∀ d ∈ (check (render doc) o).diagnostics, isPairing d = false) ↔
        ∃ f : Forest, f.pieces = doc) ∧
      ∀ f : Forest, f.pieces = doc →
        (check (render doc) o).diagnostics.filter isPlacement = f.misplacements none 0 := by
  have hwalk : ∀ f : Forest, f.pieces = doc →
      walk (render doc).size [] (pieceTokens 0 doc) = (f.misplacements none 0, []) := by
    rintro f rfl
    have h := walk_forest (render f.pieces).size [] 0 f []
    simpa [ahead, pieceTokens, walk] using h
  rw [diagnostics_check hraw ho]
  refine ⟨⟨?_, ?_⟩, ?_⟩
  · intro h
    exact (unwinds_of_isPaired (forall_issues_iff.mp h)).forest
  · rintro ⟨f, hf⟩
    rw [forall_issues_iff, hwalk f hf]
    exact ⟨fun d hd => (isPlacement_of_mem_misplacements hd).2, rfl⟩
  · intro f hf
    rw [filter_issues, hwalk f hf, List.filter_eq_self]
    exact fun d hd => (isPlacement_of_mem_misplacements hd).1

/-- A list item directly inside a paragraph, with letters of both cases. -/
theorem check_silent_iff_forest_looseItem :
    ∃ doc : List Piece, render doc = "<P><lI></Li></p>".toList ∧
      (∀ p ∈ doc, p.opensRawText = false) ∧ ({} : Context).deadline = .never ∧
      ((∀ d ∈ (check (render doc) {}).diagnostics, isPairing d = false) ↔
        ∃ f : Forest, f.pieces = doc) ∧
      ∀ f : Forest, f.pieces = doc →
        (check (render doc) {}).diagnostics.filter isPlacement = f.misplacements none 0 :=
  ⟨[.opening ⟨'P', [], rfl, rfl⟩, .opening ⟨'l', ['I'], rfl, rfl⟩,
      .closing ⟨'L', ['i'], rfl, rfl⟩, .closing ⟨'p', [], rfl, rfl⟩],
    rfl, by decide, rfl, check_silent_iff_forest (by decide) rfl⟩

end PageLint.Markup
