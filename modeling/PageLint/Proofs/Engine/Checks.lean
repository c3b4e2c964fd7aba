import PageLint.Proofs.Markup.Interruption
import PageLint.Proofs.Markup.Spans
import PageLint.Proofs.Style.Interruption
import PageLint.Proofs.Style.Spans

/-! # Exact checks

The checks of documents and of style sheets take no slice that fails, and an engine has nothing to
clamp in what they find. -/

namespace PageLint

/-! ## Slices -/

/-- No slice fails that is taken of a document: those of its scan, and those of the text of an
opening tag that end in front of an attribute. -/
structure Markup.IsSliced (source : Text) : Prop where
  scan : Markup.Scans source 0 (Markup.tokens source)
  removals : ∀ name attrs selfClosing start stop,
    .opening name attrs selfClosing start stop ∈ Markup.tokens source →
      ∀ a ∈ Markup.attributes (start + 1 + name.utf8ByteSize) attrs,
        a.slicedRemoval (start + 1 + name.utf8ByteSize) attrs = .ok a.removal

/-- No slice fails that is taken of a style sheet: those of its masking, and those of its masked
copy, which cut out the declarations. -/
structure Style.IsSliced (source : Text) : Prop where
  masking : Style.Masking source 0 {} (Style.maskFrom 0 {} source)
  declarations :
    Style.slicedDeclarations (Style.mask source) = .ok (Style.declarations (Style.mask source))

theorem Markup.isSliced (source : Text) : IsSliced source where
  scan := (scans_tokens source).1
  removals := fun _ _ _ _ _ _ _ ha => (isOf_of_mem_attributes ha).slicedRemoval_eq

theorem Style.isSliced (source : Text) : IsSliced source where
  masking := (masking_mask source).1
  declarations := slicedDeclarations_eq (mask source)

/-! ## Findings -/

/-- The check came to its end. Its diagnostics and their edits cover characters of the source, and
anchoring moves none of them. -/
structure Findings.IsExact (source : Text) (f : Findings) : Prop where
  complete : f.interrupted = false
  liesIn : ∀ d ∈ f.diagnostics, d.LiesIn source
  unmoved : ∀ d ∈ f.diagnostics, (d.anchor source).start = d.start ∧
    (d.anchor source).stop = d.stop ∧ (d.anchor source).fixes = d.fixes

theorem Findings.IsExact.of_liesIn {source : Text} {ds : List Diagnostic}
    (h : ∀ d ∈ ds, d.LiesIn source) : IsExact source { diagnostics := ds } where
  complete := rfl
  liesIn := h
  unmoved := fun d hd => (h d hd).anchor_eq

theorem Markup.isExact_check (source : Text) {o : Context} (h : o.deadline = .never) :
    (check source o).IsExact source := by
  rw [check_never source h]
  exact .of_liesIn (liesIn_issues source o.allowPartial)

theorem Style.isExact_check (validators : Validators) (source : Text) {o : Context}
    (h : o.deadline = .never) : (check validators source o).IsExact source := by
  rw [check_never validators source h]
  refine .of_liesIn fun d hd => ?_
  rcases List.mem_append.mp hd with hd | hd
  · exact liesIn_structureIssues source d hd
  · exact liesIn_contentIssues validators source d hd

/-- With no deadline, the checkers of documents and of style sheets come to their end without a
slice that fails, and their findings are exact before any engine clamps them. -/
theorem Checker.check_exact (source : Text) (validators : Style.Validators) {o : Context}
    (h : o.deadline = .never) :
    Markup.IsSliced source ∧ Style.IsSliced source ∧
      ∀ c ∈ [Markup.checker, Style.checkerWith validators],
        ∃ f, c.check source o = .ok f ∧ f.IsExact source := by
  refine ⟨Markup.isSliced source, Style.isSliced source, fun c hc => ?_⟩
  rcases List.mem_cons.mp hc with rfl | hc
  · exact ⟨_, rfl, Markup.isExact_check source h⟩
  · obtain rfl := List.mem_singleton.mp hc
    exact ⟨_, rfl, Style.isExact_check validators source h⟩

/-- A stray brace behind a comment. Offset 3 is inside of a character, in whose place the masked
copy has two blanks. -/
def Style.strayBehindComment : Text := ['/', '*', 'ü', '*', '/', '}']

theorem Checker.check_exact_strayBehindComment :
    ({} : Context).deadline = .never ∧
      (Style.mask Style.strayBehindComment).IsBoundary 3 ∧
      ¬ Style.strayBehindComment.IsBoundary 3 ∧
      (Style.structureIssues Style.strayBehindComment).map (fun d => (d.start, d.stop)) = [(6, 7)] ∧
      Markup.IsSliced Style.strayBehindComment ∧ Style.IsSliced Style.strayBehindComment ∧
      ∀ c ∈ [Markup.checker, Style.checkerWith .standard],
        ∃ f, c.check Style.strayBehindComment {} = .ok f ∧ f.IsExact Style.strayBehindComment :=
  ⟨rfl, by decide, by decide, by decide,
    Checker.check_exact Style.strayBehindComment .standard rfl⟩

end PageLint
