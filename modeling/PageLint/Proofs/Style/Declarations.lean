import PageLint.Style.Block
import PageLint.Proofs.Text.Ascii
import PageLint.Proofs.Text.Slices
import PageLint.Proofs.Text.Trimming
import Mathlib.Data.List.TakeWhile

/-! # Declarations of a masked style sheet

Statements are slices of the masked copy, and so are the two parts of a declaration. None of these
slices fails. Property and value begin and end with characters that are no white space. -/

namespace PageLint.Style

variable {masked : Text}

/-! ## Statements -/

/-- Where the statements of a text at offset `n` start and stop. -/
def spansFrom (n start depth : Nat) : Text → List (Nat × Nat)
  | [] => if depth > 0 then [(start, n)] else []
  | c :: t =>
    let next := n + c.utf8Size
    let ended := if depth > 0 then [(start, n)] else []
    if c = '{' then spansFrom next next (depth + 1) t
    else if c = '}' then ended ++ spansFrom next next (depth - 1) t
    else if c = ';' then ended ++ spansFrom next next depth t
    else spansFrom next start depth t

/-- The span of a statement at an offset. -/
def spanOf (statement : Nat × Text) : Nat × Nat :=
  (statement.1, statement.1 + statement.2.size)

/-- The statement is a piece of the text at its offset. -/
def IsStatement (masked : Text) (statement : Nat × Text) : Prop :=
  ∃ back, masked.StandsAt statement.1 (statement.2 ++ back)

theorem statementsFrom_spec (t : Text) :
    ∀ (n start depth : Nat) (back : Text), masked.StandsAt start (back.reverse ++ t) →
      n = start + Text.size back.reverse →
        spansFrom n start depth t = (statementsFrom n start depth back t).map spanOf ∧
          ∀ statement ∈ statementsFrom n start depth back t, IsStatement masked statement := by
  induction t with
  | nil =>
      intro n start depth back hstart hn
      rw [spansFrom, statementsFrom]
      split
      · exact ⟨by rw [hn]; rfl, by simpa [IsStatement] using ⟨[], by simpa using hstart⟩⟩
      · exact ⟨rfl, by simp⟩
  | cons c t ih =>
      intro n start depth back hstart hn
      have hnext : masked.StandsAt (n + c.utf8Size) ([].reverse ++ t) :=
        hn ▸ hstart.skip.skip_cons
      have hfresh : n + c.utf8Size = n + c.utf8Size + Text.size (List.reverse []) := rfl
      have hended : (if depth > 0 then [(start, n)] else []) =
          (if depth > 0 then [(start, back.reverse)] else []).map spanOf ∧
          ∀ statement ∈ (if depth > 0 then [(start, back.reverse)] else []),
            IsStatement masked statement := by
        split
        · exact ⟨by rw [hn]; rfl, by simpa [IsStatement] using ⟨c :: t, hstart⟩⟩
        · exact ⟨rfl, by simp⟩
      rw [spansFrom, statementsFrom]
      split
      · exact ih _ _ _ [] hnext hfresh
      · split
        · obtain ⟨hspans, hrest⟩ := ih _ _ (depth - 1) [] hnext hfresh
          refine ⟨by rw [List.map_append, hended.1, hspans], fun statement hs => ?_⟩
          rcases List.mem_append.mp hs with hs | hs
          · exact hended.2 statement hs
          · exact hrest statement hs
        · split
          · obtain ⟨hspans, hrest⟩ := ih _ _ depth [] hnext hfresh
            refine ⟨by rw [List.map_append, hended.1, hspans], fun statement hs => ?_⟩
            rcases List.mem_append.mp hs with hs | hs
            · exact hended.2 statement hs
            · exact hrest statement hs
          · refine ih _ _ _ (c :: back) (by simpa using hstart) ?_
            rw [hn, List.reverse_cons, Text.size_append, Nat.add_assoc]
            rfl

theorem statements_spec (masked : Text) :
    spansFrom 0 0 0 masked = (statements masked).map spanOf ∧
      ∀ statement ∈ statements masked, IsStatement masked statement :=
  statementsFrom_spec masked 0 0 0 [] (Text.standsAt_zero masked) rfl

/-! ## Slices -/

/-- The declaration with a colon between `name` and `value`, in a statement at offset `n`. -/
def declarationOf (n : Nat) (name value : Text) : Option Declaration :=
  let property := Text.trim name
  let content := Text.trim value
  if isPropertyName property && !content.isEmpty then
    some
      { property := String.ofList (Text.lowerAscii property)
        propertyStart := n + (Text.size name - Text.size (Text.trimStart name))
        value := content
        valueStart := n + Text.size name + 1 +
          (Text.size value - Text.size (Text.trimStart value)) }
  else none

/-- The declaration that a statement with a span makes, cut out of the text by slices. -/
def slicedDeclaration (masked : Text) (span : Nat × Nat) : Except Fault (Option Declaration) := do
  let statement ← masked.sliceBetween span.1 span.2
  if statement.all (· != ':') then return none
  else
    let colon := Text.size (statement.takeWhile (· != ':'))
    let name ← statement.sliceTo colon
    let value ← statement.sliceFrom (colon + 1)
    return declarationOf span.1 name value

def slicedDeclarations (masked : Text) : Except Fault (List Declaration) := do
  let found ← (spansFrom 0 0 0 masked).mapM (slicedDeclaration masked)
  return found.filterMap id

theorem exists_colon (t : Text) :
    t.all (· != ':') = true ∨ ∃ value, t = t.takeWhile (· != ':') ++ ':' :: value ∧
      t.dropWhile (· != ':') = ':' :: value := by
  have hjoin := List.takeWhile_append_dropWhile (p := (· != ':')) (l := t)
  cases hdrop : t.dropWhile (· != ':') with
  | nil =>
      rw [hdrop, List.append_nil] at hjoin
      exact .inl (hjoin ▸ List.all_takeWhile)
  | cons c value =>
      have hhead := List.head?_dropWhile_not (· != ':') t
      rw [hdrop] at hhead
      obtain rfl : c = ':' := by simpa using hhead
      rw [hdrop] at hjoin
      exact .inr ⟨value, hjoin.symm, rfl⟩

theorem declaration?_of_all {n : Nat} {t : Text} (h : t.all (· != ':') = true) :
    declaration? n t = none := by
  have hdrop : t.dropWhile (· != ':') = [] :=
    List.dropWhile_eq_nil_iff.mpr (List.all_eq_true.mp h)
  unfold declaration?
  rw [hdrop]

theorem declaration?_of_colon {n : Nat} {t value : Text}
    (h : t.dropWhile (· != ':') = ':' :: value) :
    declaration? n t = declarationOf n (t.takeWhile (· != ':')) value := by
  unfold declaration?
  rw [h]
  rfl

theorem IsStatement.slicedDeclaration_eq {statement : Nat × Text}
    (h : IsStatement masked statement) :
    slicedDeclaration masked (spanOf statement) = .ok (declaration? statement.1 statement.2) := by
  obtain ⟨n, t⟩ := statement
  obtain ⟨back, hstands⟩ := h
  have hslice : masked.sliceBetween n (n + t.size) = .ok t := hstands.sliceBetween_eq
  rcases exists_colon t with hnone | ⟨value, hsplit, hdrop⟩
  · simp only [slicedDeclaration, spanOf, hslice, bind, Except.bind, hnone, ↓reduceIte,
      declaration?_of_all hnone]
    rfl
  · have hcolon : t.all (· != ':') = false := by
      rw [← Bool.not_eq_true, List.all_eq_true]
      intro hall
      have hmem : ':' ∈ t := by
        rw [hsplit]
        simp
      simpa using hall ':' hmem
    have hname : t.sliceTo (Text.size (t.takeWhile (· != ':'))) = .ok (t.takeWhile (· != ':')) := by
      have hto := Text.sliceTo_append (t.takeWhile (· != ':')) (':' :: value)
      rwa [← hsplit] at hto
    have hvalue : t.sliceFrom (Text.size (t.takeWhile (· != ':')) + 1) = .ok value := by
      have hstart : t.StandsAt 0 (t.takeWhile (· != ':') ++ ':' :: value) :=
        hsplit ▸ Text.standsAt_zero t
      have hfrom := hstart.skip.skip_cons.sliceFrom_eq
      rwa [Nat.zero_add] at hfrom
    simp only [slicedDeclaration, spanOf, hslice, bind, Except.bind, hcolon, Bool.false_eq_true,
      ↓reduceIte, hname, hvalue, declaration?_of_colon hdrop]
    rfl

theorem mapM_eq_ok {α β : Type} {f : α → Except Fault β} {g : α → β} {l : List α}
    (h : ∀ a ∈ l, f a = .ok (g a)) : l.mapM f = .ok (l.map g) := by
  induction l with
  | nil => rfl
  | cons a l ih =>
      rw [List.mapM_cons, h a List.mem_cons_self, ih fun b hb => h b (List.mem_cons_of_mem a hb)]
      rfl

/-- The slices give the declarations, and none of them fails. -/
theorem slicedDeclarations_eq (masked : Text) :
    slicedDeclarations masked = .ok (declarations masked) := by
  obtain ⟨hspans, hstatements⟩ := statements_spec masked
  have hmap : ((statements masked).map spanOf).mapM (slicedDeclaration masked) =
      .ok ((statements masked).map fun statement => declaration? statement.1 statement.2) := by
    rw [List.mapM_map]
    exact mapM_eq_ok fun statement hs => (hstatements statement hs).slicedDeclaration_eq
  rw [slicedDeclarations, hspans, hmap]
  change Except.ok (List.filterMap id _) = _
  rw [List.filterMap_map]
  rfl

/-! ## Parts of a declaration -/

/-- Property and value of the declaration are pieces of the text at their offsets, and both begin
and end with other characters than white space. -/
structure Declaration.IsOf (masked : Text) (d : Declaration) : Prop where
  property : ∃ word back : Text, word.size = d.property.utf8ByteSize ∧
    masked.StandsAt d.propertyStart (word ++ back) ∧ word.BeginsVisibly ∧ word.EndsVisibly
  value : (∃ back, masked.StandsAt d.valueStart (d.value ++ back)) ∧ d.value.BeginsVisibly ∧
    d.value.EndsVisibly

theorem toNat_lt_of_isPropertyChar {c : Char} (h : isPropertyChar c) : c.toNat < 128 := by
  simp only [isPropertyChar, Bool.or_eq_true, decide_eq_true_eq] at h
  rcases h with (h | h) | rfl
  · exact Text.toNat_lt_of_isAsciiLetter h
  · exact Text.toNat_lt_of_isAsciiDigit h
  · decide

theorem size_lowerAscii {t : Text} (h : ∀ c ∈ t, isPropertyChar c) :
    (Text.lowerAscii t).size = t.size := by
  induction t with
  | nil => rfl
  | cons c t ih =>
      have hc : c.toLower.utf8Size = c.utf8Size :=
        Text.forall_ascii (P := fun c => c.toLower.utf8Size = c.utf8Size) (by decide)
          (toNat_lt_of_isPropertyChar (h c (by simp)))
      have hrest := ih fun d hd => h d (by simp [hd])
      rw [Text.lowerAscii, List.map_cons, Text.size_cons, Text.size_cons, hc]
      exact congrArg (c.utf8Size + ·) hrest

theorem isPropertyChar_of_isPropertyName {t : Text} (h : isPropertyName t) :
    t ≠ [] ∧ ∀ c ∈ t, isPropertyChar c := by
  simp only [isPropertyName, Bool.and_eq_true] at h
  obtain ⟨⟨-, hhead⟩, hbody⟩ := h
  refine ⟨?_, fun c hc => ?_⟩
  · rintro rfl
    cases hhead
  · have hjoin := List.takeWhile_append_dropWhile (p := (· == '-')) (l := t)
    rw [← hjoin] at hc
    rcases List.mem_append.mp hc with hc | hc
    · obtain rfl : c = '-' := by simpa using List.all_eq_true.mp List.all_takeWhile c hc
      decide
    · exact List.all_eq_true.mp hbody c hc

theorem isOf_of_declarationOf {n : Nat} {name value back : Text} {d : Declaration}
    (hstands : masked.StandsAt n (name ++ ':' :: (value ++ back)))
    (h : declarationOf n name value = some d) : d.IsOf masked := by
  simp only [declarationOf] at h
  split at h
  · rename_i hvalid
    obtain rfl := Option.some.inj h
    simp only [Bool.and_eq_true, Bool.not_eq_true', List.isEmpty_eq_false_iff] at hvalid
    obtain ⟨hproperty, hcontent⟩ := hvalid
    obtain ⟨hne, hchars⟩ := isPropertyChar_of_isPropertyName hproperty
    constructor
    · obtain ⟨front, run, hname, hfront⟩ := Text.exists_trim name
      refine ⟨Text.trim name, run ++ ':' :: (value ++ back), ?_, ?_, Text.visible_trim hne⟩
      · rw [Text.utf8ByteSize_ofList, size_lowerAscii hchars]
      · rw [← hfront]
        refine Text.StandsAt.skip (a := front) ?_
        rw [← List.append_assoc, ← List.append_assoc, List.append_assoc front, ← hname]
        exact hstands
    · obtain ⟨front, run, hvalue, hfront⟩ := Text.exists_trim value
      refine ⟨⟨run ++ back, ?_⟩, Text.visible_trim hcontent⟩
      dsimp only
      rw [← hfront]
      refine Text.StandsAt.skip (a := front) ?_
      have hbehind : masked.StandsAt (n + name.size + 1) (value ++ back) := hstands.skip.skip_cons
      rw [← List.append_assoc, ← List.append_assoc, List.append_assoc front, ← hvalue]
      exact hbehind
  · cases h

theorem isOf_of_mem_declarations {d : Declaration} (h : d ∈ declarations masked) :
    d.IsOf masked := by
  obtain ⟨⟨n, t⟩, hmem, hd⟩ := List.mem_filterMap.mp h
  change declaration? n t = some d at hd
  obtain ⟨back, hstands⟩ := (statements_spec masked).2 (n, t) hmem
  rcases exists_colon t with hnone | ⟨value, hsplit, hdrop⟩
  · cases (declaration?_of_all hnone).symm.trans hd
  · rw [declaration?_of_colon hdrop] at hd
    have hjoin : t.takeWhile (· != ':') ++ ':' :: (value ++ back) = t ++ back := by
      rw [← List.cons_append, ← List.append_assoc, ← hsplit]
    exact isOf_of_declarationOf (hjoin ▸ hstands) hd

end PageLint.Style
