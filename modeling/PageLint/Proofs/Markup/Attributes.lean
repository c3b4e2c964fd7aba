import PageLint.Proofs.Markup.Nesting
import PageLint.Proofs.Markup.Scan
import PageLint.Proofs.Repair.Revision

/-! # Attributes as they are written

A tag can be put together from a name and attributes, with a space in front of each. The attributes
that are read are those that were written, and every one of them is reported that repeats a name or
that holds nothing. The fixes take exactly these out of the tag, and leave no more to report. -/

namespace PageLint.Markup

open Repair (Stretch original revised edits)
open Text (EndsVisibly)

/-! ## Tags -/

/-- A name, perhaps with a value in double quotes. -/
structure WrittenAttribute where
  name : Text
  value : Option Text
  name_ne_nil : name ≠ []
  name_chars : ∀ c ∈ name, Attribute.isNameChar c
  closed : ∀ v, value = some v → '"' ∉ v

namespace WrittenAttribute

/-- What stands behind the name. -/
def assignment : Option Text → Text
  | none => []
  | some v => '=' :: '"' :: (v ++ ['"'])

def text (a : WrittenAttribute) : Text := a.name ++ assignment a.value

/-- The name in lower case. -/
def folded (a : WrittenAttribute) : String := String.ofList (Text.lowerAscii a.name)

/-- There is nothing between the quotes but white space. -/
def isBlank (a : WrittenAttribute) : Bool := a.value.any Text.isBlankText

end WrittenAttribute

/-- Attributes with a space in front of each. -/
def spaced (attrs : List WrittenAttribute) : Text := attrs.flatMap fun a => ' ' :: a.text

/-- An attribute and those in front of it. -/
structure AttributePlace where
  front : List WrittenAttribute
  here : WrittenAttribute

/-- The places of attributes that stand behind `front`. -/
def attributePlaces (front : List WrittenAttribute) :
    List WrittenAttribute → List AttributePlace
  | [] => []
  | a :: rest => ⟨front, a⟩ :: attributePlaces (front ++ [a]) rest

namespace AttributePlace

/-- The name stands in front already. -/
def isRepeated (p : AttributePlace) : Bool := p.front.any (·.folded == p.here.folded)

/-- The first attribute of its name holds nothing. -/
def isEmpty (p : AttributePlace) : Bool := !p.isRepeated && p.here.isBlank

def isKept (p : AttributePlace) : Bool := !p.isRepeated && !p.isEmpty

/-- The offset of the attribute in a tag whose name ends at offset `n`. -/
def start (n : Nat) (p : AttributePlace) : Nat := n + (spaced p.front).size + 1

def stop (n : Nat) (p : AttributePlace) : Nat := p.start n + p.here.text.size

/-- A report about the attribute, with a fix that takes it and its space out of the tag. -/
def report (issue : String → Issue) (n : Nat) (p : AttributePlace) : Diagnostic :=
  (issue p.here.folded).report (p.start n) (p.stop n) [.delete (p.start n - 1) (p.stop n)]

end AttributePlace

structure WrittenTag where
  name : Name
  attributes : List WrittenAttribute

namespace WrittenTag

def render (tag : WrittenTag) : Text :=
  '<' :: (tag.name.text ++ (spaced tag.attributes ++ ['>']))

/-- The offset behind the name. -/
def inside (tag : WrittenTag) : Nat := 1 + tag.name.text.size

def places (tag : WrittenTag) : List AttributePlace := attributePlaces [] tag.attributes

/-- The tag with the attributes that are neither repeated nor empty. -/
def kept (tag : WrittenTag) : WrittenTag :=
  { tag with attributes := (tag.places.filter (·.isKept)).map (·.here) }

end WrittenTag

/-! ## Reading attributes -/

namespace WrittenAttribute

variable (a : WrittenAttribute) (attrs : List WrittenAttribute)

theorem exists_text_eq : ∃ c t, a.text = c :: t ∧ Attribute.isNameChar c = true := by
  obtain ⟨c, t, hname⟩ := List.exists_cons_of_ne_nil a.name_ne_nil
  exact ⟨c, t ++ assignment a.value, by rw [text, hname, List.cons_append],
    a.name_chars c (by simp [hname])⟩

theorem spaced_cons : spaced (a :: attrs) = ' ' :: (a.text ++ spaced attrs) := rfl

/-- Nothing is assigned where the next attribute or the end follows. -/
theorem assigned?_spaced : Attribute.assigned? (spaced attrs) = none := by
  cases attrs with
  | nil => rfl
  | cons b attrs =>
      obtain ⟨c, t, htext, hc⟩ := b.exists_text_eq
      have hblank : Text.isBlank ' ' = true := by decide
      have htrim : Text.trimStart (spaced (b :: attrs)) = c :: (t ++ spaced attrs) := by
        rw [spaced_cons, htext, Text.trimStart, List.dropWhile_cons_of_pos hblank, List.cons_append,
          List.dropWhile_cons_of_neg (by rw [Attribute.isBlank_of_isNameChar hc]; decide)]
      rw [Attribute.assigned?, htrim]
      split
      · rename_i heq
        obtain ⟨rfl, -⟩ := List.cons.inj heq
        exact absurd hc (by decide)
      · rfl

/-- Behind the name stands the value, if there is one. -/
theorem tail_eq :
    Attribute.tail (assignment a.value ++ spaced attrs) = (a.value, spaced attrs) := by
  unfold Attribute.tail
  cases hvalue : a.value with
  | none =>
      rw [assignment, List.nil_append, assigned?_spaced]
      rfl
  | some v =>
      have hv : ∀ c ∈ v, (c != '"') = true := fun c hc =>
        bne_iff_ne.mpr fun he => a.closed v hvalue (he ▸ hc)
      have hassigned : Attribute.assigned? (assignment (some v) ++ spaced attrs) =
          Attribute.value? ('"' :: (v ++ '"' :: spaced attrs)) := by
        simp [assignment, Attribute.assigned?, Text.trimStart, Text.isBlank, Text.isAsciiBlank, Text.isAscii]
      have hvalue : Attribute.value? ('"' :: (v ++ '"' :: spaced attrs)) =
          some (some v, spaced attrs) := by
        simp [Attribute.value?, List.dropWhile_append_of_pos hv, List.takeWhile_append_of_pos hv]
      rw [hassigned, hvalue]
      rfl

/-- What follows a name does not go on with it. -/
theorem dropWhile_behind :
    (assignment a.value ++ spaced attrs).dropWhile Attribute.isNameChar =
      assignment a.value ++ spaced attrs := by
  cases a.value with
  | some v => rfl
  | none => cases attrs <;> rfl

/-- The first attribute is read from the space in front of it up to the next space. -/
theorem attributesFrom_spaced (n : Nat) :
    attributesFrom n 0 (spaced (a :: attrs)) =
      ⟨a.folded, n + 1, n + 1 + a.text.size, 1, a.value⟩ ::
        attributesFrom (n + 1 + a.text.size) 0 (spaced attrs) := by
  obtain ⟨c, t, hname⟩ := List.exists_cons_of_ne_nil a.name_ne_nil
  have hc : Attribute.isNameChar c = true := a.name_chars c (by simp [hname])
  have ht : ∀ d ∈ t, Attribute.isNameChar d = true := fun d hd => a.name_chars d (by simp [hname, hd])
  have hbehind := a.dropWhile_behind attrs
  have htail := a.tail_eq attrs
  have htext : a.text ++ spaced attrs = c :: (t ++ (assignment a.value ++ spaced attrs)) := by
    rw [text, hname, List.append_assoc, List.cons_append]
  generalize hu : assignment a.value ++ spaced attrs = u at hbehind htail htext
  have htake : u.takeWhile Attribute.isNameChar = [] := by
    have hjoin := List.takeWhile_append_dropWhile (p := Attribute.isNameChar) (l := u)
    rw [hbehind] at hjoin
    exact List.append_cancel_right (hjoin.trans (List.nil_append u).symm)
  have hdrop : (t ++ u).dropWhile Attribute.isNameChar = u := by
    rw [List.dropWhile_append_of_pos ht, hbehind]
  have hname' : c :: (t ++ u).takeWhile Attribute.isNameChar = a.name := by
    rw [List.takeWhile_append_of_pos ht, htake, List.append_nil, hname]
  have hsize : Text.size (c :: (t ++ u)) - Text.size (spaced attrs) = a.text.size := by
    rw [← htext, Text.size_append, Nat.add_sub_cancel]
  have hspace : Attribute.isNameChar ' ' = false := by decide
  have hblank : Text.isBlank ' ' = true := by decide
  rw [spaced_cons, attributesFrom, hspace, htext, attributesFrom, hc, hblank]
  simp only [Bool.false_eq_true, ↓reduceIte, hdrop, htail, hname', hsize]
  rfl

end WrittenAttribute

/-- The attribute that is read at a place. -/
def AttributePlace.attributeAt (n : Nat) (p : AttributePlace) : Attribute :=
  ⟨p.here.folded, p.start n, p.stop n, 1, p.here.value⟩

theorem spaced_append (a b : List WrittenAttribute) : spaced (a ++ b) = spaced a ++ spaced b :=
  List.flatMap_append

theorem size_spaced_concat (front : List WrittenAttribute) (a : WrittenAttribute) :
    (spaced (front ++ [a])).size = (spaced front).size + (1 + a.text.size) := by
  have hone : (spaced [a]).size = 1 + a.text.size := by
    simp [spaced]
    rfl
  rw [spaced_append, Text.size_append, hone]

/-- The attributes that are read are those that are written. -/
theorem attributesFrom_places (n : Nat) (front attrs : List WrittenAttribute) :
    attributesFrom (n + (spaced front).size) 0 (spaced attrs) =
      (attributePlaces front attrs).map (·.attributeAt n) := by
  induction attrs generalizing front with
  | nil =>
      have hnil : spaced [] = [] := rfl
      rw [hnil, attributesFrom]
      rfl
  | cons a attrs ih =>
      have hrest := ih (front ++ [a])
      rw [size_spaced_concat, ← Nat.add_assoc, ← Nat.add_assoc] at hrest
      rw [a.attributesFrom_spaced, hrest]
      rfl

/-! ## Issues of a tag -/

/-- The report at a place, if there is one. -/
def AttributePlace.report? (n : Nat) (p : AttributePlace) : Option Diagnostic :=
  if p.isRepeated then some (p.report .duplicateAttribute n)
  else if p.isEmpty then some (p.report .emptyAttribute n)
  else none

/-- The names that were seen are those of the attributes in front. -/
theorem attributeIssues_places (n : Nat) {seen : List String} {front : List WrittenAttribute}
    (hseen : ∀ name, seen.contains name = front.any (·.folded == name))
    (attrs : List WrittenAttribute) :
    attributeIssues seen ((attributePlaces front attrs).map (·.attributeAt n)) =
      (attributePlaces front attrs).filterMap (·.report? n) := by
  induction attrs generalizing seen front with
  | nil => rfl
  | cons a attrs ih =>
      have hrepeated : seen.contains a.folded = AttributePlace.isRepeated ⟨front, a⟩ := hseen _
      have hmore : ∀ name, (a.folded :: seen).contains name =
          (front ++ [a]).any (·.folded == name) := by
        intro name
        rw [List.contains_cons, hseen, List.any_append, List.any_cons, List.any_nil, Bool.or_false,
          Bool.or_comm, BEq.comm]
      have hempty : Attribute.isEmpty (AttributePlace.attributeAt n ⟨front, a⟩) = a.isBlank := rfl
      rw [attributePlaces, List.map_cons, List.filterMap_cons, AttributePlace.report?, attributeIssues]
      cases hfront : AttributePlace.isRepeated ⟨front, a⟩ with
      | true =>
          -- the name of a repeated attribute has been seen before
          have hsame : ∀ name, seen.contains name = (front ++ [a]).any (·.folded == name) := by
            intro name
            rw [← hmore, List.contains_cons]
            by_cases hname : name = a.folded
            · rw [hname, hrepeated, hfront, Bool.or_true]
            · rw [beq_false_of_ne hname, Bool.false_or]
          have hcontains : seen.contains (AttributePlace.attributeAt n ⟨front, a⟩).name = true :=
            hrepeated.trans hfront
          rw [hcontains, ih hsame]
          rfl
      | false =>
          have hcontains : seen.contains (AttributePlace.attributeAt n ⟨front, a⟩).name = false :=
            hrepeated.trans hfront
          have hisEmpty : AttributePlace.isEmpty ⟨front, a⟩ = a.isBlank := by
            rw [AttributePlace.isEmpty, hfront]
            rfl
          have hrest : attributeIssues ((AttributePlace.attributeAt n ⟨front, a⟩).name :: seen)
              ((attributePlaces (front ++ [a]) attrs).map (·.attributeAt n)) = _ := ih hmore
          rw [hcontains, hempty, hisEmpty, hrest]
          cases a.isBlank <;> rfl

/-- A report that a name is repeated. -/
def isDuplicateAttribute (d : Diagnostic) : Bool := d.rule == some "duplicate-attribute"

/-- A report that a value is empty. -/
def isEmptyAttribute (d : Diagnostic) : Bool := d.rule == some "empty-attribute"

def isAttributeReport (d : Diagnostic) : Bool := isDuplicateAttribute d || isEmptyAttribute d

/-! ## The tag -/

theorem untilBracket?_quoted {v t inside rest : Text} (hv : '"' ∉ v)
    (h : untilBracket? none t = some (inside, rest)) :
    untilBracket? (some '"') (v ++ '"' :: t) = some (v ++ '"' :: inside, rest) := by
  induction v with
  | nil => simp [untilBracket?, nextQuote, h]
  | cons c v ih =>
      obtain ⟨hc, hrest⟩ := List.ne_and_not_mem_of_not_mem_cons hv
      simp [untilBracket?, nextQuote, Ne.symm hc, ih hrest]

namespace WrittenAttribute

variable (a : WrittenAttribute) (attrs : List WrittenAttribute)

/-- No bracket of an attribute ends the tag. -/
theorem untilBracket?_spaced (rest : Text) :
    untilBracket? none (spaced attrs ++ '>' :: rest) = some (spaced attrs, rest) := by
  induction attrs with
  | nil => rfl
  | cons a attrs ih =>
      have hname : ∀ c ∈ ' ' :: a.name, c ≠ '>' ∧ c ≠ '"' ∧ c ≠ '\'' := by
        refine List.forall_mem_cons.mpr ⟨by decide, fun c hc => ?_⟩
        have hchar := a.name_chars c hc
        simp only [Attribute.isNameChar, Bool.and_eq_true, Bool.not_eq_true'] at hchar
        refine ⟨?_, ?_, ?_⟩ <;> rintro rfl <;> simp at hchar
      have htext : ∀ t : Text, spaced (a :: attrs) ++ t =
          ' ' :: a.name ++ (assignment a.value ++ (spaced attrs ++ t)) := by
        intro t
        simp [spaced_cons, text]
      have hvalue : untilBracket? none (assignment a.value ++ (spaced attrs ++ '>' :: rest)) =
          some (assignment a.value ++ spaced attrs, rest) := by
        cases hv : a.value with
        | none => exact ih
        | some v =>
            have hquoted := untilBracket?_quoted (a.closed v hv) ih
            simp [assignment, untilBracket?, nextQuote, hquoted]
      have hall := untilBracket?_plain hname hvalue
      have hsplit := htext []
      rw [List.append_nil, List.append_nil] at hsplit
      rwa [← htext, ← hsplit] at hall

/-- An attribute ends with a character that is neither white space nor a slash. -/
theorem exists_text_concat :
    ∃ front c, a.text = front ++ [c] ∧ Text.isBlank c = false ∧ c ≠ '/' := by
  cases hvalue : a.value with
  | some v =>
      exact ⟨a.name ++ '=' :: '"' :: v, '"', by simp [text, assignment, hvalue], by decide, by decide⟩
  | none =>
      obtain ⟨front, c, hname⟩ := (List.eq_nil_or_concat a.name).resolve_left a.name_ne_nil
      rw [List.concat_eq_append] at hname
      have hc : Attribute.isNameChar c = true := a.name_chars c (by simp [hname])
      refine ⟨front, c, by simp [text, assignment, hvalue, hname],
        Attribute.isBlank_of_isNameChar hc, ?_⟩
      rintro rfl
      exact absurd hc (by decide)

/-- The last attribute does not close the tag. -/
theorem not_selfClosing : ((spaced attrs).trimEnd.getLast? == some '/') = false := by
  rcases List.eq_nil_or_concat attrs with rfl | ⟨front, a, rfl⟩
  · rfl
  · obtain ⟨w, c, htext, hc, hne⟩ := a.exists_text_concat
    have hspaced : spaced (front.concat a) = spaced front ++ ' ' :: w ++ [c] := by
      rw [List.concat_eq_append, spaced_append]
      simp [spaced, htext]
    have hends : EndsVisibly (spaced (front.concat a)) := ⟨_, c, hspaced, hc⟩
    rw [hends.trimEnd_eq, hspaced, List.getLast?_concat]
    simpa using hne

end WrittenAttribute

namespace WrittenTag

variable (tag : WrittenTag)

/-- The tag is all that is read, whatever the body of its element may be. -/
theorem tokens_render : tokens tag.render =
    [.opening tag.name.folded (spaced tag.attributes) false 0 tag.render.size] := by
  have hapart : ∀ c, (spaced tag.attributes).head? = some c → ¬ isNameChar c := by
    intro c hc
    cases hattrs : tag.attributes with
    | nil => simp [hattrs, spaced] at hc
    | cons a attrs =>
        rw [hattrs, WrittenAttribute.spaced_cons] at hc
        obtain rfl : ' ' = c := Option.some.inj hc
        decide
  have htag := tag?_of_untilBracket? tag.name
    (WrittenAttribute.untilBracket?_spaced tag.attributes []) hapart
  have hnot := WrittenAttribute.not_selfClosing tag.attributes
  have hrest : TagParts.ahead ⟨false, tag.name.text, spaced tag.attributes, []⟩ = [] :=
    List.suffix_nil.mp (TagParts.ahead_suffix _)
  have hsize : TagParts.size ⟨false, tag.name.text, spaced tag.attributes, []⟩ =
      tag.render.size := by
    simp only [TagParts.size, render, Text.size_cons, Text.size_append, Text.size_nil]
    change 2 + 0 + _ + _ = 1 + (_ + (_ + (1 + 0)))
    omega
  have htoken : TagParts.token ⟨false, tag.name.text, spaced tag.attributes, []⟩ 0 =
      .opening tag.name.folded (spaced tag.attributes) false 0 tag.render.size := by
    rw [TagParts.token, TagParts.isSelfClosing, hnot, hsize, Nat.zero_add]
    rfl
  have hread := tokensFrom_anyTag htag 0
  rwa [hrest, htoken, tokensFrom_nil] at hread

end WrittenTag

/-! ## The reports of a check -/

section

variable {tag : WrittenTag} {o : Context} {q : Diagnostic → Bool}

theorem isAttributeReport_placement {stack : List OpenElement} {name : String} {start stop : Nat}
    {d : Diagnostic} (h : d ∈ placementIssues stack name start stop) :
    isAttributeReport d = false := by
  rw [placementIssues_eq] at h
  have hplacement := (isPlacement_of_mem_tableIssues h).1
  simp only [isPlacement, Bool.or_eq_true, beq_iff_eq] at hplacement
  rcases hplacement with hrule | hrule <;>
    simp [isAttributeReport, isDuplicateAttribute, isEmptyAttribute, hrule]

theorem isAttributeReport_unclosed {size : Nat} {stack : List OpenElement} {d : Diagnostic}
    (h : d ∈ unclosedIssues size stack) : isAttributeReport d = false := by
  simp [isAttributeReport, isDuplicateAttribute, isEmptyAttribute, rule_of_mem_unclosedIssues h]

theorem isAttributeReport_shape {names : List String} {d : Diagnostic}
    (h : d ∈ shapeIssues names) : isAttributeReport d = false := by
  rcases rule_of_mem_shapeIssues h with hrule | hrule <;>
    simp [isAttributeReport, isDuplicateAttribute, isEmptyAttribute, hrule]

/-- What a check reports of the attributes of a tag. -/
theorem filter_check (ho : o.deadline = .never)
    (hq : ∀ d, q d = true → isAttributeReport d = true) :
    (check tag.render o).diagnostics.filter q =
      (tag.places.filterMap (·.report? tag.inside)).filter q := by
  have hnone : ∀ ds : List Diagnostic, (∀ d ∈ ds, isAttributeReport d = false) →
      ds.filter q = [] := by
    intro ds hds
    rw [List.filter_eq_nil_iff]
    intro d hd hqd
    exact absurd (hq d hqd) (by simp [hds d hd])
  have hattributes : attributeIssues [] (attributes (0 + 1 + tag.name.folded.utf8ByteSize)
      (spaced tag.attributes)) = tag.places.filterMap (·.report? tag.inside) := by
    have hplaces := attributesFrom_places tag.inside [] tag.attributes
    have hread : attributes (0 + 1 + tag.name.folded.utf8ByteSize) (spaced tag.attributes) =
        (attributePlaces [] tag.attributes).map (·.attributeAt tag.inside) := by
      rw [← hplaces, Name.utf8ByteSize_folded, Nat.zero_add]
      rfl
    rw [hread]
    exact attributeIssues_places tag.inside (fun _ => rfl) tag.attributes
  have hissues : (check tag.render o).diagnostics =
      issues tag.render o.allowPartial (tokens tag.render) := by
    rw [check_never _ ho]
  have hplacement : ∀ (stack : List OpenElement) (body : Bool),
      (if body then placementIssues stack tag.name.folded 0 tag.render.size else []).filter q =
        [] := by
    rintro stack (_ | _)
    · rfl
    · exact hnone _ fun d => isAttributeReport_placement
  have hshape : ∀ (skipped : Bool) (names : List String),
      (if skipped then [] else shapeIssues names).filter q = [] := by
    rintro (_ | _) names
    · exact hnone _ fun d => isAttributeReport_shape
    · rfl
  rw [hissues, tag.tokens_render, issues, walk, walk, Token.issues, hattributes]
  simp only [List.filter_append, List.append_nil]
  rw [hplacement, hshape, hnone (unclosedIssues _ _) fun d => isAttributeReport_unclosed]
  simp only [List.append_nil]

end

/-! ## Reports by rule -/

/-- An attribute is repeated, or it is empty, or it is kept. -/
theorem AttributePlace.report?_cases (n : Nat) (p : AttributePlace) :
    (p.isRepeated = true ∧ p.isEmpty = false ∧ p.isKept = false ∧
        p.report? n = some (p.report .duplicateAttribute n)) ∨
      (p.isRepeated = false ∧ p.isEmpty = true ∧ p.isKept = false ∧
        p.report? n = some (p.report .emptyAttribute n)) ∨
      (p.isRepeated = false ∧ p.isEmpty = false ∧ p.isKept = true ∧ p.report? n = none) := by
  cases hrepeated : p.isRepeated with
  | true =>
      have hempty : p.isEmpty = false := by simp [isEmpty, hrepeated]
      exact .inl ⟨rfl, hempty, by simp [isKept, hrepeated], by simp [report?, hrepeated]⟩
  | false =>
      cases hempty : p.isEmpty with
      | true =>
          exact .inr (.inl ⟨rfl, rfl, by simp [isKept, hempty], by simp [report?, hrepeated, hempty]⟩)
      | false =>
          exact .inr (.inr ⟨rfl, rfl, by simp [isKept, hrepeated, hempty],
            by simp [report?, hrepeated, hempty]⟩)

/-- The reports of one rule are those of the places of one kind. -/
theorem filter_reports {n : Nat} {q : Diagnostic → Bool} {kind : AttributePlace → Bool}
    {issue : String → Issue}
    (h : ∀ p : AttributePlace, (p.report? n).filter q =
      if kind p then some (p.report issue n) else none) (places : List AttributePlace) :
    (places.filterMap (·.report? n)).filter q =
      (places.filter kind).map (·.report issue n) := by
  rw [List.filter_filterMap, ← List.filterMap_eq_map, List.filterMap_filter]
  exact congrArg (places.filterMap ·) (funext h)

theorem filter_duplicate (n : Nat) (places : List AttributePlace) :
    (places.filterMap (·.report? n)).filter isDuplicateAttribute =
      (places.filter (·.isRepeated)).map (·.report .duplicateAttribute n) := by
  refine filter_reports (fun p => ?_) places
  rcases p.report?_cases n with ⟨hkind, -, -, heq⟩ | ⟨hkind, -, -, heq⟩ | ⟨hkind, -, -, heq⟩ <;>
    rw [hkind, heq] <;> rfl

theorem filter_empty (n : Nat) (places : List AttributePlace) :
    (places.filterMap (·.report? n)).filter isEmptyAttribute =
      (places.filter (·.isEmpty)).map (·.report .emptyAttribute n) := by
  refine filter_reports (fun p => ?_) places
  rcases p.report?_cases n with ⟨-, hkind, -, heq⟩ | ⟨-, hkind, -, heq⟩ | ⟨-, hkind, -, heq⟩ <;>
    rw [hkind, heq] <;> rfl

/-! ## The fixes -/

/-- What becomes of an attribute and its space. -/
def AttributePlace.stretch (p : AttributePlace) : Stretch :=
  if p.isKept then .kept (' ' :: p.here.text) else .changed (' ' :: p.here.text) []

theorem AttributePlace.old_stretch (p : AttributePlace) : p.stretch.old = ' ' :: p.here.text := by
  unfold stretch
  split <;> rfl

theorem AttributePlace.new_stretch (p : AttributePlace) :
    p.stretch.new = if p.isKept then ' ' :: p.here.text else [] := by
  unfold stretch
  split <;> rfl

/-- The edits of the reports are those of the attributes that go. -/
theorem edits_places (n : Nat) (front attrs : List WrittenAttribute) :
    ((attributePlaces front attrs).filterMap (·.report? n)).filterMap (·.firstEdit?) =
      edits (n + (spaced front).size) ((attributePlaces front attrs).map (·.stretch)) := by
  induction attrs generalizing front with
  | nil => rfl
  | cons a attrs ih =>
      have hsize : Text.size (' ' :: a.text) = 1 + a.text.size := rfl
      have hrest := ih (front ++ [a])
      rw [size_spaced_concat, ← hsize, ← Nat.add_assoc] at hrest
      have hedit : ∀ issue : String → Issue,
          (AttributePlace.report issue n ⟨front, a⟩).firstEdit? =
            some ⟨n + (spaced front).size,
              n + (spaced front).size + Text.size (' ' :: a.text), []⟩ := by
        intro issue
        rw [hsize, ← Nat.add_assoc]
        rfl
      rw [attributePlaces, List.map_cons, AttributePlace.stretch]
      rcases AttributePlace.report?_cases n ⟨front, a⟩ with
        ⟨-, -, hkept, heq⟩ | ⟨-, -, hkept, heq⟩ | ⟨-, -, hkept, heq⟩
      · rw [List.filterMap_cons_some heq, List.filterMap_cons_some (hedit _), hkept, hrest]
        rfl
      · rw [List.filterMap_cons_some heq, List.filterMap_cons_some (hedit _), hkept, hrest]
        rfl
      · rw [List.filterMap_cons_none heq, hkept, hrest]
        rfl

theorem original_places (front attrs : List WrittenAttribute) :
    original ((attributePlaces front attrs).map (·.stretch)) = spaced attrs := by
  induction attrs generalizing front with
  | nil => rfl
  | cons a attrs ih =>
      rw [attributePlaces, List.map_cons, original, List.flatMap_cons, ← original, ih,
        AttributePlace.old_stretch]
      rfl

theorem revised_places (places : List AttributePlace) :
    revised (places.map (·.stretch)) = spaced ((places.filter (·.isKept)).map (·.here)) := by
  induction places with
  | nil => rfl
  | cons p places ih =>
      rw [List.map_cons, revised, List.flatMap_cons, ← revised, ih, AttributePlace.new_stretch]
      cases hkept : p.isKept <;> simp [hkept, spaced]

/-! ## What is left -/

/-- The attributes that are kept, of those behind `front`. -/
theorem exists_of_mem_places {front attrs : List WrittenAttribute} {p : AttributePlace}
    (h : p ∈ attributePlaces front attrs) :
    ∃ before after, attrs = before ++ p.here :: after ∧ p.front = front ++ before := by
  induction attrs generalizing front with
  | nil => cases h
  | cons a attrs ih =>
      rcases List.mem_cons.mp h with rfl | h
      · exact ⟨[], attrs, rfl, (List.append_nil front).symm⟩
      · obtain ⟨before, after, rfl, hfront⟩ := ih h
        exact ⟨a :: before, after, rfl, by rw [hfront, List.append_assoc, List.singleton_append]⟩

theorem AttributePlace.isKept_iff (p : AttributePlace) :
    p.isKept = true ↔ p.isRepeated = false ∧ p.here.isBlank = false := by
  cases hrepeated : p.isRepeated <;> simp [isKept, isEmpty, hrepeated]

/-- No name is kept twice. -/
theorem pairwise_kept (front attrs : List WrittenAttribute) :
    (((attributePlaces front attrs).filter (·.isKept)).map (·.here)).Pairwise
      fun a b => a.folded ≠ b.folded := by
  induction attrs generalizing front with
  | nil => exact .nil
  | cons a attrs ih =>
      rw [attributePlaces, List.filter_cons]
      split
      · refine List.pairwise_cons.mpr ⟨fun b hb hsame => ?_, ih (front ++ [a])⟩
        obtain ⟨p, hp, rfl⟩ := List.mem_map.mp hb
        obtain ⟨hplace, hkept⟩ := List.mem_filter.mp hp
        obtain ⟨before, after, -, hfront⟩ := exists_of_mem_places hplace
        have hrepeated := (p.isKept_iff.mp hkept).1
        rw [AttributePlace.isRepeated, hfront, List.any_append, List.any_append] at hrepeated
        simp [hsame] at hrepeated
      · exact ih (front ++ [a])

/-- Nothing is reported of what is kept. -/
theorem filterMap_kept (tag : WrittenTag) (n : Nat) :
    tag.kept.places.filterMap (·.report? n) = [] := by
  rw [List.filterMap_eq_nil_iff]
  intro p hp
  obtain ⟨before, after, hattrs, hfront⟩ := exists_of_mem_places hp
  have hmem : p.here ∈ tag.kept.attributes := by
    rw [hattrs]
    exact List.mem_append_right before List.mem_cons_self
  obtain ⟨p', hp', hhere⟩ := List.mem_map.mp hmem
  have hblank := (p'.isKept_iff.mp (List.mem_filter.mp hp').2).2
  rw [hhere] at hblank
  have hrepeated : p.isRepeated = false := by
    have hpairwise := pairwise_kept [] tag.attributes
    rw [← WrittenTag.places] at hpairwise
    change tag.kept.attributes.Pairwise _ at hpairwise
    rw [hattrs] at hpairwise
    rw [AttributePlace.isRepeated, hfront, List.nil_append, List.any_eq_false]
    intro b hb
    have hne := (List.pairwise_append.mp hpairwise).2.2 b hb p.here List.mem_cons_self
    simpa using hne
  have hempty : p.isEmpty = false := by simp [AttributePlace.isEmpty, hblank]
  simp [AttributePlace.report?, hrepeated, hempty]

/-! ## Checking a tag -/

/-- Every report about an attribute is of one of the two rules. -/
theorem filter_attributeReports (n : Nat) (places : List AttributePlace) :
    (places.filterMap (·.report? n)).filter isAttributeReport = places.filterMap (·.report? n) := by
  refine List.filter_eq_self.mpr fun d hd => ?_
  obtain ⟨p, -, hp⟩ := List.mem_filterMap.mp hd
  rcases p.report?_cases n with ⟨-, -, -, heq⟩ | ⟨-, -, -, heq⟩ | ⟨-, -, -, heq⟩
  · obtain rfl := Option.some.inj (heq.symm.trans hp)
    rfl
  · obtain rfl := Option.some.inj (heq.symm.trans hp)
    rfl
  · exact absurd (heq.symm.trans hp) (by simp)

namespace WrittenTag

variable (tag : WrittenTag)

/-- The tag, cut at its attributes. -/
def stretches : List Stretch :=
  .kept ('<' :: tag.name.text) :: (tag.places.map (·.stretch) ++ [.kept ['>']])

theorem original_stretches : original tag.stretches = tag.render := by
  have hplaces := original_places [] tag.attributes
  simp only [original] at hplaces
  simp [original, stretches, places, Stretch.old, render, hplaces]

theorem revised_stretches : revised tag.stretches = tag.kept.render := by
  have hplaces := revised_places tag.places
  simp only [revised] at hplaces
  simp [revised, stretches, Stretch.new, render, kept, hplaces]

theorem edits_stretches : edits 0 tag.stretches =
    (tag.places.filterMap (·.report? tag.inside)).filterMap (·.firstEdit?) := by
  have hstart : 0 + Text.size ('<' :: tag.name.text) = tag.inside + (spaced []).size := by
    rw [Nat.zero_add]
    rfl
  rw [stretches, places, edits, hstart, Repair.edits_append, ← edits_places]
  exact List.append_nil _

end WrittenTag

/-- The attributes of a tag that are reported are those whose name stands in front already, and those
that are the first of their name and hold nothing. The fixes of these reports leave the tag with its
other attributes, of which nothing is reported. -/
theorem check_attributes {tag : WrittenTag} {o o' : Context} (ho : o.deadline = .never)
    (ho' : o'.deadline = .never) :
    (check tag.render o).diagnostics.filter isDuplicateAttribute =
        (tag.places.filter (·.isRepeated)).map (·.report .duplicateAttribute tag.inside) ∧
      (check tag.render o).diagnostics.filter isEmptyAttribute =
        (tag.places.filter (·.isEmpty)).map (·.report .emptyAttribute tag.inside) ∧
      (Repair.applyFixes tag.render
        ((check tag.render o).diagnostics.filter isAttributeReport)).skipped = 0 ∧
      (Repair.applyFixes tag.render
        ((check tag.render o).diagnostics.filter isAttributeReport)).output = tag.kept.render ∧
      (check tag.kept.render o').diagnostics.filter isAttributeReport = [] := by
  have hduplicate : ∀ d, isDuplicateAttribute d = true → isAttributeReport d = true := fun d hd => by
    rw [isAttributeReport, hd, Bool.true_or]
  have hempty : ∀ d, isEmptyAttribute d = true → isAttributeReport d = true := fun d hd => by
    rw [isAttributeReport, hd, Bool.or_true]
  have hreports : (check tag.render o).diagnostics.filter isAttributeReport =
      tag.places.filterMap (·.report? tag.inside) := by
    rw [filter_check ho fun _ => id, filter_attributeReports]
  have hfixed := Repair.applyEdits_edits tag.stretches
  rw [tag.original_stretches, tag.revised_stretches, tag.edits_stretches, ← hreports,
    ← Repair.applyFixes] at hfixed
  refine ⟨?_, ?_, congrArg _ hfixed, congrArg _ hfixed, ?_⟩
  · rw [filter_check ho hduplicate, filter_duplicate]
  · rw [filter_check ho hempty, filter_empty]
  · rw [filter_check ho' fun _ => id, filterMap_kept]
    rfl

/-- Of `<p id="1" ID="2" alt="" q>`, the second `id` and the `alt` go. -/
theorem check_attributes_paragraph :
    ∃ tag : WrittenTag,
      tag.render = "<p id=\"1\" ID=\"2\" alt=\"\" q>".toList ∧
      (tag.places.filter (·.isRepeated)).map (·.start tag.inside) = [10] ∧
      (tag.places.filter (·.isEmpty)).map (·.start tag.inside) = [17] ∧
      (Repair.applyFixes tag.render
        ((check tag.render {}).diagnostics.filter isAttributeReport)).output =
          "<p id=\"1\" q>".toList := by
  let tag : WrittenTag := {
    name := ⟨'p', [], by decide, by simp⟩
    attributes := [
      ⟨"id".toList, some ['1'], by decide, List.all_eq_true.mp rfl, by simp⟩,
      ⟨"ID".toList, some ['2'], by decide, List.all_eq_true.mp rfl, by simp⟩,
      ⟨"alt".toList, some [], by decide, List.all_eq_true.mp rfl, by simp⟩,
      ⟨['q'], none, by decide, List.all_eq_true.mp rfl, by simp⟩] }
  have houtput := (@check_attributes tag {} {} rfl rfl).2.2.2.1
  exact ⟨tag, by decide, by decide, by decide, houtput.trans (by decide)⟩

end PageLint.Markup
