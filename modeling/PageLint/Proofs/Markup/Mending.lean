import PageLint.Proofs.Markup.Nesting
import PageLint.Proofs.Repair.Revision

/-! # Mending the tags of a document

The fixes of a check rename the closing tags that meet another element, remove those that meet none,
and close at the end what is left open. Together they are a revision of the document, and in the
revised document every tag finds its partner. -/

namespace PageLint.Markup

open Repair (Stretch original revised edits)

/-! ## Amendments -/

/-- What becomes of a piece, and the closing tags that are new. -/
inductive Amendment where
  | kept (p : Piece)
  | dropped (name : Name)
  | renamed (found expected : Name)
  | added (name : Name)

namespace Amendment

def stretches : Amendment → List Stretch
  | kept p => [.kept p.render]
  | dropped name => [.changed (Piece.closing name).render []]
  | renamed found expected =>
    [.kept ['<', '/'], .changed found.text expected.lower.text, .kept ['>']]
  | added name => [.changed [] (Piece.closing name.lower).render]

/-- The piece that was there. -/
def old? : Amendment → Option Piece
  | kept p => some p
  | dropped name => some (.closing name)
  | renamed found _ => some (.closing found)
  | added _ => none

/-- The piece that is there instead. -/
def new? : Amendment → Option Piece
  | kept p => some p
  | dropped _ => none
  | renamed _ expected => some (.closing expected.lower)
  | added name => some (.closing name.lower)

end Amendment

/-- What becomes of a closing tag inside the elements `names`, innermost first. -/
def amendClosing (names : List Name) (name : Name) : Amendment :=
  match names with
  | [] => .dropped name
  | expected :: _ =>
    if expected.folded = name.folded then .kept (.closing name) else .renamed name expected

/-- The amendments of a document inside the elements `names`. -/
def amend (names : List Name) : List Piece → List Amendment
  | [] => names.map .added
  | .opening name :: doc =>
    .kept (.opening name) :: amend (if isVoid name.folded then names else name :: names) doc
  | .closing name :: doc => amendClosing names name :: amend names.tail doc
  | p :: doc => .kept p :: amend names doc

/-- The document that the amendments leave. -/
def amended (changes : List Amendment) : List Piece := changes.filterMap Amendment.new?

def revision (changes : List Amendment) : List Stretch := changes.flatMap Amendment.stretches

theorem amend_leaf {p : Piece} (h : p.isLeaf = true) (names : List Name) (doc : List Piece) :
    amend names (p :: doc) = .kept p :: amend names doc := by
  cases p with
  | opening name =>
      have hvoid : isVoid name.folded = true := h
      rw [amend, if_pos hvoid]
  | closing name => cases h
  | text t plain => rfl
  | comment body closed => rfl
  | selfClosing name => rfl

theorem amend_opening {name : Name} (h : isVoid name.folded = false) (names : List Name)
    (doc : List Piece) :
    amend names (.opening name :: doc) = .kept (.opening name) :: amend (name :: names) doc := by
  rw [amend, h]
  rfl

/-! ## The two texts -/

theorem original_stretches (change : Amendment) :
    original change.stretches = render change.old?.toList := by
  cases change <;> simp [original, Amendment.stretches, Amendment.old?, Stretch.old, Piece.render]

theorem revised_stretches (change : Amendment) :
    revised change.stretches = render change.new?.toList := by
  cases change <;> simp [revised, Amendment.stretches, Amendment.new?, Stretch.new, Piece.render]

theorem original_revision (changes : List Amendment) :
    original (revision changes) = render (changes.filterMap Amendment.old?) := by
  induction changes with
  | nil => rfl
  | cons change changes ih =>
      have hsplit : original (revision (change :: changes)) =
          original change.stretches ++ original (revision changes) := by
        simp [revision, original]
      rw [hsplit, original_stretches, ih]
      cases hold : change.old? <;> simp [hold]

theorem revised_revision (changes : List Amendment) :
    revised (revision changes) = render (amended changes) := by
  induction changes with
  | nil => rfl
  | cons change changes ih =>
      have hsplit : revised (revision (change :: changes)) =
          revised change.stretches ++ revised (revision changes) := by
        simp [revision, revised]
      rw [hsplit, revised_stretches, ih]
      cases hnew : change.new? <;> simp [amended, hnew]

@[simp] theorem old?_amendClosing (names : List Name) (name : Name) :
    (amendClosing names name).old? = some (.closing name) := by
  cases names with
  | nil => rfl
  | cons expected outer =>
      by_cases h : expected.folded = name.folded <;> simp [amendClosing, h, Amendment.old?]

/-- Amendments are of the document they are made for. -/
theorem filterMap_old?_amend (names : List Name) (doc : List Piece) :
    (amend names doc).filterMap Amendment.old? = doc := by
  induction doc generalizing names with
  | nil => simp [amend, List.filterMap_map, Function.comp_def, Amendment.old?]
  | cons p doc ih =>
      cases p with
      | closing name => simp [amend, old?_amendClosing, ih]
      | opening name => simp [amend, Amendment.old?, ih]
      | text t plain => simp [amend, Amendment.old?, ih]
      | comment body closed => simp [amend, Amendment.old?, ih]
      | selfClosing name => simp [amend, Amendment.old?, ih]

/-! ## Walk and amendments in step -/

/-- The elements that a walk has open are those that the amendments are made for. -/
inductive InStep : List OpenElement → List Name → Prop where
  | nil : InStep [] []
  | cons {e name stack names} (same : e.name = name.folded) :
      InStep stack names → InStep (e :: stack) (name :: names)

theorem InStep.tail {stack : List OpenElement} {names : List Name} (h : InStep stack names) :
    InStep stack.tail names.tail := by
  cases h with
  | nil => exact .nil
  | cons _ rest => exact rest

/-! ## The edits of a check -/

/-- The edits that a check suggests for a document of `size` bytes, given the answer of its walk. -/
def suggested (size : Nat) (answer : List Diagnostic × List OpenElement) : List Edit :=
  (answer.1 ++ unclosedIssues size answer.2).filterMap (·.firstEdit?)

theorem suggested_ahead (size : Nat) (ds : List Diagnostic)
    (answer : List Diagnostic × List OpenElement) :
    suggested size (ahead ds answer) = ds.filterMap (·.firstEdit?) ++ suggested size answer := by
  simp [suggested, ahead]

theorem edits_revision_cons (n : Nat) (change : Amendment) (changes : List Amendment) :
    edits n (revision (change :: changes)) =
      edits n change.stretches ++
        edits (n + (render change.old?.toList).size) (revision changes) := by
  rw [← original_stretches, ← Repair.edits_append]
  rfl

/-- A piece that is kept moves the edits behind it. -/
theorem edits_revision_kept (n : Nat) (p : Piece) (changes : List Amendment) :
    edits n (revision (.kept p :: changes)) = edits (n + p.render.size) (revision changes) := by
  rw [edits_revision_cons]
  simp [Amendment.stretches, Amendment.old?, edits]

theorem closer_toList (name : Name) :
    ("</" ++ name.folded ++ ">").toList = (Piece.closing name.lower).render := by
  rw [String.toList_append, String.toList_append, Name.folded_toList]
  rfl

/-- Elements that are left open are closed at the end, the innermost first. -/
theorem suggested_unclosed {stack : List OpenElement} {names : List Name}
    (h : InStep stack names) (n : Nat) :
    suggested n ([], stack) = edits n (revision (names.map .added)) := by
  induction h with
  | nil => rfl
  | @cons e name outer names same _ ih =>
      have hedit : suggested n ([], e :: outer) =
          ⟨n, n, ("</" ++ e.name ++ ">").toList⟩ :: suggested n ([], outer) := rfl
      rw [hedit, ih, List.map_cons, edits_revision_cons, same, closer_toList]
      rfl

/-- The tables suggest nothing. -/
theorem filterMap_tableIssues (parent : Option String) (name : String) (start stop : Nat) :
    ((tableIssues parent name).map (·.report start stop)).filterMap (·.firstEdit?) = [] := by
  rw [List.filterMap_map, List.filterMap_eq_nil_iff]
  intro i _
  rfl

/-- A closing tag that meets the wrong element is renamed, and one that meets none is removed. -/
theorem filterMap_closingIssues {stack : List OpenElement} {names : List Name}
    (h : InStep stack names) (n : Nat) (name : Name) :
    (closingIssues stack name.folded n (n + (Piece.closing name).render.size)).filterMap
      (·.firstEdit?) = edits n (amendClosing names name).stretches := by
  cases h with
  | nil => rfl
  | @cons e expected outer names hname _ =>
      by_cases hsame : expected.folded = name.folded
      · rw [closingIssues_same (hname.trans hsame), amendClosing, if_pos hsame]
        rfl
      · have hne : e.name ≠ name.folded := fun he => hsame (hname.symm.trans he)
        rw [closingIssues, if_neg hne, amendClosing, if_neg hsame, hname,
          Name.utf8ByteSize_folded, Name.folded_toList]
        rfl

/-- The walk suggests the edits of the amendments, from any state in which the two are in step. -/
theorem suggested_walk {size n : Nat} {stack : List OpenElement} {names : List Name}
    {doc : List Piece} (hstep : InStep stack names)
    (hsize : size = n + (render doc).size) :
    suggested size (walk size stack (pieceTokens n doc)) =
      edits n (revision (amend names doc)) := by
  induction doc generalizing n stack names with
  | nil =>
      obtain rfl : size = n := hsize
      exact suggested_unclosed hstep size
  | cons p doc ih =>
      rw [render_cons, Text.size_append, ← Nat.add_assoc] at hsize
      rcases p.leaf_or_tag with hleaf | ⟨name, rfl, hbody⟩ | ⟨name, rfl⟩
      · rw [walk_leaf hleaf, amend_leaf hleaf, edits_revision_kept]
        exact ih hstep hsize
      · rw [walk_opening hbody, suggested_ahead, filterMap_tableIssues,
          amend_opening hbody, edits_revision_kept]
        exact ih (.cons rfl hstep) hsize
      · rw [walk_closing, suggested_ahead, filterMap_closingIssues hstep, ih hstep.tail hsize,
          amend, edits_revision_cons, old?_amendClosing, Option.toList_some, render_cons,
          render_nil, List.append_nil]

/-! ## The amended document -/

theorem isPaired_added {stack : List OpenElement} {names : List Name} (h : InStep stack names)
    (size n : Nat) : IsPaired (walk size stack (pieceTokens n (amended (names.map .added)))) := by
  induction h generalizing n with
  | nil => exact ⟨by simp [amended, pieceTokens, walk], rfl⟩
  | @cons e name outer names same _ ih =>
      have hpieces : amended ((name :: names).map .added) =
          .closing name.lower :: amended (names.map .added) := rfl
      have hmeets : e.name = name.lower.folded := same.trans name.folded_lower.symm
      rw [hpieces, walk_closing, closingIssues_same hmeets, ahead_nil]
      exact ih _

/-- Inside an element, what becomes of a closing tag is a closing tag of the element. -/
theorem new?_amendClosing (expected : Name) (names : List Name) (name : Name) :
    ∃ closer : Name, (amendClosing (expected :: names) name).new? = some (.closing closer) ∧
      closer.folded = expected.folded := by
  by_cases hsame : expected.folded = name.folded
  · refine ⟨name, ?_, hsame.symm⟩
    rw [amendClosing, if_pos hsame]
    rfl
  · refine ⟨expected.lower, ?_, expected.folded_lower⟩
    rw [amendClosing, if_neg hsame]
    rfl

/-- After the amendments every closing tag meets its element, and no element is left open. -/
theorem isPaired_amended {stack : List OpenElement} {names : List Name}
    (hstep : InStep stack names) (size n : Nat) (doc : List Piece) :
    IsPaired (walk size stack (pieceTokens n (amended (amend names doc)))) := by
  induction doc generalizing stack names n with
  | nil => exact isPaired_added hstep size n
  | cons p doc ih =>
      rcases p.leaf_or_tag with hleaf | ⟨name, rfl, hbody⟩ | ⟨name, rfl⟩
      · have hkept : amended (amend names (p :: doc)) = p :: amended (amend names doc) := by
          rw [amend_leaf hleaf]
          rfl
        rw [hkept, walk_leaf hleaf]
        exact ih hstep _
      · have hkept : amended (amend names (.opening name :: doc)) =
            .opening name :: amended (amend (name :: names) doc) := by
          rw [amend_opening hbody]
          rfl
        rw [hkept, walk_opening hbody, isPaired_ahead]
        refine ⟨fun d hd => (isPlacement_of_mem_tableIssues hd).2, ?_⟩
        exact ih (.cons rfl hstep) _
      · cases hstep with
        | nil => exact ih .nil n
        | @cons e expected outer names hname hrest =>
            obtain ⟨closer, hnew, hsame⟩ := new?_amendClosing expected names name
            have hpieces : amended (amend (expected :: names) (.closing name :: doc)) =
                .closing closer :: amended (amend names doc) := by
              rw [amend, amended, List.filterMap_cons_some hnew]
              rfl
            have hmeets : e.name = closer.folded := hname.trans hsame.symm
            rw [hpieces, walk_closing, closingIssues_same hmeets, ahead_nil]
            exact ih hrest _

/-- Amendments add closing tags only, so a tag that opens raw text was there before. -/
theorem old?_of_opensRawText {change : Amendment} {p : Piece} (hnew : change.new? = some p)
    (hraw : p.opensRawText = true) : change.old? = some p := by
  cases change with
  | kept q => exact hnew
  | dropped name => cases hnew
  | renamed found expected =>
      obtain rfl := Option.some.inj hnew
      cases hraw
  | added name =>
      obtain rfl := Option.some.inj hnew
      cases hraw

theorem opensRawText_of_mem_amended {names : List Name} {doc : List Piece} {p : Piece}
    (hraw : ∀ q ∈ doc, q.opensRawText = false) (h : p ∈ amended (amend names doc)) :
    p.opensRawText = false := by
  obtain ⟨change, hchange, hnew⟩ := List.mem_filterMap.mp h
  rw [← Bool.not_eq_true]
  intro hopens
  have hdoc : p ∈ (amend names doc).filterMap Amendment.old? :=
    List.mem_filterMap.mpr ⟨change, hchange, old?_of_opensRawText hnew hopens⟩
  rw [filterMap_old?_amend] at hdoc
  rw [hraw p hdoc] at hopens
  cases hopens

/-! ## Mending a document -/

theorem filterMap_shapeIssues (names : List String) :
    (shapeIssues names).filterMap (·.firstEdit?) = [] := by
  rw [List.filterMap_eq_nil_iff]
  intro d hd
  unfold shapeIssues at hd
  split at hd
  · obtain rfl := List.mem_singleton.mp hd
    rfl
  · obtain ⟨name, -, rfl⟩ := List.mem_map.mp hd
    rfl

/-- The first fixes of a check are the edits of the amendments. -/
theorem filterMap_check {doc : List Piece} {o : Context}
    (hraw : ∀ p ∈ doc, p.opensRawText = false) (ho : o.deadline = .never) :
    (check (render doc) o).diagnostics.filterMap (·.firstEdit?) =
      edits 0 (revision (amend [] doc)) := by
  have hwalk : suggested (render doc).size (walk (render doc).size [] (pieceTokens 0 doc)) =
      edits 0 (revision (amend [] doc)) := suggested_walk .nil (Nat.zero_add _).symm
  rw [← hwalk, diagnostics_check hraw ho, issues, List.filterMap_append, suggested]
  split
  · exact List.append_nil _
  · rw [filterMap_shapeIssues, List.append_nil]

/-- A text with the fixes of its own check. -/
def mend (source : Text) (o : Context) : Repair.Outcome :=
  Repair.applyFixes source (check source o).diagnostics

/-- Applying the fixes of a check skips none of them, and checking again finds a partner for every
tag. -/
theorem check_mend {doc : List Piece} {o o' : Context}
    (hraw : ∀ p ∈ doc, p.opensRawText = false) (ho : o.deadline = .never)
    (ho' : o'.deadline = .never) :
    (mend (render doc) o).skipped = 0 ∧
      ∀ d ∈ (check (mend (render doc) o).output o').diagnostics, isPairing d = false := by
  have houtcome : mend (render doc) o =
      ⟨render (amended (amend [] doc)), (edits 0 (revision (amend [] doc))).length, 0⟩ := by
    have h := Repair.applyEdits_edits (revision (amend [] doc))
    rw [original_revision, filterMap_old?_amend, revised_revision] at h
    rw [mend, Repair.applyFixes, filterMap_check hraw ho, h]
  have hraw' : ∀ p ∈ amended (amend [] doc), p.opensRawText = false := fun p hp =>
    opensRawText_of_mem_amended hraw hp
  rw [houtcome]
  refine ⟨rfl, ?_⟩
  rw [diagnostics_check hraw' ho', forall_issues_iff]
  exact isPaired_amended .nil _ 0 doc

/-- Two closing tags that meet nothing, one that meets the wrong element, and two elements that are
left open, of which the outer one is written in upper case. -/
theorem check_mend_tangle :
    ∃ doc : List Piece, render doc = "</b></h1><DIV><p><i></em><br>".toList ∧
      (∀ p ∈ doc, p.opensRawText = false) ∧ ({} : Context).deadline = .never ∧
      (mend (render doc) {}).skipped = 0 ∧
      ∀ d ∈ (check (mend (render doc) {}).output {}).diagnostics, isPairing d = false :=
  ⟨[.closing ⟨'b', [], rfl, rfl⟩, .closing ⟨'h', ['1'], rfl, rfl⟩,
      .opening ⟨'D', ['I', 'V'], rfl, rfl⟩, .opening ⟨'p', [], rfl, rfl⟩,
      .opening ⟨'i', [], rfl, rfl⟩, .closing ⟨'e', ['m'], rfl, rfl⟩,
      .opening ⟨'b', ['r'], rfl, rfl⟩],
    rfl, by decide, rfl, check_mend (by decide) rfl rfl⟩

end PageLint.Markup
