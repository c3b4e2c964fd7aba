import PageLint.Proofs.Repair.Revision
import PageLint.Proofs.Style.Ending
import PageLint.Proofs.Style.Interruption

/-! # Closing what is open

The fixes for an open comment and for open blocks put closers behind the style sheet. They are read
there as what the end of the style sheet makes of them: a string or a line comment takes them in, a
slash inside of a comment opens another one with the star behind it, and an interpolation takes a
brace. Where the style sheet does not end so, everything is closed. -/

namespace PageLint.Style

/-! ## Reports -/

namespace Issue

/-- Something is open at the end. -/
def isUnclosed : Issue → Bool
  | unclosedComment _ | unclosedBlock _ => true
  | _ => false

end Issue

/-- A comment or a block is reported to be open at the end. -/
def isUnclosedReport (d : Diagnostic) : Bool :=
  d.rule == some "unclosed-comment" || d.rule == some "unclosed-block"

theorem isUnclosedReport_report (i : Issue) (start stop : Nat) (edits : List Edit) :
    isUnclosedReport (i.report start stop edits) = i.isUnclosed := by
  cases i <;> rfl

theorem filter_declarationIssues (validators : Validators) (seen : List String)
    (d : Declaration) : (declarationIssues validators seen d).filter isUnclosedReport = [] := by
  unfold declarationIssues importantIssues valueIssues
  dsimp only
  repeat' split
  all_goals simp [isUnclosedReport_report, Issue.isUnclosed]

theorem filter_declarationsIssues (validators : Validators) (seen : List String)
    (ds : List Declaration) :
    (declarationsIssues validators seen ds).filter isUnclosedReport = [] := by
  induction ds generalizing seen with
  | nil => rfl
  | cons d ds ih =>
      rw [declarationsIssues, List.filter_append, filter_declarationIssues, ih, List.append_nil]

theorem filter_contentIssues (validators : Validators) (source : Text) :
    (contentIssues validators source).filter isUnclosedReport = [] := by
  rw [contentIssues, List.filter_append, filter_declarationsIssues, List.nil_append, symbolIssues]
  simp [List.filter_map, Function.comp_def, isUnclosedReport_report, Issue.isUnclosed]

/-! ## What is open -/

namespace Ending

/-- How many comments are open. -/
def comments (e : Ending) : Nat :=
  match e.region with
  | .comment depth => depth
  | _ => 0

/-- What the fixes put behind a style sheet with this end. -/
def closers (e : Ending) : List Text :=
  (if e.comments = 0 then [] else [(List.replicate e.comments ['*', '/']).flatten]) ++
    if e.blocks = 0 then [] else [List.replicate e.blocks '}']

theorem comments_of_region {e : Ending} {depth : Nat} (h : e.region = .comment depth) :
    e.comments = depth := by
  rw [comments, h]

end Ending

section

variable (validators : Validators) (source : Text) (o : Context)

theorem exists_commentIssues_eq : ∃ start, commentIssues source =
    if (Ending.of source).comments = 0 then []
    else [(Issue.unclosedComment (Ending.of source).comments).report start source.size
      [.insert source.size (List.replicate (Ending.of source).comments ['*', '/']).flatten]] := by
  obtain ⟨⟨s, hmode, hfollows⟩, -⟩ := Ending.of_spec source
  unfold commentIssues openComment?
  rw [← hmode]
  cases hcomment : s.mode with
  | comment start depth =>
      have hdepth : (Ending.of source).comments = depth := by
        rw [Ending.comments_of_region]
        rw [hfollows.region, hcomment, Mode.region]
      have hpositive := hfollows.depth start depth hcomment
      refine ⟨start, ?_⟩
      rw [hdepth, if_neg (Nat.ne_of_gt hpositive)]
  | _ =>
      refine ⟨0, ?_⟩
      rw [if_pos]
      rw [Ending.comments, hfollows.region, hcomment, Mode.region]

theorem exists_filter_braceIssues : ∃ first,
    (braceIssues (mask source)).filter isUnclosedReport =
      if (Ending.of source).blocks = 0 then []
      else [(Issue.unclosedBlock (Ending.of source).blocks).report first (first + 1)
        [.insert source.size (List.replicate (Ending.of source).blocks '}')]] := by
  obtain ⟨-, hblocks⟩ := Ending.of_spec source
  have hsize : (mask source).size = source.size := (masking_mask source).2.1.size_eq
  have hstrays : ((braces (mask source)).strays.map fun n =>
      Issue.strayBrace.report n (n + 1) [.delete n (n + 1)]).filter isUnclosedReport = [] := by
    simp [List.filter_map, Function.comp_def, isUnclosedReport_report, Issue.isUnclosed]
  unfold braceIssues
  rw [List.filter_append, hstrays, List.nil_append, hblocks, hsize]
  cases hlast : (braces (mask source)).unclosed.getLast? with
  | none =>
      rw [List.getLast?_eq_none_iff] at hlast
      refine ⟨0, ?_⟩
      rw [hlast]
      rfl
  | some first =>
      have hne : (braces (mask source)).unclosed.length ≠ 0 := by
        rw [Ne, List.length_eq_zero_iff]
        intro hnil
        simp [hnil] at hlast
      refine ⟨first, ?_⟩
      rw [if_neg hne]
      rfl

/-- The reports of what is open, whether there is time for the rest of the check or not. -/
theorem filter_check : (check validators source o).diagnostics.filter isUnclosedReport =
    commentIssues source ++ (braceIssues (mask source)).filter isUnclosedReport := by
  have hcomment : (commentIssues source).filter isUnclosedReport = commentIssues source := by
    obtain ⟨start, h⟩ := exists_commentIssues_eq source
    rw [h]
    split <;> simp [isUnclosedReport_report, Issue.isUnclosed]
  have hstructure : (structureIssues source).filter isUnclosedReport =
      commentIssues source ++ (braceIssues (mask source)).filter isUnclosedReport := by
    rw [structureIssues, List.filter_append, hcomment]
  obtain ⟨t, hpart, hcheck⟩ := exists_diagnostics_check validators source o
  have hcontent : t.found.filter isUnclosedReport = [] := by
    have hsub := hpart.isPrefix.sublist.filter isUnclosedReport
    rwa [filter_contentIssues, List.sublist_nil] at hsub
  rw [hcheck, List.filter_append, hstructure, hcontent, List.append_nil]

/-- Nothing is reported to be open where nothing is open. -/
theorem filter_check_eq_nil_iff :
    (check validators source o).diagnostics.filter isUnclosedReport = [] ↔
      (Ending.of source).comments = 0 ∧ (Ending.of source).blocks = 0 := by
  obtain ⟨start, hcomment⟩ := exists_commentIssues_eq source
  obtain ⟨first, hblock⟩ := exists_filter_braceIssues source
  rw [filter_check, hcomment, hblock, List.append_eq_nil_iff]
  simp

/-- The fixes for what is open put closers behind the style sheet. -/
theorem output_applyFixes : (Repair.applyFixes source
    ((check validators source o).diagnostics.filter isUnclosedReport)).output =
      source ++ (Ending.of source).closers.flatten := by
  obtain ⟨start, hcomment⟩ := exists_commentIssues_eq source
  obtain ⟨first, hblock⟩ := exists_filter_braceIssues source
  have hedits : ((check validators source o).diagnostics.filter isUnclosedReport).filterMap
      (·.firstEdit?) = (Ending.of source).closers.map (.insert source.size) := by
    rw [filter_check, hcomment, hblock, List.filterMap_append, Ending.closers, List.map_append]
    congr 1
    · split <;> rfl
    · split <;> rfl
  rw [Repair.applyFixes, hedits, Repair.output_applyEdits_inserts]

end

/-! ## Reading the closers -/

namespace Ending

variable {e : Ending} {depth : Nat}

theorem readAll_commentCloser (hregion : e.region = .comment depth) (hlast : e.last ≠ some '/') :
    e.readAll ['*', '/'] = { e.alone '*' with
      region := if depth = 1 then .code else .comment (depth - 1)
      last := none } := by
  have hstar : e.pair? '*' = none := by simp [pair?, hregion, hlast]
  refine readAll_two hstar ?_
  simp [pair?, alone, hregion]

theorem readAll_commentClosers (n : Nat) (hregion : e.region = .comment (n + 1))
    (hlast : e.last ≠ some '/') :
    (e.readAll (List.replicate (n + 1) ['*', '/']).flatten).region = .code ∧
      (e.readAll (List.replicate (n + 1) ['*', '/']).flatten).blocks = e.blocks ∧
      (e.readAll (List.replicate (n + 1) ['*', '/']).flatten).interpolations =
        e.interpolations := by
  have hkept : (e.alone '*').blocks = e.blocks ∧
      (e.alone '*').interpolations = e.interpolations := by
    rw [alone, hregion]
    exact ⟨rfl, rfl⟩
  induction n generalizing e with
  | zero =>
      rw [List.replicate_one, List.flatten_singleton, readAll_commentCloser hregion hlast]
      exact ⟨rfl, hkept⟩
  | succ n ih =>
      rw [List.replicate_succ, List.flatten_cons, readAll_append,
        readAll_commentCloser hregion hlast]
      obtain ⟨hcode, hblocks, hinterpolations⟩ :=
        ih (e := { e.alone '*' with region := .comment (n + 1), last := none }) rfl (by simp)
          ⟨rfl, rfl⟩
      exact ⟨hcode, hblocks.trans hkept.1, hinterpolations.trans hkept.2⟩

/-- Behind a slash, the star of a closer opens a comment, and its slash is the next one's. -/
theorem readAll_commentClosers_of_slash (n : Nat) (hregion : e.region = .comment depth)
    (hlast : e.last = some '/') :
    (e.readAll (List.replicate n ['*', '/']).flatten).region = .comment (depth + n) := by
  induction n generalizing e depth with
  | zero => exact hregion
  | succ n ih =>
      let opened : Ending := { e with region := .comment (depth + 1), last := none }
      have hopen : e.pair? '*' = some opened := by simp [pair?, hregion, hlast, opened]
      have hnext : (opened.alone '/').region = .comment (depth + 1) := rfl
      rw [List.replicate_succ, List.flatten_cons, readAll_append, readAll_cons,
        read_of_pair? hopen, readAll_singleton (pair?_of_last_eq_none rfl '/'), ih hnext rfl]
      rw [Nat.add_assoc, Nat.add_comm 1]

/-- In code, braces close the interpolations first. -/
theorem readAll_braces (n : Nat) (hregion : e.region = .code) :
    (e.readAll (List.replicate n '}')).region = .code ∧
      (e.readAll (List.replicate n '}')).blocks = e.blocks - (n - e.interpolations) := by
  induction n generalizing e with
  | zero => exact ⟨hregion, by simp⟩
  | succ n ih =>
      have hpair : e.pair? '}' = none := by simp [pair?, hregion]
      rw [List.replicate_succ, readAll_cons, read_of_alone hpair]
      by_cases hinterpolations : e.interpolations > 0
      · have halone : e.alone '}' =
            { e with
              last := some '}'
              afterColon := decide (e.last = some ':')
              interpolations := e.interpolations - 1 } := by
          simp [alone, hregion, hinterpolations]
        rw [halone]
        obtain ⟨hcode, hblocks⟩ := ih (e := { e with
          last := some '}'
          afterColon := decide (e.last = some ':')
          interpolations := e.interpolations - 1 }) hregion
        refine ⟨hcode, hblocks.trans ?_⟩
        dsimp only
        omega
      · have halone : e.alone '}' =
            { e with
              last := some '}'
              afterColon := decide (e.last = some ':')
              blocks := e.blocks - 1 } := by
          simp [alone, hregion, hinterpolations, openAfter]
        rw [halone]
        obtain ⟨hcode, hblocks⟩ := ih (e := { e with
          last := some '}'
          afterColon := decide (e.last = some ':')
          blocks := e.blocks - 1 }) hregion
        refine ⟨hcode, hblocks.trans ?_⟩
        dsimp only
        omega

/-- Elsewhere, braces mean nothing. -/
theorem readAll_braces_of_ne_code (n : Nat) (hregion : e.region ≠ .code)
    (hquote : e.region ≠ .quoted '}') :
    (e.readAll (List.replicate n '}')).region = e.region ∧
      (e.readAll (List.replicate n '}')).blocks = e.blocks := by
  induction n generalizing e with
  | zero => exact ⟨rfl, rfl⟩
  | succ n ih =>
      have hread : (e.read '}').region = e.region ∧ (e.read '}').blocks = e.blocks := by
        unfold read pair? alone
        cases hcases : e.region with
        | code => exact absurd hcases hregion
        | lineComment => simp
        | comment depth => simp
        | quoted quote =>
            have hne : '}' ≠ quote := by
              rintro rfl
              exact hquote hcases
            by_cases hescape : e.last = some '\\' <;> simp [hescape, hne]
      obtain ⟨hsame, hblocks⟩ := hread
      obtain ⟨hkept, hopen⟩ := ih (e := e.read '}') (by rwa [hsame]) (by rwa [hsame])
      rw [List.replicate_succ, readAll_cons]
      exact ⟨hkept.trans hsame, hopen.trans hblocks⟩

/-- The closers close what is open. -/
structure IsClosable (e : Ending) : Prop where
  comments : e.comments > 0 → e.last ≠ some '/'
  blocks : e.blocks > 0 →
    e.interpolations = 0 ∧ e.region ≠ .lineComment ∧ ∀ quote, e.region ≠ .quoted quote

theorem closers_eq_braces (h : e.comments = 0) :
    e.closers.flatten = List.replicate e.blocks '}' := by
  rw [closers, if_pos h, List.nil_append]
  split
  · rename_i hblocks
    rw [hblocks]
    rfl
  · exact List.append_nil _

theorem closers_eq_append (h : e.comments ≠ 0) : e.closers.flatten =
    (List.replicate e.comments ['*', '/']).flatten ++ List.replicate e.blocks '}' := by
  rw [closers, if_neg h]
  split
  · rename_i hblocks
    rw [hblocks]
    simp
  · simp

/-- Behind its closers, a text has nothing open. -/
def Closes (e : Ending) : Prop :=
  (e.readAll e.closers.flatten).comments = 0 ∧ (e.readAll e.closers.flatten).blocks = 0

theorem closes_iff_of_code (hregion : e.region = .code) : e.Closes ↔ e.IsClosable := by
  have hcomments : e.comments = 0 := by rw [comments, hregion]
  obtain ⟨hcode, hblocks⟩ := readAll_braces e.blocks hregion
  rw [Closes, closers_eq_braces hcomments, comments, hcode, hblocks]
  constructor
  · rintro ⟨-, hclosed⟩
    exact ⟨by simp [hcomments], fun hopen => ⟨by omega, by simp [hregion], by simp [hregion]⟩⟩
  · intro h
    have hinterpolations := fun hopen => (h.blocks hopen).1
    exact ⟨rfl, by omega⟩

/-- A line comment and a string take the braces in. -/
theorem closes_iff_of_swallowed (hregion : e.region = .lineComment ∨ ∃ q, e.region = .quoted q)
    (hquote : e.region ≠ .quoted '}') : e.Closes ↔ e.IsClosable := by
  have hcode : e.region ≠ .code := by rcases hregion with h | ⟨q, h⟩ <;> simp [h]
  have hcomments : e.comments = 0 := by rcases hregion with h | ⟨q, h⟩ <;> rw [comments, h]
  obtain ⟨hkept, hblocks⟩ := readAll_braces_of_ne_code e.blocks hcode hquote
  rw [Closes, closers_eq_braces hcomments, comments, hkept, ← comments, hblocks]
  constructor
  · rintro ⟨-, hclosed⟩
    exact ⟨by simp [hcomments], by simp [hclosed]⟩
  · intro h
    have hnone : ¬ e.blocks > 0 := by
      intro hopen
      obtain ⟨-, hline, hquoted⟩ := h.blocks hopen
      exact hregion.elim hline fun ⟨q, hq⟩ => hquoted q hq
    exact ⟨hcomments, by omega⟩

theorem closes_iff_of_comment {n : Nat} (hregion : e.region = .comment (n + 1)) :
    e.Closes ↔ e.IsClosable := by
  have hcomments : e.comments = n + 1 := comments_of_region hregion
  rw [Closes, closers_eq_append (by omega), readAll_append, hcomments]
  by_cases hslash : e.last = some '/'
  · -- The closers open comments, and the braces stand inside of them.
    have hopen := readAll_commentClosers_of_slash (n + 1) hregion hslash
    obtain ⟨hkept, -⟩ := readAll_braces_of_ne_code
      (e := e.readAll (List.replicate (n + 1) ['*', '/']).flatten) e.blocks
      (by simp [hopen]) (by simp [hopen])
    rw [comments_of_region (hkept.trans hopen)]
    constructor
    · rintro ⟨hnone, -⟩
      omega
    · intro h
      exact absurd hslash (h.comments (by omega))
  · obtain ⟨hcode, hsame, hinterpolations⟩ := readAll_commentClosers n hregion hslash
    obtain ⟨hkept, hblocks⟩ := readAll_braces e.blocks hcode
    rw [comments, hkept, hblocks, hsame, hinterpolations]
    constructor
    · rintro ⟨-, hclosed⟩
      exact ⟨fun _ => hslash, fun hopen => ⟨by omega, by simp [hregion], by simp [hregion]⟩⟩
    · intro h
      have hinterpolations := fun hopen => (h.blocks hopen).1
      exact ⟨rfl, by omega⟩

/-- Behind its closers a text has nothing open if and only if they are read as what they are. -/
theorem closes_iff (hquote : e.region ≠ .quoted '}') (hdepth : e.region ≠ .comment 0) :
    e.Closes ↔ e.IsClosable := by
  cases hregion : e.region with
  | code => exact closes_iff_of_code hregion
  | lineComment => exact closes_iff_of_swallowed (.inl hregion) hquote
  | quoted quote => exact closes_iff_of_swallowed (.inr ⟨quote, hregion⟩) hquote
  | comment depth =>
      cases depth with
      | zero => exact absurd hregion hdepth
      | succ n => exact closes_iff_of_comment hregion

end Ending

/-- Behind the fixes for what is open, nothing is reported to be open if and only if the end of the
style sheet leaves the closers their meaning. -/
theorem check_closed_iff (validators : Validators) (source : Text) (o o' : Context) :
    (check validators (Repair.applyFixes source
      ((check validators source o).diagnostics.filter isUnclosedReport)).output
        o').diagnostics.filter isUnclosedReport = [] ↔ (Ending.of source).IsClosable := by
  obtain ⟨⟨s, -, hfollows⟩, -⟩ := Ending.of_spec source
  have hquote : (Ending.of source).region ≠ .quoted '}' := by
    rw [hfollows.region]
    intro h
    cases hmode : s.mode with
    | quoted quote =>
        rw [hmode, Mode.region, Region.quoted.injEq] at h
        subst h
        exact absurd (hfollows.quote _ hmode) (by decide)
    | _ => simp [hmode, Mode.region] at h
  have hdepth : (Ending.of source).region ≠ .comment 0 := by
    rw [hfollows.region]
    intro h
    cases hmode : s.mode with
    | comment start depth =>
        rw [hmode, Mode.region, Region.comment.injEq] at h
        exact Nat.ne_of_gt (hfollows.depth start depth hmode) h
    | _ => simp [hmode, Mode.region] at h
  rw [output_applyFixes, filter_check_eq_nil_iff, Ending.of_append]
  exact Ending.closes_iff hquote hdepth

/-- A block that is open behind a line comment without a line break. -/
def blockBehindComment : Text := "a \x7b // x".toList

/-- The closer of the block becomes part of the comment. -/
theorem check_open_blockBehindComment :
    (check .standard (Repair.applyFixes blockBehindComment
      ((check .standard blockBehindComment {}).diagnostics.filter isUnclosedReport)).output
        {}).diagnostics.filter isUnclosedReport =
      [(Issue.unclosedBlock 1).report 2 3 [.insert 9 ['}']]] := by
  decide +kernel

end PageLint.Style
