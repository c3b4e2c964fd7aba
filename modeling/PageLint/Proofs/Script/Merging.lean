import PageLint.Proofs.Script.Interruption
import Mathlib.Data.List.FinRange

/-! # Both passes together

A script is looked at as a tree and as bare text. What the tree shows is reported as it is. Of what
the bare text shows, a diagnostic is left out only if one in front of it has the same rule and the
same place. -/

namespace PageLint

/-- The context with the pass over the bare text of a script switched on or off. -/
def Context.withText (o : Context) (b : Bool) : Context :=
  { o with script := { heuristics := b } }

namespace Script

/-- The diagnostics are of one rule and at one place. -/
def Coincides (d e : Diagnostic) : Prop := d.rule = e.rule ∧ d.start = e.start ∧ d.stop = e.stop

instance (d e : Diagnostic) : Decidable (Coincides d e) :=
  inferInstanceAs (Decidable (_ ∧ _ ∧ _))

/-- At place `i` of `more` stands a diagnostic that coincides with none of `found`, nor with one in
front of it. -/
structure IsNews (found more : List Diagnostic) (i : Fin more.length) : Prop where
  found : ∀ d ∈ found, ¬ Coincides d (more.get i)
  earlier : ∀ j < i, ¬ Coincides (more.get j) (more.get i)

instance (found more : List Diagnostic) (i : Fin more.length) : Decidable (IsNews found more i) :=
  decidable_of_iff ((∀ d ∈ found, ¬ Coincides d (more.get i)) ∧
      ∀ j < i, ¬ Coincides (more.get j) (more.get i))
    ⟨fun h => ⟨h.1, h.2⟩, fun h => ⟨h.found, h.earlier⟩⟩

/-- The diagnostics of `more` that are news after `found`, in order. -/
def news (found more : List Diagnostic) : List Diagnostic :=
  ((List.finRange more.length).filter (IsNews found more ·)).map more.get

/-! ## What is left out -/

theorem coincides_iff_key {d e : Diagnostic} : Coincides d e ↔ key d = key e := by
  simp only [Coincides, key, Prod.mk.injEq]

section

variable {found more : List Diagnostic} {d : Diagnostic}

/-- A diagnostic that is read first counts as found for those behind it. -/
theorem isNews_succ_iff {i : Fin more.length} :
    IsNews found (d :: more) i.succ ↔ IsNews (d :: found) more i := by
  have hget : ∀ j : Fin more.length, (d :: more).get j.succ = more.get j := fun _ => rfl
  constructor
  · rintro ⟨hfound, hearlier⟩
    refine ⟨List.forall_mem_cons.mpr ⟨?_, hfound⟩, fun j hj => ?_⟩
    · exact hearlier ⟨0, Nat.succ_pos _⟩ (Fin.succ_pos i)
    · exact hearlier j.succ (Fin.succ_lt_succ_iff.mpr hj)
  · rintro ⟨hfound, hearlier⟩
    obtain ⟨hfirst, hfound⟩ := List.forall_mem_cons.mp hfound
    refine ⟨hfound, fun j hj => ?_⟩
    cases j using Fin.cases with
    | zero => exact hfirst
    | succ j => exact hearlier j (Fin.succ_lt_succ_iff.mp hj)

theorem isNews_zero_iff :
    IsNews found (d :: more) ⟨0, Nat.succ_pos _⟩ ↔ ∀ e ∈ found, ¬ Coincides e d := by
  refine ⟨IsNews.found, fun h => ⟨h, fun j hj => ?_⟩⟩
  exact absurd hj (Nat.not_lt_zero j)

theorem news_cons : news found (d :: more) =
    (if ∀ e ∈ found, ¬ Coincides e d then [d] else []) ++ news (d :: found) more := by
  have hrest : (((List.finRange more.length).map Fin.succ).filter
      (IsNews found (d :: more) ·)).map (d :: more).get = news (d :: found) more := by
    simp only [List.filter_map, List.map_map, news, Function.comp_def, isNews_succ_iff]
    rfl
  have hrange : List.finRange (d :: more).length =
      ⟨0, Nat.succ_pos _⟩ :: (List.finRange more.length).map Fin.succ := List.finRange_succ
  rw [← hrest, news, hrange, List.filter_cons]
  by_cases hnew : ∀ e ∈ found, ¬ Coincides e d
  · rw [if_pos (decide_eq_true (isNews_zero_iff.mpr hnew)), if_pos hnew]
    rfl
  · rw [if_neg fun h => hnew (isNews_zero_iff.mp (of_decide_eq_true h)), if_neg hnew]
    rfl

/-- What coincides with something found changes nothing for those behind it. -/
theorem news_cons_found (h : ∃ e ∈ found, Coincides e d) :
    news (d :: found) more = news found more := by
  obtain ⟨e, he, hd⟩ := h
  refine congrArg (List.map more.get) (List.filter_congr fun i _ => decide_eq_decide.mpr ?_)
  constructor
  · exact fun hnews => ⟨(List.forall_mem_cons.mp hnews.found).2, hnews.earlier⟩
  · refine fun hnews => ⟨List.forall_mem_cons.mpr ⟨?_, hnews.found⟩, hnews.earlier⟩
    rw [coincides_iff_key] at hd ⊢
    exact hd ▸ coincides_iff_key.not.mp (hnews.found e he)

theorem withoutRepeats_eq_news {seen : List (Option String × Nat × Nat)}
    (h : ∀ d, key d ∈ seen ↔ ∃ e ∈ found, Coincides e d) :
    withoutRepeats seen more = news found more := by
  induction more generalizing seen found with
  | nil => rfl
  | cons d more ih =>
      rw [withoutRepeats, news_cons]
      by_cases hseen : key d ∈ seen
      · have hfound := (h d).mp hseen
        have hold : ¬ ∀ e ∈ found, ¬ Coincides e d := by simpa using hfound
        simp only [List.contains_eq_mem, hseen, decide_true, ↓reduceIte, hold, List.nil_append]
        rw [news_cons_found hfound]
        exact ih h
      · have hnew : ∀ e ∈ found, ¬ Coincides e d := by simpa using (h d).not.mp hseen
        simp only [List.contains_eq_mem, hseen, decide_false, Bool.false_eq_true, ↓reduceIte]
        rw [if_pos hnew]
        refine congrArg (d :: ·) (ih fun e => ?_)
        rw [List.mem_cons, List.exists_mem_cons_iff, h, coincides_iff_key, eq_comm]

end

/-! ## Checks -/

/-- Without the pass over the bare text, what the tree shows is all. -/
theorem check_withoutText (source : Text) {o : Context} (h : o.deadline = .never) :
    check source (o.withText false) = .ok { diagnostics := readIssues source } := by
  have hnever : (o.withText false).deadline = .never := h
  rw [check_never source hnever]
  exact if_neg Bool.false_ne_true

/-- Where the pass over the bare text comes to its end, a check with it reports what a check without
it reports, unchanged, and then what that pass finds, without what coincides with a diagnostic in
front. -/
theorem check_withText {source : Text} {o : Context} {more : List Diagnostic}
    (hdeadline : o.deadline = .never) (hmore : textIssues source = .ok more) :
    ∃ found, check source (o.withText false) = .ok { diagnostics := found } ∧
      check source (o.withText true) = .ok { diagnostics := found ++ news found more } := by
  have hnever : (o.withText true).deadline = .never := hdeadline
  have hkeys : ∀ d, key d ∈ (readIssues source).map key ↔
      ∃ e ∈ readIssues source, Coincides e d := by
    intro d
    simp only [List.mem_map, coincides_iff_key]
  refine ⟨readIssues source, check_withoutText source hdeadline, ?_⟩
  have hon : (o.withText true).script.heuristics = true := rfl
  rw [check_never source hnever, if_pos hon, hmore, ← withoutRepeats_eq_news hkeys]
  rfl

/-- A comparison, and a pattern that takes its values from a name that nothing declares. -/
def borrowed : Text := "const { x } = y;\nx == y;".toList

/-- What the bare text of it shows. The tree shows the second one as well, in other words. -/
def borrowedText : List Diagnostic :=
  [Issue.looseEquality.report 19 21 [⟨19, 21, "===".toList⟩],
    (Issue.undeclaredSource ['y']).report 14 15]

theorem check_withText_borrowed :
    ({} : Context).deadline = .never ∧ textIssues borrowed = .ok borrowedText ∧
      ∃ found, check borrowed (({} : Context).withText false) = .ok { diagnostics := found } ∧
        check borrowed (({} : Context).withText true) =
          .ok { diagnostics := found ++ news found borrowedText } ∧
        found =
          [(Issue.undefinedVariable ['y']).report 14 15,
            (Issue.undefinedVariable ['y']).report 22 23] ∧
        news found borrowedText = [Issue.looseEquality.report 19 21 [⟨19, 21, "===".toList⟩]] := by
  have hread : readIssues borrowed =
      [(Issue.undefinedVariable ['y']).report 14 15,
        (Issue.undefinedVariable ['y']).report 22 23] := by decide +kernel
  have htext : textIssues borrowed = .ok borrowedText := by decide +kernel
  obtain ⟨found, hoff, hon⟩ := check_withText (o := {}) rfl htext
  have hfound := hoff
  rw [check_withoutText borrowed rfl, hread] at hfound
  obtain rfl := (Findings.mk.inj (Except.ok.inj hfound)).1
  exact ⟨rfl, htext, _, hoff, hon, rfl, by decide⟩

end Script

end PageLint
