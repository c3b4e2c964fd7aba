import PageLint.Proofs.Engine.Anchoring
import PageLint.Proofs.Engine.Exactness
import PageLint.Proofs.Engine.Selection

/-! # Stable reports

What an engine reports is anchored, has the severities that the options give, and passes all of
their filters. So an engine that is given a report as findings reports the same again. -/

namespace PageLint

variable {source : Text} {o : Options} {ds : List Diagnostic}

/-! ## Single diagnostics -/

namespace Diagnostic

variable {d : Diagnostic}

theorem AnchoredIn.liesIn (h : d.AnchoredIn source) : d.LiesIn source := ⟨h.range, h.edits⟩

/-- An anchored diagnostic stays where it is, and the same line is read around it. -/
theorem anchor_anchor (source : Text) (d : Diagnostic) :
    (d.anchor source).anchor source = d.anchor source := by
  obtain ⟨hstart, hstop, hfixes⟩ := (d.anchoredIn_anchor source).liesIn.anchor_eq
  have hclamp : source.clamp (source.clamp d.start) = source.clamp d.start := hstart
  have hline : source.lineOf (source.clamp (source.clamp d.start)) =
      source.lineOf (source.clamp d.start) := by rw [hclamp]
  have hcolumn : some (source.columnOf (source.clamp (source.clamp d.start))) =
      some (source.columnOf (source.clamp d.start)) := by rw [hclamp]
  have hcontext : (source.lineText? (source.lineOf (source.clamp (source.clamp d.start))) <|>
      (source.lineText? (source.lineOf (source.clamp d.start)) <|> d.context)) =
        (source.lineText? (source.lineOf (source.clamp d.start)) <|> d.context) := by
    rw [hclamp]
    cases source.lineText? (source.lineOf (source.clamp d.start)) <;> rfl
  exact (mk.injEq ..).mpr
    ⟨rfl, rfl, rfl, hstart, hstop, hline, hcolumn, rfl, hfixes, hcontext⟩

/-- Where a diagnostic stands has nothing to do with its severity. -/
theorem anchor_override (source : Text) (o : Options) (d : Diagnostic) :
    (d.override o).anchor source = (d.anchor source).override o := rfl

theorem severityUnder_under (o : Options) (d : Diagnostic) :
    (d.under o).severityUnder o = d.severityUnder o := by
  have hrule : (d.under o).rule = d.rule := rfl
  unfold severityUnder
  rw [hrule]
  cases hd : d.rule with
  | none => simp [under, severityUnder, hd]
  | some rule =>
      cases hchosen : o.rules.severity.lookup rule <;>
        simp [under, severityUnder, hd, hchosen]

theorem under_under (o : Options) (d : Diagnostic) : (d.under o).under o = d.under o := by
  have h : (d.under o).under o = { d.under o with severity := (d.under o).severityUnder o } := rfl
  rw [h, severityUnder_under]
  rfl

/-- The severity that lets a diagnostic pass is the one that it has from then on. -/
theorem IsSelected.under (h : d.IsSelected o) : (d.under o).IsSelected o where
  enabled := h.enabled
  heard := h.heard
  admitted := by
    rw [severityUnder_under]
    exact h.admitted

end Diagnostic

/-! ## The stages -/

theorem mem_of_mem_truncate {limit : Option Nat} {d : Diagnostic} (h : d ∈ truncate limit ds) :
    d ∈ ds := by
  cases limit with
  | none => exact h
  | some n => exact List.mem_of_mem_take h

theorem truncate_truncate (limit : Option Nat) (ds : List Diagnostic) :
    truncate limit (truncate limit ds) = truncate limit ds := by
  cases limit with
  | none => rfl
  | some n => rw [truncate, truncate, List.take_take, Nat.min_self]

/-- What is left of a list has its severities and passes all filters. -/
theorem settled_of_mem_select {d : Diagnostic} (h : d ∈ select o ds) :
    d.IsSelected o ∧ d.under o = d := by
  rw [select_eq] at h
  obtain ⟨e, he, rfl⟩ := List.mem_map.mp (mem_of_mem_truncate h)
  have hselected : e.IsSelected o := of_decide_eq_true (List.mem_filter.mp he).2
  exact ⟨hselected.under, e.under_under o⟩

theorem select_select (o : Options) (ds : List Diagnostic) :
    select o (select o ds) = select o ds := by
  have hall : (select o ds).filter (·.IsSelected o) = select o ds :=
    List.filter_eq_self.mpr fun d hd => decide_eq_true (settled_of_mem_select hd).1
  have hsame : (select o ds).map (·.under o) = select o ds :=
    (List.map_congr_left fun d hd => (settled_of_mem_select hd).2).trans (List.map_id _)
  rw [select_eq o (select o ds), hall, hsame, select_eq, truncate_truncate]

/-- What is left of anchored diagnostics is anchored. -/
theorem map_anchor_select (source : Text) (o : Options) (ds : List Diagnostic) :
    (select o (ds.map (·.anchor source))).map (·.anchor source) =
      select o (ds.map (·.anchor source)) := by
  refine (List.map_congr_left fun d hd => ?_).trans (List.map_id _)
  obtain ⟨e, he, rfl⟩ := exists_of_mem_select hd
  obtain ⟨raw, -, rfl⟩ := List.mem_map.mp he
  rw [Diagnostic.anchor_override, Diagnostic.anchor_anchor]
  rfl

/-! ## Reports -/

theorem Findings.report_report (f : Findings) (source : Text) (o : Options) :
    { f with diagnostics := (f.report source o).diagnostics }.report source o =
      f.report source o := by
  unfold report
  dsimp only [Report.of]
  rw [map_anchor_select, select_select]

theorem Engine.checker?_register (e : Engine) (c : Checker) :
    (e.register c).checker? c.language = some c := by
  have hothers : (e.checkers.filter (·.language != c.language)).find?
      (·.language == c.language) = none := by
    rw [List.find?_eq_none]
    intro other hother
    simpa using (List.mem_filter.mp hother).2
  rw [checker?, register, List.find?_append, hothers]
  simp

/-- An engine that is given what it reported in place of what a checker found reports the same
again, whatever the checker found and whatever the options are. -/
theorem Engine.check_again (e : Engine) (source : Text) (l : Language) (o : Options)
    (clock clock' : Deadline) (f : Findings) :
    ∃ r, (e.register (.answering l f)).check source l o clock = .ok r ∧
      (e.register (.answering l { f with diagnostics := r.diagnostics })).check source l o clock' =
        .ok r := by
  have hanswers : ∀ (g : Findings) (clock : Deadline),
      (e.register (.answering l g)).check source l o clock = .ok (g.report source o) := fun g _ =>
    check_eq_ok_iff.mpr
      (.inr ⟨.answering l g, g, checker?_register e (.answering l g), rfl, rfl⟩)
  refine ⟨f.report source o, hanswers f clock, ?_⟩
  rw [hanswers, Findings.report_report]

end PageLint
