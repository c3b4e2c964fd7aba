import PageLint.Engine
import PageLint.Proofs.Text.Lines

/-! # Anchored diagnostics

Whatever offsets a checker answers with, the diagnostics of a report have ranges of characters of
the source, and their line, column and context describe the place where they start. -/

namespace PageLint

/-! ## Ranges -/

namespace Text

/-- The nearest range that an engine makes of two offsets. -/
theorem isRange_clamp (t : Text) (start stop : Nat) :
    t.IsRange (t.clamp start) (max (t.clamp start) (t.clamp stop)) := by
  have hstart := isCut_clamp t start
  have hstop : t.IsCut (max (t.clamp start) (t.clamp stop)) := by
    rcases Nat.le_total (t.clamp start) (t.clamp stop) with h | h
    · rw [Nat.max_eq_right h]
      exact isCut_clamp t stop
    · rw [Nat.max_eq_left h]
      exact hstart
  exact ⟨Nat.le_max_left _ _, hstop.le_size, hstart, hstop⟩

end Text

/-! ## Diagnostics -/

namespace Diagnostic

/-- The ranges of `d` and of its edits hold characters of `source`. Where `d` starts, `head` is in
front of it on its line and `tail` behind it: lines are counted by the newlines in front, columns by
the characters of `head`, and the context is the line without the carriage returns that end it. -/
structure AnchoredIn (source : Text) (d : Diagnostic) : Prop where
  range : source.IsRange d.start d.stop
  edits : ∀ f ∈ d.fixes, source.IsRange f.edit.start f.edit.stop
  place : ∃ above head tail below, source.IsPlace d.start above head tail below ∧
    d.line = 1 + (above ++ head).count '\n' ∧
    d.column = some (1 + head.length) ∧
    ∃ context returns, d.context = some context ∧ head ++ tail = context ++ returns ∧
      (∀ c ∈ returns, c = '\r') ∧ context.getLast? ≠ some '\r'

theorem anchoredIn_anchor (source : Text) (d : Diagnostic) :
    (d.anchor source).AnchoredIn source := by
  refine ⟨Text.isRange_clamp source d.start d.stop, ?_, ?_⟩
  · intro f hf
    obtain ⟨g, -, rfl⟩ := List.mem_map.mp hf
    exact Text.isRange_clamp source g.edit.start g.edit.stop
  · obtain ⟨above, head, tail, below, hplace⟩ :=
      Text.exists_isPlace (Text.isCut_clamp source d.start)
    obtain ⟨returns, hline, hreturns, hlast⟩ :=
      Text.exists_eq_dropEndWhile_append (· == '\r') (head ++ tail)
    refine ⟨above, head, tail, below, hplace, hplace.lineOf_eq, ?_,
      (head ++ tail).dropEndWhile (· == '\r'), returns, ?_, hline, ?_, ?_⟩
    · rw [Nat.add_comm, ← hplace.columnOf_eq]
      rfl
    · have hcontext : (d.anchor source).context =
          (source.lineText? (source.lineOf (source.clamp d.start)) <|> d.context) := rfl
      rw [hcontext, hplace.lineText?_eq]
      rfl
    · intro c hc
      exact eq_of_beq (hreturns c hc)
    · intro h
      exact hlast '\r' h (by simp)

/-- A severity of its own does not move a diagnostic. -/
theorem AnchoredIn.override {source : Text} {d : Diagnostic} (h : d.AnchoredIn source)
    (o : Options) : (d.override o).AnchoredIn source :=
  ⟨h.range, h.edits, h.place⟩

end Diagnostic

/-! ## Reports -/

/-- The options leave no diagnostic that was not there, and change no more than its severity. -/
theorem exists_of_mem_select {o : Options} {ds : List Diagnostic} {d : Diagnostic}
    (h : d ∈ select o ds) : ∃ e ∈ ds, d = e.override o := by
  have hkept : d ∈ (dropIgnored o.ignorePatterns (applyRules o ds)).filter
      fun e => o.severityLevel.admits e.severity := by
    unfold select truncate at h
    split at h
    · exact h
    · exact List.mem_of_mem_take h
  have hrules : d ∈ applyRules o ds := (List.mem_filter.mp (List.mem_filter.mp hkept).1).1
  obtain ⟨e, he, rfl⟩ := List.mem_map.mp hrules
  exact ⟨e, (List.mem_filter.mp he).1, rfl⟩

theorem anchoredIn_of_mem_report {source : Text} {o : Options} {f : Findings} {d : Diagnostic}
    (h : d ∈ (f.report source o).diagnostics) : d.AnchoredIn source := by
  obtain ⟨e, he, rfl⟩ := exists_of_mem_select h
  obtain ⟨raw, -, rfl⟩ := List.mem_map.mp he
  exact (raw.anchoredIn_anchor source).override o

/-- A registered checker that answers gives a report, and all its diagnostics are anchored. -/
theorem Engine.check_anchored {e : Engine} {c : Checker} {source : Text} {l : Language}
    {o : Options} {clock : Deadline} {f : Findings} (hc : e.checker? l = some c)
    (hf : c.check source (o.context clock) = .ok f) :
    ∃ r, e.check source l o clock = .ok r ∧ ∀ d ∈ r.diagnostics, d.AnchoredIn source := by
  refine ⟨f.report source o, ?_, fun d hd => anchoredIn_of_mem_report hd⟩
  rw [check, hc]
  change (c.check source (o.context clock)).map (·.report source o) = _
  rw [hf]
  rfl

/-- A checker that answers every text in the same way. -/
def Checker.answering (l : Language) (f : Findings) : Checker where
  id := "answering"
  description := "The same findings for every text"
  language := l
  check _ _ := .ok f

/-- A range that starts inside the last character of a line and ends in front of it, with an edit
that starts behind the end of the text. -/
def Findings.astray : Findings where
  diagnostics :=
    [{ message := "Odd place", severity := .error, start := 6, stop := 2,
       fixes := [⟨"Mend", ⟨99, 1, []⟩⟩] }]

/-- An engine with a checker that is never right about places. -/
def Engine.astray : Engine := ({} : Engine).register (.answering .style .astray)

theorem Engine.check_anchored_astray :
    Engine.astray.checker? .style = some (.answering .style .astray) ∧
      (Checker.answering .style .astray).check "aé\nb€\r\r\nc".toList {} = .ok .astray ∧
      ∃ r, Engine.astray.check "aé\nb€\r\r\nc".toList .style {} = .ok r ∧
        ∀ d ∈ r.diagnostics, d.AnchoredIn "aé\nb€\r\r\nc".toList :=
  ⟨rfl, rfl, Engine.check_anchored rfl rfl⟩

end PageLint
