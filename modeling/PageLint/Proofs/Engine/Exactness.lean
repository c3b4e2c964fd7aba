import PageLint.Engine
import PageLint.Proofs.Text.Slices

/-! # Exact diagnostics

Where the offsets of a diagnostic and of its edits are cuts of the source in order, an engine has
nothing to clamp. -/

namespace PageLint

variable {source : Text}

def Edit.LiesIn (source : Text) (e : Edit) : Prop := source.IsRange e.start e.stop

/-- The diagnostic and its edits cover characters of the source. -/
structure Diagnostic.LiesIn (source : Text) (d : Diagnostic) : Prop where
  range : source.IsRange d.start d.stop
  edits : ∀ f ∈ d.fixes, f.edit.LiesIn source

/-- What is reported for a range of the source, with one fix for each of some edits. -/
theorem Diagnostic.LiesIn.of_report {d : Diagnostic} {start stop : Nat} {edits : List Edit}
    {remedy : String} (hstart : d.start = start) (hstop : d.stop = max start stop)
    (hfixes : d.fixes = edits.map fun edit => ⟨remedy, edit⟩) (h : source.IsRange start stop)
    (hedits : ∀ e ∈ edits, e.LiesIn source) : d.LiesIn source where
  range := by
    rw [hstart, hstop, Nat.max_eq_right h.le]
    exact h
  edits := by
    intro f hf
    rw [hfixes] at hf
    obtain ⟨e, he, rfl⟩ := List.mem_map.mp hf
    exact hedits e he

theorem Edit.liesIn_insert_end (source text : Text) : (insert source.size text).LiesIn source :=
  (Text.isCut_size source).isRange (Text.isCut_size source) (Nat.le_refl _)

/-! ## Anchoring -/

theorem Text.IsRange.clamp_eq {start stop : Nat} (h : source.IsRange start stop) :
    source.clamp start = start ∧ max start (source.clamp stop) = stop := by
  rw [clamp_of_isCut h.start_cut, clamp_of_isCut h.stop_cut]
  exact ⟨rfl, Nat.max_eq_right h.le⟩

theorem Edit.LiesIn.clamp_eq {e : Edit} (h : e.LiesIn source) : e.clamp source = e := by
  obtain ⟨hstart, hstop⟩ := Text.IsRange.clamp_eq h
  rw [Edit.clamp, hstart, hstop]

/-- Anchoring moves neither the diagnostic nor its edits. -/
theorem Diagnostic.LiesIn.anchor_eq {d : Diagnostic} (h : d.LiesIn source) :
    (d.anchor source).start = d.start ∧ (d.anchor source).stop = d.stop ∧
      (d.anchor source).fixes = d.fixes := by
  obtain ⟨hstart, hstop⟩ := h.range.clamp_eq
  refine ⟨hstart, ?_, ?_⟩
  · change max (source.clamp d.start) (source.clamp d.stop) = d.stop
    rw [hstart, hstop]
  · change d.fixes.map (·.clamp source) = d.fixes
    refine (List.map_congr_left fun f hf => ?_).trans (List.map_id d.fixes)
    rw [Fix.clamp, (h.edits f hf).clamp_eq]
    rfl

end PageLint
