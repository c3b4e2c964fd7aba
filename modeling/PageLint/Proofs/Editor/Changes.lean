import PageLint.Proofs.Editor.Positions
import PageLint.Proofs.Engine.Anchoring
import PageLint.Proofs.Engine.Selection
import PageLint.Proofs.Repair.Pass
import Mathlib.Data.List.Forall2

/-! # Changes in an editor

The ranges that an editor is sent are those of the diagnostics and of their edits. So an editor that
makes the change of a quick fix ends up with the text that the edit of the fix gives. -/

namespace PageLint

/-! ## One edit -/

/-- An edit of a range of the source is the only one to be applied, and it is. -/
theorem Repair.output_applyEdits_singleton {source : Text} {e : Edit}
    (h : source.IsRange e.start e.stop) :
    (applyEdits source [e]).output = source.before e.start ++ e.text ++ source.after e.stop := by
  have happlicable : (fits source e && !Cover.collides {} e) = true :=
    Cover.Tracks.empty.applicable_iff.mpr ⟨h, by simp⟩
  have haccepted : accepted source {} (ordered [e]) = [e] := by
    rw [ordered, List.mergeSort_singleton, accepted, ite_cond_eq_true _ _ (eq_true happlicable),
      accepted]
  rw [applyEdits, haccepted]
  rfl

namespace Editor

/-! ## Ranges -/

/-- An editor that counts the two ends of the range comes to `start` and to `stop`. -/
structure Range.Covers (source : Text) (r : Range) (start stop : Nat) : Prop where
  ordered : r.start.Precedes r.stop
  start : r.start.offset? source = some start
  stop : r.stop.offset? source = some stop

theorem covers_range {source : Text} {start stop : Nat} (hsize : source.size < 2 ^ 32)
    (h : source.IsRange start stop) : (range source start stop).Covers source start stop where
  ordered := position_precedes hsize h.start_cut h.stop_cut h.le
  start := offset?_position hsize h.start_cut
  stop := offset?_position hsize h.stop_cut

/-! ## Changes -/

/-- The text as an editor changes it: what stands between the two ends of the range is replaced. -/
def TextEdit.applied? (source : Text) (e : TextEdit) : Option Text := do
  let start ← e.range.start.offset? source
  let stop ← e.range.stop.offset? source
  return source.before start ++ e.newText ++ source.after stop

theorem Range.Covers.applied?_eq {source : Text} {e : TextEdit} {start stop : Nat}
    (h : e.range.Covers source start stop) :
    e.applied? source = some (source.before start ++ e.newText ++ source.after stop) := by
  rw [TextEdit.applied?, h.start, h.stop]
  rfl

/-- The quick fix offers the edit of the fix, for the place of the diagnostic. -/
structure QuickFix.Offers (source : Text) (d : Diagnostic) (f : Fix) (q : QuickFix) : Prop where
  notice : q.notice.range.Covers source d.start d.stop
  range : q.edit.range.Covers source f.edit.start f.edit.stop
  change : q.edit.applied? source = some (Repair.applyEdits source [f.edit]).output

theorem offers_quickFixes {source : Text} {d : Diagnostic} (hsize : source.size < 2 ^ 32)
    (h : d.AnchoredIn source) (uri : String) :
    List.Forall₂ (fun q f => q.Offers source d f) (quickFixes source uri d) d.fixes := by
  rw [List.forall₂_iff_get]
  refine ⟨List.length_mapIdx, fun i hi hi' => ?_⟩
  have hrange := h.edits (d.fixes[i]) (List.getElem_mem hi')
  have hcovers := covers_range hsize hrange
  simp only [quickFixes, List.get_eq_getElem, List.getElem_mapIdx]
  refine ⟨covers_range hsize h.range, hcovers, ?_⟩
  rw [Range.Covers.applied?_eq hcovers, Repair.output_applyEdits_singleton hrange]

end Editor

open Editor in
/-- Of a text whose offsets have 32 bits, an editor that counts lines and UTF-16 units comes from
each notice back to the bytes of its diagnostic, and from each quick fix back to the bytes of its
edit. It makes the change that the edit alone makes. -/
theorem Engine.check_counted {e : Engine} {source : Text} {l : Language} {o : Options}
    {clock : Deadline} {r : Report} (hsize : source.size < 2 ^ 32)
    (h : e.check source l o clock = .ok r) (uri : String) (version : Option Int) :
    List.Forall₂ (fun n d => n.range.Covers source d.start d.stop)
        (publish source uri version r).notices r.diagnostics ∧
      ∀ d ∈ r.diagnostics,
        List.Forall₂ (fun q f => q.Offers source d f) (quickFixes source uri d) d.fixes := by
  have hanchored : ∀ d ∈ r.diagnostics, d.AnchoredIn source := by
    rcases check_eq_ok_iff.mp h with ⟨-, rfl⟩ | ⟨c, f, -, -, rfl⟩
    · exact fun d hd => absurd hd List.not_mem_nil
    · exact fun d hd => anchoredIn_of_mem_report hd
  constructor
  · rw [publish, List.forall₂_map_left_iff, List.forall₂_same]
    exact fun d hd => covers_range hsize (hanchored d hd).range
  · exact fun d hd => offers_quickFixes hsize (hanchored d hd) uri

/-- A stray brace on the second line, behind characters of two and of four bytes. -/
def Style.strayBehindWide : Text := "/*\nü😀*/\x7d".toList

open Editor in
theorem Engine.check_counted_strayBehindWide :
    Style.strayBehindWide.size < 2 ^ 32 ∧
      ∃ r, standard.check Style.strayBehindWide .style {} = .ok r ∧
        r.diagnostics.map (fun d => (d.start, d.stop)) = [(11, 12)] ∧
        (publish Style.strayBehindWide "file:///a.css" none r).notices.map (·.range) =
          [⟨⟨1, 5⟩, ⟨1, 6⟩⟩] ∧
        List.Forall₂ (fun n d => n.range.Covers Style.strayBehindWide d.start d.stop)
          (publish Style.strayBehindWide "file:///a.css" none r).notices r.diagnostics ∧
        ∀ d ∈ r.diagnostics,
          List.Forall₂ (fun q f => q.Offers Style.strayBehindWide d f)
            (quickFixes Style.strayBehindWide "file:///a.css" d) d.fixes := by
  have hsize : Style.strayBehindWide.size < 2 ^ 32 := by decide
  have hcheck : standard.check Style.strayBehindWide .style {} = .ok _ := rfl
  exact ⟨hsize, _, hcheck, by decide +kernel, by decide +kernel,
    check_counted hsize hcheck "file:///a.css" none⟩

end PageLint
