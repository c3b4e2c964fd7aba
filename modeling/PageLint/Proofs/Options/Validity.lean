import PageLint.Settings.File
import PageLint.Proofs.Engine.Selection
import PageLint.Proofs.Text.Slices

/-! # Valid options

What a settings file must respect: a report may hold some diagnostic, and no message is ignored for
the empty text, which every message contains. -/

namespace PageLint

namespace Options

variable {o other : Options}

/-- The options allow some diagnostic, and not every message is ignored. -/
structure IsValid (o : Options) : Prop where
  limit : o.maxErrors ≠ some 0
  patterns : "" ∉ o.ignorePatterns

theorem validate_eq_ok_iff : o.validate = .ok () ↔ o.IsValid := by
  rw [validate]
  by_cases hlimit : o.maxErrors = some 0
  · rw [if_pos hlimit]
    exact ⟨nofun, fun h => absurd hlimit h.limit⟩
  · rw [if_neg hlimit]
    by_cases hpatterns : "" ∈ o.ignorePatterns
    · rw [if_pos (by simpa using hpatterns)]
      exact ⟨nofun, fun h => absurd hpatterns h.patterns⟩
    · rw [if_neg (by simpa using hpatterns)]
      exact ⟨fun _ => ⟨hlimit, hpatterns⟩, fun _ => rfl⟩

theorem isValid_default : IsValid {} := ⟨nofun, nofun⟩

/-- A limit that is put over another one wins, and neither of them is zero. -/
theorem IsValid.maxErrors_merge_ne (h : o.IsValid) (hother : other.maxErrors ≠ some 0) :
    (o.merge other).maxErrors ≠ some 0 := by
  rw [merge]
  cases hlimit : other.maxErrors with
  | none => simpa using h.limit
  | some n => simpa [hlimit] using hother

theorem IsValid.mem_ignorePatterns_merge_iff (h : o.IsValid) :
    "" ∈ (o.merge other).ignorePatterns ↔ "" ∈ other.ignorePatterns := by
  rw [merge, List.mem_append, or_iff_right h.patterns]

end Options

/-- The options of a file that loads are valid. -/
theorem Settings.isValid_of_load {path content : Text} {o : Options}
    (h : load path content = .ok o) : o.IsValid := by
  obtain ⟨format, -, hparsed⟩ := exists_of_bind_eq_ok h
  obtain ⟨parsed, -, hvalidated⟩ := exists_of_bind_eq_ok hparsed
  cases hvalid : parsed.validate with
  | error e =>
      rw [hvalid] at hvalidated
      cases hvalidated
  | ok =>
      rw [hvalid] at hvalidated
      obtain rfl := Except.ok.inj hvalidated
      exact Options.validate_eq_ok_iff.mp hvalid

/-! ## The empty pattern -/

theorem select_eq_nil {o : Options} (h : "" ∈ o.ignorePatterns) (ds : List Diagnostic) :
    select o ds = [] := by
  have hnone : ∀ d ∈ ds, ¬ decide (d.IsSelected o) = true := by
    intro d _ hselected
    exact (of_decide_eq_true hselected).heard "" h List.nil_infix
  rw [select_eq, List.filter_eq_nil_iff.mpr hnone]
  cases o.maxErrors with
  | none => rfl
  | some n => exact List.take_nil

/-- Where the empty text is ignored, nothing is reported. -/
theorem Engine.diagnostics_eq_nil {e : Engine} {source : Text} {l : Language} {o : Options}
    {clock : Deadline} {r : Report} (hempty : "" ∈ o.ignorePatterns)
    (h : e.check source l o clock = .ok r) : r.diagnostics = [] := by
  rcases check_eq_ok_iff.mp h with ⟨-, rfl⟩ | ⟨c, f, -, -, rfl⟩
  · rfl
  · exact select_eq_nil hempty _

end PageLint
