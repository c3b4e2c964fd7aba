import PageLint.Command.Disk
import PageLint.Proofs.Options.Validity

/-! # The options of a run

Options come from a settings file, which is checked when it is loaded, and from flags. One file may
be named and another one found; a bad one that was found counts for nothing, and there may be none
at all. Whichever it is, what is left to be wrong with the options is wrong with the flags. -/

namespace PageLint.Command

/-! ## Flags -/

namespace Flags

variable {f : Flags} {settings o : Options}

theorem effective_eq_ok_iff {loaded : Except Failure Options} :
    f.effective loaded = .ok o ↔
      ∃ settings, loaded = .ok settings ∧ f.maxErrors ≠ some 0 ∧ f.over settings = o := by
  cases loaded with
  | error e => exact ⟨nofun, fun ⟨_, h, _⟩ => nomatch h⟩
  | ok settings =>
      by_cases hzero : f.maxErrors = some 0
      · simp [effective, bind, Except.bind, hzero]
      · simp [effective, bind, Except.bind, pure, Except.pure, hzero]

/-- The flags are merged into the settings, and may change their level once more. -/
theorem over_eq (f : Flags) (settings : Options) :
    ∃ level, f.over settings = { settings.merge f.options with severityLevel := level } := by
  rw [Flags.over]
  split
  · exact ⟨.all, rfl⟩
  · exact ⟨_, rfl⟩

end Flags

/-! ## Settings files -/

section

open LawfulMonadAttach

variable {m : Type → Type} [Monad m] [LawfulMonad m] [MonadAttach m] [LawfulMonadAttach m]
variable {t : Terminal m} {f : Flags} {o : Options}

theorem isValid_of_loadSettings {path : Text}
    (h : MonadAttach.CanReturn (loadSettings t path) (.ok o)) : o.IsValid := by
  obtain ⟨content, -, h⟩ := canReturn_bind_imp' h
  cases content with
  | error reason => cases eq_of_canReturn_pure h
  | ok content => exact Settings.isValid_of_load (eq_of_canReturn_pure h)

/-- A file that was found and cannot be loaded is as good as none. -/
theorem isValid_of_found {found : Option Text}
    (h : MonadAttach.CanReturn (m := m) (match found with
      | none => pure ({} : Options)
      | some path => do
        match ← loadSettings t path with
        | .ok o => return o
        | .error _ => return {}) o) : o.IsValid := by
  cases found with
  | none =>
      obtain rfl := eq_of_canReturn_pure h
      exact Options.isValid_default
  | some path =>
      obtain ⟨loaded, hloaded, h⟩ := canReturn_bind_imp' h
      cases loaded with
      | error e =>
          obtain rfl := eq_of_canReturn_pure h
          exact Options.isValid_default
      | ok settings =>
          obtain rfl := eq_of_canReturn_pure h
          exact isValid_of_loadSettings hloaded

theorem isValid_of_discoveredSettings (h : MonadAttach.CanReturn (discoveredSettings t) o) :
    o.IsValid := by
  obtain ⟨here, -, h⟩ := canReturn_bind_imp' h
  cases here with
  | none =>
      obtain ⟨found, -, h⟩ := canReturn_bind_imp' h
      exact isValid_of_found h
  | some path =>
      obtain ⟨found, -, h⟩ := canReturn_bind_imp' h
      exact isValid_of_found h

theorem isValid_of_settingsFor (h : MonadAttach.CanReturn (settingsFor t f) (.ok o)) :
    o.IsValid := by
  rw [settingsFor] at h
  split at h
  · obtain ⟨settings, hsettings, h⟩ := canReturn_bind_imp' h
    obtain rfl := Except.ok.inj (eq_of_canReturn_pure h)
    exact isValid_of_discoveredSettings hsettings
  · obtain ⟨loaded, hloaded, h⟩ := canReturn_bind_imp' h
    cases loaded with
    | error e => cases eq_of_canReturn_pure h
    | ok settings =>
        obtain rfl := Except.ok.inj (eq_of_canReturn_pure h)
        exact isValid_of_loadSettings hloaded

/-- Whatever files there are and whatever flags are given, the options of a run allow some
diagnostic, and they ignore the empty text if and only if a flag does. Nothing else keeps them from
being valid. -/
theorem isValid_effective_iff
    (h : MonadAttach.CanReturn (f.effective <$> settingsFor t f) (.ok o)) :
    o.maxErrors ≠ some 0 ∧ ("" ∈ o.ignorePatterns ↔ "" ∈ f.ignore) ∧
      (o.validate = .ok () ↔ "" ∉ f.ignore) := by
  obtain ⟨loaded, hloaded, heffective⟩ := canReturn_map_imp' h
  obtain ⟨settings, rfl, hnonzero, rfl⟩ := Flags.effective_eq_ok_iff.mp heffective
  have hsettings := isValid_of_settingsFor hloaded
  obtain ⟨level, hover⟩ := f.over_eq settings
  have hlimit : (settings.merge f.options).maxErrors ≠ some 0 :=
    hsettings.maxErrors_merge_ne hnonzero
  have hpatterns : "" ∈ (settings.merge f.options).ignorePatterns ↔ "" ∈ f.ignore :=
    hsettings.mem_ignorePatterns_merge_iff
  rw [hover, Options.validate_eq_ok_iff]
  refine ⟨hlimit, hpatterns, fun hvalid => ?_, fun hfree => ⟨hlimit, ?_⟩⟩
  · exact fun hempty => hvalid.patterns (hpatterns.mpr hempty)
  · exact fun hempty => hfree (hpatterns.mp hempty)

end

/-- Settings that allow no diagnostic. -/
def zeroLimit : Text := "\x7b\"maxErrors\": 0\x7d".toList

/-- A disk with such a settings file in the current directory. -/
def Disk.zeroLimited : Disk where
  files := [(["livecheck.json".toList], zeroLimit)]

/-- A limit and a text to ignore. -/
def Flags.limiting : Flags where
  ignore := ["Unused"]
  maxErrors := some 3

/-- The file that is found is bad, so that only the flags count. -/
theorem isValid_effective_iff_limiting :
    Settings.load "livecheck.json".toList zeroLimit = .error (.refused .noErrorsAllowed) ∧
      ∃ o : Options, MonadAttach.CanReturn
          (Flags.limiting.effective <$> settingsFor Disk.terminal .limiting) (.ok o) ∧
        o.maxErrors = some 3 ∧ o.maxErrors ≠ some 0 ∧
        (o.validate = .ok () ↔ "" ∉ Flags.limiting.ignore) := by
  have hrun : MonadAttach.CanReturn
      (Flags.limiting.effective <$> settingsFor Disk.terminal .limiting)
      (.ok { maxErrors := some 3, ignorePatterns := ["Unused"] }) :=
    ⟨Disk.zeroLimited, Disk.zeroLimited, rfl⟩
  obtain ⟨hlimit, -, hvalid⟩ := isValid_effective_iff hrun
  exact ⟨rfl, _, hrun, rfl, hlimit, hvalid⟩

/-- The empty text to ignore. -/
def Flags.hushing : Flags where
  files := ["a.css".toList]
  ignore := [""]

/-- No settings file may ask for it, but a flag may: then nothing is reported of any text. -/
theorem exists_effective_hushing :
    Request.of? ["--ignore".toList, [], "a.css".toList] = some (.check .hushing) ∧
      ∃ o : Options, MonadAttach.CanReturn
          (Flags.hushing.effective <$> settingsFor Disk.terminal .hushing) (.ok o) ∧
        o.validate = .error .emptyIgnorePattern ∧
        ∀ source l clock r, Engine.standard.check source l o clock = .ok r →
          r.diagnostics = [] := by
  have hrun : MonadAttach.CanReturn
      (Flags.hushing.effective <$> settingsFor Disk.terminal .hushing)
      (.ok { ignorePatterns := [""] }) :=
    ⟨{}, {}, rfl⟩
  refine ⟨by decide +kernel, _, hrun, rfl, fun source l clock r hreport => ?_⟩
  exact Engine.diagnostics_eq_nil List.mem_cons_self hreport

end PageLint.Command
