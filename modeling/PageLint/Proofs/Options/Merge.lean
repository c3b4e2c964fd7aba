import PageLint.Proofs.Json.RoundTrip

/-! # Options from several sources

Options are merged one after the other, the later ones on top. It makes no difference which of them
are merged first, and the defaults change nothing. So a rule is off if any of the sources turns it
off, and it has the severity that the last of those gives it that give it one. -/

namespace PageLint

namespace Overrides

variable {o other : Overrides} {rule : String}

/-! ## Severities of rules -/

theorem find?_cons (entry : String × Severity) (o : Overrides) (rule : String) :
    find? (entry :: o) rule = if rule = entry.1 then some entry.2 else o.find? rule := by
  rw [find?, List.lookup_cons]
  by_cases h : rule = entry.1
  · rw [if_pos h, beq_iff_eq.mpr h]
  · rw [if_neg h, beq_eq_false_iff_ne.mpr h]
    rfl

theorem find?_append (o other : Overrides) (rule : String) :
    find? (o ++ other) rule = (o.find? rule).or (other.find? rule) := List.lookup_append

theorem find?_filter (p : String → Bool) (o : Overrides) (rule : String) :
    find? (o.filter (p ·.1)) rule = if p rule then o.find? rule else none := by
  induction o with
  | nil => simp [find?]
  | cons entry o ih =>
      rw [List.filter_cons, find?_cons]
      by_cases heq : rule = entry.1
      · subst heq
        cases hp : p entry.1
        · simpa [hp] using ih
        · simp [find?_cons]
      · cases p entry.1
        · simpa [heq] using ih
        · simpa [find?_cons, heq] using ih

theorem find?_eq_none (h : rule ∉ o.map (·.1)) : o.find? rule = none := by
  induction o with
  | nil => rfl
  | cons entry o ih =>
      rw [List.map_cons, List.mem_cons, not_or] at h
      rw [find?_cons, if_neg h.1, ih h.2]

/-! ## Updates -/

/-- What is left of some severities where others are put over them. -/
def outside (o other : Overrides) : Overrides := o.filter fun e => (other.find? e.1).isNone

theorem find?_outside (o other : Overrides) (rule : String) :
    (o.outside other).find? rule = if (other.find? rule).isNone then o.find? rule else none :=
  find?_filter (fun rule => (other.find? rule).isNone) o rule

theorem update_cons (o : Overrides) (entry : String × Severity) (other : Overrides) :
    o.update (entry :: other) = (o.insert entry.1 entry.2).update other := rfl

/-- The severities that are put over others stand behind what is left of those. -/
theorem update_eq (h : other.IsMap) : o.update other = o.outside other ++ other := by
  induction other generalizing o with
  | nil =>
      have hall : o.outside [] = o := List.filter_eq_self.mpr fun _ _ => rfl
      rw [hall, List.append_nil]
      rfl
  | cons entry other ih =>
      obtain ⟨hfresh, hrest⟩ := List.nodup_cons.mp h
      have hnone := find?_eq_none hfresh
      have hkept : outside (o.filter (·.1 != entry.1)) other = o.outside (entry :: other) := by
        rw [outside, List.filter_filter]
        refine List.filter_congr fun e _ => ?_
        rw [find?_cons]
        by_cases heq : e.1 = entry.1 <;> simp [heq]
      have hlast : outside [(entry.1, entry.2)] other = [entry] := by simp [outside, hnone]
      rw [update_cons, ih hrest, insert, outside, List.filter_append]
      change outside (o.filter (·.1 != entry.1)) other ++ outside [(entry.1, entry.2)] other ++
        other = _
      rw [hkept, hlast, List.append_assoc, List.singleton_append]

theorem isMap_update (h : o.IsMap) (other : Overrides) : (o.update other).IsMap := by
  induction other generalizing o with
  | nil => exact h
  | cons entry other ih => exact ih (isMap_insert h entry.1 entry.2)

/-- A severity that is put over others wins. -/
theorem find?_update (h : other.IsMap) (o : Overrides) (rule : String) :
    (o.update other).find? rule = (other.find? rule).or (o.find? rule) := by
  rw [update_eq h, find?_append, find?_outside]
  cases other.find? rule <;> simp

theorem update_assoc {a b c : Overrides} (hb : b.IsMap) (hc : c.IsMap) :
    (a.update b).update c = a.update (b.update c) := by
  have hkept : (a.outside b).outside c = a.outside (b.update c) := by
    rw [outside, outside, List.filter_filter]
    refine List.filter_congr fun e _ => ?_
    rw [find?_update hc]
    cases c.find? e.1 <;> simp
  have happend : (a.outside b ++ b).outside c = (a.outside b).outside c ++ b.outside c :=
    List.filter_append _ _
  calc
    (a.update b).update c = (a.outside b ++ b).outside c ++ c := by rw [update_eq hc, update_eq hb]
    _ = a.outside (b.update c) ++ (b.outside c ++ c) := by
      rw [happend, hkept, List.append_assoc]
    _ = a.update (b.update c) := by rw [← update_eq hc, ← update_eq (isMap_update hb c)]

theorem nil_update (h : o.IsMap) : update [] o = o := by
  rw [update_eq h]
  rfl

end Overrides

namespace Options

/-! ## Two sources -/

theorem merge_assoc {a b c : Options} (hb : b.rules.severity.IsMap)
    (hc : c.rules.severity.IsMap) : (a.merge b).merge c = a.merge (b.merge c) := by
  have hlevel : (if c.severityLevel = .all then
      (if b.severityLevel = .all then a.severityLevel else b.severityLevel) else c.severityLevel) =
      if (if c.severityLevel = .all then b.severityLevel else c.severityLevel) = .all then
        a.severityLevel else if c.severityLevel = .all then b.severityLevel else c.severityLevel := by
    by_cases h : c.severityLevel = .all <;> simp [h]
  have hseverity := Overrides.update_assoc (a := a.rules.severity) hb hc
  simp only [merge, hlevel, hseverity, List.append_assoc, Bool.or_assoc, Bool.and_assoc,
    Option.orElse_eq_orElse, Option.orElse_eq_or, Option.or_assoc]

theorem merge_default (o : Options) : o.merge {} = o := by
  simp [merge, Overrides.update]

theorem default_merge {o : Options} (h : o.rules.severity.IsMap) : ({} : Options).merge o = o := by
  have hlevel : (if o.severityLevel = .all then Level.all else o.severityLevel) =
      o.severityLevel := by
    split
    · rename_i hall
      exact hall.symm
    · rfl
  simp [merge, hlevel, Overrides.nil_update h]

theorem isEnabled_merge (o other : Options) (rule : String) :
    (o.merge other).isEnabled rule = (o.isEnabled rule && other.isEnabled rule) := by
  simp [isEnabled, merge]

theorem severityOf?_merge (o : Options) {other : Options} (h : other.rules.severity.IsMap)
    (rule : String) :
    (o.merge other).severityOf? rule = (other.severityOf? rule).or (o.severityOf? rule) :=
  Overrides.find?_update h o.rules.severity rule

/-! ## Any number of sources -/

theorem isEnabled_foldl_merge (first : Options) (rest : List Options) (rule : String) :
    (rest.foldl merge first).isEnabled rule = (first :: rest).all (·.isEnabled rule) := by
  induction rest generalizing first with
  | nil => simp
  | cons o rest ih =>
      rw [List.foldl_cons, ih, List.all_cons, isEnabled_merge, Bool.and_assoc, List.all_cons,
        List.all_cons]

theorem severityOf?_foldl_merge (first : Options) {rest : List Options}
    (h : ∀ o ∈ rest, o.rules.severity.IsMap) (rule : String) :
    (rest.foldl merge first).severityOf? rule =
      ((first :: rest).filterMap (·.severityOf? rule)).getLast? := by
  induction rest generalizing first with
  | nil => cases hfirst : first.severityOf? rule <;> simp [hfirst]
  | cons o rest ih =>
      obtain ⟨ho, hrest⟩ := List.forall_mem_cons.mp h
      rw [List.foldl_cons, ih _ hrest, List.filterMap_cons, severityOf?_merge first ho rule,
        List.filterMap_cons, List.filterMap_cons]
      cases o.severityOf? rule with
      | none => rfl
      | some severity =>
          cases first.severityOf? rule with
          | none => rfl
          | some earlier => exact List.getLast?_cons_cons.symm

/-- Options with merging and the defaults are a monoid. Of any number of them that are merged, a rule
is off if one turns it off, and its severity is the last one that is given. -/
theorem merge_monoid :
    (∀ a b : Options, a.rules.severity.IsMap → (a.merge b).rules.severity.IsMap) ∧
    (∀ a b c : Options, b.rules.severity.IsMap → c.rules.severity.IsMap →
      (a.merge b).merge c = a.merge (b.merge c)) ∧
    (∀ a : Options, a.merge {} = a) ∧
    (∀ a : Options, a.rules.severity.IsMap → ({} : Options).merge a = a) ∧
    ∀ (first : Options) (rest : List Options), (∀ o ∈ rest, o.rules.severity.IsMap) →
      ∀ rule : String,
        ((rest.foldl merge first).isEnabled rule = false ↔
          ∃ o ∈ first :: rest, rule ∈ o.rules.disabled) ∧
        (rest.foldl merge first).severityOf? rule =
          ((first :: rest).filterMap (·.severityOf? rule)).getLast? := by
  refine ⟨fun a b h => Overrides.isMap_update h b.rules.severity, fun a b c => merge_assoc,
    merge_default, fun a => default_merge, fun first rest h rule => ⟨?_, ?_⟩⟩
  · rw [isEnabled_foldl_merge, List.all_eq_false]
    simp [isEnabled]
  · exact severityOf?_foldl_merge first h rule

/-- Three sources that do not agree on the severity of a rule. -/
def disagreeing : List Options :=
  [{ maxErrors := some 5, rules := { severity := [("eqeqeq", .error), ("no-undef", .warning)] } },
    { severityLevel := .warning, rules := { disabled := ["eqeqeq"] } },
    { rules := { severity := [("eqeqeq", .suggestion)] } }]

theorem merge_monoid_disagreeing :
    (∀ o ∈ disagreeing, o.rules.severity.IsMap) ∧
      ((disagreeing.foldl merge {}).isEnabled "eqeqeq" = false ↔
        ∃ o ∈ {} :: disagreeing, "eqeqeq" ∈ o.rules.disabled) ∧
      (disagreeing.foldl merge {}).severityOf? "eqeqeq" = some .suggestion := by
  have hmaps : ∀ o ∈ disagreeing, o.rules.severity.IsMap := by decide
  obtain ⟨hoff, hseverity⟩ := merge_monoid.2.2.2.2 {} disagreeing hmaps "eqeqeq"
  exact ⟨hmaps, hoff, hseverity.trans rfl⟩

end Options

end PageLint
