import PageLint.Json.Codec

/-! # Values written as JSON and read back

Members that hold nothing are left out where they are written, and a member that is not there is
read as nothing. So what is written is read back as it was. JSON from elsewhere may name the members
that hold nothing, leave others out or give a structure as an array; it is read as a value that is
read back all the same. -/

namespace PageLint

/-- A rule stands in the list once, as it does in a map. -/
def Overrides.IsMap (o : Overrides) : Prop := (o.map (·.1)).Nodup

instance (o : Overrides) : Decidable o.IsMap := inferInstanceAs (Decidable (List.Nodup _))

/-- Setting a severity keeps the rules apart. -/
theorem Overrides.isMap_insert {o : Overrides} (h : o.IsMap) (rule : String)
    (severity : Severity) : (o.insert rule severity).IsMap := by
  have hothers : ((o.filter (·.1 != rule)).map (·.1)).Nodup :=
    h.sublist (List.filter_sublist.map _)
  have hfresh : rule ∉ (o.filter (·.1 != rule)).map (·.1) := by
    intro hmem
    obtain ⟨entry, hentry, hrule⟩ := List.mem_map.mp hmem
    have hne := (List.mem_filter.mp hentry).2
    simp [hrule] at hne
  rw [IsMap, insert, List.map_append, List.map_singleton, List.nodup_append]
  refine ⟨hothers, by simp, ?_⟩
  intro a ha b hb
  obtain rfl := List.mem_singleton.mp hb
  exact fun heq => hfresh (heq ▸ ha)

/-- A rule that has no severity yet comes last. -/
theorem Overrides.insert_of_fresh {o : Overrides} {rule : String}
    (h : rule ∉ o.map (·.1)) (severity : Severity) :
    o.insert rule severity = o ++ [(rule, severity)] := by
  have hkept : o.filter (·.1 != rule) = o := by
    rw [List.filter_eq_self]
    intro entry hentry
    have hne : entry.1 ≠ rule := fun heq => h (List.mem_map.mpr ⟨entry, hentry, heq⟩)
    simpa using hne
  rw [insert, hkept]

namespace Json

/-! ## Simple values -/

section

variable {α β : Type} {write : α → Json} {read? : Json → Option α}

theorem toNat?_nat (n : Nat) : toNat? (nat n) = some n := rfl

theorem toString?_str (s : String) : toString? (.str s) = some s := rfl

theorem toText?_ofText (t : Text) : toText? (ofText t) = some t := by
  simp [toText?, ofText, toString?]

theorem toChoice?_severity (s : Severity) : toChoice? Severity.ofName? (.str s.name) = some s := by
  cases s <;> rfl

theorem toChoice?_category (c : Category) : toChoice? Category.ofName? (.str c.name) = some c := by
  cases c <;> rfl

theorem toChoice?_level (l : Level) : toChoice? Level.ofName? (.str l.name) = some l := by
  cases l <;> rfl

theorem toList?_map {as : List α} (h : ∀ a ∈ as, read? (write a) = some a) :
    toList? read? (.arr (as.map write)) = some as := by
  rw [toList?]
  induction as with
  | nil => rfl
  | cons a as ih =>
      have ⟨hhead, htail⟩ := List.forall_mem_cons.mp h
      rw [List.map_cons, List.mapM_cons, hhead, ih htail]
      rfl

/-- A value that is not written as null is not read as nothing. -/
theorem toOption?_some {v : Json} {a : α} (hv : v ≠ .null) (h : read? v = some a) :
    toOption? read? v = some (some a) := by
  cases v with
  | null => exact absurd rfl hv
  | _ => simp [toOption?, h]

theorem toOption?_ofOption (hnull : ∀ a, write a ≠ .null) (h : ∀ a, read? (write a) = some a)
    (o : Option α) : toOption? read? (ofOption write o) = some o := by
  cases o with
  | none => rfl
  | some a => exact toOption?_some (hnull a) (h a)

/-! ## Members -/

theorem member?_nil (name : String) : member? [] name = none := rfl

theorem member?_append (front back : List (String × Json)) (name : String) :
    member? (front ++ back) name = (member? back name).or (member? front name) := by
  simp only [member?, List.reverse_append, List.find?_append, Option.map_or]

theorem member?_cons (entry : String × Json) (rest : List (String × Json)) (name : String) :
    member? (entry :: rest) name =
      (member? rest name).or (if entry.1 = name then some entry.2 else none) := by
  rw [← List.singleton_append, member?_append]
  congr 1
  by_cases h : entry.1 = name <;> simp [member?, h]

theorem member?_optional (key : String) (f : β → Json) (o : Option β) (name : String) :
    member? (optional key f o) name = if key = name then o.map f else none := by
  cases o with
  | none => simp [optional, member?_nil]
  | some b => by_cases h : key = name <;> simp [optional, member?_cons, member?_nil, h]

theorem member?_ite (p : Prop) [Decidable p] (a b : List (String × Json)) (name : String) :
    member? (if p then a else b) name = if p then member? a name else member? b name := by
  split <;> rfl

namespace Fields

variable {members : List (String × Json)} {place : Nat} {name : String}

theorem required?_named {v : Json} {a : α} (hmember : member? members name = some v)
    (h : read? v = some a) : (named members).required? place name read? = some a := by
  rw [required?, get?, hmember, Option.bind_some, h]

theorem withDefault?_named {v : Json} {default a : α} (hmember : member? members name = some v)
    (h : read? v = some a) : (named members).withDefault? place name default read? = some a := by
  rw [withDefault?, get?, hmember]
  exact h

theorem withDefault?_absent {default : α} (hmember : member? members name = none) :
    (named members).withDefault? place name default read? = some default := by
  rw [withDefault?, get?, hmember]

/-- A member that is there only with a value is read as the value or as nothing. -/
theorem withDefault?_optional {o : Option α} (hmember : member? members name = o.map write)
    (hnull : ∀ a, write a ≠ .null) (h : ∀ a, read? (write a) = some a) :
    (named members).withDefault? place name none (toOption? read?) = some o := by
  cases o with
  | none => exact withDefault?_absent hmember
  | some a => exact withDefault?_named hmember (toOption?_some (hnull a) (h a))

end Fields

end

/-! ## Diagnostics -/

theorem toEdit?_ofEdit (e : Edit) : toEdit? (ofEdit e) = some e := by
  simp [toEdit?, ofEdit, fields?, Fields.required?, Fields.get?, member?_cons, member?_nil,
    toText?_ofText, nat, toNat?]

theorem toFix?_ofFix (f : Fix) : toFix? (ofFix f) = some f := by
  simp [toFix?, ofFix, fields?, Fields.required?, Fields.get?, member?_cons, member?_nil,
    toEdit?_ofEdit, toString?]

/-- Each member is there under its name, whichever of the others are left out. -/
theorem member?_diagnosticMembers (d : Diagnostic) :
    member? (diagnosticMembers d) "message" = some (.str d.message) ∧
      member? (diagnosticMembers d) "severity" = some (.str d.severity.name) ∧
      member? (diagnosticMembers d) "category" = d.category.map (fun c => .str c.name) ∧
      member? (diagnosticMembers d) "from" = some (nat d.start) ∧
      member? (diagnosticMembers d) "to" = some (nat d.stop) ∧
      member? (diagnosticMembers d) "line" = some (nat d.line) ∧
      member? (diagnosticMembers d) "column" = d.column.map nat ∧
      member? (diagnosticMembers d) "ruleId" = d.rule.map .str ∧
      member? (diagnosticMembers d) "fixes" =
        (if d.fixes.isEmpty then none else some (.arr (d.fixes.map ofFix))) ∧
      member? (diagnosticMembers d) "context" = d.context.map ofText := by
  simp [diagnosticMembers, member?_append, member?_cons, member?_nil, member?_optional,
    member?_ite]

theorem toDiagnostic?_ofDiagnostic (d : Diagnostic) : toDiagnostic? (ofDiagnostic d) = some d := by
  obtain ⟨hmessage, hseverity, hcategory, hfrom, hto, hline, hcolumn, hrule, hfixes, hcontext⟩ :=
    member?_diagnosticMembers d
  have hlist : (Fields.named (diagnosticMembers d)).withDefault? 8 "fixes" [] (toList? toFix?) =
      some d.fixes := by
    cases hempty : d.fixes with
    | nil =>
        rw [hempty] at hfixes
        exact Fields.withDefault?_absent hfixes
    | cons f fs =>
        rw [hempty] at hfixes
        exact Fields.withDefault?_named hfixes (toList?_map fun f _ => toFix?_ofFix f)
  rw [ofDiagnostic, toDiagnostic?, fields?]
  simp only [bind, Option.bind_some, Fields.required?_named hmessage (toString?_str _),
    Fields.required?_named hseverity (toChoice?_severity _),
    Fields.withDefault?_optional hcategory (by simp) toChoice?_category,
    Fields.required?_named hfrom (toNat?_nat _), Fields.required?_named hto (toNat?_nat _),
    Fields.required?_named hline (toNat?_nat _),
    Fields.withDefault?_optional hcolumn (by simp [nat]) toNat?_nat,
    Fields.withDefault?_optional hrule (by simp) toString?_str, hlist,
    Fields.withDefault?_optional hcontext (by simp [ofText]) toText?_ofText]
  rfl

/-! ## Reports -/

theorem toTally?_ofTally (t : Tally) : toTally? (ofTally t) = some t := by
  simp [toTally?, ofTally, fields?, Fields.required?, Fields.get?, member?_cons, member?_nil,
    toNat?_nat]

theorem toReport?_ofReport (r : Report) : toReport? (ofReport r) = some r := by
  obtain ⟨diagnostics, tally, interrupted⟩ := r
  have hlist : toList? toDiagnostic? (.arr (diagnostics.map ofDiagnostic)) = some diagnostics :=
    toList?_map fun d _ => toDiagnostic?_ofDiagnostic d
  cases interrupted <;>
    simp [toReport?, ofReport, fields?, Fields.required?, Fields.withDefault?, Fields.get?,
      member?_cons, member?_nil, hlist, toTally?_ofTally, toBool?]

/-! ## Options -/

/-- The overrides of rules that are read behind others. -/
theorem foldlM_ofOverrides (o rest : Overrides) (h : Overrides.IsMap (o ++ rest)) :
    (rest.map fun (rule, s) => (rule, Json.str s.name)).foldlM (fun (o : Overrides) (rule, v) => do
      let s ← toChoice? Severity.ofName? v
      return o.insert rule s) o = some (o ++ rest) := by
  induction rest generalizing o with
  | nil => rw [List.append_nil]; rfl
  | cons entry rest ih =>
      obtain ⟨rule, s⟩ := entry
      have hfresh : rule ∉ o.map (·.1) := by
        intro hmem
        rw [Overrides.IsMap, List.map_append, List.nodup_append] at h
        exact h.2.2 rule hmem rule (by simp) rfl
      have hsplit : o ++ (rule, s) :: rest = (o ++ [(rule, s)]) ++ rest := by simp
      rw [hsplit] at h ⊢
      rw [List.map_cons, List.foldlM_cons]
      simp only [toChoice?_severity, Option.bind_eq_bind, Option.bind_some, pure,
        Overrides.insert_of_fresh hfresh]
      exact ih _ h

theorem toOverrides?_ofOverrides {o : Overrides} (h : o.IsMap) :
    toOverrides? (ofOverrides o) = some o := by
  have hfold := foldlM_ofOverrides [] o h
  rw [List.nil_append] at hfold
  exact hfold

theorem isMap_of_toOverrides? {v : Json} {o : Overrides} (h : toOverrides? v = some o) :
    o.IsMap := by
  cases v with
  | obj members =>
      -- by the members; what is read in front of them is a map
      have hstart : Overrides.IsMap [] := List.nodup_nil
      rw [toOverrides?] at h
      generalize ([] : Overrides) = front at h hstart
      induction members generalizing front with
      | nil =>
          obtain rfl := Option.some.inj h
          exact hstart
      | cons entry members ih =>
          rw [List.foldlM_cons] at h
          obtain ⟨next, hnext, hrest⟩ := Option.bind_eq_some_iff.mp h
          obtain ⟨s, -, hs⟩ := Option.bind_eq_some_iff.mp hnext
          obtain rfl := Option.some.inj hs
          exact ih _ hrest (Overrides.isMap_insert hstart _ _)
  | _ => cases h

theorem toList?_str (names : List String) : toList? toString? (.arr (names.map .str)) = some names :=
  toList?_map fun s _ => toString?_str s

theorem toRuleSettings?_ofRuleSettings {r : RuleSettings} (h : r.severity.IsMap) :
    toRuleSettings? (ofRuleSettings r) = some r := by
  simp [toRuleSettings?, ofRuleSettings, fields?, Fields.withDefault?, Fields.get?, member?_cons,
    member?_nil, toList?_str, toOverrides?_ofOverrides h]

theorem isMap_of_toRuleSettings? {v : Json} {r : RuleSettings} (h : toRuleSettings? v = some r) :
    r.severity.IsMap := by
  obtain ⟨fs, -, h⟩ := Option.bind_eq_some_iff.mp h
  obtain ⟨disabled, -, h⟩ := Option.bind_eq_some_iff.mp h
  obtain ⟨severity, hseverity, h⟩ := Option.bind_eq_some_iff.mp h
  obtain rfl := Option.some.inj h
  unfold Fields.withDefault? at hseverity
  split at hseverity
  · obtain rfl := Option.some.inj hseverity
    exact List.nodup_nil
  · exact isMap_of_toOverrides? hseverity

theorem toScriptSettings?_ofScriptSettings (s : ScriptSettings) :
    toScriptSettings? (ofScriptSettings s) = some s := by
  simp [toScriptSettings?, ofScriptSettings, fields?, Fields.withDefault?, Fields.get?,
    member?_cons, member?_nil, toBool?]

theorem toOptions?_ofOptions {o : Options} (h : o.rules.severity.IsMap) :
    toOptions? (ofOptions o) = some o := by
  have hnumber : ∀ n : Option Nat, toOption? toNat? (ofOption nat n) = some n :=
    toOption?_ofOption (by simp [nat]) toNat?_nat
  simp [toOptions?, ofOptions, fields?, Fields.withDefault?, Fields.get?, member?_cons,
    member?_nil, toList?_str, toChoice?_level, hnumber, toBool?, toRuleSettings?_ofRuleSettings h,
    toScriptSettings?_ofScriptSettings]

theorem isMap_of_toOptions? {v : Json} {o : Options} (h : toOptions? v = some o) :
    o.rules.severity.IsMap := by
  obtain ⟨fs, -, h⟩ := Option.bind_eq_some_iff.mp h
  obtain ⟨ignorePatterns, -, h⟩ := Option.bind_eq_some_iff.mp h
  obtain ⟨severityLevel, -, h⟩ := Option.bind_eq_some_iff.mp h
  obtain ⟨maxErrors, -, h⟩ := Option.bind_eq_some_iff.mp h
  obtain ⟨timeout, -, h⟩ := Option.bind_eq_some_iff.mp h
  obtain ⟨allowPartial, -, h⟩ := Option.bind_eq_some_iff.mp h
  obtain ⟨rules, hrules, h⟩ := Option.bind_eq_some_iff.mp h
  obtain ⟨script, -, h⟩ := Option.bind_eq_some_iff.mp h
  obtain rfl := Option.some.inj h
  unfold Fields.withDefault? at hrules
  split at hrules
  · obtain rfl := Option.some.inj hrules
    exact List.nodup_nil
  · exact isMap_of_toRuleSettings? hrules

/-! ## Reading back -/

/-- Values of a kind are written so that they are read back, and so are all values that can be
read. -/
structure IsCodec {α : Type} (isValue : α → Prop) (write : α → Json) (read? : Json → Option α) :
    Prop where
  back : ∀ a, isValue a → read? (write a) = some a
  again : ∀ v a, read? v = some a → read? (write a) = some a

theorem IsCodec.of_total {α : Type} {write : α → Json} {read? : Json → Option α}
    (h : ∀ a, read? (write a) = some a) : IsCodec (fun _ => True) write read? :=
  ⟨fun a _ => h a, fun _ a _ => h a⟩

/-- Diagnostics, reports and options are read back as they were written, and what is read from any
JSON is read again once it is written. -/
theorem isCodec_standard :
    IsCodec (fun _ => True) ofDiagnostic toDiagnostic? ∧
      IsCodec (fun _ => True) ofReport toReport? ∧
      IsCodec (·.rules.severity.IsMap) ofOptions toOptions? :=
  ⟨.of_total toDiagnostic?_ofDiagnostic, .of_total toReport?_ofReport,
    fun _ => toOptions?_ofOptions, fun _ _ h => toOptions?_ofOptions (isMap_of_toOptions? h)⟩

/-- Options with the severities of two rules. -/
def severeOptions : Options where
  timeout := some 250
  rules :=
    { disabled := ["eqeqeq"], severity := [("no-undef", .warning), ("no-debugger", .error)] }

/-- A diagnostic as an array that names a category without a value and ends behind the line. -/
def placedDiagnostic : Json :=
  .arr [.str "Unclosed block", .obj [("error", .null)], .null, nat 3, nat 5, nat 1]

theorem isCodec_standard_severeOptions :
    (severeOptions.rules.severity.IsMap ∧
      toOptions? (ofOptions severeOptions) = some severeOptions) ∧
    (toDiagnostic? placedDiagnostic =
        some { message := "Unclosed block", severity := .error, start := 3, stop := 5 } ∧
      toDiagnostic? (ofDiagnostic
        { message := "Unclosed block", severity := .error, start := 3, stop := 5 }) =
          some { message := "Unclosed block", severity := .error, start := 3, stop := 5 }) :=
  ⟨⟨by decide, isCodec_standard.2.2.back severeOptions (by decide)⟩,
    ⟨rfl, isCodec_standard.1.again placedDiagnostic _ rfl⟩⟩

end Json

end PageLint
