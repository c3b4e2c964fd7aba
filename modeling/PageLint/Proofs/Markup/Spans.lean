import PageLint.Proofs.Engine.Exactness
import PageLint.Proofs.Markup.Scan

/-! # Spans in a document

Every diagnostic of a document, and every edit that it suggests, covers characters of the
document. -/

namespace PageLint.Markup

variable {source : Text}

theorem Issue.liesIn_report (i : Issue) {start stop : Nat} {edits : List Edit}
    (h : source.IsRange start stop) (hedits : ∀ e ∈ edits, e.LiesIn source) :
    (i.report start stop edits).LiesIn source :=
  .of_report rfl rfl rfl h hedits

/-! ## Attributes -/

theorem Attribute.IsOf.liesIn {n : Nat} {attrs back : Text} {a : Attribute} (h : a.IsOf n attrs)
    (hn : source.StandsAt n (attrs ++ back)) :
    source.IsRange a.start a.stop ∧ a.removal.LiesIn source := by
  obtain ⟨front, word, rest, rfl, hstart, hstop, hblanks⟩ := h.split
  have hword : source.StandsAt (n + front.size) (word ++ (rest ++ back)) := by
    rw [List.append_assoc, List.append_assoc] at hn
    exact hn.skip
  have hrange : source.IsRange a.start a.stop := by
    rw [hstart, hstop]
    exact hword.isRange
  refine ⟨hrange, ?_⟩
  obtain ⟨run, hrun⟩ := Text.exists_trimEnd_append front
  have htrimmed : source.StandsAt (n + front.trimEnd.size) (run ++ (word ++ (rest ++ back))) := by
    rw [hrun] at hn
    simp only [List.append_assoc] at hn
    exact hn.skip
  have hle := Text.size_trimEnd_le front
  have hsub : a.start - a.blanks = n + front.trimEnd.size := by omega
  have hcut : source.IsCut (a.start - a.blanks) := hsub ▸ htrimmed.isCut
  exact hcut.isRange hrange.stop_cut (Nat.le_trans (Nat.sub_le _ _) hrange.le)

theorem liesIn_attributeIssues {seen : List String} {attrs : List Attribute}
    (h : ∀ a ∈ attrs, source.IsRange a.start a.stop ∧ a.removal.LiesIn source) :
    ∀ d ∈ attributeIssues seen attrs, d.LiesIn source := by
  induction attrs generalizing seen with
  | nil => simp [attributeIssues]
  | cons a rest ih =>
      obtain ⟨hrange, hremoval⟩ := h a List.mem_cons_self
      have hreport : ∀ i : Issue, (i.report a.start a.stop [a.removal]).LiesIn source :=
        fun i => i.liesIn_report hrange (by simpa using hremoval)
      have hrest : ∀ seen, ∀ d ∈ attributeIssues seen rest, d.LiesIn source :=
        fun seen => ih fun b hb => h b (List.mem_cons_of_mem a hb)
      intro d hd
      rw [attributeIssues] at hd
      split at hd
      · rcases List.mem_cons.mp hd with rfl | hd
        · exact hreport _
        · exact hrest _ d hd
      · split at hd
        · rcases List.mem_cons.mp hd with rfl | hd
          · exact hreport _
          · exact hrest _ d hd
        · exact hrest _ d hd

/-! ## Tokens -/

/-- The bracket and the name of the opening tag are characters of the source. -/
def OpenElement.LiesIn (source : Text) (e : OpenElement) : Prop :=
  source.IsRange e.start (e.start + e.name.utf8ByteSize + 1)

theorem liesIn_placementIssues {stack : List OpenElement} {name : String} {start stop : Nat}
    (h : source.IsRange start stop) :
    ∀ d ∈ placementIssues stack name start stop, d.LiesIn source := by
  have hreport : ∀ i : Issue, (i.report start stop).LiesIn source :=
    fun i => i.liesIn_report h (by simp)
  intro d hd
  simp only [placementIssues] at hd
  rcases List.mem_append.mp hd with hd | hd
  · split at hd
    · split at hd
      · cases hd
      · obtain rfl := List.mem_singleton.mp hd
        exact hreport _
    · cases hd
  · split at hd
    · split at hd
      · obtain rfl := List.mem_singleton.mp hd
        exact hreport _
      · cases hd
    · cases hd

theorem liesIn_closingIssues {stack : List OpenElement} {name : String} {start stop : Nat}
    (h : source.IsRange start stop)
    (hname : source.IsRange (start + 2) (start + 2 + name.utf8ByteSize)) :
    ∀ d ∈ closingIssues stack name start stop, d.LiesIn source := by
  intro d hd
  unfold closingIssues at hd
  split at hd
  · obtain rfl := List.mem_singleton.mp hd
    exact Issue.liesIn_report _ h (by simpa [Edit.LiesIn, Edit.delete] using h)
  · split at hd
    · cases hd
    · obtain rfl := List.mem_singleton.mp hd
      exact Issue.liesIn_report _ h (by simpa [Edit.LiesIn] using hname)

theorem Token.liesIn_issues {stack : List OpenElement} {t : Token} (h : t.LiesIn source) :
    ∀ d ∈ t.issues source.size stack, d.LiesIn source := by
  cases t with
  | comment start stop => simp [issues]
  | openComment start =>
      intro d hd
      obtain rfl := List.mem_singleton.mp hd
      exact Issue.liesIn_report _ h (by simpa using Edit.liesIn_insert_end source _)
  | closing name start stop => exact liesIn_closingIssues h.1 h.2
  | opening name attrs selfClosing start stop =>
      obtain ⟨hrange, -, back, hattrs⟩ := h
      intro d hd
      rcases List.mem_append.mp hd with hd | hd
      · exact liesIn_attributeIssues
          (fun a ha => (isOf_of_mem_attributes ha).liesIn hattrs) d hd
      · split at hd
        · exact liesIn_placementIssues hrange d hd
        · cases hd

theorem Token.liesIn_push {stack : List OpenElement} {t : Token} (h : t.LiesIn source)
    (hstack : ∀ e ∈ stack, e.LiesIn source) : ∀ e ∈ t.push stack, e.LiesIn source := by
  cases t with
  | comment start stop => exact hstack
  | openComment start => exact hstack
  | closing name start stop => exact fun e he => hstack e (List.mem_of_mem_tail he)
  | opening name attrs selfClosing start stop =>
      intro e he
      simp only [push] at he
      split at he
      · rcases List.mem_cons.mp he with rfl | he
        · exact h.2.1
        · exact hstack e he
      · exact hstack e he

theorem liesIn_walk {tokens : List Token} {stack : List OpenElement}
    (h : ∀ t ∈ tokens, t.LiesIn source) (hstack : ∀ e ∈ stack, e.LiesIn source) :
    (∀ d ∈ (walk source.size stack tokens).1, d.LiesIn source) ∧
      ∀ e ∈ (walk source.size stack tokens).2, e.LiesIn source := by
  induction tokens generalizing stack with
  | nil => exact ⟨by simp [walk], hstack⟩
  | cons t rest ih =>
      have ht := h t List.mem_cons_self
      obtain ⟨hissues, hopen⟩ :=
        ih (fun u hu => h u (List.mem_cons_of_mem t hu)) (Token.liesIn_push ht hstack)
      refine ⟨fun d hd => ?_, hopen⟩
      rcases List.mem_append.mp hd with hd | hd
      · exact Token.liesIn_issues ht d hd
      · exact hissues d hd

/-! ## Documents -/

theorem liesIn_unclosedIssues {stack : List OpenElement} (h : ∀ e ∈ stack, e.LiesIn source) :
    ∀ d ∈ unclosedIssues source.size stack, d.LiesIn source := by
  induction stack with
  | nil => simp [unclosedIssues]
  | cons e rest ih =>
      intro d hd
      rcases List.mem_cons.mp hd with rfl | hd
      · exact Issue.liesIn_report _ (h e List.mem_cons_self)
          (by simpa using Edit.liesIn_insert_end source _)
      · exact ih (fun f hf => h f (List.mem_cons_of_mem e hf)) d hd

theorem liesIn_shapeIssues (names : List String) :
    ∀ d ∈ shapeIssues names, d.LiesIn source := by
  have hzero : source.IsRange 0 0 :=
    (Text.isCut_zero source).isRange (Text.isCut_zero source) (Nat.le_refl 0)
  intro d hd
  unfold shapeIssues at hd
  split at hd
  · obtain rfl := List.mem_singleton.mp hd
    exact Issue.liesIn_report _ hzero (by simp)
  · obtain ⟨name, -, rfl⟩ := List.mem_map.mp hd
    exact Issue.liesIn_report _ hzero (by simp)

theorem liesIn_issues (source : Text) (fragment : Bool) :
    ∀ d ∈ issues source fragment (tokens source), d.LiesIn source := by
  have hnone : ∀ e ∈ ([] : List OpenElement), e.LiesIn source := by simp
  obtain ⟨hissues, hopen⟩ := liesIn_walk (scans_tokens source).2 hnone
  intro d hd
  rcases List.mem_append.mp hd with hd | hd
  · rcases List.mem_append.mp hd with hd | hd
    · exact hissues d hd
    · exact liesIn_unclosedIssues hopen d hd
  · split at hd
    · cases hd
    · exact liesIn_shapeIssues _ d hd

end PageLint.Markup
