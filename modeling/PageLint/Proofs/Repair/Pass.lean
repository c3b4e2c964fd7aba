import PageLint.Proofs.Repair.Order
import PageLint.Proofs.Text.Offsets

/-! # Applying edits

One pass over the edits in their order accepts each edit that holds characters of the source and
starts behind all that is accepted already. The output is the source with the accepted ranges
replaced: its untouched pieces and the texts of the edits, in order. -/

namespace PageLint.Repair

/-! ## The pass -/

/-- `e` is a range of the source, and none of the edits in `kept` ends behind its start. -/
structure Applicable (source : Text) (kept : List Edit) (e : Edit) : Prop where
  range : source.IsRange e.start e.stop
  clear : ∀ k ∈ kept, k.stop ≤ e.start

/-- A pass over edits accepts those that are applicable behind the ones accepted before, and skips
all others. The rules do not mention what a pass remembers. -/
inductive Pass (source : Text) : List Edit → List Edit → Prop where
  | nil : Pass source [] []
  | accept {seen kept e} : Pass source seen kept → Applicable source kept e →
      Pass source (seen ++ [e]) (kept ++ [e])
  | skip {seen kept e} : Pass source seen kept → ¬ Applicable source kept e →
      Pass source (seen ++ [e]) kept

namespace Pass

variable {source : Text} {seen kept : List Edit}

theorem sublist (h : Pass source seen kept) : kept.Sublist seen := by
  induction h with
  | nil => exact List.Sublist.refl []
  | accept _ _ ih => exact ih.append (List.Sublist.refl _)
  | skip _ _ ih => exact ih.trans (List.sublist_append_left _ _)

theorem isRange (h : Pass source seen kept) : ∀ e ∈ kept, source.IsRange e.start e.stop := by
  induction h with
  | nil => simp
  | accept _ happ ih =>
      intro e he
      rcases List.mem_append.mp he with he | he
      · exact ih e he
      · obtain rfl := List.mem_singleton.mp he
        exact happ.range
  | skip _ _ ih => exact ih

theorem disjoint (h : Pass source seen kept) : kept.Pairwise fun a b => a.stop ≤ b.start := by
  induction h with
  | nil => exact .nil
  | accept _ happ ih =>
      refine List.pairwise_append.mpr ⟨ih, by simp, ?_⟩
      intro a ha b hb
      obtain rfl := List.mem_singleton.mp hb
      exact happ.clear a ha
  | skip _ _ ih => exact ih

end Pass

/-! ## The cover of the accepted edits -/

theorem fits_iff {source : Text} {e : Edit} :
    fits source e = true ↔ source.IsRange e.start e.stop := by
  simp only [fits, Bool.and_eq_true, decide_eq_true_eq, Text.isBoundary_iff_isCut]
  constructor
  · rintro ⟨⟨⟨hle, hsize⟩, hstart⟩, hstop⟩
    exact ⟨hle, hsize, hstart, hstop⟩
  · rintro ⟨hle, hsize, hstart, hstop⟩
    exact ⟨⟨⟨hle, hsize⟩, hstart⟩, hstop⟩

/-- `c` remembers the last of the accepted edits and the greatest of their ends. -/
structure Cover.Tracks (c : Cover) (kept : List Edit) : Prop where
  last_eq : c.last = kept.getLast?
  stop_le : ∀ k ∈ kept, k.stop ≤ c.stop
  stop_mem : c.stop = 0 ∨ ∃ k ∈ kept, k.stop = c.stop
  oriented : ∀ k ∈ kept, k.start ≤ k.stop

namespace Cover.Tracks

variable {c : Cover} {kept : List Edit}

theorem empty : Cover.Tracks {} [] := ⟨rfl, by simp, .inl rfl, by simp⟩

theorem add (h : c.Tracks kept) {e : Edit} (he : e.start ≤ e.stop) :
    (c.add e).Tracks (kept ++ [e]) where
  last_eq := by simp [Cover.add]
  stop_le := by
    intro k hk
    rcases List.mem_append.mp hk with hk | hk
    · exact Nat.le_trans (h.stop_le k hk) (Nat.le_max_left _ _)
    · obtain rfl := List.mem_singleton.mp hk
      exact Nat.le_max_right _ _
  stop_mem := by
    by_cases hle : c.stop ≤ e.stop
    · exact .inr ⟨e, by simp, (Nat.max_eq_right hle).symm⟩
    · rcases h.stop_mem with hzero | ⟨k, hk, hstop⟩
      · omega
      · refine .inr ⟨k, List.mem_append_left [e] hk, ?_⟩
        rw [hstop]
        exact (Nat.max_eq_left (by omega)).symm
  oriented := by
    intro k hk
    rcases List.mem_append.mp hk with hk | hk
    · exact h.oriented k hk
    · obtain rfl := List.mem_singleton.mp hk
      exact he

/-- The test against the last edit adds nothing: a replacement that starts where `e` does ends
behind the start of `e`. -/
theorem collides_iff (h : c.Tracks kept) (e : Edit) :
    c.collides e = true ↔ ∃ k ∈ kept, e.start < k.stop := by
  unfold Cover.collides
  rw [h.last_eq]
  cases hlast : kept.getLast? with
  | none =>
      obtain rfl := List.getLast?_eq_none_iff.mp hlast
      simp
  | some prev =>
      have hprev : prev ∈ kept := List.mem_of_getLast? hlast
      simp only [Bool.or_eq_true, decide_eq_true_eq, Bool.and_eq_true, beq_iff_eq, bne_iff_ne]
      constructor
      · rintro (hlt | ⟨hstart, hne⟩)
        · rcases h.stop_mem with hzero | ⟨k, hk, hstop⟩
          · omega
          · exact ⟨k, hk, by omega⟩
        · have hle := h.oriented prev hprev
          exact ⟨prev, hprev, by omega⟩
      · rintro ⟨k, hk, hlt⟩
        have hle := h.stop_le k hk
        exact .inl (by omega)

theorem applicable_iff (h : c.Tracks kept) {source : Text} {e : Edit} :
    (fits source e && !c.collides e) = true ↔ Applicable source kept e := by
  rw [Bool.and_eq_true, Bool.not_eq_true', fits_iff, ← Bool.not_eq_true, h.collides_iff]
  constructor
  · rintro ⟨hrange, hclear⟩
    exact ⟨hrange, fun k hk => Nat.le_of_not_lt fun hlt => hclear ⟨k, hk, hlt⟩⟩
  · rintro ⟨hrange, hclear⟩
    refine ⟨hrange, ?_⟩
    rintro ⟨k, hk, hlt⟩
    exact Nat.not_lt.mpr (hclear k hk) hlt

end Cover.Tracks

/-- From any state of the pass, the edits to come are taken by its rules. -/
theorem pass_accepted_append {source : Text} {c : Cover} {seen kept : List Edit}
    (hpass : Pass source seen kept) (hc : c.Tracks kept) (edits : List Edit) :
    Pass source (seen ++ edits) (kept ++ accepted source c edits) := by
  induction edits generalizing c seen kept with
  | nil => simpa [accepted] using hpass
  | cons e rest ih =>
      have hsplit : seen ++ e :: rest = seen ++ [e] ++ rest := by simp
      rw [hsplit, accepted]
      by_cases happ : (fits source e && !c.collides e) = true
      · have hrule := hc.applicable_iff.mp happ
        have hnext := ih (hpass.accept hrule) (hc.add hrule.range.le)
        rw [happ]
        simpa using hnext
      · have hrule : ¬ Applicable source kept e := fun h => happ (hc.applicable_iff.mpr h)
        have hnext := ih (hpass.skip hrule) hc
        simpa [happ] using hnext

theorem pass_accepted (source : Text) (edits : List Edit) :
    Pass source edits (accepted source {} edits) := by
  have hnil : Pass source [] [] := .nil
  simpa using pass_accepted_append hnil .empty edits

/-! ## The edited text -/

/-- The source from offset `n` on with the ranges of `edits` replaced: the pieces between them and
their texts, in order. -/
def spliced (source : Text) (n : Nat) : List Edit → Text
  | [] => source.after n
  | e :: rest => source.slice n e.start ++ e.text ++ spliced source e.stop rest

/-- Replacements from the end of the text backwards. -/
def replaceAll (source : Text) (edits : List Edit) : Text :=
  edits.foldr (fun e out => replace out e) source

/-- Replacements behind `n` leave the text in front of `n` as it is. -/
theorem replaceAll_eq {source : Text} {n : Nat} {edits : List Edit} (hn : source.IsCut n)
    (hrange : ∀ e ∈ edits, source.IsRange e.start e.stop)
    (hdisjoint : edits.Pairwise fun a b => a.stop ≤ b.start)
    (hbehind : ∀ e ∈ edits, n ≤ e.start) :
    replaceAll source edits = source.before n ++ spliced source n edits := by
  induction edits generalizing n with
  | nil => exact (Text.before_append_after source n).symm
  | cons e rest ih =>
      have he := hrange e (by simp)
      have hrest := ih he.stop_cut (fun k hk => hrange k (by simp [hk])) hdisjoint.of_cons
        fun k hk => List.rel_of_pairwise_cons hdisjoint hk
      have hfront := Text.before_eq_append_slice he.start_cut he.le
      have hpiece := Text.before_eq_append_slice hn (hbehind e (by simp))
      have hbefore : (replaceAll source rest).before e.start = source.before e.start := by
        rw [hrest, hfront, List.append_assoc]
        have h := Text.before_size_append (source.before e.start)
          (source.slice e.start e.stop ++ spliced source e.stop rest)
        rwa [he.start_cut.size_before_eq] at h
      have hafter : (replaceAll source rest).after e.stop = spliced source e.stop rest := by
        rw [hrest]
        have h := Text.after_size_append (source.before e.stop) (spliced source e.stop rest)
        rwa [he.stop_cut.size_before_eq] at h
      calc
        replaceAll source (e :: rest) =
            (replaceAll source rest).before e.start ++ e.text ++
              (replaceAll source rest).after e.stop :=
          rfl
        _ = source.before e.start ++ e.text ++ spliced source e.stop rest := by
          rw [hbefore, hafter]
        _ = source.before n ++ spliced source n (e :: rest) := by
          rw [hpiece, spliced]
          simp only [List.append_assoc]

/-- Once the edits of `back` are applied, an edit in front of them still holds characters of the
text. -/
theorem isRange_replaceAll {source : Text} {e : Edit} {back : List Edit}
    (hrange : ∀ k ∈ e :: back, source.IsRange k.start k.stop)
    (hdisjoint : (e :: back).Pairwise fun a b => a.stop ≤ b.start) :
    (replaceAll source back).IsRange e.start e.stop := by
  have he := hrange e (by simp)
  have htext : replaceAll source back = source.before e.start ++ source.slice e.start e.stop ++
      spliced source e.stop back := by
    rw [← Text.before_eq_append_slice he.start_cut he.le]
    exact replaceAll_eq he.stop_cut (fun k hk => hrange k (by simp [hk])) hdisjoint.of_cons
      fun k hk => List.rel_of_pairwise_cons hdisjoint hk
  have h := Text.isRange_append (source.before e.start) (source.slice e.start e.stop)
    (spliced source e.stop back)
  rwa [← htext, he.start_cut.size_before_eq, ← Text.before_eq_append_slice he.start_cut he.le,
    he.stop_cut.size_before_eq] at h

/-! ## The outcome -/

/-- The edits are taken in `order` and those of `kept` are applied. -/
structure IsRepair (source : Text) (edits order kept : List Edit) (out : Outcome) : Prop where
  isOrder : IsOrder edits order
  pass : Pass source order kept
  isRange : ∀ e ∈ kept, source.IsRange e.start e.stop
  /-- Inserts may share an offset. -/
  disjoint : kept.Pairwise fun a b => a.stop ≤ b.start
  output_eq : out.output = spliced source 0 kept
  applied_eq : out.applied = kept.length
  total : out.applied + out.skipped = edits.length
  /-- Each replacement cuts the text at boundaries, as it is when its turn comes. -/
  cuts : ∀ front e back, kept = front ++ e :: back →
    (replaceAll source back).IsRange e.start e.stop

theorem isRepair_applyEdits (source : Text) (edits : List Edit) :
    IsRepair source edits (ordered edits) (accepted source {} (ordered edits))
      (applyEdits source edits) := by
  have hpass := pass_accepted source (ordered edits)
  refine ⟨isOrder_ordered edits, hpass, hpass.isRange, hpass.disjoint, ?_, rfl, ?_, ?_⟩
  · have h := replaceAll_eq (Text.isCut_zero source) hpass.isRange hpass.disjoint
      fun _ _ => Nat.zero_le _
    rw [Text.before_zero, List.nil_append] at h
    exact h
  · have hle := hpass.sublist.length_le
    rw [ordered, List.length_mergeSort] at hle
    exact Nat.add_sub_cancel' hle
  · intro front e back hkept
    have hrange := hpass.isRange
    have hdisjoint := hpass.disjoint
    rw [hkept] at hrange hdisjoint
    exact isRange_replaceAll (fun k hk => hrange k (List.mem_append_right front hk))
      (List.pairwise_append.mp hdisjoint).2.1

/-- Applying edits splices the accepted ones into the source, however edits of different ranges are
listed. -/
theorem applyEdits_spec (source : Text) (edits : List Edit) :
    (∃ order kept, IsRepair source edits order kept (applyEdits source edits)) ∧
      ∀ edits' : List Edit, edits'.Perm edits →
        (∀ start stop, ofRange start stop edits' = ofRange start stop edits) →
        applyEdits source edits' = applyEdits source edits := by
  refine ⟨⟨_, _, isRepair_applyEdits source edits⟩, ?_⟩
  intro edits' hperm hrange
  unfold applyEdits
  rw [ordered_congr hrange, hperm.length_eq]

end PageLint.Repair
