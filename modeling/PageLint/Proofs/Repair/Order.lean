import PageLint.Repair

/-! # The order of edits

Edits are taken by their offsets, and the edits of one range in the order in which they are listed.
An order of this kind is unique, so that it does not depend on how edits of different ranges are
listed. -/

namespace PageLint.Repair

/-- By start, then by end. -/
def Precedes (a b : Edit) : Prop := a.start < b.start ∨ a.start = b.start ∧ a.stop ≤ b.stop

theorem precedes_iff {a b : Edit} : precedes a b = true ↔ Precedes a b := by
  simp [precedes, Precedes]

theorem Precedes.trans {a b c : Edit} (hab : Precedes a b) (hbc : Precedes b c) :
    Precedes a c := by
  unfold Precedes at *
  omega

theorem precedes_total (a b : Edit) : Precedes a b ∨ Precedes b a := by
  unfold Precedes
  omega

/-- The edits of one range, in the order of the list. -/
def ofRange (start stop : Nat) (edits : List Edit) : List Edit :=
  edits.filter fun e => e.start == start && e.stop == stop

theorem mem_ofRange {start stop : Nat} {edits : List Edit} {e : Edit} :
    e ∈ ofRange start stop edits ↔ e ∈ edits ∧ e.start = start ∧ e.stop = stop := by
  simp [ofRange]

/-- `order` is a rearrangement of `edits` by offset that keeps edits of one range as listed. -/
structure IsOrder (edits order : List Edit) : Prop where
  perm : order.Perm edits
  sorted : order.Pairwise Precedes
  stable : ∀ start stop, ofRange start stop order = ofRange start stop edits

/-! ## Sorting -/

theorem ordered_sorted (edits : List Edit) : (ordered edits).Pairwise Precedes := by
  have h : (edits.mergeSort precedes).Pairwise fun a b => precedes a b = true :=
    List.pairwise_mergeSort
      (by simpa only [precedes_iff] using fun a b c => Precedes.trans)
      (by simpa only [Bool.or_eq_true, precedes_iff] using precedes_total) edits
  exact h.imp fun hab => precedes_iff.mp hab

/-- Edits of one range are a sorted part of the list, and sorting keeps such parts as they are. -/
theorem ofRange_ordered (start stop : Nat) (edits : List Edit) :
    ofRange start stop (ordered edits) = ofRange start stop edits := by
  have hsorted : (ofRange start stop edits).Pairwise fun a b => precedes a b = true := by
    apply List.pairwise_of_forall_mem_list
    intro a ha b hb
    obtain ⟨-, hstart, hstop⟩ := mem_ofRange.mp ha
    obtain ⟨-, hstart', hstop'⟩ := mem_ofRange.mp hb
    rw [precedes_iff]
    unfold Precedes
    omega
  have hsub : (ofRange start stop edits).Sublist (ordered edits) :=
    List.sublist_mergeSort
      (by simpa only [precedes_iff] using fun a b c => Precedes.trans)
      (by simpa only [Bool.or_eq_true, precedes_iff] using precedes_total)
      hsorted List.filter_sublist
  have hsub' := hsub.filter fun e => e.start == start && e.stop == stop
  rw [ofRange, List.filter_filter] at hsub'
  simp only [Bool.and_self] at hsub'
  have hlength := ((List.mergeSort_perm edits precedes).filter
    fun e => e.start == start && e.stop == stop).length_eq
  exact (hsub'.eq_of_length hlength.symm).symm

theorem isOrder_ordered (edits : List Edit) : IsOrder edits (ordered edits) :=
  ⟨List.mergeSort_perm edits precedes, ordered_sorted edits,
    fun start stop => ofRange_ordered start stop edits⟩

/-! ## Uniqueness -/

/-- The first edit of a sorted list is the first of its range in any sorted list with the same
edits of each range. -/
theorem head_eq_of_ofRange_eq {a b : Edit} {as bs : List Edit}
    (ha : (a :: as).Pairwise Precedes) (hb : (b :: bs).Pairwise Precedes)
    (h : ∀ start stop, ofRange start stop (a :: as) = ofRange start stop (b :: bs)) : a = b := by
  have hab : a ∈ b :: bs := by
    have hmem : a ∈ ofRange a.start a.stop (a :: as) := mem_ofRange.mpr ⟨by simp, rfl, rfl⟩
    rw [h] at hmem
    exact (mem_ofRange.mp hmem).1
  have hba : b ∈ a :: as := by
    have hmem : b ∈ ofRange b.start b.stop (b :: bs) := mem_ofRange.mpr ⟨by simp, rfl, rfl⟩
    rw [← h] at hmem
    exact (mem_ofRange.mp hmem).1
  have hle : Precedes a b := by
    rcases List.mem_cons.mp hba with rfl | hmem
    · exact .inr ⟨rfl, Nat.le_refl _⟩
    · exact List.rel_of_pairwise_cons ha hmem
  have hge : Precedes b a := by
    rcases List.mem_cons.mp hab with rfl | hmem
    · exact .inr ⟨rfl, Nat.le_refl _⟩
    · exact List.rel_of_pairwise_cons hb hmem
  have hstart : b.start = a.start := by
    unfold Precedes at hle hge
    omega
  have hstop : b.stop = a.stop := by
    unfold Precedes at hle hge
    omega
  have hfirst := h a.start a.stop
  simp only [ofRange, List.filter_cons, hstart, hstop, beq_self_eq_true, Bool.and_self,
    ↓reduceIte, List.cons.injEq] at hfirst
  exact hfirst.1

theorem eq_of_sorted_of_ofRange_eq {xs ys : List Edit} (hx : xs.Pairwise Precedes)
    (hy : ys.Pairwise Precedes)
    (h : ∀ start stop, ofRange start stop xs = ofRange start stop ys) : xs = ys := by
  induction xs generalizing ys with
  | nil =>
      cases ys with
      | nil => rfl
      | cons b bs =>
          have hb := h b.start b.stop
          simp [ofRange] at hb
  | cons a as ih =>
      cases ys with
      | nil =>
          have ha := h a.start a.stop
          simp [ofRange] at ha
      | cons b bs =>
          obtain rfl := head_eq_of_ofRange_eq hx hy h
          have htail : as = bs := by
            apply ih hx.of_cons hy.of_cons
            intro start stop
            have hrange := h start stop
            simp only [ofRange, List.filter_cons] at hrange
            split at hrange
            · exact (List.cons.inj hrange).2
            · exact hrange
          rw [htail]

/-- How edits of different ranges are listed does not matter. -/
theorem ordered_congr {xs ys : List Edit}
    (h : ∀ start stop, ofRange start stop xs = ofRange start stop ys) :
    ordered xs = ordered ys := by
  apply eq_of_sorted_of_ofRange_eq (ordered_sorted xs) (ordered_sorted ys)
  intro start stop
  rw [ofRange_ordered, ofRange_ordered, h]

/-- Edits that are listed by offset stay as they are. -/
theorem ordered_of_sorted {edits : List Edit} (h : edits.Pairwise Precedes) :
    ordered edits = edits :=
  List.mergeSort_of_pairwise (h.imp fun hab => precedes_iff.mpr hab)

end PageLint.Repair
