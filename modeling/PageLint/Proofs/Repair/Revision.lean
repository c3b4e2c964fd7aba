import PageLint.Proofs.Repair.Pass

/-! # Revisions

A revision says of each stretch of a text whether it is kept or what it becomes. The edits of its
changes never get in each other's way, so applying them turns the one text into the other. -/

namespace PageLint.Repair

/-- Disjoint edits that are listed by offset are all accepted. -/
theorem accepted_of_disjoint {source : Text} {c : Cover} {kept edits : List Edit}
    (hc : c.Tracks kept) (hrange : ∀ e ∈ edits, source.IsRange e.start e.stop)
    (hdisjoint : (kept ++ edits).Pairwise fun a b => a.stop ≤ b.start) :
    accepted source c edits = edits := by
  induction edits generalizing c kept with
  | nil => rfl
  | cons e rest ih =>
      have he := hrange e (by simp)
      have happ : (fits source e && !c.collides e) = true := by
        apply hc.applicable_iff.mpr
        exact ⟨he, fun k hk => (List.pairwise_append.mp hdisjoint).2.2 k hk e (by simp)⟩
      have hrest := ih (hc.add he.le) (fun k hk => hrange k (by simp [hk]))
        (by simpa using hdisjoint)
      rw [accepted, if_pos happ, hrest]

theorem applyEdits_of_disjoint {source : Text} {edits : List Edit}
    (hrange : ∀ e ∈ edits, source.IsRange e.start e.stop)
    (hdisjoint : edits.Pairwise fun a b => a.stop ≤ b.start) :
    applyEdits source edits = ⟨replaceAll source edits, edits.length, 0⟩ := by
  have hsorted : edits.Pairwise Precedes := by
    apply hdisjoint.imp_of_mem
    intro a b ha hb hab
    have hle := (hrange a ha).le
    have hle' := (hrange b hb).le
    unfold Precedes
    omega
  have hall : accepted source {} edits = edits :=
    accepted_of_disjoint .empty hrange (by simpa using hdisjoint)
  simp only [applyEdits, ordered_of_sorted hsorted, hall, replaceAll, Nat.sub_self]

/-! ## Stretches -/

inductive Stretch where
  | kept (t : Text)
  | changed (old new : Text)

namespace Stretch

def old : Stretch → Text
  | kept t => t
  | changed t _ => t

def new : Stretch → Text
  | kept t => t
  | changed _ t => t

end Stretch

/-- The text before a revision. -/
def original (r : List Stretch) : Text := r.flatMap Stretch.old

/-- The text behind a revision. -/
def revised (r : List Stretch) : Text := r.flatMap Stretch.new

/-- The edits of a revision of a text that starts at offset `n`. -/
def edits (n : Nat) : List Stretch → List Edit
  | [] => []
  | .kept t :: r => edits (n + t.size) r
  | .changed old new :: r => ⟨n, n + old.size, new⟩ :: edits (n + old.size) r

theorem original_append (r s : List Stretch) : original (r ++ s) = original r ++ original s :=
  List.flatMap_append

theorem revised_append (r s : List Stretch) : revised (r ++ s) = revised r ++ revised s :=
  List.flatMap_append

theorem edits_append (n : Nat) (r s : List Stretch) :
    edits n (r ++ s) = edits n r ++ edits (n + (original r).size) s := by
  induction r generalizing n with
  | nil => rfl
  | cons stretch r ih =>
      cases stretch with
      | kept t => simp [edits, original, Stretch.old, ih, Nat.add_assoc]
      | changed old new => simp [edits, original, Stretch.old, ih, Nat.add_assoc]

theorem le_start_of_mem_edits {n : Nat} {r : List Stretch} {e : Edit} (h : e ∈ edits n r) :
    n ≤ e.start := by
  induction r generalizing n with
  | nil => cases h
  | cons stretch r ih =>
      cases stretch with
      | kept t => exact Nat.le_trans (Nat.le_add_right _ _) (ih h)
      | changed old new =>
          rcases List.mem_cons.mp h with rfl | h
          · exact Nat.le_refl n
          · exact Nat.le_trans (Nat.le_add_right _ _) (ih h)

theorem disjoint_edits (n : Nat) (r : List Stretch) :
    (edits n r).Pairwise fun a b => a.stop ≤ b.start := by
  induction r generalizing n with
  | nil => exact .nil
  | cons stretch r ih =>
      cases stretch with
      | kept t => exact ih _
      | changed old new => exact List.pairwise_cons.mpr ⟨fun e he => le_start_of_mem_edits he, ih _⟩

/-- The text in front of a revision is arbitrary, so that stretches can be moved into it one after
the other. -/
theorem isRange_of_mem_edits (front : Text) {r : List Stretch} {e : Edit}
    (h : e ∈ edits front.size r) : (front ++ original r).IsRange e.start e.stop := by
  induction r generalizing front with
  | nil => cases h
  | cons stretch r ih =>
      have htext : front ++ original (stretch :: r) = front ++ stretch.old ++ original r := by
        simp [original]
      rw [htext]
      cases stretch with
      | kept t =>
          rw [edits, ← Text.size_append] at h
          exact ih (front ++ t) h
      | changed old new =>
          rw [edits, ← Text.size_append] at h
          rcases List.mem_cons.mp h with rfl | h
          · exact Text.isRange_append front old (original r)
          · exact ih (front ++ old) h

theorem replaceAll_edits (front : Text) (r : List Stretch) :
    replaceAll (front ++ original r) (edits front.size r) = front ++ revised r := by
  induction r generalizing front with
  | nil => rfl
  | cons stretch r ih =>
      cases stretch with
      | kept t =>
          have htext : front ++ original (.kept t :: r) = front ++ t ++ original r := by
            simp [original, Stretch.old]
          rw [htext, edits, ← Text.size_append, ih]
          simp [revised, Stretch.new]
      | changed old new =>
          have htext : front ++ original (.changed old new :: r) = front ++ old ++ original r := by
            simp [original, Stretch.old]
          have hbefore := Text.before_size_append front (old ++ revised r)
          have hafter := Text.after_size_append (front ++ old) (revised r)
          rw [htext, edits, ← Text.size_append, replaceAll, List.foldr_cons, ← replaceAll, ih,
            replace]
          dsimp only
          rw [hafter, List.append_assoc front, hbefore]
          simp [revised, Stretch.new]

/-- Applying the edits of a revision skips none and gives the revised text. -/
theorem applyEdits_edits (r : List Stretch) :
    applyEdits (original r) (edits 0 r) = ⟨revised r, (edits 0 r).length, 0⟩ := by
  have hrange : ∀ e ∈ edits 0 r, (original r).IsRange e.start e.stop := fun e he =>
    isRange_of_mem_edits [] he
  have houtput : replaceAll (original r) (edits 0 r) = revised r := replaceAll_edits [] r
  rw [applyEdits_of_disjoint hrange (disjoint_edits 0 r), houtput]

/-- Inserts at the end of a text put their texts behind it, in order. -/
theorem output_applyEdits_inserts (source : Text) (texts : List Text) :
    (applyEdits source (texts.map (.insert source.size))).output = source ++ texts.flatten := by
  have hchanges : ∀ n, edits n (texts.map (.changed [])) = texts.map (.insert n) := by
    intro n
    induction texts with
    | nil => rfl
    | cons t texts ih =>
        rw [List.map_cons, edits, Text.size_nil, Nat.add_zero, ih]
        rfl
  have hold : original (texts.map (.changed [])) = [] := by
    simp [original, List.flatMap_map, Stretch.old]
  have hnew : revised (texts.map (.changed [])) = texts.flatten := by
    simp [revised, List.flatMap_map, Stretch.new, List.flatMap_id']
  have h := applyEdits_edits (.kept source :: texts.map (.changed []))
  have horiginal : original (.kept source :: texts.map (.changed [])) = source := by
    rw [original, List.flatMap_cons, ← original, hold]
    exact List.append_nil source
  have hedits : edits 0 (.kept source :: texts.map (.changed [])) =
      texts.map (.insert source.size) := by
    rw [edits, Nat.zero_add, hchanges]
  rw [horiginal, hedits] at h
  rw [h, revised, List.flatMap_cons, ← revised, hnew]
  rfl

end PageLint.Repair
