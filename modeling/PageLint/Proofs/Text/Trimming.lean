import PageLint.Text.Scan
import PageLint.Proofs.Text.Lines

/-! # Trimming

What is left of a text that is trimmed begins and ends with characters that are no white space. -/

namespace PageLint.Text

variable {t a b : Text}

/-- The text begins with a character that is no white space. -/
def BeginsVisibly (t : Text) : Prop := ∃ c rest, t = c :: rest ∧ isBlank c = false

/-- The text ends with a character that is no white space. -/
def EndsVisibly (t : Text) : Prop := ∃ front c, t = front ++ [c] ∧ isBlank c = false

theorem EndsVisibly.append (h : b.EndsVisibly) (a : Text) : (a ++ b).EndsVisibly := by
  obtain ⟨front, c, rfl, hc⟩ := h
  exact ⟨a ++ front, c, (List.append_assoc _ _ _).symm, hc⟩

theorem endsVisibly_of_forall (hne : t ≠ []) (h : ∀ c ∈ t, isBlank c = false) :
    t.EndsVisibly := by
  obtain ⟨front, c, rfl⟩ := (List.eq_nil_or_concat t).resolve_left hne
  exact ⟨front, c, List.concat_eq_append, h c (by simp)⟩

theorem beginsVisibly_of_forall (hne : t ≠ []) (h : ∀ c ∈ t, isBlank c = false) :
    t.BeginsVisibly := by
  obtain ⟨c, rest, rfl⟩ := List.exists_cons_of_ne_nil hne
  exact ⟨c, rest, rfl, h c (by simp)⟩

theorem BeginsVisibly.append (h : a.BeginsVisibly) (b : Text) : (a ++ b).BeginsVisibly := by
  obtain ⟨c, rest, rfl, hc⟩ := h
  exact ⟨c, rest ++ b, rfl, hc⟩

/-! ## At the end -/

theorem trimEnd_concat (t : Text) (c : Char) :
    trimEnd (t ++ [c]) = if isBlank c then trimEnd t else t ++ [c] := by
  unfold trimEnd dropEndWhile
  rw [List.reverse_append, List.reverse_singleton, List.singleton_append, List.dropWhile_cons]
  split
  · rfl
  · simp

theorem EndsVisibly.trimEnd_eq (h : t.EndsVisibly) : trimEnd t = t := by
  obtain ⟨front, c, rfl, hc⟩ := h
  rw [trimEnd_concat, hc]
  rfl

/-- Only white space is cut off at the end. -/
theorem exists_trimEnd_append (t : Text) : ∃ run, t = trimEnd t ++ run :=
  have ⟨run, h, _⟩ := exists_eq_dropEndWhile_append isBlank t
  ⟨run, h⟩

theorem endsVisibly_trimEnd (h : trimEnd t ≠ []) : (trimEnd t).EndsVisibly := by
  obtain ⟨front, c, hsplit⟩ := (List.eq_nil_or_concat (trimEnd t)).resolve_left h
  rw [List.concat_eq_append] at hsplit
  obtain ⟨-, -, -, hlast⟩ := exists_eq_dropEndWhile_append isBlank t
  have hc := hlast c (by rw [← trimEnd, hsplit, List.getLast?_concat])
  exact ⟨front, c, hsplit, by simpa using hc⟩

theorem size_trimEnd_le (t : Text) : (trimEnd t).size ≤ t.size := by
  obtain ⟨run, h⟩ := exists_trimEnd_append t
  have hsize := congrArg size h
  rw [size_append] at hsize
  omega

/-! ## At the start -/

theorem trimStart_suffix (t : Text) : trimStart t <:+ t := List.dropWhile_suffix isBlank

theorem beginsVisibly_trimStart (h : trimStart t ≠ []) : (trimStart t).BeginsVisibly := by
  obtain ⟨c, rest, hsplit⟩ := List.exists_cons_of_ne_nil h
  have hc := List.head?_dropWhile_not isBlank t
  rw [← trimStart, hsplit] at hc
  exact ⟨c, rest, hsplit, by simpa using hc⟩

theorem BeginsVisibly.of_append (h : (a ++ b).BeginsVisibly) (hne : a ≠ []) : a.BeginsVisibly := by
  obtain ⟨d, front, rfl⟩ := List.exists_cons_of_ne_nil hne
  obtain ⟨c, rest, hsplit, hc⟩ := h
  obtain ⟨rfl, -⟩ := List.cons.inj hsplit
  exact ⟨d, front, rfl, hc⟩

/-- White space in front of a text is cut off, and nothing of the text. -/
theorem trimStart_append (hblank : ∀ c ∈ a, isBlank c) (h : b.BeginsVisibly) :
    trimStart (a ++ b) = b := by
  obtain ⟨c, rest, rfl, hc⟩ := h
  rw [trimStart, List.dropWhile_append_of_pos hblank, List.dropWhile_cons_of_neg (by simp [hc])]

theorem exists_append_trimStart (t : Text) :
    ∃ gap, (∀ c ∈ gap, isBlank c) ∧ t = gap ++ trimStart t :=
  ⟨t.takeWhile isBlank, fun c hc => List.all_eq_true.mp List.all_takeWhile c hc,
    List.takeWhile_append_dropWhile.symm⟩

theorem exists_of_dropBlanks? {rest : Text} (h : dropBlanks? t = some rest) :
    ∃ gap, gap ≠ [] ∧ (∀ c ∈ gap, isBlank c) ∧ t = gap ++ rest := by
  cases t with
  | nil => cases h
  | cons c t =>
      rw [dropBlanks?] at h
      split at h
      · rename_i hc
        obtain rfl := Option.some.inj h
        obtain ⟨gap, hgap, ht⟩ := exists_append_trimStart (c :: t)
        refine ⟨gap, ?_, hgap, ht⟩
        rintro rfl
        rw [trimStart, List.dropWhile_cons_of_pos hc, List.nil_append] at ht
        have hlength := congrArg List.length ht
        have hle := (List.dropWhile_sublist isBlank (l := t)).length_le
        rw [List.length_cons] at hlength
        omega
      · cases h

theorem dropBlanks?_append {gap rest : Text} (hne : gap ≠ []) (hgap : ∀ c ∈ gap, isBlank c)
    (hrest : rest.BeginsVisibly) : dropBlanks? (gap ++ rest) = some rest := by
  have htrim := trimStart_append hgap hrest
  obtain ⟨c, gap, rfl⟩ := List.exists_cons_of_ne_nil hne
  rw [List.cons_append] at htrim ⊢
  rw [dropBlanks?, if_pos (hgap c List.mem_cons_self), htrim]

/-! ## At both ends -/

theorem trim_append (hblank : ∀ c ∈ a, isBlank c) (hbegins : b.BeginsVisibly)
    (hends : b.EndsVisibly) : trim (a ++ b) = b := by
  rw [trim, trimStart_append hblank hbegins, hends.trimEnd_eq]

/-- Where the trimmed text stands. -/
theorem exists_trim (t : Text) :
    ∃ front run, t = front ++ (trim t ++ run) ∧ front.size = t.size - (trimStart t).size := by
  obtain ⟨front, hfront⟩ := trimStart_suffix t
  obtain ⟨run, hrun⟩ := exists_trimEnd_append (trimStart t)
  refine ⟨front, run, by rw [trim, ← hrun, hfront], ?_⟩
  have hsize := congrArg size hfront
  rw [size_append] at hsize
  omega

theorem visible_trim (h : trim t ≠ []) : (trim t).BeginsVisibly ∧ (trim t).EndsVisibly := by
  obtain ⟨run, hrun⟩ := exists_trimEnd_append (trimStart t)
  have hstart : trimStart t ≠ [] := by
    intro hnil
    rw [trim, hnil] at h
    exact h rfl
  have hbegins := beginsVisibly_trimStart hstart
  rw [hrun] at hbegins
  exact ⟨hbegins.of_append h, endsVisibly_trimEnd h⟩

end PageLint.Text
