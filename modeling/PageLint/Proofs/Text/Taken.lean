import PageLint.Text.Scan
import PageLint.Proofs.Text.Names
import PageLint.Proofs.Text.Trimming

/-! # Characters that matches take

A pattern splits a text in two: the characters that its matches take, and those that are left when
the matches are removed. Both are told by offsets, and white space counts for neither. -/

namespace PageLint.Text

/-- The characters other than white space. -/
def visible (t : Text) : Text := t.filter (!isBlank ·)

/-- The characters other than white space, each with its offset, of a text that starts at offset
`n`. -/
def visibleFrom (n : Nat) (t : Text) : List (Nat × Char) :=
  (t.offsetsFrom n).filter (!isBlank ·.2)

/-- The characters that the matches of a pattern take, each with its offset, of a text that starts at
offset `n`; `skip` characters still belong to a match. -/
def takenFrom {α : Type} (p : Pattern α) (n : Nat) (previous : Option Char) (skip : Nat) :
    Text → List (Nat × Char)
  | [] => []
  | c :: t =>
    match skip with
    | k + 1 => (n, c) :: takenFrom p (n + c.utf8Size) (some c) k t
    | 0 =>
      match p previous (c :: t) with
      | some (_, len) => (n, c) :: takenFrom p (n + c.utf8Size) (some c) (len - 1) t
      | none => takenFrom p (n + c.utf8Size) (some c) 0 t

/-- The offsets of the characters other than white space among some. -/
def visibleOffsets (l : List (Nat × Char)) : List Nat := (l.filter (!isBlank ·.2)).map (·.1)

/-- The characters other than white space of a text that starts at offset `n`, without those at some
offsets. -/
def visibleApart (n : Nat) (offsets : List Nat) (t : Text) : Text :=
  ((t.visibleFrom n).filter (!offsets.contains ·.1)).map (·.2)

section

variable {α : Type} {p : Pattern α} {previous : Option Char} {a b t : Text} {c : Char} {n k : Nat}

/-! ## White space -/

theorem visible_append (a b : Text) : visible (a ++ b) = visible a ++ visible b :=
  List.filter_append a b

theorem visible_eq_nil (h : ∀ c ∈ t, isBlank c) : visible t = [] :=
  List.filter_eq_nil_iff.mpr fun c hc => by simp [h c hc]

theorem visible_trimStart_eq (t : Text) : visible (trimStart t) = visible t := by
  have hjoin := List.takeWhile_append_dropWhile (p := isBlank) (l := t)
  have hblank : visible (t.takeWhile isBlank) = [] :=
    visible_eq_nil fun c hc => List.all_eq_true.mp List.all_takeWhile c hc
  rw [← congrArg visible hjoin, visible_append, hblank]
  rfl

theorem visible_trimEnd_eq (t : Text) : visible (trimEnd t) = visible t := by
  obtain ⟨run, hjoin, hblank, -⟩ := exists_eq_dropEndWhile_append isBlank t
  rw [congrArg visible hjoin, visible_append, visible_eq_nil hblank, List.append_nil]
  rfl

theorem visible_trim_eq (t : Text) : visible (trim t) = visible t := by
  rw [trim, visible_trimEnd_eq, visible_trimStart_eq]

/-! ## Offsets -/

theorem le_of_mem_offsetsFrom (h : (k, c) ∈ t.offsetsFrom n) : n ≤ k := by
  obtain ⟨front, back, -, rfl⟩ := exists_of_mem_offsetsFrom h
  exact Nat.le_add_right _ _

theorem visibleFrom_cons (n : Nat) (c : Char) (t : Text) :
    visibleFrom n (c :: t) = (if isBlank c then [] else [(n, c)]) ++ visibleFrom (n + c.utf8Size) t := by
  rw [visibleFrom, offsetsFrom, List.filter_cons]
  by_cases hc : isBlank c <;> simp [hc, visibleFrom]

theorem visibleFrom_append (n : Nat) (a b : Text) :
    visibleFrom n (a ++ b) = visibleFrom n a ++ visibleFrom (n + a.size) b := by
  rw [visibleFrom, offsetsFrom_append, List.filter_append]
  rfl

theorem visible_cons (c : Char) (t : Text) :
    visible (c :: t) = (if isBlank c then [] else [c]) ++ visible t := by
  rw [visible, List.filter_cons]
  by_cases hc : isBlank c <;> simp [hc, visible]

theorem map_snd_visibleFrom (n : Nat) (t : Text) : (visibleFrom n t).map (·.2) = visible t := by
  induction t generalizing n with
  | nil => rfl
  | cons c t ih =>
      rw [visibleFrom_cons, visible_cons, List.map_append, ih]
      split <;> rfl

theorem visibleFrom_eq_nil (h : ∀ c ∈ t, isBlank c) (n : Nat) : visibleFrom n t = [] :=
  List.map_eq_nil_iff.mp ((map_snd_visibleFrom n t).trans (visible_eq_nil h))

theorem le_of_mem_visibleFrom (h : (k, c) ∈ visibleFrom n t) : n ≤ k :=
  le_of_mem_offsetsFrom (List.mem_filter.mp h).1

theorem lt_of_mem_visibleFrom (h : (k, c) ∈ visibleFrom n t) : k < n + t.size := by
  obtain ⟨front, back, rfl, rfl⟩ := exists_of_mem_offsetsFrom (List.mem_filter.mp h).1
  have hpos := c.utf8Size_pos
  simp only [size_append, size_cons, size_nil]
  omega

/-- A character behind `a` is one of the text behind it. -/
theorem mem_visibleFrom_of_append (h : (k, c) ∈ visibleFrom n (a ++ b)) (hle : n + a.size ≤ k) :
    (k, c) ∈ visibleFrom (n + a.size) b := by
  rw [visibleFrom_append] at h
  rcases List.mem_append.mp h with h | h
  · exact absurd (lt_of_mem_visibleFrom h) (Nat.not_lt.mpr hle)
  · exact h

/-- Offsets in front of the text make no difference. -/
theorem visibleApart_cons (h : k < n) (offsets : List Nat) (t : Text) :
    visibleApart n (k :: offsets) t = visibleApart n offsets t := by
  refine congrArg _ (List.filter_congr fun x hx => ?_)
  have hne : x.1 ≠ k := by
    have := le_of_mem_visibleFrom hx
    omega
  simp [hne]

/-! ## What is taken and what is left -/

theorem takenFrom_subset {skip : Nat} : takenFrom p n previous skip t ⊆ t.offsetsFrom n := by
  induction t generalizing n previous skip with
  | nil => exact List.Subset.refl _
  | cons c t ih =>
      rw [takenFrom.eq_def]
      dsimp only
      split
      · exact List.cons_subset_cons _ ih
      · split
        · exact List.cons_subset_cons _ ih
        · exact List.subset_cons_of_subset _ ih

/-- A character is taken as part of what the pattern matched. -/
theorem forall_mem_takenFrom {P : Char → Prop} {skip : Nat}
    (hp : ∀ previous t a len, p previous t = some (a, len) → 0 < len ∧ ∀ c ∈ t.take len, P c)
    (hskip : ∀ c ∈ t.take skip, P c) : ∀ x ∈ takenFrom p n previous skip t, P x.2 := by
  induction t generalizing n previous skip with
  | nil => simp [takenFrom]
  | cons c t ih =>
      rw [takenFrom.eq_def]
      dsimp only
      split
      · obtain ⟨hc, hrest⟩ := List.forall_mem_cons.mp hskip
        exact List.forall_mem_cons.mpr ⟨hc, ih hrest⟩
      · split
        · rename_i a len hmatch
          obtain ⟨hpos, hlen⟩ := hp _ _ _ _ hmatch
          obtain ⟨k, rfl⟩ := Nat.exists_eq_add_one.mpr hpos
          obtain ⟨hc, hrest⟩ := List.forall_mem_cons.mp hlen
          exact List.forall_mem_cons.mpr ⟨hc, ih hrest⟩
        · exact ih (by simp)

theorem visibleOffsets_cons (n : Nat) (c : Char) (l : List (Nat × Char)) :
    visibleOffsets ((n, c) :: l) = (if isBlank c then [] else [n]) ++ visibleOffsets l := by
  rw [visibleOffsets, List.filter_cons]
  by_cases hc : isBlank c <;> simp [hc, visibleOffsets]

/-- The first character is one of those at the offsets. -/
theorem visibleApart_taken (n : Nat) (c : Char) (l : List (Nat × Char)) (t : Text) :
    visibleApart n (visibleOffsets ((n, c) :: l)) (c :: t) =
      visibleApart (n + c.utf8Size) (visibleOffsets l) t := by
  have hlt : n < n + c.utf8Size := Nat.lt_add_of_pos_right c.utf8Size_pos
  rw [visibleOffsets_cons, visibleApart, visibleFrom_cons]
  split
  · rfl
  · rw [List.singleton_append, List.singleton_append, List.filter_cons_of_neg (by simp)]
    exact visibleApart_cons hlt _ t

/-- The first character is in front of all those at the offsets. -/
theorem visibleApart_left {l : List (Nat × Char)} (c : Char)
    (h : l ⊆ t.offsetsFrom (n + c.utf8Size)) :
    visibleApart n (visibleOffsets l) (c :: t) =
      visible [c] ++ visibleApart (n + c.utf8Size) (visibleOffsets l) t := by
  have hnot : n ∉ visibleOffsets l := by
    intro hmem
    obtain ⟨⟨k, d⟩, hd, rfl⟩ := List.mem_map.mp hmem
    have hle := le_of_mem_offsetsFrom (h (List.mem_filter.mp hd).1)
    have hpos := c.utf8Size_pos
    omega
  rw [visibleApart, visibleFrom_cons, visible_cons]
  split
  · rfl
  · rw [List.singleton_append, List.filter_cons_of_pos (by simpa using hnot)]
    rfl

/-- The characters that are left when the matches are removed are those at other offsets. -/
theorem visible_removeFrom (n : Nat) (previous : Option Char) (skip : Nat) (t : Text) :
    visible (removeFrom p previous skip t) =
      visibleApart n (visibleOffsets (takenFrom p n previous skip t)) t := by
  induction t generalizing n previous skip with
  | nil => rfl
  | cons c t ih =>
      cases skip with
      | succ k => rw [removeFrom, takenFrom, visibleApart_taken, ih]
      | zero =>
          rw [removeFrom, takenFrom]
          cases p previous (c :: t) with
          | some found => rw [visibleApart_taken, ih]
          | none =>
              rw [visibleApart_left c takenFrom_subset, ← ih, ← visible_append,
                List.singleton_append]

end

end PageLint.Text
