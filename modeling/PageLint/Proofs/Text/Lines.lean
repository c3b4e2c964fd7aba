import PageLint.Proofs.Text.Offsets
import PageLint.Text.Position

/-! # Offsets on lines

Every cut of a text lies on one line: the text falls into the lines above it, the two parts of its
own line and the lines below it. Line, column and line text of an offset are read off these four
parts. -/

namespace PageLint.Text

/-! ## Runs of characters -/

/-- Where a run of characters ends. -/
theorem span_append {p : Char → Bool} {t rest : Text} (ht : ∀ d ∈ t, p d)
    (hrest : rest.head?.any p = false) :
    (t ++ rest).takeWhile p = t ∧ (t ++ rest).dropWhile p = rest := by
  have hend : rest.takeWhile p = [] ∧ rest.dropWhile p = rest := by
    cases rest with
    | nil => exact ⟨rfl, rfl⟩
    | cons d rest =>
        have hd : p d = false := hrest
        exact ⟨by rw [List.takeWhile_cons, hd]; rfl, by rw [List.dropWhile_cons, hd]; rfl⟩
  exact ⟨by rw [List.takeWhile_append_of_pos ht, hend.1, List.append_nil],
    by rw [List.dropWhile_append_of_pos ht, hend.2]⟩

theorem any_head?_dropWhile (p : Char → Bool) (t : Text) : (t.dropWhile p).head?.any p = false := by
  have h := List.head?_dropWhile_not p t
  cases hhead : (t.dropWhile p).head? with
  | none => rfl
  | some c => simpa [hhead] using h

/-- A text starts with a run, which may be empty. -/
theorem exists_span (p : Char → Bool) (t : Text) : ∃ run rest : Text, t = run ++ rest ∧
    (∀ d ∈ run, p d) ∧ rest.head?.any p = false :=
  ⟨t.takeWhile p, t.dropWhile p, List.takeWhile_append_dropWhile.symm,
    fun d hd => List.all_eq_true.mp List.all_takeWhile d hd, any_head?_dropWhile p t⟩

/-! ## Dropping from the end -/

/-- What is dropped from the end satisfies `p`, and the last character that is left does not. -/
theorem exists_eq_dropEndWhile_append (p : Char → Bool) (t : Text) :
    ∃ run, t = t.dropEndWhile p ++ run ∧ (∀ c ∈ run, p c) ∧
      ∀ c, (t.dropEndWhile p).getLast? = some c → ¬ p c := by
  refine ⟨(t.reverse.takeWhile p).reverse, ?_, ?_, ?_⟩
  · have h := congrArg List.reverse (List.takeWhile_append_dropWhile (p := p) (l := t.reverse))
    rw [List.reverse_append, List.reverse_reverse] at h
    exact h.symm
  · intro c hc
    exact List.all_eq_true.mp List.all_takeWhile c (List.mem_reverse.mp hc)
  · intro c hc
    have h := List.head?_dropWhile_not p t.reverse
    rw [dropEndWhile, List.getLast?_reverse] at hc
    simpa [hc] using h

theorem dropEndWhile_append {p : Char → Bool} (front : Text) {run : Text} (h : ∀ c ∈ run, p c) :
    (front ++ run).dropEndWhile p = front.dropEndWhile p := by
  have hrev : ∀ c ∈ run.reverse, p c := fun c hc => h c (List.mem_reverse.mp hc)
  rw [dropEndWhile, List.reverse_append, List.dropWhile_append_of_pos hrev, dropEndWhile]

/-! ## Splitting at newlines -/

theorem splitWhere_ne_nil (p : Char → Bool) (t : Text) : t.splitWhere p ≠ [] := by
  cases t with
  | nil => simp [splitWhere]
  | cons c t =>
      rw [splitWhere]
      split
      · simp
      · split <;> simp

theorem splitWhere_append_cons (p : Char → Bool) (a b : Text) {c : Char} (hc : p c) :
    splitWhere p (a ++ c :: b) = splitWhere p a ++ splitWhere p b := by
  induction a with
  | nil => simp [splitWhere, hc]
  | cons d a ih =>
      by_cases hd : p d
      · simp [splitWhere, hd, ih]
      · simp only [List.cons_append, splitWhere, hd, ih, Bool.false_eq_true, ↓reduceIte]
        cases h : splitWhere p a with
        | nil => exact absurd h (splitWhere_ne_nil p a)
        | cons piece rest => simp

theorem splitWhere_of_forall_not (p : Char → Bool) {t : Text} (h : ∀ c ∈ t, ¬ p c) :
    t.splitWhere p = [t] := by
  induction t with
  | nil => rfl
  | cons c t ih =>
      have hc : ¬ p c := h c (by simp)
      have ht := ih fun d hd => h d (by simp [hd])
      simp [splitWhere, hc, ht]

/-- There is one line more than there are newlines. -/
theorem length_lines (t : Text) : t.lines.length = t.count '\n' + 1 := by
  unfold lines splitOn
  induction t with
  | nil => rfl
  | cons c t ih =>
      by_cases hc : c = '\n'
      · subst hc
        simp [splitWhere, ih]
      · rw [List.count_cons_of_ne hc, ← ih, splitWhere]
        simp only [beq_iff_eq, hc, ↓reduceIte]
        cases h : splitWhere (· == '\n') t with
        | nil => exact absurd h (splitWhere_ne_nil _ t)
        | cons piece rest => simp

theorem lines_append_cons (a b : Text) : lines (a ++ '\n' :: b) = lines a ++ lines b :=
  splitWhere_append_cons (· == '\n') a b (by simp)

theorem lines_of_newline_not_mem {t : Text} (h : '\n' ∉ t) : lines t = [t] := by
  apply splitWhere_of_forall_not
  intro c hc he
  exact h (by simpa [eq_of_beq he] using hc)

/-! ## Later offsets -/

/-- A later offset is as many lines below as there are newlines in between. -/
theorem lineOf_eq_add {t : Text} {n m : Nat} (h : t.IsCut n) (hle : n ≤ m) :
    t.lineOf m = t.lineOf n + (t.slice n m).count '\n' := by
  rw [lineOf, lineOf, before_eq_append_slice h hle, List.count_append]
  omega

/-- On one line, what is in front of a place goes on to be in front of a later one. -/
theorem lineHead_of_append {t s : Text} {n m : Nat} (hbefore : t.before m = t.before n ++ s)
    (hs : '\n' ∉ s) : t.lineHead m = t.lineHead n ++ s := by
  have hone : ∀ c ∈ s.reverse, (c != '\n') = true := by
    intro c hc
    have hne : c ≠ '\n' := fun he => hs (he ▸ List.mem_reverse.mp hc)
    simpa using hne
  rw [lineHead, hbefore, List.reverse_append, List.takeWhile_append_of_pos hone,
    List.reverse_append, List.reverse_reverse, lineHead]

/-! ## Places -/

/-- Offset `n` lies behind `head` on the line `head ++ tail`; `above` are the lines in front of that
line, each with the newline that ends it, and `below` starts with the newline that ends the line. -/
structure IsPlace (t : Text) (n : Nat) (above head tail below : Text) : Prop where
  text_eq : t = above ++ head ++ tail ++ below
  offset_eq : size (above ++ head) = n
  above_ends : above = [] ∨ above.getLast? = some '\n'
  one_line : '\n' ∉ head ++ tail
  below_starts : below = [] ∨ below.head? = some '\n'

/-- Every cut has a place. -/
theorem exists_isPlace {t : Text} {n : Nat} (h : t.IsCut n) :
    ∃ above head tail below, IsPlace t n above head tail below := by
  obtain ⟨front, back, rfl, rfl⟩ := h
  have hfront := List.takeWhile_append_dropWhile (p := (· != '\n')) (l := front.reverse)
  have hback := List.takeWhile_append_dropWhile (p := (· != '\n')) (l := back)
  have hsplit : (front.reverse.dropWhile (· != '\n')).reverse ++
      (front.reverse.takeWhile (· != '\n')).reverse = front := by
    rw [← List.reverse_append, hfront, List.reverse_reverse]
  refine ⟨(front.reverse.dropWhile (· != '\n')).reverse,
    (front.reverse.takeWhile (· != '\n')).reverse, back.takeWhile (· != '\n'),
    back.dropWhile (· != '\n'), ?_, ?_, ?_, ?_, ?_⟩
  · rw [hsplit, List.append_assoc, hback]
  · rw [hsplit]
  · have h := List.head?_dropWhile_not (· != '\n') front.reverse
    rw [List.getLast?_reverse]
    cases hhead : (front.reverse.dropWhile (· != '\n')).head? with
    | none => exact .inl (by simpa using hhead)
    | some c => exact .inr (by simpa [hhead] using h)
  · intro hmem
    rcases List.mem_append.mp hmem with hmem | hmem
    · simpa using List.all_eq_true.mp List.all_takeWhile _ (List.mem_reverse.mp hmem)
    · simpa using List.all_eq_true.mp List.all_takeWhile _ hmem
  · have h := List.head?_dropWhile_not (· != '\n') back
    cases hhead : (back.dropWhile (· != '\n')).head? with
    | none => exact .inl (by simpa using hhead)
    | some c => exact .inr (by simpa [hhead] using h)

namespace IsPlace

variable {t above head tail below : Text} {n : Nat}

theorem before_eq (h : IsPlace t n above head tail below) : t.before n = above ++ head := by
  rw [h.text_eq, ← h.offset_eq, List.append_assoc (above ++ head), before_size_append]

/-- A line is counted by the newlines in front. -/
theorem lineOf_eq (h : IsPlace t n above head tail below) :
    t.lineOf n = 1 + (above ++ head).count '\n' := by
  rw [lineOf, h.before_eq, Nat.add_comm]

theorem lineHead_eq (h : IsPlace t n above head tail below) : t.lineHead n = head := by
  have hhead : ∀ c ∈ head.reverse, (c != '\n') = true := by
    intro c hc
    have hne : c ≠ '\n' := fun he =>
      h.one_line (List.mem_append_left tail (he ▸ List.mem_reverse.mp hc))
    simpa using hne
  have habove : above.reverse.takeWhile (· != '\n') = [] := by
    rcases h.above_ends with rfl | hlast
    · rfl
    · obtain ⟨rest, rfl⟩ := List.getLast?_eq_some_iff.mp hlast
      simp
  rw [lineHead, h.before_eq, List.reverse_append, List.takeWhile_append_of_pos hhead, habove,
    List.append_nil, List.reverse_reverse]

theorem columnOf_eq (h : IsPlace t n above head tail below) : t.columnOf n = head.length + 1 := by
  rw [columnOf, h.lineHead_eq]

/-- The line of the place is found at its number. -/
theorem lines_getElem? (h : IsPlace t n above head tail below) :
    t.lines[above.count '\n']? = some (head ++ tail) := by
  have hline : ∃ rest, lines ((head ++ tail) ++ below) = (head ++ tail) :: rest := by
    rcases h.below_starts with rfl | hstart
    · exact ⟨[], by rw [List.append_nil, lines_of_newline_not_mem h.one_line]⟩
    · obtain ⟨rest, rfl⟩ := List.head?_eq_some_iff.mp hstart
      exact ⟨lines rest, by
        rw [lines_append_cons, lines_of_newline_not_mem h.one_line, List.singleton_append]⟩
  obtain ⟨rest, hrest⟩ := hline
  have htext : t = above ++ ((head ++ tail) ++ below) := by
    rw [h.text_eq]
    simp only [List.append_assoc]
  rcases h.above_ends with rfl | hlast
  · rw [htext, List.nil_append, hrest]
    rfl
  · obtain ⟨front, rfl⟩ := List.getLast?_eq_some_iff.mp hlast
    have hcount : (front ++ ['\n']).count '\n' = (lines front).length := by
      rw [length_lines, List.count_append]
      rfl
    rw [htext, List.append_assoc, List.singleton_append, lines_append_cons, hrest, hcount]
    simp

theorem lineText?_eq (h : IsPlace t n above head tail below) :
    t.lineText? (t.lineOf n) = some ((head ++ tail).dropEndWhile (· == '\r')) := by
  have hnone : head.count '\n' = 0 :=
    List.count_eq_zero.mpr fun hmem => h.one_line (List.mem_append_left tail hmem)
  have hline : t.lineOf n = above.count '\n' + 1 := by
    rw [h.lineOf_eq, List.count_append, hnone]
    omega
  rw [hline, lineText?, h.lines_getElem?, Option.map_some]

end IsPlace

end PageLint.Text
