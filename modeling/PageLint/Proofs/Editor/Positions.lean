import PageLint.Editor
import PageLint.Proofs.Text.Lines
import Mathlib.Algebra.Ring.Nat

/-! # Positions in an editor

An editor finds the place of a position by counting: lines up to their newlines first, and then
UTF-16 units on the line it has come to. Counting from the position of a cut comes back to the cut,
and positions are in the order of the cuts. -/

namespace PageLint

/-! ## Units -/

namespace Text

/-- The length of a text in UTF-16 units. -/
def units (t : Text) : Nat := t.foldr (units16 · + ·) 0

@[simp] theorem units_nil : units [] = 0 := rfl

@[simp] theorem units_cons (c : Char) (t : Text) : units (c :: t) = units16 c + units t := rfl

@[simp] theorem units_append (a b : Text) : units (a ++ b) = units a + units b := by
  induction a with
  | nil => simp
  | cons c a ih => simp [ih, Nat.add_assoc]

theorem units16_pos (c : Char) : 0 < units16 c := by
  unfold units16
  split <;> decide

/-- A character has no more units than bytes. -/
theorem units16_le_utf8Size (c : Char) : units16 c ≤ c.utf8Size := by
  have hpos := c.utf8Size_pos
  unfold units16
  split
  · exact hpos
  · rename_i hlarge
    have hbeyond : ∀ k : UInt32, k.toNat < 0x10000 → ¬ c.val ≤ k := by
      intro k hk hle
      have hnat := UInt32.le_iff_toNat_le.mp hle
      exact hlarge (Nat.lt_of_le_of_lt hnat hk)
    simp [Char.utf8Size, hbeyond]

theorem units_le_size (t : Text) : units t ≤ size t := by
  induction t with
  | nil => exact Nat.le_refl 0
  | cons c t ih => exact Nat.add_le_add (units16_le_utf8Size c) ih

theorem count_le_size (t : Text) : t.count '\n' ≤ size t := by
  induction t with
  | nil => exact Nat.le_refl 0
  | cons c t ih =>
      have hpos := c.utf8Size_pos
      rw [List.count_cons, size_cons]
      split <;> omega

end Text

namespace Editor

/-! ## Counting -/

/-- The text behind some lines, each of which ends with a newline. -/
def skipLines : Nat → Text → Option Text
  | 0, t => some t
  | _ + 1, [] => none
  | n + 1, c :: t => if c = '\n' then skipLines n t else skipLines (n + 1) t

/-- The text behind some UTF-16 units of the first line. -/
def skipUnits (n : Nat) : Text → Option Text
  | [] => if n = 0 then some [] else none
  | c :: t =>
    if n = 0 then some (c :: t)
    else if c = '\n' ∨ n < Text.units16 c then none
    else skipUnits (n - Text.units16 c) t

/-- The offset of a position, counted from the start of the text. -/
def Position.offset? (source : Text) (p : Position) : Option Nat :=
  ((skipLines p.line source).bind (skipUnits p.character)).map fun rest => source.size - rest.size

theorem skipLines_append {above : Text} (h : above = [] ∨ above.getLast? = some '\n') (t : Text) :
    skipLines (above.count '\n') (above ++ t) = some t := by
  induction above with
  | nil => rw [List.count_nil, List.nil_append, skipLines]
  | cons c above ih =>
      have hlast := h.resolve_left (List.cons_ne_nil c above)
      cases above with
      | nil =>
          obtain rfl : c = '\n' := by simpa using hlast
          simp [skipLines]
      | cons d above =>
          have hrest := ih (.inr (by simpa using hlast))
          have hcount : ∃ n, (d :: above).count '\n' = n + 1 :=
            Nat.exists_eq_add_one.mpr (List.count_pos_iff.mpr
              (List.mem_of_getLast? (by simpa using hlast)))
          obtain ⟨n, hn⟩ := hcount
          by_cases hc : c = '\n'
          · subst hc
            rw [List.count_cons_self, List.cons_append, skipLines, ite_cond_eq_true _ _ (eq_self _)]
            exact hrest
          · rw [List.count_cons_of_ne hc, hn, List.cons_append, skipLines,
              ite_cond_eq_false _ _ (eq_false hc), ← hn]
            exact hrest

theorem skipUnits_append {head : Text} (h : '\n' ∉ head) (t : Text) :
    skipUnits head.units (head ++ t) = some t := by
  induction head with
  | nil => cases t <;> simp [skipUnits]
  | cons c head ih =>
      have hpos := Text.units16_pos c
      have hne : c ≠ '\n' := fun he => h (he ▸ List.mem_cons_self)
      have hrest := ih fun hmem => h (List.mem_cons_of_mem c hmem)
      rw [List.cons_append, skipUnits, Text.units_cons]
      simp only [hne, false_or]
      rw [ite_cond_eq_false _ _ (eq_false (by omega)), ite_cond_eq_false _ _ (eq_false (by omega)),
        Nat.add_sub_cancel_left, hrest]

/-- An editor counts lines from zero. -/
theorem lineOf_sub_one {t above head tail below : Text} {n : Nat}
    (h : t.IsPlace n above head tail below) : t.lineOf n - 1 = above.count '\n' := by
  have hnone : head.count '\n' = 0 :=
    List.count_eq_zero.mpr fun hmem => h.one_line (List.mem_append_left tail hmem)
  rw [h.lineOf_eq, List.count_append, hnone]
  omega

/-- The numbers of a position fit into 32 bits where the offsets of the text do. -/
theorem position_eq {t above head tail below : Text} {n : Nat} (hsize : t.size < 2 ^ 32)
    (h : t.IsPlace n above head tail below) :
    position t n = ⟨above.count '\n', head.units⟩ := by
  have htext := congrArg Text.size h.text_eq
  have hbound : t.size < UInt32.size := hsize
  have hline := Text.count_le_size above
  have hunits := Text.units_le_size head
  simp only [Text.size_append] at htext
  have hposition : t.editorPosition n = (above.count '\n', head.units) := by
    rw [Text.editorPosition, lineOf_sub_one h, h.lineHead_eq, Text.units]
  rw [position, hposition]
  simp only [Position.mk.injEq]
  exact ⟨Nat.mod_eq_of_lt (by omega), Nat.mod_eq_of_lt (by omega)⟩

/-- Counting from the position of a cut comes back to the cut. -/
theorem offset?_position {t : Text} {n : Nat} (hsize : t.size < 2 ^ 32) (h : t.IsCut n) :
    (position t n).offset? t = some n := by
  obtain ⟨above, head, tail, below, hplace⟩ := Text.exists_isPlace h
  have htext : t = above ++ (head ++ (tail ++ below)) := by
    rw [hplace.text_eq]
    simp only [List.append_assoc]
  have hhead : '\n' ∉ head := fun hmem => hplace.one_line (List.mem_append_left tail hmem)
  have hlines : skipLines (above.count '\n') t = some (head ++ (tail ++ below)) := by
    rw [htext]
    exact skipLines_append hplace.above_ends _
  have hoffset : t.size - (tail ++ below).size = n := by
    rw [htext, ← hplace.offset_eq]
    simp only [Text.size_append]
    omega
  rw [Position.offset?, position_eq hsize hplace, hlines, Option.bind_some,
    skipUnits_append hhead, Option.map_some, hoffset]

/-! ## Order -/

/-- By line, and on one line by character. -/
def Position.Precedes (p q : Position) : Prop :=
  p.line < q.line ∨ p.line = q.line ∧ p.character ≤ q.character

theorem position_precedes {t : Text} {n m : Nat} (hsize : t.size < 2 ^ 32) (hn : t.IsCut n)
    (hm : t.IsCut m) (hle : n ≤ m) : (position t n).Precedes (position t m) := by
  obtain ⟨above, head, tail, below, hplace⟩ := Text.exists_isPlace hn
  obtain ⟨above', head', tail', below', hplace'⟩ := Text.exists_isPlace hm
  have hbefore := Text.before_eq_append_slice hn hle
  have hlines := Text.lineOf_eq_add hn hle
  have hline := lineOf_sub_one hplace
  have hline' := lineOf_sub_one hplace'
  have hpos : 0 < t.lineOf n := Nat.succ_pos _
  rw [position_eq hsize hplace, position_eq hsize hplace']
  by_cases hnewline : '\n' ∈ t.slice n m
  · have hcount := List.count_pos_iff.mpr hnewline
    have hless : above.count '\n' < above'.count '\n' := by omega
    exact .inl hless
  · have hcount := List.count_eq_zero.mpr hnewline
    have hhead : head' = head ++ t.slice n m := by
      rw [← hplace.lineHead_eq, ← hplace'.lineHead_eq]
      exact Text.lineHead_of_append hbefore hnewline
    have hsame : above.count '\n' = above'.count '\n' := by omega
    have hunits : head.units ≤ head'.units := by
      rw [hhead, Text.units_append]
      exact Nat.le_add_right _ _
    exact .inr ⟨hsame, hunits⟩

end Editor

end PageLint
