import PageLint.Proofs.Style.ByteMasking

/-! # The bytes of the masked copy

At every offset the masked copy has the byte of the source, a blank for one that ends no line, or a
parenthesis for a brace of an interpolation. So it has the length and the lines of the source. -/

namespace PageLint.Style

/-- What a masked copy of the bytes may have at offset `n`. -/
inductive CopiedAt (bytes : List UInt8) (n : Nat) : UInt8 → Prop where
  | kept {b : UInt8} (h : bytes[n]? = some b) : CopiedAt bytes n b
  | blanked {b : UInt8} (h : bytes[n]? = some b) (hline : b ≠ '\n'.toUInt8) :
      CopiedAt bytes n ' '.toUInt8
  | opened {m : Nat} (h : bytes[n]? = some '{'.toUInt8) (hbehind : n = m + 1)
      (hhash : bytes[m]? = some '#'.toUInt8) : CopiedAt bytes n '('.toUInt8
  | closed (h : bytes[n]? = some '}'.toUInt8) : CopiedAt bytes n ')'.toUInt8

/-- The copy is as long as the bytes that it is of, and has at each offset what it may have there. -/
structure Copies (bytes copy : List UInt8) : Prop where
  length_eq : copy.length = bytes.length
  copiedAt : ∀ n b, copy[n]? = some b → CopiedAt bytes n b

section

variable {word out : Text} {l l' r r' : List UInt8} {n : Nat} {b : UInt8} {s s' : MaskState}
  {c : Char} {next : Option Char}

namespace CopiedAt

theorem append_right (h : CopiedAt l n b) (r : List UInt8) : CopiedAt (l ++ r) n b := by
  have hfront : ∀ {m b}, l[m]? = some b → (l ++ r)[m]? = some b := fun {m b} hm => by
    obtain ⟨hlt, -⟩ := List.getElem?_eq_some_iff.mp hm
    rwa [List.getElem?_append_left hlt]
  cases h with
  | kept h => exact .kept (hfront h)
  | blanked h hline => exact .blanked (hfront h) hline
  | opened h hbehind hhash => exact .opened (hfront h) hbehind (hfront hhash)
  | closed h => exact .closed (hfront h)

theorem append_left (h : CopiedAt r n b) (l : List UInt8) : CopiedAt (l ++ r) (l.length + n) b := by
  have hback : ∀ {m b}, r[m]? = some b → (l ++ r)[l.length + m]? = some b := fun {m b} hm => by
    rwa [List.getElem?_append_right (Nat.le_add_right _ m), Nat.add_sub_cancel_left]
  cases h with
  | kept h => exact .kept (hback h)
  | blanked h hline => exact .blanked (hback h) hline
  | opened h hbehind hhash =>
      exact .opened (hback h) (by rw [hbehind, Nat.add_assoc]) (hback hhash)
  | closed h => exact .closed (hback h)

/-- A newline is copied from a newline, and to nothing else. -/
theorem newline_iff (h : CopiedAt l n b) : b = '\n'.toUInt8 ↔ l[n]? = some '\n'.toUInt8 := by
  cases h with
  | kept h => rw [h, Option.some_inj]
  | blanked h hline =>
      exact iff_of_false (by decide) fun hb => hline (Option.some.inj (h.symm.trans hb))
  | opened h | closed h =>
      exact iff_of_false (by decide) fun hb => absurd (Option.some.inj (h.symm.trans hb)) (by decide)

end CopiedAt

namespace Copies

theorem refl (l : List UInt8) : Copies l l := ⟨rfl, fun _ _ h => .kept h⟩

theorem blanks (l : List UInt8) : Copies l (l.map blankByte) := by
  refine ⟨List.length_map _, fun n b h => ?_⟩
  obtain ⟨a, ha, rfl⟩ := Option.map_eq_some_iff.mp (List.getElem?_map.symm.trans h)
  unfold blankByte
  split
  · exact .kept ha
  · rename_i hline
    exact .blanked ha hline

theorem append (h : Copies l l') (h' : Copies r r') : Copies (l ++ r) (l' ++ r') := by
  refine ⟨by rw [List.length_append, List.length_append, h.length_eq, h'.length_eq],
    fun n b hb => ?_⟩
  by_cases hn : n < l'.length
  · rw [List.getElem?_append_left hn] at hb
    exact (h.copiedAt n b hb).append_right r
  · obtain ⟨m, rfl⟩ := Nat.exists_eq_add_of_le (Nat.not_lt.mp hn)
    rw [List.getElem?_append_right (Nat.le_add_right _ m), Nat.add_sub_cancel_left] at hb
    rw [h.length_eq]
    exact (h'.copiedAt m b hb).append_left l

/-- Newlines stay at their offsets, and no other byte becomes one. -/
theorem newline_iff (h : Copies l l') (n : Nat) :
    l'[n]? = some '\n'.toUInt8 ↔ l[n]? = some '\n'.toUInt8 := by
  cases hn : l'[n]? with
  | none =>
      have hlength := h.length_eq ▸ List.getElem?_eq_none_iff.mp hn
      rw [List.getElem?_eq_none_iff.mpr hlength]
  | some b => rw [Option.some_inj, (h.copiedAt n b hn).newline_iff]

end Copies

/-- What a stride writes is a copy of the word that it takes. -/
theorem Stride.copies (h : Stride n s c next word out s') : Copies word.bytes out.bytes := by
  have hblank : ∀ t : Text, Copies t.bytes (Text.bytes (t.flatMap blanked)) := fun t => by
    rw [bytes_flatMap_blanked]
    exact .blanks t.bytes
  cases h with
  | nest | unnest | comment | lineComment | lastEscape => exact hblank _
  | commented | quoted | inLine =>
      have hword := hblank [c]
      rwa [List.flatMap_singleton] at hword
  | escape _ e =>
      have hword := hblank ['\\', e]
      rwa [List.flatMap_cons, List.flatMap_singleton] at hword
  | interpolation =>
      refine ⟨rfl, fun n b h => ?_⟩
      match n with
      | 0 => exact .kept h
      | 1 =>
          obtain rfl := Option.some.inj h
          exact .opened rfl rfl rfl
  | closeInterpolation =>
      refine ⟨rfl, fun n b h => ?_⟩
      match n with
      | 0 =>
          obtain rfl := Option.some.inj h
          exact .closed rfl
  | unquote | endLine | quote | openParen | closeParen | plain => exact .refl _

theorem copies_mask (source : Text) : Copies source.bytes (mask source).bytes :=
  maskFrom_related (R := fun t copy => Copies t.bytes copy.bytes) (.refl _)
    (fun h h' => by
      rw [Text.bytes_append, Text.bytes_append]
      exact h.append h')
    Stride.copies 0 MaskState.isQuoted_start source

end

/-- The scan over the bytes of a style sheet ends after no more steps than there are bytes. The copy
that it has made is well-formed UTF-8, namely that of the masked text. It has the length of the
source and newlines at the same offsets, and it has blanks, or parentheses for the braces of
interpolations, for all bytes that it does not have from the source. -/
theorem exists_run_mask (source : Text) :
    ∃ steps last, steps ≤ source.size ∧ ByteScan.Run source steps { out := source.bytes } last ∧
      last.step? source = .ok none ∧ Text.ofBytes? last.out = some (mask source) ∧
      last.out.length = source.bytes.length ∧
      (∀ n : Nat, last.out[n]? = some '\n'.toUInt8 ↔ source.bytes[n]? = some '\n'.toUInt8) ∧
      ∀ n b, last.out[n]? = some b → CopiedAt source.bytes n b := by
  obtain ⟨steps, last, hsteps, hrun, hend, hout⟩ := (ByteScan.Follows.start source).exists_run
  have hcopy : last.out = (mask source).bytes := hout
  have hcopies : Copies source.bytes last.out := hcopy ▸ copies_mask source
  exact ⟨steps, last, hsteps, hrun, hend, hcopy ▸ Text.ofBytes?_bytes (mask source),
    hcopies.length_eq, hcopies.newline_iff, hcopies.copiedAt⟩

end PageLint.Style
