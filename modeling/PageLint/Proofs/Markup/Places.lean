import PageLint.Markup.Check
import PageLint.Proofs.Text.Slices
import PageLint.Proofs.Text.Trimming

/-! # Places of attributes

An attribute covers characters of its tag, and the white space in front of it goes up to what is
left of the tag's text when it is trimmed there. -/

namespace PageLint.Markup

open Text (EndsVisibly)

/-! ## Values -/

namespace Attribute

theorem isBlank_of_isNameChar {c : Char} (h : isNameChar c) : Text.isBlank c = false := by
  simp only [isNameChar, Bool.and_eq_true, Bool.not_eq_true'] at h
  exact h.1

theorem isBlank_of_isUnquotedChar {c : Char} (h : isUnquotedChar c) : Text.isBlank c = false := by
  simp only [isUnquotedChar, Bool.and_eq_true, Bool.not_eq_true'] at h
  exact h.1

theorem endsVisibly_cons_takeWhile {p : Char → Bool} (hp : ∀ c, p c → Text.isBlank c = false)
    {c : Char} (hc : Text.isBlank c = false) (t : Text) : EndsVisibly (c :: t.takeWhile p) := by
  refine Text.endsVisibly_of_forall (by simp) fun d hd => ?_
  rcases List.mem_cons.mp hd with rfl | hd
  · exact hc
  · exact hp d (List.all_eq_true.mp List.all_takeWhile d hd)

/-- A value ends with a quote, or with a character that stands for itself. -/
theorem exists_of_value? {t rest : Text} {quoted : Option Text}
    (h : value? t = some (quoted, rest)) : ∃ word, t = word ++ rest ∧ EndsVisibly word := by
  cases t with
  | nil => simp [value?] at h
  | cons c t =>
      rw [value?] at h
      split at h
      · rename_i hquote
        split at h
        · cases h
        · rename_i d rest' hsplit
          simp only [Option.some.injEq, Prod.mk.injEq] at h
          obtain ⟨-, rfl⟩ := h
          have hd : d = c := by
            have hhead := List.head?_dropWhile_not (· != c) t
            rw [hsplit] at hhead
            simpa using hhead
          have hjoin := List.takeWhile_append_dropWhile (p := (· != c)) (l := t)
          rw [hsplit, hd] at hjoin
          refine ⟨c :: t.takeWhile (· != c) ++ [c], ?_, c :: t.takeWhile (· != c), c, rfl, ?_⟩
          · rw [List.append_assoc, List.cons_append, List.singleton_append, hjoin]
          · simp only [Bool.or_eq_true, decide_eq_true_eq] at hquote
            rcases hquote with rfl | rfl <;> decide
      · split at h
        · rename_i hunquoted
          simp only [Option.some.injEq, Prod.mk.injEq] at h
          obtain ⟨-, rfl⟩ := h
          refine ⟨c :: t.takeWhile isUnquotedChar, ?_, endsVisibly_cons_takeWhile
            (fun _ => isBlank_of_isUnquotedChar) (isBlank_of_isUnquotedChar hunquoted) t⟩
          rw [List.cons_append, List.takeWhile_append_dropWhile]
        · cases h

theorem exists_of_assigned? {t rest : Text} {quoted : Option Text}
    (h : assigned? t = some (quoted, rest)) : ∃ word, t = word ++ rest ∧ EndsVisibly word := by
  unfold assigned? at h
  split at h
  · rename_i u hsplit
    obtain ⟨word, hword, hends⟩ := exists_of_value? h
    obtain ⟨front, hfront⟩ := Text.trimStart_suffix t
    obtain ⟨inner, hinner⟩ := Text.trimStart_suffix u
    refine ⟨front ++ '=' :: inner ++ word, ?_, hends.append _⟩
    rw [List.append_assoc, ← hword, List.append_assoc, List.cons_append, hinner, ← hsplit, hfront]
  · cases h

/-- Behind a name stands a value, or the name is all. -/
theorem exists_of_tail (t : Text) :
    ∃ word, t = word ++ (tail t).2 ∧ (word = [] ∨ EndsVisibly word) := by
  unfold tail
  cases h : assigned? t with
  | none => exact ⟨[], rfl, .inl rfl⟩
  | some r =>
      obtain ⟨word, hword, hends⟩ := exists_of_assigned? h
      exact ⟨word, hword, .inr hends⟩

end Attribute

/-! ## Attributes -/

/-- The attribute is a piece of a tag's text that starts at offset `n`, and its blanks are those at
the end of what stands in front of it. -/
structure Attribute.IsOf (n : Nat) (attrs : Text) (a : Attribute) : Prop where
  split : ∃ front word back, attrs = front ++ word ++ back ∧ a.start = n + front.size ∧
    a.stop = n + front.size + word.size ∧ a.blanks = front.size - front.trimEnd.size

theorem isOf_of_mem_attributesFrom {base : Nat} {attrs : Text} (n blanks : Nat) (t : Text) :
    ∀ front, attrs = front ++ t → n = base + front.size →
      blanks = front.size - front.trimEnd.size →
        ∀ a ∈ attributesFrom n blanks t, a.IsOf base attrs := by
  induction n, blanks, t using attributesFrom.induct with
  | case1 n blanks =>
      intro front hattrs hn hblanks a ha
      rw [attributesFrom] at ha
      cases ha
  | case2 n blanks c t hname tail stop ih =>
      intro front hattrs hn hblanks a ha
      obtain ⟨value, hvalue, hends⟩ :=
        Attribute.exists_of_tail (t.dropWhile Attribute.isNameChar)
      have hword : c :: t = c :: t.takeWhile Attribute.isNameChar ++ value ++ tail.2 := by
        rw [List.append_assoc, ← hvalue, List.cons_append, List.takeWhile_append_dropWhile]
      have hvisible : EndsVisibly (c :: t.takeWhile Attribute.isNameChar ++ value) := by
        have hstart : EndsVisibly (c :: t.takeWhile Attribute.isNameChar) :=
          Attribute.endsVisibly_cons_takeWhile (fun _ => Attribute.isBlank_of_isNameChar)
            (Attribute.isBlank_of_isNameChar hname) t
        rcases hends with rfl | hends
        · rwa [List.append_nil]
        · exact hends.append _
      generalize c :: t.takeWhile Attribute.isNameChar ++ value = word at hword hvisible
      have hstop : stop = n + Text.size word := by
        have hsize := congrArg Text.size hword
        rw [Text.size_append] at hsize
        change n + (Text.size (c :: t) - tail.2.size) = _
        omega
      rw [attributesFrom, ite_cond_eq_true _ _ (eq_true hname)] at ha
      rcases List.mem_cons.mp ha with rfl | ha
      · exact ⟨front, word, tail.2, by rw [hattrs, hword, List.append_assoc], hn,
          hstop.trans (by rw [hn]), hblanks⟩
      · refine ih (front ++ word) ?_ ?_ ?_ a ha
        · rw [hattrs, hword, List.append_assoc]
        · rw [hstop, hn, Text.size_append]
          omega
        · rw [(hvisible.append front).trimEnd_eq, Nat.sub_self]
  | case3 n blanks c t hname ih =>
      intro front hattrs hn hblanks a ha
      rw [attributesFrom, ite_cond_eq_false _ _ (eq_false hname)] at ha
      have hle := Text.size_trimEnd_le front
      refine ih (front ++ [c]) ?_ ?_ ?_ a ha
      · rw [hattrs, List.append_assoc, List.singleton_append]
      · rw [hn, Text.size_append]
        simp [Nat.add_assoc]
      · rw [Text.trimEnd_concat]
        split
        · rw [Text.size_append, Text.size_cons, Text.size_nil]
          omega
        · rw [Nat.sub_self]

theorem isOf_of_mem_attributes {n : Nat} {attrs : Text} {a : Attribute}
    (h : a ∈ attributes n attrs) : a.IsOf n attrs :=
  isOf_of_mem_attributesFrom n 0 attrs [] rfl rfl rfl a h

/-- The removal of an attribute, with the blanks in front of it found by a slice of the tag's
text. -/
def Attribute.slicedRemoval (n : Nat) (attrs : Text) (a : Attribute) : Except Fault Edit := do
  let front ← attrs.sliceTo (a.start - n)
  return .delete (a.start - (front.size - front.trimEnd.size)) a.stop

theorem Attribute.IsOf.slicedRemoval_eq {n : Nat} {attrs : Text} {a : Attribute}
    (h : a.IsOf n attrs) : a.slicedRemoval n attrs = .ok a.removal := by
  obtain ⟨front, word, back, rfl, hstart, -, hblanks⟩ := h.split
  have hsub : a.start - n = front.size := by omega
  rw [slicedRemoval, hsub, List.append_assoc, Text.sliceTo_append, removal, hblanks]
  rfl

end PageLint.Markup
