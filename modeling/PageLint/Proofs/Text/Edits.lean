import PageLint.Text.Basic
import Mathlib.Order.Bounds.Defs

/-! # How far two texts are apart

The distance of two texts is the least number of characters that are inserted, deleted or exchanged,
one after the other, in order to turn the one into the other. Such edits can be made anywhere and
undo each other. The cheapest of them only pair characters of the two texts in order, and pairings
can be put together one character after the other. -/

namespace PageLint.Text

variable {a b : Text} {k n : Nat}

/-! ## Edits -/

/-- One character is inserted, deleted or exchanged. -/
inductive Edited : Text → Text → Prop where
  | insert (front : Text) (c : Char) (back : Text) : Edited (front ++ back) (front ++ c :: back)
  | delete (front : Text) (c : Char) (back : Text) : Edited (front ++ c :: back) (front ++ back)
  | exchange (front : Text) (c d : Char) (back : Text) :
      Edited (front ++ c :: back) (front ++ d :: back)

/-- That many edits, one after the other, turn the first text into the second. -/
inductive EditedIn : Nat → Text → Text → Prop where
  | refl (a : Text) : EditedIn 0 a a
  | step {n : Nat} {a b c : Text} (h : Edited a b) (rest : EditedIn n b c) : EditedIn (n + 1) a c

theorem Edited.cons (h : Edited a b) (c : Char) : Edited (c :: a) (c :: b) := by
  cases h with
  | insert front d back => exact .insert (c :: front) d back
  | delete front d back => exact .delete (c :: front) d back
  | exchange front d e back => exact .exchange (c :: front) d e back

theorem Edited.reverse (h : Edited a b) : Edited a.reverse b.reverse := by
  cases h with
  | insert front c back => simpa using Edited.insert back.reverse c front.reverse
  | delete front c back => simpa using Edited.delete back.reverse c front.reverse
  | exchange front c d back => simpa using Edited.exchange back.reverse c d front.reverse

theorem EditedIn.cons (h : EditedIn n a b) (c : Char) : EditedIn n (c :: a) (c :: b) := by
  induction h with
  | refl a => exact .refl (c :: a)
  | step h _ ih => exact .step (h.cons c) ih

theorem EditedIn.reverse (h : EditedIn n a b) : EditedIn n a.reverse b.reverse := by
  induction h with
  | refl a => exact .refl a.reverse
  | step h _ ih => exact .step h.reverse ih

/-- `k` is the least number of edits that turn the first text into the second. -/
def IsDistance (a b : Text) (k : Nat) : Prop := IsLeast {n | EditedIn n a b} k

/-! ## Pairings -/

/-- Characters of the two texts are paired in order. Each that has no partner costs one, and so does
a pair, unless its characters are the same. -/
inductive Paired : Nat → Text → Text → Prop where
  | nil : Paired 0 [] []
  | keep {n : Nat} {a b : Text} (c : Char) (rest : Paired n a b) : Paired n (c :: a) (c :: b)
  | exchange {n : Nat} {a b : Text} (c d : Char) (rest : Paired n a b) :
      Paired (n + 1) (c :: a) (d :: b)
  | delete {n : Nat} {a b : Text} (c : Char) (rest : Paired n a b) : Paired (n + 1) (c :: a) b
  | insert {n : Nat} {a b : Text} (d : Char) (rest : Paired n a b) : Paired (n + 1) a (d :: b)

namespace Paired

theorem refl (a : Text) : Paired 0 a a := by
  induction a with
  | nil => exact .nil
  | cons c a ih => exact .keep c ih

theorem symm (h : Paired n a b) : Paired n b a := by
  induction h with
  | nil => exact .nil
  | keep c _ ih => exact .keep c ih
  | exchange c d _ ih => exact .exchange d c ih
  | delete c _ ih => exact .insert c ih
  | insert d _ ih => exact .delete d ih

theorem editedIn (h : Paired n a b) : EditedIn n a b := by
  induction h with
  | nil => exact .refl []
  | keep c _ ih => exact ih.cons c
  | exchange c d _ ih => exact .step (.exchange [] c d _) (ih.cons d)
  | delete c _ ih => exact .step (.delete [] c _) ih
  | insert d _ ih => exact .step (.insert [] d _) (ih.cons d)

end Paired

/-! ## Pairings and edits -/

/-- What the second text is paired with, the first is at a cost that is higher by at most one. -/
def IsNextTo (a a' : Text) : Prop :=
  ∀ ⦃n : Nat⦄ ⦃b : Text⦄, Paired n a' b → ∃ m ≤ n + 1, Paired m a b

theorem isNextTo_delete (c : Char) (a : Text) : IsNextTo (c :: a) a :=
  fun _ _ h => ⟨_, Nat.le_refl _, .delete c h⟩

/-- The partner of a character that is taken away is left over. -/
theorem isNextTo_insert (c : Char) (a : Text) : IsNextTo a (c :: a) := by
  intro n b h
  induction b generalizing n with
  | nil =>
      cases h with
      | delete _ rest => exact ⟨_, by omega, rest⟩
  | cons d b ih =>
      cases h with
      | keep _ rest => exact ⟨_, Nat.le_refl _, .insert c rest⟩
      | exchange _ _ rest => exact ⟨_, by omega, .insert d rest⟩
      | delete _ rest => exact ⟨_, by omega, rest⟩
      | insert _ rest =>
          obtain ⟨m, hm, hpaired⟩ := ih rest
          exact ⟨m + 1, by omega, .insert d hpaired⟩

theorem isNextTo_exchange (c d : Char) (a : Text) : IsNextTo (c :: a) (d :: a) := by
  intro n b h
  induction b generalizing n with
  | nil =>
      cases h with
      | delete _ rest => exact ⟨_, by omega, .delete c rest⟩
  | cons e b ih =>
      cases h with
      | keep _ rest => exact ⟨_, Nat.le_refl _, .exchange c d rest⟩
      | exchange _ _ rest => exact ⟨_, by omega, .exchange c e rest⟩
      | delete _ rest => exact ⟨_, by omega, .delete c rest⟩
      | insert _ rest =>
          obtain ⟨m, hm, hpaired⟩ := ih rest
          exact ⟨m + 1, by omega, .insert e hpaired⟩

theorem IsNextTo.cons {a' : Text} (h : IsNextTo a a') (c : Char) :
    IsNextTo (c :: a) (c :: a') := by
  intro n b hpaired
  induction b generalizing n with
  | nil =>
      cases hpaired with
      | delete _ rest =>
          obtain ⟨m, hm, hrest⟩ := h rest
          exact ⟨m + 1, by omega, .delete c hrest⟩
  | cons e b ih =>
      cases hpaired with
      | keep _ rest =>
          obtain ⟨m, hm, hrest⟩ := h rest
          exact ⟨m, hm, .keep c hrest⟩
      | exchange _ _ rest =>
          obtain ⟨m, hm, hrest⟩ := h rest
          exact ⟨m + 1, by omega, .exchange c e hrest⟩
      | delete _ rest =>
          obtain ⟨m, hm, hrest⟩ := h rest
          exact ⟨m + 1, by omega, .delete c hrest⟩
      | insert _ rest =>
          obtain ⟨m, hm, hrest⟩ := ih rest
          exact ⟨m + 1, by omega, .insert e hrest⟩

theorem IsNextTo.append {a' : Text} (h : IsNextTo a a') (front : Text) :
    IsNextTo (front ++ a) (front ++ a') := by
  induction front with
  | nil => exact h
  | cons c front ih => exact ih.cons c

theorem Edited.isNextTo {a' : Text} (h : Edited a a') : IsNextTo a a' := by
  cases h with
  | insert front c back => exact (isNextTo_insert c back).append front
  | delete front c back => exact (isNextTo_delete c back).append front
  | exchange front c d back => exact (isNextTo_exchange c d back).append front

theorem EditedIn.exists_paired (h : EditedIn n a b) : ∃ m ≤ n, Paired m a b := by
  induction h with
  | refl a => exact ⟨0, Nat.le_refl 0, .refl a⟩
  | step h _ ih =>
      obtain ⟨m, hm, hpaired⟩ := ih
      obtain ⟨m', hm', hpaired'⟩ := h.isNextTo hpaired
      exact ⟨m', by omega, hpaired'⟩

/-- The least number of edits is the least cost of a pairing. -/
theorem isDistance_iff : IsDistance a b k ↔ IsLeast {n | Paired n a b} k := by
  constructor
  · rintro ⟨hedited, hleast⟩
    obtain ⟨m, hm, hpaired⟩ := EditedIn.exists_paired hedited
    have hk : k ≤ m := hleast hpaired.editedIn
    obtain rfl := Nat.le_antisymm hm hk
    exact ⟨hpaired, fun n hn => hleast hn.editedIn⟩
  · rintro ⟨hpaired, hleast⟩
    refine ⟨hpaired.editedIn, fun n hn => ?_⟩
    obtain ⟨m, hm, hpaired'⟩ := EditedIn.exists_paired hn
    exact Nat.le_trans (hleast hpaired') hm

/-! ## The distance of longer texts -/

namespace IsDistance

theorem reverse (h : IsDistance a b k) : IsDistance a.reverse b.reverse k := by
  refine ⟨h.1.reverse, fun n hn => h.2 ?_⟩
  have hback := EditedIn.reverse hn
  rwa [List.reverse_reverse, List.reverse_reverse] at hback

theorem nil : IsDistance [] [] 0 := ⟨.refl [], fun _ _ => Nat.zero_le _⟩

theorem delete (c : Char) (h : IsDistance a [] k) : IsDistance (c :: a) [] (k + 1) := by
  rw [isDistance_iff] at h ⊢
  refine ⟨.delete c h.1, fun n hn => ?_⟩
  cases hn with
  | delete _ rest => exact Nat.succ_le_succ (h.2 rest)

theorem insert (d : Char) (h : IsDistance [] b k) : IsDistance [] (d :: b) (k + 1) := by
  rw [isDistance_iff] at h ⊢
  refine ⟨.insert d h.1, fun n hn => ?_⟩
  cases hn with
  | insert _ rest => exact Nat.succ_le_succ (h.2 rest)

/-- Two equal characters are best paired with each other: one that is paired elsewhere, or not at
all, costs as much as the other one then does. -/
theorem keep (c : Char) (h : IsDistance a b k) : IsDistance (c :: a) (c :: b) k := by
  rw [isDistance_iff] at h ⊢
  refine ⟨.keep c h.1, fun n hn => ?_⟩
  cases hn with
  | keep _ rest => exact h.2 rest
  | exchange _ _ rest => exact Nat.le_succ_of_le (h.2 rest)
  | delete _ rest =>
      obtain ⟨m, hm, hpaired⟩ := isNextTo_insert c b rest.symm
      exact Nat.le_trans (h.2 hpaired.symm) hm
  | insert _ rest =>
      obtain ⟨m, hm, hpaired⟩ := isNextTo_insert c a rest
      exact Nat.le_trans (h.2 hpaired) hm

/-- Two different characters are exchanged for each other, or one of them is left over. -/
theorem exchange {c d : Char} {above left : Nat} (hne : c ≠ d) (h : IsDistance a b k)
    (habove : IsDistance a (d :: b) above) (hleft : IsDistance (c :: a) b left) :
    IsDistance (c :: a) (d :: b) (1 + min (min k above) left) := by
  rw [isDistance_iff] at h habove hleft ⊢
  constructor
  · rcases Nat.le_total (min k above) left with hle | hle
    · rw [Nat.min_eq_left hle, Nat.add_comm]
      rcases Nat.le_total k above with hle | hle
      · rw [Nat.min_eq_left hle]
        exact .exchange c d h.1
      · rw [Nat.min_eq_right hle]
        exact .delete c habove.1
    · rw [Nat.min_eq_right hle, Nat.add_comm]
      exact .insert d hleft.1
  · intro n hn
    cases hn with
    | keep _ _ => exact absurd rfl hne
    | exchange _ _ rest =>
        have hk := h.2 rest
        omega
    | delete _ rest =>
        have hk := habove.2 rest
        omega
    | insert _ rest =>
        have hk := hleft.2 rest
        omega

end IsDistance

end PageLint.Text
