import PageLint.Proofs.Text.Lines
import PageLint.Proofs.Text.Names

/-! # What a search finds

A search goes from left to right and passes over what a match takes. Where a pattern matches, there
is therefore a match, or one from further left reaches beyond that place. -/

namespace PageLint.Text

variable {α : Type} {p : Pattern α} {previous : Option Char} {front u t : Text} {c : Char}
  {n skip : Nat}

/-- The match that is found where a pattern matches, or from further left beyond that place. -/
theorem exists_mem_matchesFrom {found : α × Nat} (hskip : skip ≤ front.length)
    (h : p (front.getLast?.or previous) (c :: u) = some found) :
    ∃ a b x len, front = a ++ b ∧ p (a.getLast?.or previous) (b ++ c :: u) = some (x, len) ∧
      (b = [] ∨ b.length < len) ∧
      (n + a.size, x) ∈ matchesFrom p n previous skip (front ++ c :: u) := by
  induction front generalizing n previous skip with
  | nil =>
      obtain rfl := Nat.le_zero.mp hskip
      obtain ⟨x, len⟩ := found
      have hhere : p previous (c :: u) = some (x, len) := h
      refine ⟨[], [], x, len, rfl, h, .inl rfl, ?_⟩
      rw [List.nil_append, matchesFrom, hhere]
      exact List.mem_cons_self
  | cons d front ih =>
      rw [getLast?_cons_eq_or, Option.or_assoc, Option.some_or] at h
      have hlater : ∀ {k}, k ≤ front.length → ∃ a b x len, d :: front = a ++ b ∧
          p (a.getLast?.or previous) (b ++ c :: u) = some (x, len) ∧ (b = [] ∨ b.length < len) ∧
          (n + Text.size a, x) ∈ matchesFrom p (n + d.utf8Size) (some d) k (front ++ c :: u) := by
        intro k hk
        obtain ⟨a, b, x, len, rfl, hmatch, hreach, hmem⟩ := ih (n := n + d.utf8Size) hk h
        refine ⟨d :: a, b, x, len, rfl, ?_, hreach, ?_⟩
        · rwa [getLast?_cons_eq_or, Option.or_assoc, Option.some_or]
        · rwa [size_cons, ← Nat.add_assoc]
      rw [List.cons_append, matchesFrom.eq_def]
      dsimp only
      cases skip with
      | succ k => exact hlater (Nat.le_of_succ_le_succ hskip)
      | zero =>
          cases hfirst : p previous (d :: (front ++ c :: u)) with
          | none => exact hlater (Nat.zero_le _)
          | some first =>
              obtain ⟨x, len⟩ := first
              dsimp only
              by_cases hlen : (d :: front).length < len
              · exact ⟨[], d :: front, x, len, rfl, hfirst, .inr hlen, List.mem_cons_self⟩
              · have hle : len - 1 ≤ front.length := by
                  rw [List.length_cons] at hlen
                  omega
                obtain ⟨a, b, y, len', hsplit, hmatch, hreach, hmem⟩ := hlater hle
                exact ⟨a, b, y, len', hsplit, hmatch, hreach, List.mem_cons_of_mem _ hmem⟩

/-- A match is found wherever the pattern matches, if matches hold their first character once. -/
theorem mem_matchesOf {x : α} {len : Nat} (h : p front.getLast? (c :: u) = some (x, len))
    (hp : ∀ previous t y len, p previous t = some (y, len) → c ∉ (t.take len).tail) :
    (front.size, x) ∈ matchesOf p (front ++ c :: u) := by
  rw [← Option.or_none (o := front.getLast?)] at h
  obtain ⟨a, b, y, len', rfl, hmatch, hreach, hmem⟩ :=
    exists_mem_matchesFrom (n := 0) (Nat.zero_le _) h
  cases b with
  | nil =>
      rw [List.append_nil] at h ⊢
      obtain ⟨rfl, -⟩ := Prod.mk.inj (Option.some.inj (hmatch.symm.trans h))
      rw [Nat.zero_add, List.append_nil] at hmem
      exact hmem
  | cons d b =>
      have hlen := hreach.resolve_left (List.cons_ne_nil d b)
      obtain ⟨k, rfl⟩ := Nat.exists_eq_succ_of_ne_zero (Nat.ne_of_gt (Nat.zero_lt_of_lt hlen))
      have htaken : b ++ [c] <+: (b ++ c :: u).take k := by
        refine List.prefix_take_iff.mpr ⟨⟨u, by simp⟩, ?_⟩
        rw [List.length_append, List.length_singleton]
        exact Nat.lt_succ_iff.mp hlen
      exact absurd (htaken.subset (by simp)) (hp _ _ _ _ hmatch)

/-! ## Pieces of a text -/

/-- A text has one piece in front of the first occurrence of a character. -/
theorem eq_of_append_cons {a a' b b' : Text} (h : a ++ c :: b = a' ++ c :: b') (ha : c ∉ a)
    (ha' : c ∉ a') : a = a' ∧ b = b' := by
  have htake : ∀ {a b : Text}, c ∉ a → (a ++ c :: b).takeWhile (· != c) = a := fun hnot =>
    (span_append (fun d hd => bne_iff_ne.mpr (ne_of_mem_of_not_mem hd hnot)) (by simp)).1
  have hsame : a = a' := by rw [← htake ha, h, htake ha']
  subst hsame
  exact ⟨rfl, (List.cons.inj (List.append_cancel_left h)).2⟩

end PageLint.Text
