import PageLint.Proofs.Text.Lines

/-! # Balanced parentheses

A text is balanced if each of its parentheses has its partner in it. -/

namespace PageLint.Text

variable {t a b : Text} {k m : Nat} {c : Char}

/-- How many parentheses are open behind a text, if `k` are open in front of it. There is no answer
where a closing one has none to close. -/
def openParentheses? : Nat → Text → Option Nat
  | k, [] => some k
  | k, c :: t =>
    if c = '(' then openParentheses? (k + 1) t
    else if c = ')' then
      match k with
      | 0 => none
      | k + 1 => openParentheses? k t
    else openParentheses? k t

def IsBalanced (t : Text) : Prop := openParentheses? 0 t = some 0

instance (t : Text) : Decidable t.IsBalanced := inferInstanceAs (Decidable (_ = _))

def isParenthesis (c : Char) : Bool := c = '(' || c = ')'

@[simp] theorem openParentheses?_nil (k : Nat) : openParentheses? k [] = some k := rfl

@[simp] theorem openParentheses?_open (k : Nat) (t : Text) :
    openParentheses? k ('(' :: t) = openParentheses? (k + 1) t := rfl

@[simp] theorem openParentheses?_close_zero (t : Text) : openParentheses? 0 (')' :: t) = none := rfl

@[simp] theorem openParentheses?_close (k : Nat) (t : Text) :
    openParentheses? (k + 1) (')' :: t) = openParentheses? k t := rfl

theorem openParentheses?_other (h : isParenthesis c = false) (k : Nat) (t : Text) :
    openParentheses? k (c :: t) = openParentheses? k t := by
  simp only [isParenthesis, Bool.or_eq_false_iff, decide_eq_false_iff_not] at h
  rw [openParentheses?.eq_def]
  dsimp only
  rw [if_neg h.1, if_neg h.2]

theorem openParentheses?_append (k : Nat) (a b : Text) :
    openParentheses? k (a ++ b) = (openParentheses? k a).bind (openParentheses? · b) := by
  induction a generalizing k with
  | nil => rfl
  | cons c a ih =>
      rw [List.cons_append]
      by_cases hopen : c = '('
      · subst hopen
        exact ih (k + 1)
      · by_cases hclose : c = ')'
        · subst hclose
          cases k with
          | zero => rfl
          | succ k => exact ih k
        · have hother : isParenthesis c = false := by simp [isParenthesis, hopen, hclose]
          rw [openParentheses?_other hother, openParentheses?_other hother, ih]

theorem openParentheses?_of_forall (h : ∀ c ∈ t, isParenthesis c = false) (k : Nat) :
    openParentheses? k t = some k := by
  induction t with
  | nil => rfl
  | cons c t ih =>
      obtain ⟨hc, ht⟩ := List.forall_mem_cons.mp h
      rw [openParentheses?_other hc, ih ht]

/-- Without an opening parenthesis, a balanced text has no closing one. -/
theorem IsBalanced.forall_not_isParenthesis (h : t.IsBalanced) (hopen : '(' ∉ t) :
    ∀ c ∈ t, isParenthesis c = false := by
  have hclose : ')' ∉ t := by
    intro hmem
    obtain ⟨front, back, rfl, hfront⟩ := List.eq_append_cons_of_mem hmem
    have hplain : ∀ c ∈ front, isParenthesis c = false := by
      intro c hc
      have hne : c ≠ '(' ∧ c ≠ ')' :=
        ⟨fun he => hopen (he ▸ List.mem_append_left _ hc), fun he => hfront (he ▸ hc)⟩
      simp [isParenthesis, hne]
    rw [IsBalanced, openParentheses?_append, openParentheses?_of_forall hplain] at h
    cases h
  intro c hc
  have hne : c ≠ '(' ∧ c ≠ ')' := ⟨fun he => hopen (he ▸ hc), fun he => hclose (he ▸ hc)⟩
  simp [isParenthesis, hne]

/-- The last parenthesis of a balanced text is a closing one. -/
theorem IsBalanced.exists_last (h : t.IsBalanced) (hopen : '(' ∈ t) :
    ∃ front back, t = front ++ ')' :: back ∧ ∀ c ∈ back, isParenthesis c = false := by
  obtain ⟨back, hsplit, hback, hlast⟩ := exists_eq_dropEndWhile_append (!isParenthesis ·) t
  have hplain : ∀ c ∈ back, isParenthesis c = false := by simpa using hback
  have hne : dropEndWhile (!isParenthesis ·) t ≠ [] := by
    intro hnil
    rw [hnil, List.nil_append] at hsplit
    exact absurd (hplain '(' (hsplit ▸ hopen)) (by decide)
  obtain ⟨front, c, hfront⟩ := (List.eq_nil_or_concat _).resolve_left hne
  rw [List.concat_eq_append] at hfront
  have hc : isParenthesis c = true := by
    have hc := hlast c (by rw [hfront, List.getLast?_concat])
    simpa using hc
  rw [hfront, List.append_assoc, List.singleton_append] at hsplit
  simp only [isParenthesis, Bool.or_eq_true, decide_eq_true_eq] at hc
  rcases hc with rfl | rfl
  · rw [hsplit, IsBalanced, openParentheses?_append] at h
    obtain ⟨k, -, hk⟩ := Option.bind_eq_some_iff.mp h
    rw [openParentheses?_open, openParentheses?_of_forall hplain] at hk
    cases hk
  · exact ⟨front, back, hsplit, hplain⟩

end PageLint.Text
