import Mathlib.Order.Bounds.Basic
import PageLint.Proofs.Script.Headers
import PageLint.Proofs.Text.Slices

/-! # Back to an opening parenthesis

The search for the partner of a final parenthesis goes back and counts the closing ones that wait
for theirs. It comes to no opening one while none waits, so it stops at the last place from which on
the text has as many opening parentheses as closing ones. -/

namespace PageLint.Script.Header

variable {t behind u : Text} {c : Char} {k n : Nat}

/-- An opening parenthesis stands at offset `n`, and from there on there are as many opening ones as
closing ones. -/
def IsOpening (t : Text) (n : Nat) : Prop :=
  ∃ back, t.StandsAt n ('(' :: back) ∧ ('(' :: back).count '(' = ('(' :: back).count ')'

/-- The search in `t` comes to a place: `k` closing parentheses wait, `behind` has been passed, and
the last parameter is the text in front, from its end on. -/
inductive Searches (t : Text) : Nat → Text → Text → Prop where
  | start : Searches t 0 [] t.reverse
  | close {k : Nat} {behind u : Text} :
      Searches t k behind (')' :: u) → Searches t (k + 1) (')' :: behind) u
  | opening {k : Nat} {behind u : Text} :
      Searches t (k + 2) behind ('(' :: u) → Searches t (k + 1) ('(' :: behind) u
  | other {k : Nat} {behind u : Text} {c : Char} :
      Searches t k behind (c :: u) → c ≠ '(' → c ≠ ')' → Searches t k (c :: behind) u

namespace Searches

/-! ## Places of the search -/

/-- The places are those of the search. -/
theorem splitAtOpening?_eq (h : Searches t k behind u) :
    splitAtOpening? t = backToOpening k behind u := by
  induction h with
  | start => rfl
  | close _ ih => exact ih
  | opening _ ih => exact ih
  | other _ hopen hclose ih => rw [ih, backToOpening_other hopen hclose]

theorem append_eq (h : Searches t k behind u) : u.reverse ++ behind = t := by
  induction h with
  | start => simp
  | close _ ih => simpa using ih
  | opening _ ih => simpa using ih
  | other _ _ _ ih => simpa using ih

/-- The parentheses that wait are the closing ones that have been passed, less the opening ones. -/
theorem count_eq (h : Searches t k behind u) : behind.count ')' = behind.count '(' + k := by
  induction h with
  | start => rfl
  | close _ ih =>
      simp only [List.count_cons_self, List.count_cons_of_ne (show ')' ≠ '(' by decide)]
      omega
  | opening _ ih =>
      simp only [List.count_cons_self, List.count_cons_of_ne (show '(' ≠ ')' by decide)]
      omega
  | other _ hopen hclose ih =>
      rwa [List.count_cons_of_ne hclose, List.count_cons_of_ne hopen]

/-- No opening parenthesis that has been passed is the one that is looked for. -/
theorem count_ne (h : Searches t k behind u) {back : Text} (hback : '(' :: back <:+ behind) :
    ('(' :: back).count '(' ≠ ('(' :: back).count ')' := by
  induction h with
  | start => simp at hback
  | close _ ih =>
      rcases List.suffix_cons_iff.mp hback with heq | hback
      · exact absurd (List.cons.inj heq).1 (by decide)
      · exact ih hback
  | opening hsearch ih =>
      rcases List.suffix_cons_iff.mp hback with heq | hback
      · have hcount := hsearch.count_eq
        rw [heq, List.count_cons_self, List.count_cons_of_ne (by decide)]
        omega
      · exact ih hback
  | other _ hopen _ ih =>
      rcases List.suffix_cons_iff.mp hback with heq | hback
      · exact absurd (List.cons.inj heq).1.symm hopen
      · exact ih hback

/-- Nothing has been passed but at the end of the text. -/
theorem getLast?_eq (h : Searches t k [] (c :: u)) : t.getLast? = some c := by
  rw [← h.append_eq]
  simp

/-- Behind the final parenthesis, there is always one that waits. -/
theorem pos_of_ne_nil (h : Searches t k behind u) (hlast : t.getLast? = some ')')
    (hne : behind ≠ []) : 0 < k := by
  induction h with
  | start => exact absurd rfl hne
  | close _ _ => exact Nat.succ_pos _
  | opening _ _ => exact Nat.succ_pos _
  | @other k behind u c hsearch _ hclose ih =>
      by_cases hnil : behind = []
      · subst hnil
        have hc := hsearch.getLast?_eq
        rw [hlast] at hc
        exact absurd (Option.some.inj hc).symm hclose
      · exact ih hnil

/-- The search comes to no opening parenthesis for which none waits. -/
theorem pos_of_opening (h : Searches t k behind ('(' :: u)) (hlast : t.getLast? = some ')') :
    0 < k := by
  apply h.pos_of_ne_nil hlast
  intro hnil
  subst hnil
  have hopen := h.getLast?_eq
  rw [hlast] at hopen
  exact absurd (Option.some.inj hopen) (by decide)

/-! ## Ends of the search -/

/-- The search ends at the opening parenthesis that the last waiting one belongs to, at one that
nothing waits for, or in front of the text. -/
theorem exists_end (h : Searches t k behind u) :
    (∃ behind u, Searches t 1 behind ('(' :: u) ∧
      splitAtOpening? t = some (u.reverse, '(' :: behind)) ∨
    (∃ behind u, Searches t 0 behind ('(' :: u)) ∨
    ∃ k, Searches t k t [] ∧ splitAtOpening? t = none := by
  induction u generalizing k behind with
  | nil =>
      obtain rfl : behind = t := h.append_eq
      exact .inr (.inr ⟨k, h, h.splitAtOpening?_eq⟩)
  | cons c u ih =>
      by_cases hopen : c = '('
      · subst hopen
        match k, h with
        | 0, h => exact .inr (.inl ⟨behind, u, h⟩)
        | 1, h => exact .inl ⟨behind, u, h, h.splitAtOpening?_eq⟩
        | k + 2, h => exact ih h.opening
      · by_cases hclose : c = ')'
        · subst hclose
          exact ih h.close
        · exact ih (h.other hopen hclose)

/-- Where the last waiting parenthesis finds its partner, no later place will do. -/
theorem isGreatest (h : Searches t 1 behind ('(' :: u)) :
    IsGreatest {n | IsOpening t n} (Text.size u.reverse) := by
  have hcount := h.count_eq
  have hsplit : t = u.reverse ++ '(' :: behind := by
    rw [← h.append_eq]
    simp
  refine ⟨⟨behind, ⟨u.reverse, hsplit, rfl⟩, ?_⟩, ?_⟩
  · rw [List.count_cons_self, List.count_cons_of_ne (by decide), hcount]
  · intro n hn
    obtain ⟨back, ⟨front, hfront, rfl⟩, hbalanced⟩ := hn
    rcases List.append_eq_append_iff.mp (hfront.symm.trans hsplit) with
      ⟨more, hmore, -⟩ | ⟨more, rfl, hmore⟩
    · rw [hmore, Text.size_append]
      exact Nat.le_add_right _ _
    · cases more with
      | nil => simp
      | cons d more =>
          have hback : '(' :: back <:+ behind := ⟨more, (List.cons.inj hmore).2.symm⟩
          exact absurd hbalanced (h.count_ne hback)

/-- Where the search has come to the front of the text, there is no such place. -/
theorem not_isOpening (h : Searches t k t []) (n : Nat) : ¬ IsOpening t n := by
  rintro ⟨back, ⟨front, hfront, -⟩, hbalanced⟩
  exact h.count_ne ⟨front, hfront.symm⟩ hbalanced

end Searches

/-- Behind some text and a closing parenthesis, the search finds the last place from which on there
are as many opening parentheses as closing ones, and nothing if there is no such place. It never
gives up early: at each place that it comes to, a closing one waits if an opening one is next. -/
theorem splitAtOpening?_isGreatest (text : Text) :
    (∀ n, (splitAtOpening? (text ++ [')'])).map (·.1.size) = some n ↔
      IsGreatest {n | IsOpening (text ++ [')']) n} n) ∧
    (splitAtOpening? (text ++ [')']) = none ↔ ∀ n, ¬ IsOpening (text ++ [')']) n) ∧
    ∀ k behind u, Searches (text ++ [')']) k behind u →
      splitAtOpening? (text ++ [')']) = backToOpening k behind u ∧
        (u.head? = some '(' → 0 < k) := by
  have hlast : (text ++ [')']).getLast? = some ')' := List.getLast?_concat
  have hplaces : ∀ k behind u, Searches (text ++ [')']) k behind u →
      splitAtOpening? (text ++ [')']) = backToOpening k behind u ∧
        (u.head? = some '(' → 0 < k) := by
    intro k behind u hsearch
    refine ⟨hsearch.splitAtOpening?_eq, fun hhead => ?_⟩
    obtain ⟨u, rfl⟩ := List.head?_eq_some_iff.mp hhead
    exact hsearch.pos_of_opening hlast
  rcases (Searches.start (t := text ++ [')'])).exists_end with
    ⟨behind, u, hsearch, hfound⟩ | ⟨behind, u, hsearch⟩ | ⟨k, hsearch, hnone⟩
  · have hgreatest := hsearch.isGreatest
    rw [hfound] at hplaces ⊢
    refine ⟨fun n => ⟨fun h => ?_, fun h => ?_⟩, ⟨nofun, fun h => ?_⟩, hplaces⟩
    · obtain rfl : Text.size u.reverse = n := Option.some.inj h
      exact hgreatest
    · exact congrArg some (hgreatest.unique h)
    · exact absurd hgreatest.1 (h _)
  · exact absurd (hsearch.pos_of_opening hlast) (Nat.lt_irrefl 0)
  · have hnever := hsearch.not_isOpening
    rw [hnone] at hplaces ⊢
    exact ⟨fun n => ⟨nofun, fun h => absurd h.1 (hnever n)⟩, ⟨fun _ => hnever, fun _ => rfl⟩,
      hplaces⟩

/-- Two groups inside of the one that is closed last, and a parenthesis in front that nothing
closes. -/
def innerGroups : Text := "é(f((a) b, (c)".toList

theorem splitAtOpening?_isGreatest_innerGroups :
    IsGreatest {n | IsOpening (innerGroups ++ [')']) n} 4 ∧
      Searches (innerGroups ++ [')']) 2 [')', ')'] "é(f((a) b, (c".toList.reverse ∧
      splitAtOpening? (innerGroups ++ [')']) =
        backToOpening 2 [')', ')'] "é(f((a) b, (c".toList.reverse := by
  obtain ⟨hfound, -, hplaces⟩ := splitAtOpening?_isGreatest innerGroups
  have hsearch : Searches (innerGroups ++ [')']) 2 [')', ')'] "é(f((a) b, (c".toList.reverse :=
    .close (.close .start)
  exact ⟨(hfound 4).mp rfl, hsearch, (hplaces _ _ _ hsearch).1⟩

end PageLint.Script.Header
