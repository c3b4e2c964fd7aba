import PageLint.Proofs.Script.Headers
import PageLint.Proofs.Text.Parentheses

/-! # Heads of blocks that cannot be read

The word in front of the parentheses of a head is cut off one byte behind the start of the character
in front of it. That is no place to cut at if this character has more than one byte. -/

namespace PageLint.Script.Header

variable {t front word inside behind header : Text} {c : Char} {f : Fault} {k m depth : Nat}

/-! ## The final word -/

/-- The last character that is no part of a word has more than one byte. -/
def HasWideBreak (t : Text) : Prop :=
  ∃ front c word, t = front ++ c :: word ∧ isWordPart c = false ∧ (∀ d ∈ word, isWordPart d) ∧
    1 < c.utf8Size

/-- The text ends with a word, in front of which no word ends. -/
structure EndsWith (t front word : Text) : Prop where
  split : t = front ++ word
  word : ∀ d ∈ word, isWordPart d
  before : front.getLast?.any isWordPart = false

theorem exists_endsWith (t : Text) : ∃ front word, EndsWith t front word := by
  obtain ⟨word, hsplit, hword, hlast⟩ := Text.exists_eq_dropEndWhile_append isWordPart t
  refine ⟨t.dropEndWhile isWordPart, word, hsplit, hword, ?_⟩
  cases hc : (t.dropEndWhile isWordPart).getLast? with
  | none => rfl
  | some c => simpa using hlast c hc

theorem EndsWith.dropEndWhile_eq (h : EndsWith t front word) :
    t.dropEndWhile isWordPart = front := by
  rw [h.split, Text.dropEndWhile_append _ h.word]
  rcases List.eq_nil_or_concat front with rfl | ⟨more, c, rfl⟩
  · rfl
  · have hc := h.before
    rw [List.concat_eq_append, List.getLast?_concat, Option.any_some] at hc
    simp [Text.dropEndWhile, hc]

theorem EndsWith.unique {front' word' : Text} (h : EndsWith t front word)
    (h' : EndsWith t front' word') : front = front' ∧ word = word' := by
  have hfront := h.dropEndWhile_eq.symm.trans h'.dropEndWhile_eq
  refine ⟨hfront, ?_⟩
  have hsplit := h.split.symm.trans h'.split
  rw [hfront] at hsplit
  exact List.append_cancel_left hsplit

theorem EndsWith.hasWideBreak_iff (h : EndsWith t front word) :
    HasWideBreak t ↔ ∃ c, front.getLast? = some c ∧ 1 < c.utf8Size := by
  constructor
  · rintro ⟨more, c, word', hsplit, hc, hword, hwide⟩
    have hends : EndsWith t (more ++ [c]) word' :=
      ⟨by simp [hsplit], hword, by rw [List.getLast?_concat, Option.any_some, hc]⟩
    rw [(h.unique hends).1]
    exact ⟨c, List.getLast?_concat, hwide⟩
  · rintro ⟨c, hlast, hwide⟩
    obtain ⟨more, rfl⟩ := List.getLast?_eq_some_iff.mp hlast
    have hc := h.before
    rw [List.getLast?_concat, Option.any_some] at hc
    exact ⟨more, c, word, by simp [h.split], hc, h.word, hwide⟩

/-- The final word is read unless the character in front of it would be cut. -/
theorem EndsWith.finalWord_eq (h : EndsWith t front word) :
    (HasWideBreak t ∧ finalWord t = .error .splitCharacter) ∨
      (¬ HasWideBreak t ∧ finalWord t = .ok (front, word)) := by
  rw [h.hasWideBreak_iff, finalWord, h.dropEndWhile_eq]
  cases hlast : front.getLast? with
  | none =>
      rw [List.getLast?_eq_none_iff] at hlast
      have hword : t = word := by rw [h.split, hlast, List.nil_append]
      exact .inr ⟨by simp, by rw [hword]⟩
  | some c =>
      dsimp only
      have hpos := c.utf8Size_pos
      by_cases hone : c.utf8Size = 1
      · refine .inr ⟨?_, ?_⟩
        · rintro ⟨d, hd, hwide⟩
          obtain rfl := Option.some.inj hd
          omega
        · have hdrop : t.drop front.length = word := by rw [h.split, List.drop_left]
          rw [if_pos hone, hdrop]
      · exact .inl ⟨⟨c, rfl, by omega⟩, if_neg hone⟩

/-! ## Calls -/

/-- A cut is asked for in front of the final word, or, if this one is `await`, of the word before
it. -/
def CutsCharacter (front : Text) : Prop :=
  HasWideBreak front ∨ ∃ before, EndsWith front before "await".toList ∧ HasWideBreak before.trimEnd

/-- Once the words are read, the kind of the block is known. -/
theorem exists_kindOfCall_eq {before : Text} {isLoop : Bool}
    (hfinal : finalWord front = .ok (before, word))
    (hloop : isAwaitingLoop before word = .ok isLoop) : ∃ kind, kindOfCall front = .ok kind := by
  simp only [kindOfCall, hfinal, hloop, bind, Except.bind]
  split
  · exact ⟨_, rfl⟩
  · split
    · exact ⟨_, rfl⟩
    · split <;> exact ⟨_, rfl⟩

theorem kindOfCall_eq_error_iff : kindOfCall front = .error f ↔
    f = .splitCharacter ∧ CutsCharacter front := by
  obtain ⟨before, word, hends⟩ := exists_endsWith front
  have herror : ∀ {f}, CutsCharacter front → kindOfCall front = .error .splitCharacter →
      (kindOfCall front = .error f ↔ f = .splitCharacter ∧ CutsCharacter front) := by
    intro f hcuts hkind
    rw [hkind, Except.error.injEq, eq_comm, and_iff_left hcuts]
  have hok : ∀ {f}, ¬ CutsCharacter front → (∃ kind, kindOfCall front = .ok kind) →
      (kindOfCall front = .error f ↔ f = .splitCharacter ∧ CutsCharacter front) := by
    rintro f hcuts ⟨kind, hkind⟩
    rw [hkind]
    exact ⟨nofun, fun h => absurd h.2 hcuts⟩
  rcases hends.finalWord_eq with ⟨hwide, hfinal⟩ | ⟨hnarrow, hfinal⟩
  · exact herror (.inl hwide) (by rw [kindOfCall, hfinal]; rfl)
  · by_cases hawait : word = "await".toList
    · subst hawait
      have hloop : isAwaitingLoop before "await".toList =
          (finalWord before.trimEnd).map fun words => decide (words.2 = "for".toList) := by
        rw [isAwaitingLoop, if_pos rfl]
        rfl
      obtain ⟨outer, word', hends'⟩ := exists_endsWith before.trimEnd
      rcases hends'.finalWord_eq with ⟨hwide, hfinal'⟩ | ⟨hnarrow', hfinal'⟩
      · refine herror (.inr ⟨before, hends, hwide⟩) ?_
        simp only [kindOfCall, hfinal, hloop, hfinal', Except.map, bind, Except.bind]
      · have hcuts : ¬ CutsCharacter front := by
          rintro (hwide | ⟨before', hends'', hwide⟩)
          · exact hnarrow hwide
          · obtain ⟨rfl, -⟩ := hends.unique hends''
            exact hnarrow' hwide
        exact hok hcuts (exists_kindOfCall_eq hfinal (hloop.trans (by rw [hfinal']; rfl)))
    · refine hok ?_ (exists_kindOfCall_eq hfinal (if_neg hawait))
      rintro (hwide | ⟨before', hends', -⟩)
      · exact hnarrow hwide
      · exact hawait (hends.unique hends').2

/-! ## Parentheses -/

/-- On the way back, as many parentheses are left to close as are open in front. -/
theorem backToOpening_of_open (h : Text.openParentheses? k t = some m) (d : Nat) :
    backToOpening (d + 1 + m) behind (t.reverse ++ front) =
      backToOpening (d + 1 + k) (t ++ behind) front := by
  induction t generalizing k front with
  | nil =>
      obtain rfl := Option.some.inj h
      rfl
  | cons c t ih =>
      have hsplit : (c :: t).reverse ++ front = t.reverse ++ c :: front := by simp
      rw [hsplit]
      by_cases hopen : c = '('
      · subst hopen
        have hdepth : d + 1 + (k + 1) = d + k + 2 := by omega
        have hdepth' : d + 1 + k = d + k + 1 := by omega
        rw [ih h, hdepth, hdepth']
        rfl
      · by_cases hclose : c = ')'
        · subst hclose
          cases k with
          | zero => cases h
          | succ k =>
              rw [ih h]
              rfl
        · have hother : Text.isParenthesis c = false := by
            simp [Text.isParenthesis, hopen, hclose]
          rw [Text.openParentheses?_other hother] at h
          rw [ih h, backToOpening_other hopen hclose]
          rfl

/-- What is found on the way back is a group whose inside is balanced. -/
theorem exists_of_backToOpening {group u : Text} (h : Text.openParentheses? k t = some 0)
    (hfound : backToOpening (k + 1) (t ++ [')']) u = some (front, group)) :
    ∃ inside, group = '(' :: (inside ++ [')']) ∧ u.reverse ++ (t ++ [')']) = front ++ group ∧
      Text.IsBalanced inside := by
  induction u generalizing k t with
  | nil => cases hfound
  | cons c u ih =>
      have hsplit : (c :: u).reverse ++ (t ++ [')']) = u.reverse ++ ((c :: t) ++ [')']) := by simp
      rw [hsplit]
      by_cases hopen : c = '('
      · subst hopen
        cases k with
        | zero =>
            obtain ⟨rfl, rfl⟩ := Prod.mk.inj (Option.some.inj hfound)
            exact ⟨t, rfl, rfl, h⟩
        | succ k => exact ih h hfound
      · by_cases hclose : c = ')'
        · subst hclose
          exact ih (k := k + 1) h hfound
        · have hother : Text.isParenthesis c = false := by
            simp [Text.isParenthesis, hopen, hclose]
          rw [backToOpening_other hopen hclose] at hfound
          exact ih (by rwa [Text.openParentheses?_other hother]) hfound

theorem splitAtOpening?_eq_some_iff {group : Text} :
    splitAtOpening? (t ++ [')']) = some (front, group) ↔
      ∃ inside, group = '(' :: (inside ++ [')']) ∧ t ++ [')'] = front ++ group ∧
        Text.IsBalanced inside := by
  constructor
  · intro h
    have hfound : backToOpening (0 + 1) ([] ++ [')']) t.reverse = some (front, group) := by
      rwa [splitAtOpening?, List.reverse_append] at h
    obtain ⟨inside, hgroup, hsplit, hbalanced⟩ := exists_of_backToOpening rfl hfound
    rw [List.reverse_reverse, List.nil_append] at hsplit
    exact ⟨inside, hgroup, hsplit, hbalanced⟩
  · rintro ⟨inside, rfl, hsplit, hbalanced⟩
    have hrev : (t ++ [')']).reverse = ')' :: (inside.reverse ++ '(' :: front.reverse) := by
      rw [hsplit]
      simp
    have hback : backToOpening 1 [')'] (inside.reverse ++ '(' :: front.reverse) =
        backToOpening 1 (inside ++ [')']) ('(' :: front.reverse) :=
      backToOpening_of_open hbalanced 0
    rw [splitAtOpening?, hrev, backToOpening, if_pos rfl, Nat.zero_add, hback]
    rw [backToOpening, if_neg (by decide), if_pos rfl, List.reverse_reverse]

/-! ## Heads -/

theorem exists_kind_eq (h : header.trimEnd.getLast? ≠ some ')') : ∃ b, kind header = .ok b := by
  rw [kind]
  split
  · exact ⟨_, rfl⟩
  · rename_i hrev
    rw [List.getLast?_eq_head?_reverse, hrev] at h
    exact absurd rfl h
  · exact ⟨_, rfl⟩

theorem kind_of_concat (h : header.trimEnd = t ++ [')']) :
    kind header = match splitAtOpening? (t ++ [')']) with
      | none => .ok .other
      | some (front, _) => kindOfCall front.trimEnd := by
  rw [kind, h, List.reverse_append]
  rfl

/-- The head ends with parentheses, and a character in front of them would be cut. -/
def IsUnreadable (header : Text) : Prop :=
  ∃ front inside, header.trimEnd = front ++ '(' :: (inside ++ [')']) ∧ Text.IsBalanced inside ∧
    CutsCharacter (Text.trimEnd front)

/-- The parentheses that a head ends with are told by it. -/
theorem isUnreadable_iff (h : header.trimEnd = t ++ [')']) :
    IsUnreadable header ↔ ∃ front group, splitAtOpening? (t ++ [')']) = some (front, group) ∧
      CutsCharacter front.trimEnd := by
  constructor
  · rintro ⟨front, inside, hsplit, hbalanced, hcuts⟩
    exact ⟨front, _, splitAtOpening?_eq_some_iff.mpr ⟨inside, rfl, h ▸ hsplit, hbalanced⟩, hcuts⟩
  · rintro ⟨front, group, hfound, hcuts⟩
    obtain ⟨inside, rfl, hsplit, hbalanced⟩ := splitAtOpening?_eq_some_iff.mp hfound
    exact ⟨front, inside, h.trans hsplit, hbalanced, hcuts⟩

theorem kind_eq_error_iff : kind header = .error f ↔ f = .splitCharacter ∧ IsUnreadable header := by
  by_cases hlast : header.trimEnd.getLast? = some ')'
  · obtain ⟨t, ht⟩ := List.getLast?_eq_some_iff.mp hlast
    rw [kind_of_concat ht, isUnreadable_iff ht]
    cases splitAtOpening? (t ++ [')']) with
    | none => exact ⟨nofun, fun ⟨_, _, _, hfound, _⟩ => nomatch hfound⟩
    | some found =>
        obtain ⟨front, group⟩ := found
        simp [kindOfCall_eq_error_iff]
  · obtain ⟨b, hkind⟩ := exists_kind_eq hlast
    rw [hkind]
    refine ⟨nofun, fun ⟨_, front, inside, hsplit, _, _⟩ => absurd ?_ hlast⟩
    rw [hsplit, ← List.cons_append, ← List.append_assoc, List.getLast?_concat]

end PageLint.Script.Header
