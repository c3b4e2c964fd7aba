import PageLint.Text.Scan
import PageLint.Proofs.Text.Ascii
import PageLint.Proofs.Text.Slices

/-! # Words and places

A character of a word is no white space, and what is found in a text stands at its offset. -/

namespace PageLint.Text

/-! ## Classes of characters -/

/-- No range of one list meets one of the other. -/
def areApart (a b : List (Nat × Nat)) : Bool :=
  a.all fun (low, high) => b.all fun (low', high') => high < low' || high' < low

theorem not_inRanges_of_areApart {a b : List (Nat × Nat)} (h : areApart a b = true) {c : Char}
    (ha : inRanges a c) : inRanges b c = false := by
  rw [← Bool.not_eq_true]
  intro hb
  obtain ⟨⟨low, high⟩, hmem, hin⟩ := List.any_eq_true.mp ha
  obtain ⟨⟨low', high'⟩, hmem', hin'⟩ := List.any_eq_true.mp hb
  have hapart := List.all_eq_true.mp (List.all_eq_true.mp h (low, high) hmem) (low', high') hmem'
  simp only [Bool.and_eq_true, Bool.or_eq_true, decide_eq_true_eq] at hin hin' hapart
  omega

/-- None of the tables that words are read by meets that of white space. -/
theorem areApart_blanks : ∀ ranges ∈ [Property.alphabetic, Property.marks, Property.decimalDigits,
    Property.connectors], areApart ranges Property.blanks := by
  decide +kernel

theorem isBlank_of_areApart {ranges : List (Nat × Nat)} (h : areApart ranges Property.blanks)
    {c : Char} (hascii : isAscii c = false) (hc : inRanges ranges c) : isBlank c = false := by
  have hplain : isAsciiBlank c = false := by
    refine Bool.eq_false_iff.mpr fun hblank => ?_
    have hlt := toNat_lt_of_isAsciiBlank hblank
    simp only [isAscii, decide_eq_false_iff_not] at hascii
    exact hascii hlt
  rw [isBlank, hplain, not_inRanges_of_areApart h hc, Bool.and_false, Bool.or_false]

theorem isBlank_of_isWord {c : Char} (h : isWord c) : isBlank c = false := by
  have hascii : c.toNat < 128 → isBlank c = false := fun hlt =>
    forall_ascii (P := fun c => isWord c → isBlank c = false) (by decide) hlt h
  simp only [isWord, Bool.or_eq_true, Bool.and_eq_true, Bool.not_eq_true', decide_eq_true_eq] at h
  rcases h with ((h | h) | rfl) | ⟨hbeyond, ((h | h) | h) | h⟩
  · exact hascii (toNat_lt_of_isAsciiLetter h)
  · exact hascii (toNat_lt_of_isAsciiDigit h)
  · decide
  · exact isBlank_of_areApart (areApart_blanks _ (by simp)) hbeyond h
  · exact isBlank_of_areApart (areApart_blanks _ (by simp)) hbeyond h
  · exact isBlank_of_areApart (areApart_blanks _ (by simp)) hbeyond h
  · exact isBlank_of_areApart (areApart_blanks _ (by simp)) hbeyond h

/-! ## Words that are dropped -/

theorem eq_append_of_dropWord? {word t rest : Text} (h : dropWord? word t = some rest) :
    t = word ++ rest := by
  induction word generalizing t with
  | nil =>
      obtain rfl := Option.some.inj h
      rfl
  | cons l word ih =>
      cases t with
      | nil => cases h
      | cons c t =>
          rw [dropWord?] at h
          split at h
          · rename_i hl
            rw [hl, ih h, List.cons_append]
          · cases h

theorem exists_of_dropWordFold? {word t rest : Text} (h : dropWordFold? word t = some rest) :
    ∃ front, t = front ++ rest ∧ ∀ c ∈ front, ∃ l ∈ word, matchesLetter l c := by
  induction word generalizing t with
  | nil =>
      obtain rfl := Option.some.inj h
      exact ⟨[], rfl, by simp⟩
  | cons l word ih =>
      cases t with
      | nil => cases h
      | cons c t =>
          rw [dropWordFold?] at h
          split at h
          · rename_i hl
            obtain ⟨front, rfl, hfront⟩ := ih h
            refine ⟨c :: front, rfl, List.forall_mem_cons.mpr ⟨⟨l, by simp, hl⟩, fun d hd => ?_⟩⟩
            obtain ⟨l', hl', hd'⟩ := hfront d hd
            exact ⟨l', List.mem_cons_of_mem l hl', hd'⟩
          · cases h

/-! ## Places of characters and matches -/

theorem offsetsFrom_append (n : Nat) (a b : Text) :
    offsetsFrom n (a ++ b) = offsetsFrom n a ++ offsetsFrom (n + a.size) b := by
  induction a generalizing n with
  | nil => rfl
  | cons c a ih =>
      rw [List.cons_append, offsetsFrom, offsetsFrom, ih, size_cons, Nat.add_assoc, List.cons_append]

theorem exists_of_mem_offsetsFrom {n k : Nat} {c : Char} {t : Text}
    (h : (k, c) ∈ t.offsetsFrom n) :
    ∃ front back : Text, t = front ++ ([c] ++ back) ∧ k = n + front.size := by
  induction t generalizing n with
  | nil => cases h
  | cons d t ih =>
      rcases List.mem_cons.mp h with heq | h
      · obtain ⟨rfl, rfl⟩ := Prod.mk.inj heq
        exact ⟨[], t, rfl, rfl⟩
      · obtain ⟨front, back, rfl, rfl⟩ := ih h
        exact ⟨d :: front, back, rfl, by rw [size_cons, Nat.add_assoc]⟩

/-- A pattern matches what stands at the offset of a match. -/
theorem exists_of_mem_matchesFrom {α : Type} {p : Pattern α} {t : Text} {n k : Nat} {a : α}
    {previous : Option Char} {skip : Nat} (h : (k, a) ∈ matchesFrom p n previous skip t) :
    ∃ front u before len, t = front ++ u ∧ k = n + front.size ∧ p before u = some (a, len) := by
  induction t generalizing n previous skip with
  | nil => cases h
  | cons c t ih =>
      have hlater : ∀ {skip}, (k, a) ∈ matchesFrom p (n + c.utf8Size) (some c) skip t →
          ∃ front u before len, c :: t = front ++ u ∧ k = n + Text.size front ∧
            p before u = some (a, len) := by
        intro skip hmem
        obtain ⟨front, u, before, len, rfl, rfl, hp⟩ := ih hmem
        exact ⟨c :: front, u, before, len, rfl, by rw [size_cons, Nat.add_assoc], hp⟩
      rw [matchesFrom.eq_def] at h
      dsimp only at h
      split at h
      · exact hlater h
      · split at h
        · rename_i found len hfound
          rcases List.mem_cons.mp h with heq | h
          · obtain ⟨rfl, rfl⟩ := Prod.mk.inj heq
            exact ⟨[], c :: t, previous, len, rfl, rfl, hfound⟩
          · exact hlater h
        · exact hlater h

theorem getLast?_cons_eq_or (c : Char) (t : Text) :
    (c :: t).getLast? = t.getLast?.or (some c) := by
  rw [List.getLast?_cons]
  cases t.getLast? <;> rfl

/-- A pattern is found nowhere if and only if it matches at none of the characters. -/
theorem matchesFrom_eq_nil_iff {α : Type} {p : Pattern α} {n : Nat} {previous : Option Char}
    {t : Text} : matchesFrom p n previous 0 t = [] ↔
      ∀ front c u, t = front ++ c :: u → p (front.getLast?.or previous) (c :: u) = none := by
  induction t generalizing n previous with
  | nil => simp [matchesFrom]
  | cons d t ih =>
      rw [matchesFrom.eq_def]
      dsimp only
      cases hp : p previous (d :: t) with
      | some found =>
          constructor
          · intro h
            cases h
          · intro h
            cases (h [] d t rfl).symm.trans hp
      | none =>
          dsimp only
          rw [ih]
          constructor
          · rintro h (_ | ⟨e, front⟩) c u heq
            · obtain ⟨rfl, rfl⟩ := List.cons.inj heq
              exact hp
            · obtain ⟨rfl, ht⟩ := List.cons.inj heq
              rw [getLast?_cons_eq_or, Option.or_assoc, Option.some_or]
              exact h front c u ht
          · intro h front c u ht
            have hfound := h (d :: front) c u (congrArg (d :: ·) ht)
            rwa [getLast?_cons_eq_or, Option.or_assoc, Option.some_or] at hfound

/-- The characters that still belong to a match are passed over. -/
theorem matchesFrom_skip {α : Type} (p : Pattern α) (n : Nat) (previous : Option Char) (skip : Nat)
    (t : Text) : matchesFrom p n previous skip t =
      matchesFrom p (n + size (t.take skip)) ((t.take skip).getLast?.or previous) 0
        (t.drop skip) := by
  induction skip generalizing n previous t with
  | zero => simp
  | succ skip ih =>
      cases t with
      | nil => simp [matchesFrom]
      | cons c t =>
          rw [matchesFrom.eq_def]
          dsimp only
          rw [ih, List.take_succ_cons, List.drop_succ_cons, getLast?_cons_eq_or, Option.or_assoc,
            Option.some_or, size_cons, Nat.add_assoc]

/-- Behind a match, the next one is looked for in what the match has not taken. -/
theorem matchesFrom_of_match {α : Type} {p : Pattern α} {previous : Option Char} {t : Text} {a : α}
    {len : Nat} (h : p previous t = some (a, len + 1)) (ht : t ≠ []) (n : Nat) :
    matchesFrom p n previous 0 t = (n, a) :: matchesFrom p (n + size (t.take (len + 1)))
      (t.take (len + 1)).getLast? 0 (t.drop (len + 1)) := by
  obtain ⟨c, t, rfl⟩ := List.exists_cons_of_ne_nil ht
  rw [matchesFrom.eq_def]
  dsimp only
  rw [h]
  dsimp only
  rw [Nat.add_sub_cancel, matchesFrom_skip, List.take_succ_cons, List.drop_succ_cons,
    getLast?_cons_eq_or, size_cons, Nat.add_assoc]

end PageLint.Text
