import PageLint.Proofs.Repair.Revision
import PageLint.Proofs.Text.Slices
import PageLint.Style.Check
import Mathlib.Data.List.Induction

/-! # Braces and their partners

Two braces are partners if every brace between them has its partner there. The closing braces that
are reported are those without a partner. A block is reported to be open if there is an opening
brace without a partner, at the first of them, and its fix has a brace for each. With all fixes
applied there is nothing left to report. -/

namespace PageLint.Style

/-! ## Partners -/

/-- Every brace of the text has its partner in it. -/
inductive IsNested : Text → Prop where
  | nil : IsNested []
  | other {c : Char} {t : Text} (hopen : c ≠ '{') (hclose : c ≠ '}') (rest : IsNested t) :
      IsNested (c :: t)
  | block {inside t : Text} (hinside : IsNested inside) (rest : IsNested t) :
      IsNested ('{' :: (inside ++ '}' :: t))

/-- The opening brace at offset `n` and the closing one at offset `m` belong together. -/
def ArePartners (t : Text) (n m : Nat) : Prop :=
  ∃ inside back, t.StandsAt n ('{' :: (inside ++ '}' :: back)) ∧ IsNested inside ∧
    m = n + 1 + Text.size inside

/-- A closing brace that closes nothing. -/
def IsStray (t : Text) (n : Nat) : Prop :=
  (∃ back, t.StandsAt n ('}' :: back)) ∧ ∀ m, ¬ ArePartners t m n

/-- An opening brace that is not closed. -/
def IsUnclosed (t : Text) (n : Nat) : Prop :=
  (∃ back, t.StandsAt n ('{' :: back)) ∧ ∀ m, ¬ ArePartners t n m

theorem IsNested.append {a b : Text} (ha : IsNested a) (hb : IsNested b) : IsNested (a ++ b) := by
  induction ha with
  | nil => exact hb
  | other hopen hclose _ ih => exact .other hopen hclose ih
  | block hinside _ _ ih =>
      rw [List.cons_append, List.append_assoc]
      exact .block hinside ih

/-! ## Reading one more character -/

/-- What is found once the character at offset `n` is read, too. -/
def Braces.read (b : Braces) (n : Nat) (c : Char) : Braces :=
  if c = '{' then { b with unclosed := n :: b.unclosed }
  else if c = '}' then
    match b.unclosed with
    | [] => { b with strays := b.strays ++ [n] }
    | _ :: rest => { b with unclosed := rest }
  else b

theorem bracesFrom_concat (n : Nat) (stack : List Nat) (t : Text) (c : Char) :
    bracesFrom n stack (t ++ [c]) = (bracesFrom n stack t).read (n + t.size) c := by
  induction t generalizing n stack with
  | nil =>
      unfold Braces.read
      rw [List.nil_append, bracesFrom.eq_def]
      by_cases hopen : c = '{'
      · simp [hopen, bracesFrom]
      · by_cases hclose : c = '}'
        · cases stack <;> simp [hclose, bracesFrom]
        · simp [hopen, hclose, bracesFrom]
  | cons d t ih =>
      have hsize : n + Text.size (d :: t) = n + d.utf8Size + Text.size t := by
        rw [Text.size_cons, Nat.add_assoc]
      rw [hsize, List.cons_append, bracesFrom.eq_def, bracesFrom.eq_def n stack (d :: t)]
      dsimp only
      split
      · exact ih _ _
      · split
        · cases stack with
          | nil =>
              dsimp only
              rw [ih]
              unfold Braces.read
              split
              · rfl
              · split
                · cases (bracesFrom (n + d.utf8Size) [] t).unclosed <;> rfl
                · rfl
          | cons top stack => exact ih _ _
        · exact ih _ _

theorem braces_concat (t : Text) (c : Char) : braces (t ++ [c]) = (braces t).read t.size c := by
  rw [braces, bracesFrom_concat, Nat.zero_add]
  rfl

/-- What reading one more character can do. -/
theorem braces_concat_cases (t : Text) (c : Char) :
    (c = '{' ∧
      braces (t ++ [c]) = { braces t with unclosed := t.size :: (braces t).unclosed }) ∨
    (c = '}' ∧ (braces t).unclosed = [] ∧
      braces (t ++ [c]) = { braces t with strays := (braces t).strays ++ [t.size] }) ∨
    (c = '}' ∧ ∃ top rest, (braces t).unclosed = top :: rest ∧
      braces (t ++ [c]) = { braces t with unclosed := rest }) ∨
    (c ≠ '{' ∧ c ≠ '}' ∧ braces (t ++ [c]) = braces t) := by
  rw [braces_concat]
  by_cases hopen : c = '{'
  · exact .inl ⟨hopen, by simp [Braces.read, hopen]⟩
  · by_cases hclose : c = '}'
    · cases hstack : (braces t).unclosed with
      | nil => exact .inr (.inl ⟨hclose, rfl, by simp [Braces.read, hclose, hstack]⟩)
      | cons top rest =>
          exact .inr (.inr (.inl ⟨hclose, top, rest, rfl, by simp [Braces.read, hclose, hstack]⟩))
    · exact .inr (.inr (.inr ⟨hopen, hclose, by simp [Braces.read, hopen, hclose]⟩))

theorem braces_concat_open (t : Text) :
    braces (t ++ ['{']) = { braces t with unclosed := t.size :: (braces t).unclosed } := by
  rw [braces_concat]
  rfl

theorem braces_concat_close {t : Text} {top : Nat} {rest : List Nat}
    (h : (braces t).unclosed = top :: rest) :
    braces (t ++ ['}']) = { braces t with unclosed := rest } := by
  simp [braces_concat, Braces.read, h]

/-- A nested text leaves everything as it was. -/
theorem braces_append_of_isNested {u : Text} (h : IsNested u) (t : Text) :
    braces (t ++ u) = braces t := by
  induction h generalizing t with
  | nil => rw [List.append_nil]
  | @other c u hopen hclose _ ih =>
      rw [List.append_cons, ih, braces_concat, Braces.read, if_neg hopen, if_neg hclose]
  | @block inside u _ _ ihinside ih =>
      rw [List.append_cons, ← List.append_assoc, List.append_cons, ih]
      have hopen : braces (t ++ ['{'] ++ inside) =
          { braces t with unclosed := t.size :: (braces t).unclosed } := by
        rw [ihinside, braces_concat_open]
      rw [braces_concat_close (t := t ++ ['{'] ++ inside) (by rw [hopen]), hopen]

theorem braces_block {front inside : Text} (h : IsNested inside) :
    braces (front ++ '{' :: inside) =
        { braces front with unclosed := front.size :: (braces front).unclosed } ∧
      braces (front ++ '{' :: (inside ++ ['}'])) = braces front := by
  constructor
  · rw [List.append_cons, braces_append_of_isNested h, braces_concat_open]
  · exact braces_append_of_isNested (.block h .nil) front

/-! ## Where the findings are -/

/-- Findings in front of offset `n`: strays in order, unclosed braces from the last to the first. -/
structure Braces.IsWithin (b : Braces) (n : Nat) : Prop where
  strays_lt : ∀ k ∈ b.strays, k < n
  strays_sorted : b.strays.Pairwise (· < ·)
  unclosed_lt : ∀ k ∈ b.unclosed, k < n
  unclosed_sorted : b.unclosed.Pairwise (· > ·)

theorem isWithin_braces (t : Text) : (braces t).IsWithin t.size := by
  induction t using List.reverseRecOn with
  | nil => exact ⟨by simp [braces, bracesFrom], .nil, by simp [braces, bracesFrom], .nil⟩
  | append_singleton t c ih =>
      have hlt : Text.size t < Text.size (t ++ [c]) := by
        rw [Text.size_append]
        exact Nat.lt_add_of_pos_right c.utf8Size_pos
      have hstrays : ∀ k ∈ (braces t).strays, k < Text.size (t ++ [c]) :=
        fun k hk => Nat.lt_trans (ih.strays_lt k hk) hlt
      have hunclosed : ∀ k ∈ (braces t).unclosed, k < Text.size (t ++ [c]) :=
        fun k hk => Nat.lt_trans (ih.unclosed_lt k hk) hlt
      rcases braces_concat_cases t c with ⟨-, h⟩ | ⟨-, -, h⟩ | ⟨-, top, rest, htop, h⟩ | ⟨-, -, h⟩
      · rw [h]
        exact ⟨hstrays, ih.strays_sorted, List.forall_mem_cons.mpr ⟨hlt, hunclosed⟩,
          List.pairwise_cons.mpr ⟨ih.unclosed_lt, ih.unclosed_sorted⟩⟩
      · rw [h]
        refine ⟨fun k hk => ?_, ?_, hunclosed, ih.unclosed_sorted⟩
        · rcases List.mem_append.mp hk with hk | hk
          · exact hstrays k hk
          · obtain rfl := List.mem_singleton.mp hk
            exact hlt
        · simpa [List.pairwise_append] using ⟨ih.strays_sorted, ih.strays_lt⟩
      · have hsorted := ih.unclosed_sorted
        rw [htop] at hunclosed hsorted
        rw [h]
        exact ⟨hstrays, ih.strays_sorted, (List.forall_mem_cons.mp hunclosed).2, hsorted.of_cons⟩
      · rw [h]
        exact ⟨hstrays, ih.strays_sorted, hunclosed, ih.unclosed_sorted⟩

/-- A stray brace that is found stays found. -/
theorem mem_strays_append {a : Text} {n : Nat} (h : n ∈ (braces a).strays) (b : Text) :
    n ∈ (braces (a ++ b)).strays := by
  induction b generalizing a with
  | nil => rwa [List.append_nil]
  | cons c b ih =>
      rw [List.append_cons]
      apply ih
      rcases braces_concat_cases a c with ⟨-, hb⟩ | ⟨-, -, hb⟩ | ⟨-, top, rest, -, hb⟩ | ⟨-, -, hb⟩
      · rwa [hb]
      · rw [hb]
        exact List.mem_append_left _ h
      · rwa [hb]
      · rwa [hb]

/-- A brace that is open behind a text is either open in front of what was read last, or in it. -/
theorem mem_unclosed_append {a b : Text} {n : Nat} (h : n ∈ (braces (a ++ b)).unclosed) :
    n ∈ (braces a).unclosed ∨ a.size ≤ n := by
  induction b using List.reverseRecOn with
  | nil => exact .inl (by rwa [List.append_nil] at h)
  | append_singleton b c ih =>
      rw [← List.append_assoc] at h
      rcases braces_concat_cases (a ++ b) c with
        ⟨-, hb⟩ | ⟨-, -, hb⟩ | ⟨-, top, rest, htop, hb⟩ | ⟨-, -, hb⟩
      · rw [hb] at h
        rcases List.mem_cons.mp h with rfl | h
        · exact .inr (by simp)
        · exact ih h
      · rw [hb] at h
        exact ih h
      · rw [hb] at h
        exact ih (htop ▸ List.mem_cons_of_mem top h)
      · rw [hb] at h
        exact ih h

/-- Where the last brace that is open stands, and what was open in front of it. -/
theorem exists_of_unclosed_eq_cons {t : Text} {n : Nat} {rest : List Nat}
    (h : (braces t).unclosed = n :: rest) :
    ∃ front inside, t = front ++ '{' :: inside ∧ IsNested inside ∧ front.size = n ∧
      (braces front).unclosed = rest := by
  induction hlength : t.length using Nat.strongRecOn generalizing t n rest with
  | ind length ih =>
      rcases List.eq_nil_or_concat t with rfl | ⟨t, c, rfl⟩
      · cases h
      · rw [List.concat_eq_append] at h hlength ⊢
        rw [List.length_append, List.length_singleton] at hlength
        rcases braces_concat_cases t c with
          ⟨rfl, hb⟩ | ⟨rfl, hnone, hb⟩ | ⟨rfl, top, stack, htop, hb⟩ | ⟨hopen, hclose, hb⟩
        · rw [hb, List.cons.injEq] at h
          exact ⟨t, [], rfl, .nil, h.1, h.2⟩
        · rw [hb, hnone] at h
          cases h
        · -- The last block of all is closed, and the one around it is open.
          rw [hb] at h
          obtain ⟨front, inside, rfl, hinside, -, hfront⟩ := ih _ (by omega) htop rfl
          rw [List.length_append] at hlength
          obtain ⟨front, before, rfl, hbefore, hsize, hrest⟩ :=
            ih _ (by omega) (hfront.trans h) rfl
          refine ⟨front, before ++ '{' :: (inside ++ '}' :: []), by simp, ?_, hsize, hrest⟩
          exact hbefore.append (.block hinside .nil)
        · rw [hb] at h
          obtain ⟨front, inside, rfl, hinside, hsize, hrest⟩ := ih _ (by omega) h rfl
          exact ⟨front, inside ++ [c], by simp, hinside.append (.other hopen hclose .nil), hsize,
            hrest⟩

/-! ## What is found -/

section

variable {t : Text} {n : Nat}

theorem exists_of_mem_strays (h : n ∈ (braces t).strays) :
    ∃ front back, t = front ++ '}' :: back ∧ front.size = n ∧ (braces front).unclosed = [] := by
  induction t using List.reverseRecOn with
  | nil => cases h
  | append_singleton t c ih =>
      have hearlier : n ∈ (braces t).strays → ∃ front back, t ++ [c] = front ++ '}' :: back ∧
          Text.size front = n ∧ (braces front).unclosed = [] := by
        intro h
        obtain ⟨front, back, rfl, hfront⟩ := ih h
        exact ⟨front, back ++ [c], by simp, hfront⟩
      rcases braces_concat_cases t c with
        ⟨-, hb⟩ | ⟨rfl, hnone, hb⟩ | ⟨-, top, rest, -, hb⟩ | ⟨-, -, hb⟩
      · exact hearlier (by rwa [hb] at h)
      · rw [hb] at h
        rcases List.mem_append.mp h with h | h
        · exact hearlier h
        · exact ⟨t, [], rfl, (List.mem_singleton.mp h).symm, hnone⟩
      · exact hearlier (by rwa [hb] at h)
      · exact hearlier (by rwa [hb] at h)

theorem standsAt_of_mem_unclosed (h : n ∈ (braces t).unclosed) :
    ∃ back, t.StandsAt n ('{' :: back) := by
  induction t using List.reverseRecOn with
  | nil => cases h
  | append_singleton t c ih =>
      have hearlier : n ∈ (braces t).unclosed →
          ∃ back, Text.StandsAt (t ++ [c]) n ('{' :: back) := by
        intro h
        obtain ⟨back, front, rfl, hfront⟩ := ih h
        exact ⟨back ++ [c], front, by simp, hfront⟩
      rcases braces_concat_cases t c with
        ⟨rfl, hb⟩ | ⟨-, -, hb⟩ | ⟨-, top, rest, htop, hb⟩ | ⟨-, -, hb⟩
      · rw [hb] at h
        rcases List.mem_cons.mp h with rfl | h
        · exact ⟨[], t, rfl, rfl⟩
        · exact hearlier h
      · exact hearlier (by rwa [hb] at h)
      · rw [hb] at h
        exact hearlier (htop ▸ List.mem_cons_of_mem top h)
      · exact hearlier (by rwa [hb] at h)

theorem mem_strays_iff : n ∈ (braces t).strays ↔ IsStray t n := by
  constructor
  · intro h
    obtain ⟨front, back, rfl, rfl, hnone⟩ := exists_of_mem_strays h
    refine ⟨⟨back, front, rfl, rfl⟩, ?_⟩
    rintro m ⟨inside, back', ⟨before, hsplit, rfl⟩, hinside, hsize⟩
    have hfront : front = before ++ '{' :: inside := by
      have hbefore : front.size = Text.size (before ++ '{' :: inside) := by
        rw [hsize, Text.size_append, Text.size_cons, Nat.add_assoc]
        rfl
      have hcut := congrArg (Text.before · front.size) hsplit
      rwa [Text.before_size_append, ← List.cons_append, ← List.append_assoc, hbefore,
        Text.before_size_append] at hcut
    rw [hfront, (braces_block hinside).1] at hnone
    cases hnone
  · rintro ⟨⟨back, front, rfl, rfl⟩, hlonely⟩
    have hnone : (braces front).unclosed = [] := by
      cases hstack : (braces front).unclosed with
      | nil => rfl
      | cons top rest =>
          obtain ⟨before, inside, rfl, hinside, rfl, -⟩ := exists_of_unclosed_eq_cons hstack
          refine absurd ⟨inside, back, ⟨before, by simp, rfl⟩, hinside, ?_⟩ (hlonely before.size)
          rw [Text.size_append, Text.size_cons, Nat.add_assoc]
          rfl
    rw [List.append_cons]
    apply mem_strays_append
    rcases braces_concat_cases front '}' with
      ⟨hopen, -⟩ | ⟨-, -, hb⟩ | ⟨-, top, rest, htop, -⟩ | ⟨-, hclose, -⟩
    · cases hopen
    · rw [hb]
      exact List.mem_append_right _ (List.mem_singleton.mpr rfl)
    · cases hnone.symm.trans htop
    · exact absurd rfl hclose

/-- A brace that was open and is not any more has been closed by its partner. -/
theorem exists_arePartners {a b : Text} (hopen : n ∈ (braces a).unclosed)
    (hclosed : n ∉ (braces (a ++ b)).unclosed) : ∃ m, ArePartners (a ++ b) n m := by
  induction b generalizing a with
  | nil => exact absurd hopen (by rwa [List.append_nil] at hclosed)
  | cons c b ih =>
      by_cases hstill : n ∈ (braces (a ++ [c])).unclosed
      · rw [List.append_cons] at hclosed ⊢
        exact ih hstill hclosed
      · rcases braces_concat_cases a c with
          ⟨-, hb⟩ | ⟨-, -, hb⟩ | ⟨rfl, top, rest, htop, hb⟩ | ⟨-, -, hb⟩
        · exact absurd (by rw [hb]; exact List.mem_cons_of_mem _ hopen) hstill
        · exact absurd (by rwa [hb]) hstill
        · rw [hb] at hstill
          rw [htop] at hopen
          obtain rfl := (List.mem_cons.mp hopen).resolve_right hstill
          obtain ⟨front, inside, rfl, hinside, hfront, -⟩ := exists_of_unclosed_eq_cons htop
          exact ⟨_, inside, b, ⟨front, by simp, hfront⟩, hinside, rfl⟩
        · exact absurd (by rwa [hb]) hstill

theorem mem_unclosed_iff : n ∈ (braces t).unclosed ↔ IsUnclosed t n := by
  constructor
  · intro h
    refine ⟨standsAt_of_mem_unclosed h, ?_⟩
    rintro m ⟨inside, back, ⟨front, rfl, rfl⟩, hinside, -⟩
    -- Behind the block, what was open in front of it is open, and nothing in it.
    have hsplit : front ++ '{' :: (inside ++ '}' :: back) =
        front ++ '{' :: (inside ++ ['}']) ++ back := by simp
    rw [hsplit] at h
    rcases mem_unclosed_append h with h | h
    · rw [(braces_block hinside).2] at h
      exact Nat.lt_irrefl _ ((isWithin_braces front).unclosed_lt _ h)
    · rw [Text.size_append, Text.size_cons] at h
      have hpos := '{'.utf8Size_pos
      omega
  · rintro ⟨⟨back, front, rfl, rfl⟩, hlonely⟩
    by_contra hclosed
    have hopen : front.size ∈ (braces (front ++ ['{'])).unclosed := by
      rw [braces_concat_open]
      exact List.mem_cons_self
    rw [List.append_cons] at hclosed hlonely
    obtain ⟨m, hpartners⟩ := exists_arePartners hopen hclosed
    exact hlonely m hpartners

/-- Every brace is closed, closes another one, or is found. -/
theorem count_braces (t : Text) : t.count '{' + (braces t).strays.length =
    t.count '}' + (braces t).unclosed.length := by
  induction t using List.reverseRecOn with
  | nil => rfl
  | append_singleton t c ih =>
      rw [List.count_append, List.count_append]
      rcases braces_concat_cases t c with
        ⟨rfl, hb⟩ | ⟨rfl, -, hb⟩ | ⟨rfl, top, rest, htop, hb⟩ | ⟨hopen, hclose, hb⟩
      · rw [hb]
        simp
        omega
      · rw [hb]
        simp
        omega
      · rw [htop] at ih
        rw [hb]
        simp at ih ⊢
        omega
      · rw [hb]
        simp [hopen, hclose]
        omega

end

/-! ## The fixes -/

/-- The edit that removes the brace at an offset. -/
def removal (n : Nat) : Edit := .delete n (n + 1)

/-- The text without its strays, as a revision: it has as many blocks open as before, and no stray
any more. -/
theorem exists_withoutStrays (t : Text) : ∃ r, Repair.original r = t ∧
    Repair.edits 0 r = (braces t).strays.map removal ∧
    (braces (Repair.revised r)).strays = [] ∧
    (braces (Repair.revised r)).unclosed.length = (braces t).unclosed.length := by
  induction t using List.reverseRecOn with
  | nil => exact ⟨[], rfl, rfl, rfl, rfl⟩
  | append_singleton t c ih =>
      obtain ⟨r, rfl, hedits, hstrays, hunclosed⟩ := ih
      have hkept : Repair.original (r ++ [.kept [c]]) = Repair.original r ++ [c] ∧
          Repair.edits 0 (r ++ [.kept [c]]) = Repair.edits 0 r ∧
          Repair.revised (r ++ [.kept [c]]) = Repair.revised r ++ [c] := by
        refine ⟨Repair.original_append r _, ?_, Repair.revised_append r _⟩
        rw [Repair.edits_append]
        exact List.append_nil _
      rcases braces_concat_cases (Repair.original r) c with
        ⟨rfl, hb⟩ | ⟨rfl, hnone, hb⟩ | ⟨rfl, top, rest, htop, hb⟩ | ⟨hopen, hclose, hb⟩
      · refine ⟨r ++ [.kept ['{']], hkept.1, ?_, ?_, ?_⟩
        · rw [hkept.2.1, hedits, hb]
        · rw [hkept.2.2, braces_concat_open]
          exact hstrays
        · rw [hkept.2.2, braces_concat_open, hb]
          exact congrArg Nat.succ hunclosed
      · have hrevised : Repair.revised (r ++ [.changed ['}'] []]) = Repair.revised r :=
          (Repair.revised_append r _).trans (List.append_nil _)
        refine ⟨r ++ [.changed ['}'] []], Repair.original_append r _, ?_, ?_, ?_⟩
        · rw [Repair.edits_append, hedits, hb, List.map_append, Nat.zero_add]
          rfl
        · rw [hrevised]
          exact hstrays
        · rw [hrevised, hb]
          exact hunclosed
      · obtain ⟨top', rest', htop'⟩ : ∃ top' rest',
            (braces (Repair.revised r)).unclosed = top' :: rest' := by
          apply List.exists_cons_of_length_pos
          rw [hunclosed, htop]
          exact Nat.succ_pos _
        rw [htop, htop'] at hunclosed
        refine ⟨r ++ [.kept ['}']], hkept.1, ?_, ?_, ?_⟩
        · rw [hkept.2.1, hedits, hb]
        · rw [hkept.2.2, braces_concat_close htop']
          exact hstrays
        · rw [hkept.2.2, braces_concat_close htop', hb]
          exact Nat.succ.inj hunclosed
      · refine ⟨r ++ [.kept [c]], hkept.1, ?_, ?_, ?_⟩
        · rw [hkept.2.1, hedits, hb]
        · rw [hkept.2.2, braces_concat, Braces.read, if_neg hopen, if_neg hclose]
          exact hstrays
        · rw [hkept.2.2, braces_concat, Braces.read, if_neg hopen, if_neg hclose, hb]
          exact hunclosed

/-- A brace for each block that is open leaves none open. -/
theorem braces_append_closers {t : Text} (hstrays : (braces t).strays = []) :
    braces (t ++ List.replicate (braces t).unclosed.length '}') = {} := by
  induction hstack : (braces t).unclosed generalizing t with
  | nil =>
      rw [List.length_nil, List.replicate_zero, List.append_nil]
      cases hb : braces t with
      | mk strays unclosed =>
          rw [hb] at hstrays hstack
          subst hstrays hstack
          rfl
  | cons top rest ih =>
      have hclose := braces_concat_close hstack
      rw [List.length_cons, List.replicate_succ, List.append_cons]
      exact ih (by rw [hclose]; exact hstrays) (by rw [hclose])

/-- The report of blocks that are open, the first of which starts at `first`. -/
def unclosedReport (masked : Text) (depth first : Nat) : Diagnostic :=
  (Issue.unclosedBlock depth).report first (first + 1)
    [.insert masked.size (List.replicate depth '}')]

theorem braceIssues_eq (masked : Text) : braceIssues masked =
    ((braces masked).strays.map fun n => Issue.strayBrace.report n (n + 1) [removal n]) ++
      (braces masked).unclosed.reverse.head?.toList.map
        (unclosedReport masked (braces masked).unclosed.length) := by
  unfold braceIssues
  dsimp only
  rw [List.head?_reverse]
  cases (braces masked).unclosed.getLast? <;> rfl

theorem edits_braceIssues (masked : Text) : (braceIssues masked).filterMap (·.firstEdit?) =
    (braces masked).strays.map removal ++
      if (braces masked).unclosed = [] then []
      else [.insert masked.size (List.replicate (braces masked).unclosed.length '}')] := by
  rw [braceIssues_eq, List.filterMap_append, List.filterMap_map]
  congr 1
  · exact congrFun (List.filterMap_eq_map (f := removal)) _
  · split
    · rename_i hnone
      rw [hnone]
      rfl
    · rename_i hopen
      obtain ⟨first, hfirst⟩ : ∃ first, (braces masked).unclosed.reverse.head? = some first :=
        Option.isSome_iff_exists.mp (by simpa using hopen)
      rw [hfirst]
      rfl

/-- The fixes get in each other's way nowhere, and leave every brace with its partner. -/
theorem applyFixes_braceIssues (masked : Text) :
    (Repair.applyFixes masked (braceIssues masked)).skipped = 0 ∧
      braces (Repair.applyFixes masked (braceIssues masked)).output = {} := by
  obtain ⟨r, horiginal, hedits, hstrays, hunclosed⟩ := exists_withoutStrays masked
  have hclosed := braces_append_closers hstrays
  rw [hunclosed] at hclosed
  rw [Repair.applyFixes, edits_braceIssues, ← hedits]
  by_cases hnone : (braces masked).unclosed = []
  · rw [if_pos hnone, List.append_nil]
    have happly := Repair.applyEdits_edits r
    rw [horiginal] at happly
    rw [happly]
    rw [hnone, List.length_nil, List.replicate_zero, List.append_nil] at hclosed
    exact ⟨rfl, hclosed⟩
  · rw [if_neg hnone]
    obtain ⟨closers, hclosers⟩ :
        ∃ closers, closers = List.replicate (braces masked).unclosed.length '}' := ⟨_, rfl⟩
    rw [← hclosers] at hclosed ⊢
    have happly := Repair.applyEdits_edits (r ++ [.changed [] closers])
    have hend : Repair.original (r ++ [.changed [] closers]) = masked := by
      rw [Repair.original_append, horiginal]
      exact List.append_nil _
    have hinsert : Repair.edits 0 (r ++ [.changed [] closers]) =
        Repair.edits 0 r ++ [.insert masked.size closers] := by
      rw [Repair.edits_append, horiginal, Nat.zero_add]
      rfl
    have hrevised : Repair.revised (r ++ [.changed [] closers]) = Repair.revised r ++ closers := by
      rw [Repair.revised_append]
      exact congrArg (Repair.revised r ++ ·) (List.append_nil _)
    rw [hend, hinsert, hrevised] at happly
    rw [happly]
    exact ⟨rfl, hclosed⟩

/-! ## The report -/

/-- The braces at `strays` close nothing, and those at `unclosed` are not closed. -/
structure IsBraceReport (masked : Text) (strays unclosed : List Nat) : Prop where
  strays_iff : ∀ n, n ∈ strays ↔ IsStray masked n
  strays_sorted : strays.Pairwise (· < ·)
  unclosed_iff : ∀ n, n ∈ unclosed ↔ IsUnclosed masked n
  unclosed_sorted : unclosed.Pairwise (· < ·)
  /-- Each stray is reported, and the first of the braces that are not closed. -/
  issues_eq : braceIssues masked =
    (strays.map fun n => Issue.strayBrace.report n (n + 1) [removal n]) ++
      unclosed.head?.toList.map (unclosedReport masked unclosed.length)
  count_eq : masked.count '{' + strays.length = masked.count '}' + unclosed.length
  skipped_eq : (Repair.applyFixes masked (braceIssues masked)).skipped = 0
  mended : braceIssues (Repair.applyFixes masked (braceIssues masked)).output = []

/-- What is reported of the braces of a masked text are those without a partner, and with the fixes
applied there are none. -/
theorem exists_isBraceReport (masked : Text) :
    ∃ strays unclosed, IsBraceReport masked strays unclosed := by
  obtain ⟨hskipped, hmended⟩ := applyFixes_braceIssues masked
  have hwithin := isWithin_braces masked
  refine ⟨(braces masked).strays, (braces masked).unclosed.reverse, ?_⟩
  exact
    { strays_iff := fun _ => mem_strays_iff
      strays_sorted := hwithin.strays_sorted
      unclosed_iff := fun _ => List.mem_reverse.trans mem_unclosed_iff
      unclosed_sorted := List.pairwise_reverse.mpr hwithin.unclosed_sorted
      issues_eq := by rw [braceIssues_eq, List.length_reverse]
      count_eq := by rw [List.length_reverse, count_braces]
      skipped_eq := hskipped
      mended := by rw [braceIssues_eq, hmended]; rfl }

end PageLint.Style
