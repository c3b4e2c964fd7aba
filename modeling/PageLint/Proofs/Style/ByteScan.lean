import PageLint.Proofs.Style.Strides
import PageLint.Proofs.Text.Bytes

/-! # Masking byte by byte

The masked copy is made in a copy of the bytes of a style sheet, in which a scan over the bytes
overwrites one or more of them at a time. A character of more than one byte takes the scan a step
for each of them, while a line comment takes it one step in all. -/

namespace PageLint.Style

/-- A blank for a byte; a newline stays. -/
def blankByte (b : UInt8) : UInt8 := if b = '\n'.toUInt8 then b else ' '.toUInt8

/-- `bytes` with blanks for those from `start` up to `stop`. -/
def blankBetween (bytes : List UInt8) (start stop : Nat) : List UInt8 :=
  bytes.mapIdx fun n b => if start ≤ n ∧ n < stop then blankByte b else b

/-- A scan over the bytes of a style sheet. -/
structure ByteScan where
  /-- The copy of the bytes that is overwritten. -/
  out : List UInt8
  pos : Nat := 0
  /-- Where the comments start that are open, the innermost first. -/
  openers : List Nat := []
  quote : Option UInt8 := none
  /-- Interpolations that are open. -/
  interpolations : Nat := 0
  /-- Parentheses that are open. -/
  parens : Nat := 0

namespace ByteScan

/-- Goes on behind `k` bytes. -/
def skip (s : ByteScan) (k : Nat) : ByteScan := { s with pos := s.pos + k }

/-- Goes on behind `k` bytes and blanks them. -/
def hide (s : ByteScan) (k : Nat) : ByteScan :=
  { s.skip k with out := blankBetween s.out s.pos (s.pos + k) }

/-- The scan behind a step at byte `b`, which has `previous` in front of it and `next` behind. -/
def act (source : Text) (s : ByteScan) (previous : Option UInt8) (b : UInt8)
    (next : Option UInt8) : Except Fault ByteScan :=
  if s.openers ≠ [] then
    if b = '/'.toUInt8 ∧ next = some '*'.toUInt8 then
      .ok { s.hide 2 with openers := s.pos :: s.openers }
    else if b = '*'.toUInt8 ∧ next = some '/'.toUInt8 then
      .ok { s.hide 2 with openers := s.openers.tail }
    else .ok (s.hide 1)
  else
    match s.quote with
    | some q =>
      if b = '\\'.toUInt8 then do
        let behind ← source.sliceFrom (s.pos + 1)
        return s.hide (1 + (behind.head?.elim 0 Char.utf8Size))
      else if b = q ∨ b = '\n'.toUInt8 then .ok { s.skip 1 with quote := none }
      else .ok (s.hide 1)
    | none =>
      if b = '/'.toUInt8 ∧ next = some '*'.toUInt8 then .ok { s.hide 2 with openers := [s.pos] }
      else if b = '/'.toUInt8 ∧ next = some '/'.toUInt8 ∧ s.parens = 0 ∧
          previous ≠ some ':'.toUInt8 then do
        let rest ← source.sliceFrom s.pos
        return s.hide (Text.size (rest.takeWhile (· != '\n')))
      else if b = '"'.toUInt8 ∨ b = '\''.toUInt8 then .ok { s.skip 1 with quote := some b }
      else if b = '#'.toUInt8 ∧ next = some '\x7b'.toUInt8 then
        .ok { s.skip 2 with
          out := s.out.set (s.pos + 1) '('.toUInt8
          interpolations := s.interpolations + 1 }
      else if b = '\x7d'.toUInt8 ∧ s.interpolations > 0 then
        .ok { s.skip 1 with
          out := s.out.set s.pos ')'.toUInt8
          interpolations := s.interpolations - 1 }
      else if b = '('.toUInt8 then .ok { s.skip 1 with parens := s.parens + 1 }
      else if b = ')'.toUInt8 then .ok { s.skip 1 with parens := s.parens - 1 }
      else .ok (s.skip 1)

/-- The scan behind its next step, unless it has come to the end. -/
def step? (source : Text) (s : ByteScan) : Except Fault (Option ByteScan) :=
  match source.bytes[s.pos]? with
  | none => .ok none
  | some b =>
    (s.act source (if s.pos = 0 then none else source.bytes[s.pos - 1]?) b
      source.bytes[s.pos + 1]?).map some

/-- So many steps lead from one scan to the other. -/
inductive Run (source : Text) : Nat → ByteScan → ByteScan → Prop where
  | done (s : ByteScan) : Run source 0 s s
  | step {k : Nat} {s next last : ByteScan} (h : s.step? source = .ok (some next))
      (rest : Run source k next last) : Run source (k + 1) s last

theorem Run.trans {source : Text} {j k : Nat} {a b c : ByteScan} (h : Run source j a b)
    (h' : Run source k b c) : Run source (j + k) a c := by
  induction h with
  | done s => rwa [Nat.zero_add]
  | @step j s next last hstep _ ih =>
      rw [Nat.succ_add]
      exact .step hstep (ih h')

theorem Run.single {source : Text} {s next : ByteScan} (h : s.step? source = .ok (some next)) :
    Run source 1 s next := .step h (.done next)

end ByteScan

/-! ## Blanks -/

theorem bytes_blanked (c : Char) :
    (blanked c).bytes = (String.utf8EncodeChar c).map blankByte := by
  by_cases hc : c.toNat < 128
  · exact Text.forall_ascii
      (P := fun c => (blanked c).bytes = (String.utf8EncodeChar c).map blankByte) (by decide) hc
  · have hne : c ≠ '\n' := by
      rintro rfl
      exact hc (by decide)
    have hblank : ∀ x ∈ String.utf8EncodeChar c, blankByte x = ' '.toUInt8 := by
      intro x hx
      have hle := Text.le_of_mem_utf8EncodeChar (Nat.not_lt.mp hc) x hx
      refine if_neg ?_
      rintro rfl
      exact absurd hle (by decide)
    rw [blanked, if_neg hne, List.map_eq_replicate_iff.mpr hblank, String.length_utf8EncodeChar]
    generalize c.utf8Size = n
    induction n with
    | zero => rfl
    | succ n ih =>
        rw [List.replicate_succ, List.replicate_succ, Text.bytes_cons, ih]
        rfl

theorem bytes_flatMap_blanked (t : Text) :
    Text.bytes (t.flatMap blanked) = t.bytes.map blankByte := by
  induction t with
  | nil => rfl
  | cons c t ih =>
      rw [List.flatMap_cons, Text.bytes_append, bytes_blanked, ih, Text.bytes_cons, List.map_append]

/-- A range of bytes that are known to stand there. -/
theorem blankBetween_append (front word back : List UInt8) :
    blankBetween (front ++ word ++ back) front.length (front.length + word.length) =
      front ++ word.map blankByte ++ back := by
  have hfront : front.mapIdx (fun n b =>
      if front.length ≤ n ∧ n < front.length + word.length then blankByte b else b) = front := by
    refine List.ext_getElem (by simp) fun n h h' => ?_
    rw [List.getElem_mapIdx, if_neg (by omega)]
  have hword : word.mapIdx (fun n b => if front.length ≤ n + front.length ∧
      n + front.length < front.length + word.length then blankByte b else b) =
        word.map blankByte := by
    refine List.ext_getElem (by simp) fun n h h' => ?_
    rw [List.length_mapIdx] at h
    rw [List.getElem_mapIdx, if_pos (by omega), List.getElem_map]
  have hback : back.mapIdx (fun n b => if front.length ≤ n + (front.length + word.length) ∧
      n + (front.length + word.length) < front.length + word.length then blankByte b else b) =
        back := by
    refine List.ext_getElem (by simp) fun n h h' => ?_
    rw [List.getElem_mapIdx, if_neg (by omega)]
  rw [blankBetween, List.mapIdx_append, List.mapIdx_append, List.length_append, hfront, hword,
    hback]

/-- Ranges next to each other are blanked as one. -/
theorem blankBetween_blankBetween (bytes : List UInt8) {a b c : Nat} (hab : a ≤ b) (hbc : b ≤ c) :
    blankBetween (blankBetween bytes a b) b c = blankBetween bytes a c := by
  rw [blankBetween, blankBetween, List.mapIdx_mapIdx]
  refine congrArg (List.mapIdx · bytes) (funext fun n => funext fun x => ?_)
  dsimp only [Function.comp]
  by_cases hb : n < b
  · simp [hb, Nat.not_le.mpr hb, Nat.lt_of_lt_of_le hb hbc]
  · simp [hb, Nat.not_lt.mp hb, Nat.le_trans hab (Nat.not_lt.mp hb)]

/-! ## Steps -/

namespace ByteScan

section

variable {source head t : Text} {s : ByteScan} {c : Char}

/-- Goes on behind `k` bytes, which are blanked inside of comments and strings. -/
def pass (s : ByteScan) (k : Nat) : ByteScan :=
  if s.openers ≠ [] ∨ s.quote ≠ none then s.hide k else s.skip k

theorem hide_zero (s : ByteScan) : s.hide 0 = s := by
  have hout : blankBetween s.out s.pos (s.pos + 0) = s.out := by
    refine List.ext_getElem (by simp [blankBetween]) fun n h h' => ?_
    simp only [blankBetween, List.getElem_mapIdx]
    rw [if_neg (by omega)]
  rw [hide, hout]
  rfl

theorem hide_hide (s : ByteScan) (j k : Nat) : (s.hide j).hide k = s.hide (j + k) := by
  have hout : blankBetween (blankBetween s.out s.pos (s.pos + j)) (s.pos + j) (s.pos + (j + k)) =
      blankBetween s.out s.pos (s.pos + (j + k)) :=
    blankBetween_blankBetween _ (by omega) (by omega)
  simp only [hide, skip, Nat.add_assoc, hout]

theorem pass_zero (s : ByteScan) : s.pass 0 = s := by
  rw [pass, hide_zero]
  exact ite_self s

theorem pass_pass (s : ByteScan) (j k : Nat) : (s.pass j).pass k = s.pass (j + k) := by
  by_cases h : s.openers ≠ [] ∨ s.quote ≠ none
  · have hnext : (s.hide j).openers ≠ [] ∨ (s.hide j).quote ≠ none := h
    rw [pass, pass, if_pos h, if_pos hnext, pass, if_pos h, hide_hide]
  · have hnext : ¬ ((s.skip j).openers ≠ [] ∨ (s.skip j).quote ≠ none) := h
    rw [pass, pass, if_neg h, if_neg hnext, pass, if_neg h]
    simp only [skip, Nat.add_assoc]

/-- A step from a byte that is known to stand there. -/
theorem step?_eq {front back : List UInt8} {b : UInt8} (hsplit : source.bytes = front ++ b :: back)
    (hpos : s.pos = front.length) :
    s.step? source = (s.act source front.getLast? b back.head?).map some := by
  have hhere : source.bytes[s.pos]? = some b := by simp [hsplit, hpos]
  have hnext : source.bytes[s.pos + 1]? = back.head? := by
    have hone : front.length + 1 - front.length = 1 := by omega
    rw [hsplit, hpos, List.getElem?_append_right (by omega), hone, List.getElem?_cons_succ,
      List.head?_eq_getElem?]
  have hprevious : (if s.pos = 0 then none else source.bytes[s.pos - 1]?) = front.getLast? := by
    rw [hpos, hsplit, Text.getElem?_before]
  rw [step?, hhere, hnext, hprevious]

theorem step?_end (h : s.pos = source.size) : s.step? source = .ok none := by
  have hnone : source.bytes[s.pos]? = none := by simp [h]
  rw [step?, hnone]

/-! ### Bytes of longer characters -/

theorem act_of_le {b : UInt8} {previous next : Option UInt8} (hb : 128 ≤ b.toNat)
    (hquote : ∀ q, s.quote = some q → q.toNat < 128) :
    s.act source previous b next = .ok (s.pass 1) := by
  have hne : ∀ d : Char, d.toNat < 128 → b ≠ d.toUInt8 := fun _ => Text.ne_toUInt8_of_le hb
  have hslash := hne '/' (by decide)
  unfold act pass
  by_cases hopeners : s.openers ≠ []
  · simp only [hopeners, hslash, hne '*' (by decide), ne_eq, not_false_eq_true, ↓reduceIte,
      false_and, true_or]
  · cases hq : s.quote with
    | some q =>
        have hend : b ≠ q := by
          rintro rfl
          have := hquote b hq
          omega
        simp only [hopeners, hend, hne '\\' (by decide), hne '\n' (by decide), ne_eq, reduceCtorEq,
          not_false_eq_true, ↓reduceIte, or_true, or_self]
    | none =>
        simp only [hopeners, hslash, hne '"' (by decide), hne '\'' (by decide), hne '#' (by decide),
          hne '\x7d' (by decide), hne '(' (by decide), hne ')' (by decide), ne_eq,
          not_true_eq_false, ↓reduceIte, false_and, or_self]

theorem run_pass {word front back : List UInt8} (hword : ∀ x ∈ word, 128 ≤ x.toNat)
    (hquote : ∀ q, s.quote = some q → q.toNat < 128)
    (hsplit : source.bytes = front ++ word ++ back) (hpos : s.pos = front.length) :
    Run source word.length s (s.pass word.length) := by
  induction word generalizing s front with
  | nil =>
      rw [List.length_nil, pass_zero]
      exact .done s
  | cons b word ih =>
      obtain ⟨hb, hword⟩ := List.forall_mem_cons.mp hword
      have hhere : source.bytes = front ++ b :: (word ++ back) := by simp [hsplit]
      have hstep : s.step? source = .ok (some (s.pass 1)) := by
        rw [step?_eq hhere hpos, act_of_le hb hquote]
        rfl
      have hkept : (s.pass 1).quote = s.quote ∧ (s.pass 1).pos = s.pos + 1 := by
        unfold pass
        split <;> exact ⟨rfl, rfl⟩
      have hbehind : source.bytes = front ++ [b] ++ word ++ back := by simp [hsplit]
      have hrest : Run source word.length (s.pass 1) ((s.pass 1).pass word.length) :=
        ih hword (by rwa [hkept.1]) hbehind
          (by rw [hkept.2, hpos, List.length_append, List.length_singleton])
      rw [pass_pass, Nat.add_comm 1] at hrest
      exact .step hstep hrest

/-- A character that is passed over takes a step for each of its bytes. -/
theorem run_char (hsplit : source = head ++ c :: t) (hpos : s.pos = head.size)
    (hquote : ∀ q, s.quote = some q → q.toNat < 128)
    (hact : c.toNat < 128 →
      s.act source head.bytes.getLast? c.toUInt8 t.bytes.head? = .ok (s.pass 1)) :
    Run source c.utf8Size s (s.pass c.utf8Size) := by
  have hbytes : source.bytes = head.bytes ++ String.utf8EncodeChar c ++ t.bytes := by
    rw [hsplit, Text.bytes_append, Text.bytes_cons, List.append_assoc]
  have hlength := String.length_utf8EncodeChar c
  rw [← Text.length_bytes] at hpos
  by_cases hc : c.toNat < 128
  · rw [Text.utf8EncodeChar_of_ascii hc] at hbytes hlength
    rw [← hlength]
    refine .single ?_
    rw [step?_eq (by rw [hbytes, List.append_assoc, List.singleton_append]) hpos, hact hc]
    rfl
  · have hrun := run_pass (Text.le_of_mem_utf8EncodeChar (Nat.not_lt.mp hc)) hquote hbytes hpos
    rwa [hlength] at hrun

end

end ByteScan

end PageLint.Style
