import Mathlib.Order.Bounds.Basic
import PageLint.Proofs.Text.Lines
import PageLint.Proofs.Text.Names

/-! # Line starts

A line starts at the front of a text or behind a newline, and stops in front of the next newline or
at the end. The line of an offset is told by the starts that are not behind it, lines and columns
are in the order of the offsets, and a line has at each column the character that stands there. -/

namespace PageLint.Text

variable {t : Text} {c : Char} {n m : Nat}

/-! ## Newlines -/

/-- The offsets of the newlines. -/
def newlines (t : Text) : List Nat := (t.offsets.filter (·.2 = '\n')).map (·.1)

/-- The offsets at which the lines start. -/
def lineStarts (t : Text) : List Nat := 0 :: t.newlines.map (· + 1)

/-- The offsets at which the lines stop. -/
def lineStops (t : Text) : List Nat := t.newlines ++ [t.size]

theorem offsetsFrom_add (n k : Nat) (t : Text) :
    t.offsetsFrom (n + k) = (t.offsetsFrom n).map fun (m, c) => (m + k, c) := by
  induction t generalizing n with
  | nil => rfl
  | cons c t ih =>
      have hnext : n + k + c.utf8Size = n + c.utf8Size + k := by omega
      rw [offsetsFrom, offsetsFrom, hnext, ih, List.map_cons]

theorem newlines_append (a b : Text) :
    newlines (a ++ b) = a.newlines ++ b.newlines.map (· + a.size) := by
  have hshift := offsetsFrom_add 0 a.size b
  rw [newlines, offsets, offsetsFrom_append, hshift, List.filter_append, List.map_append,
    List.filter_map, List.map_map, newlines, newlines, List.map_map]
  rfl

theorem newlines_newline : newlines ['\n'] = [0] := rfl

theorem exists_of_mem_newlines (h : n ∈ t.newlines) :
    ∃ front back, t = front ++ '\n' :: back ∧ front.size = n := by
  obtain ⟨⟨k, c⟩, hmem, rfl⟩ := List.mem_map.mp h
  obtain ⟨hoffset, hc⟩ := List.mem_filter.mp hmem
  obtain rfl : c = '\n' := by simpa using hc
  obtain ⟨front, back, hsplit, hk⟩ := exists_of_mem_offsetsFrom hoffset
  exact ⟨front, back, hsplit, by rw [hk, Nat.zero_add]⟩

theorem newlines_of_not_mem (h : '\n' ∉ t) : t.newlines = [] := by
  refine List.eq_nil_iff_forall_not_mem.mpr fun n hn => ?_
  obtain ⟨front, back, rfl, -⟩ := exists_of_mem_newlines hn
  exact h (by simp)

theorem lt_size_of_mem_newlines (h : n ∈ t.newlines) : n < t.size := by
  obtain ⟨front, back, rfl, rfl⟩ := exists_of_mem_newlines h
  have hpos := Char.utf8Size_pos '\n'
  rw [size_append, size_cons]
  omega

/-- What holds of a line, and of a line in front of a text of which it holds, holds of any text. -/
theorem lines_induction {P : Text → Prop} (last : ∀ line, '\n' ∉ line → P line)
    (next : ∀ line rest, '\n' ∉ line → P rest → P (line ++ '\n' :: rest)) (t : Text) : P t := by
  induction h : t.length using Nat.strong_induction_on generalizing t with
  | _ k ih =>
      by_cases hmem : '\n' ∈ t
      · obtain ⟨line, rest, rfl, hline⟩ := List.eq_append_cons_of_mem hmem
        have hshort : rest.length < k := by
          rw [← h, List.length_append, List.length_cons]
          omega
        exact next line rest hline (ih rest.length hshort rest rfl)
      · exact last t hmem

theorem size_append_newline (line : Text) : size (line ++ ['\n']) = line.size + 1 := by
  rw [size_append]
  rfl

theorem newlines_line_append {line : Text} (h : '\n' ∉ line) (rest : Text) :
    newlines (line ++ '\n' :: rest) =
      line.size :: rest.newlines.map (· + (line.size + 1)) := by
  rw [← List.singleton_append, ← List.append_assoc, newlines_append, newlines_append,
    newlines_of_not_mem h, newlines_newline, size_append_newline]
  simp

/-! ## Starts and stops -/

theorem length_newlines (t : Text) : t.newlines.length = t.count '\n' := by
  induction t using lines_induction with
  | last line h => rw [newlines_of_not_mem h, List.count_eq_zero.mpr h, List.length_nil]
  | next line rest h ih =>
      rw [newlines_line_append h, List.length_cons, List.length_map, ih, List.count_append,
        List.count_eq_zero.mpr h, List.count_cons_self, Nat.zero_add]

/-- The lines start one behind the other. -/
theorem pairwise_lineStarts (t : Text) : t.lineStarts.Pairwise (· < ·) := by
  have hsorted : t.newlines.Pairwise (· < ·) := by
    induction t using lines_induction with
    | last line h => simp [newlines_of_not_mem h]
    | next line rest h ih =>
        rw [newlines_line_append h, List.pairwise_cons, List.pairwise_map]
        refine ⟨fun n hn => ?_, ih.imp fun hlt => ?_⟩
        · obtain ⟨k, -, rfl⟩ := List.mem_map.mp hn
          omega
        · omega
  rw [lineStarts, List.pairwise_cons, List.pairwise_map]
  refine ⟨fun n hn => ?_, hsorted.imp fun hlt => ?_⟩
  · obtain ⟨k, -, rfl⟩ := List.mem_map.mp hn
    omega
  · omega

/-- The line of an offset is the number of the lines that do not start behind it. -/
theorem lineOf_eq_countP (t : Text) (n : Nat) :
    t.lineOf n = t.lineStarts.countP (· ≤ t.clamp n) := by
  have hfront : (before t n).newlines.countP (fun k => decide (k + 1 ≤ t.clamp n)) =
      (before t n).newlines.length := by
    refine List.countP_eq_length.mpr fun k hk => ?_
    have hlt := lt_size_of_mem_newlines hk
    rw [size_before] at hlt
    exact decide_eq_true hlt
  have hback : (after t n).newlines.countP (fun k => decide (k + t.clamp n + 1 ≤ t.clamp n)) =
      0 := by
    refine List.countP_eq_zero.mpr fun k _ => ?_
    simp only [decide_eq_true_eq]
    omega
  have hsplit : t.newlines =
      (before t n).newlines ++ (after t n).newlines.map (· + t.clamp n) := by
    rw [← size_before, ← newlines_append, before_append_after]
  rw [lineStarts, List.countP_cons_of_pos (by simp), List.countP_map, hsplit, List.countP_append,
    List.countP_map, lineOf, ← length_newlines]
  simp only [Function.comp_def, hfront, hback, Nat.add_zero]

/-! ## Lines between starts and stops -/

theorem slice_append_add (a b : Text) (start stop : Nat) :
    slice (a ++ b) (a.size + start) (a.size + stop) = b.slice start stop := by
  rw [slice, after_append_add, Nat.add_sub_add_left, slice]

theorem slice_size_append (a b : Text) : slice (a ++ b) 0 a.size = a := by
  rw [slice, after_zero, Nat.sub_zero, before_size_append]

/-- The lines are the slices from the starts to the stops. -/
theorem lines_eq_zipWith (t : Text) : t.lines = List.zipWith t.slice t.lineStarts t.lineStops := by
  induction t using lines_induction with
  | last line h =>
      have hwhole := slice_size_append line []
      rw [List.append_nil] at hwhole
      rw [lines_of_newline_not_mem h, lineStarts, lineStops, newlines_of_not_mem h]
      simp [hwhole]
  | next line rest h ih =>
      have hwhole : size (line ++ '\n' :: rest) = rest.size + (line.size + 1) := by
        rw [← List.singleton_append, ← List.append_assoc, size_append, size_append_newline,
          Nat.add_comm]
      have hslice : ∀ start stop, slice (line ++ '\n' :: rest) (start + (line.size + 1))
          (stop + (line.size + 1)) = rest.slice start stop := by
        intro start stop
        rw [← slice_append_add (line ++ ['\n']) rest, size_append_newline, Nat.add_comm start,
          Nat.add_comm stop, List.append_assoc, List.singleton_append]
      have hstarts : lineStarts (line ++ '\n' :: rest) =
          0 :: rest.lineStarts.map (· + (line.size + 1)) := by
        rw [lineStarts, newlines_line_append h, lineStarts]
        simp only [List.map_cons, List.map_map, Function.comp_def, Nat.zero_add,
          Nat.add_right_comm _ 1]
      have hstops : lineStops (line ++ '\n' :: rest) =
          line.size :: rest.lineStops.map (· + (line.size + 1)) := by
        rw [lineStops, newlines_line_append h, lineStops, hwhole]
        simp
      rw [lines_append_cons, lines_of_newline_not_mem h, hstarts, hstops, List.zipWith_cons_cons,
        slice_size_append, List.zipWith_map, List.singleton_append, ih]
      simp only [hslice]

/-- Newlines between the lines make up the text. -/
theorem join_lines (t : Text) : join ['\n'] t.lines = t := by
  induction t using lines_induction with
  | last line h =>
      rw [lines_of_newline_not_mem h]
      rfl
  | next line rest h ih =>
      rw [lines_append_cons, lines_of_newline_not_mem h, List.singleton_append]
      cases hlines : rest.lines with
      | nil => exact absurd hlines (splitWhere_ne_nil _ _)
      | cons piece more =>
          rw [join, ← hlines, ih]
          · simp
          · simp

/-! ## Boundaries -/

theorem clamp_le (t : Text) (n : Nat) : t.clamp n ≤ n := by
  induction t generalizing n with
  | nil => exact Nat.zero_le n
  | cons c t ih =>
      rw [clamp]
      split
      · have hrest := ih (n - c.utf8Size)
        omega
      · exact Nat.zero_le n

theorem isGreatest_clamp (t : Text) (n : Nat) :
    IsGreatest {m | t.IsCut m ∧ m ≤ min n t.size} (t.clamp n) := by
  have hcut := isCut_clamp t n
  refine ⟨⟨hcut, Nat.le_min.mpr ⟨clamp_le t n, hcut.le_size⟩⟩, fun m hm => ?_⟩
  obtain ⟨⟨front, back, rfl, rfl⟩, hle⟩ := hm
  obtain ⟨k, rfl⟩ := Nat.exists_eq_add_of_le (Nat.le_trans hle (Nat.min_le_left _ _))
  rw [← size_before, before_append_add, size_append]
  exact Nat.le_add_right _ _

/-! ## Lines and columns -/

theorem lineOf_le_lineCount (t : Text) (n : Nat) : t.lineOf n ≤ t.lineCount := by
  have hcount : t.count '\n' = (before t n).count '\n' + (after t n).count '\n' := by
    rw [← List.count_append, before_append_after]
  rw [lineCount, length_lines, lineOf, hcount]
  omega

/-- A later cut has a greater column, or a later line. -/
theorem lineColumn_lt (hn : t.IsCut n) (hm : t.IsCut m) (h : n < m) :
    Prod.Lex (· < ·) (· < ·) (t.lineColumn n) (t.lineColumn m) := by
  have hbefore := before_eq_append_slice hn h.le
  have hline := lineOf_eq_add hn h.le
  rw [Prod.lex_def]
  by_cases hnewline : '\n' ∈ t.slice n m
  · have hcount := List.count_pos_iff.mpr hnewline
    have hless : t.lineOf n < t.lineOf m := by omega
    exact .inl hless
  · have hcount := List.count_eq_zero.mpr hnewline
    have hsize := congrArg size hbefore
    rw [hm.size_before_eq, size_append, hn.size_before_eq] at hsize
    have hne : t.slice n m ≠ [] := by
      intro hnil
      rw [hnil, size_nil] at hsize
      omega
    have hpos := List.length_pos_iff.mpr hne
    have hcolumn : t.columnOf n < t.columnOf m := by
      rw [columnOf, columnOf, lineHead_of_append hbefore hnewline, List.length_append]
      omega
    have hsame : t.lineOf n = t.lineOf m := by omega
    exact .inr ⟨hsame, hcolumn⟩

/-- Up to its end, the line holds nothing but carriage returns. -/
def EndsLine (t : Text) : Prop :=
  ∃ returns rest, t = returns ++ rest ∧ (∀ c ∈ returns, c = '\r') ∧
    (rest = [] ∨ rest.head? = some '\n')

/-- The rest of a line ends it if and only if it is made of carriage returns. -/
theorem endsLine_append_iff {tail below : Text} (htail : '\n' ∉ tail)
    (hbelow : below = [] ∨ below.head? = some '\n') :
    EndsLine (tail ++ below) ↔ ∀ c ∈ tail, c = '\r' := by
  refine ⟨fun h => ?_, fun h => ⟨tail, below, rfl, h, hbelow⟩⟩
  obtain ⟨returns, rest, hsplit, hreturns, hrest⟩ := h
  rcases List.append_eq_append_iff.mp hsplit with ⟨more, rfl, -⟩ | ⟨more, rfl, hmore⟩
  · exact fun c hc => hreturns c (List.mem_append_left more hc)
  · cases more with
    | nil => simpa using hreturns
    | cons d more =>
        rcases hrest with rfl | hrest
        · cases hmore
        · rw [hmore] at hrest
          obtain rfl : d = '\n' := Option.some.inj hrest
          exact absurd (by simp) htail

/-- A line has a character at the column of an offset if it does not end there, and then it is the
one that stands at the offset. -/
theorem IsPlace.getElem?_lineText {above head tail below back : Text}
    (h : t.IsPlace n above head tail below) (hback : tail ++ below = c :: back) :
    (∃ row, t.lineText? (t.lineOf n) = some row ∧ row[t.columnOf n - 1]? = some c) ↔
      ¬ EndsLine (c :: back) := by
  have htail : '\n' ∉ tail := fun hmem => h.one_line (List.mem_append_right head hmem)
  obtain ⟨returns, hline, hreturns, -⟩ :=
    exists_eq_dropEndWhile_append (· == '\r') (head ++ tail)
  rw [h.lineText?_eq, h.columnOf_eq, ← hback, endsLine_append_iff htail h.below_starts,
    Nat.add_sub_cancel]
  simp only [Option.some.injEq, exists_eq_left']
  generalize hkept : (head ++ tail).dropEndWhile (· == '\r') = kept at hline
  constructor
  · intro hfound hall
    have hdrop : (head ++ tail).dropEndWhile (· == '\r') = head.dropEndWhile (· == '\r') :=
      dropEndWhile_append head (by simpa using hall)
    obtain ⟨run, hhead, -⟩ := exists_eq_dropEndWhile_append (· == '\r') head
    have hlength := congrArg List.length hhead
    rw [← hdrop, hkept, List.length_append] at hlength
    obtain ⟨hlt, -⟩ := List.getElem?_eq_some_iff.mp hfound
    omega
  · intro hnot
    have hlt : head.length < kept.length := by
      apply Nat.lt_of_not_le
      intro hle
      have hlength := congrArg List.length hline
      rw [List.length_append, List.length_append] at hlength
      have hsuffix : tail <:+ returns :=
        List.suffix_of_suffix_length_le (List.suffix_append head tail)
          (hline ▸ List.suffix_append kept returns) (by omega)
      exact hnot fun d hd => by simpa using hreturns d (hsuffix.subset hd)
    cases tail with
    | nil => exact absurd (by simp) hnot
    | cons d tail =>
        obtain rfl : d = c := (List.cons.inj hback).1
        have hwhole : kept[head.length]? = (kept ++ returns)[head.length]? :=
          (List.getElem?_append_left hlt).symm
        rw [hwhole, ← hline]
        simp

/-- Lines and columns of offsets. They are in the order of the cuts; a line is one of the lines of
the text, and the number of those that do not start behind the offset; other offsets count as the
greatest cut in front of them. The lines stand between their starts and stops and make up the text,
and a line has at the column of a character that character, unless only carriage returns are left on
it. -/
theorem lineColumn_spec (t : Text) :
    (∀ n m, t.IsCut n → t.IsCut m → n < m →
      Prod.Lex (· < ·) (· < ·) (t.lineColumn n) (t.lineColumn m)) ∧
    (∀ n, 1 ≤ t.lineOf n ∧ t.lineOf n ≤ t.lineCount ∧
      t.lineOf n = t.lineStarts.countP (· ≤ t.clamp n)) ∧
    (∀ n, IsGreatest {m | t.IsCut m ∧ m ≤ min n t.size} (t.clamp n)) ∧
    t.lineStarts.Pairwise (· < ·) ∧
    t.lines = List.zipWith t.slice t.lineStarts t.lineStops ∧
    join ['\n'] t.lines = t ∧
    ∀ (front : Text) (c : Char) (back : Text), t = front ++ c :: back →
      ((∃ row, t.lineText? (t.lineOf front.size) = some row ∧
        row[t.columnOf front.size - 1]? = some c) ↔ ¬ EndsLine (c :: back)) := by
  refine ⟨fun n m => lineColumn_lt, fun n => ⟨Nat.succ_pos _, lineOf_le_lineCount t n,
    lineOf_eq_countP t n⟩, isGreatest_clamp t, pairwise_lineStarts t, lines_eq_zipWith t,
    join_lines t, fun front c back hsplit => ?_⟩
  obtain ⟨above, head, tail, below, hplace⟩ := exists_isPlace ⟨front, c :: back, hsplit, rfl⟩
  have hbefore := hplace.before_eq
  rw [hsplit, before_size_append] at hbefore
  have hback : tail ++ below = c :: back := by
    have htext := hplace.text_eq
    rw [hsplit, hbefore, List.append_assoc (above ++ head)] at htext
    exact (List.append_cancel_left htext).symm
  exact hplace.getElem?_lineText hback

/-- Two lines, the first of which holds a wide character and a carriage return. -/
def wideLine : Text := "é\r\nb".toList

theorem lineColumn_spec_wideLine :
    wideLine.IsCut 2 ∧ wideLine.IsCut 4 ∧
      wideLine.lineColumn 2 = (1, 2) ∧ wideLine.lineColumn 4 = (2, 1) ∧
      Prod.Lex (· < ·) (· < ·) (wideLine.lineColumn 2) (wideLine.lineColumn 4) ∧
      ¬ EndsLine ['b'] ∧
      ∃ row, wideLine.lineText? 2 = some row ∧ row[0]? = some 'b' := by
  obtain ⟨horder, -, -, -, -, -, hcolumn⟩ := lineColumn_spec wideLine
  have hn : wideLine.IsCut 2 := ⟨['é'], "\r\nb".toList, rfl, rfl⟩
  have hm : wideLine.IsCut 4 := ⟨"é\r\n".toList, ['b'], rfl, rfl⟩
  have hnot : ¬ EndsLine ['b'] := by
    intro h
    have hends : EndsLine (['b'] ++ []) := h
    have hreturns := (endsLine_append_iff (by decide) (.inl rfl)).mp hends
    exact absurd (hreturns 'b' List.mem_cons_self) (by decide)
  exact ⟨hn, hm, rfl, rfl, horder 2 4 hn hm (by decide), hnot,
    (hcolumn "é\r\n".toList 'b' [] rfl).mpr hnot⟩

end PageLint.Text
