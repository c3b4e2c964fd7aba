import PageLint.Survey.Text
import PageLint.Proofs.Engine.Selection
import PageLint.Proofs.Engine.Anchoring

/-! # Marks below a line

The text of a diagnostic shows the line that it is on, and marks its range below. In front of the
marks there is a blank for each character in front of the range. There is a mark for each byte of
the range, but not for more than what is left of the line. -/

namespace PageLint

/-! ## Bytes and characters -/

namespace Text

variable {t a b : Text} {c : Char}

theorem utf8Size_eq_one_iff : c.utf8Size = 1 ↔ isAscii c := by
  have hval : c.val.toNat = c.toNat := rfl
  rw [Char.utf8Size_eq_one_iff, UInt32.le_iff_toNat_le, hval, isAscii, decide_eq_true_eq]
  exact Nat.lt_succ_iff.symm

theorem length_le_size (t : Text) : t.length ≤ t.size := by
  induction t with
  | nil => exact Nat.le_refl 0
  | cons c t ih =>
      have hpos := c.utf8Size_pos
      rw [List.length_cons, size_cons]
      omega

/-- A text has as many bytes as characters if all of them are ASCII, and more if not. -/
theorem size_eq_length_iff : t.size = t.length ↔ ∀ c ∈ t, isAscii c := by
  induction t with
  | nil => simp
  | cons c t ih =>
      have hpos := c.utf8Size_pos
      have hle := length_le_size t
      rw [size_cons, List.length_cons, List.forall_mem_cons, ← ih, ← utf8Size_eq_one_iff]
      omega

theorem size_lineHead_le {n : Nat} (h : t.IsCut n) : (t.lineHead n).size ≤ n := by
  obtain ⟨above, head, tail, below, hplace⟩ := exists_isPlace h
  rw [hplace.lineHead_eq, ← hplace.offset_eq, size_append]
  exact Nat.le_add_left _ _

/-- Of two texts at the front of one, the one with fewer bytes is at the front of the other. -/
theorem prefix_of_size_le (ha : a <+: t) (hb : b <+: t) (h : a.size ≤ b.size) : a <+: b := by
  rcases List.prefix_or_prefix_of_prefix ha hb with hprefix | ⟨more, rfl⟩
  · exact hprefix
  · rw [size_append] at h
    have hnil : more = [] := eq_nil_of_size_eq_zero (by omega)
    rw [hnil, List.append_nil]

end Text

/-! ## Ranges on a line -/

namespace Diagnostic

/-- The range of a diagnostic is not empty, and it ends where its context ends or in front of
that. The context starts where the line of the diagnostic starts. -/
structure IsInContext (source : Text) (d : Diagnostic) : Prop where
  nonempty : d.start < d.stop
  within : ∃ context, d.context = some context ∧
    d.stop ≤ d.start - (source.lineHead d.start).size + context.size

/-- The context of an anchored diagnostic is made of what is in front of its range on the line, of
the range, and of a rest. -/
theorem AnchoredIn.exists_context {source : Text} {d : Diagnostic} (h : d.AnchoredIn source)
    (hrange : d.IsInContext source) :
    d.column = some ((source.lineHead d.start).length + 1) ∧
      (source.slice d.start d.stop).size = d.stop - d.start ∧
      ∃ rest, d.context = some
        (source.lineHead d.start ++ source.slice d.start d.stop ++ rest) := by
  obtain ⟨above, head, tail, below, hplace, -, hcolumn, context, returns, hcontext, hline, -⟩ :=
    h.place
  obtain ⟨known, hknown, hwithin⟩ := hrange.within
  obtain rfl : context = known := Option.some.inj (hcontext.symm.trans hknown)
  have hbefore := Text.before_eq_append_slice h.range.start_cut h.range.le
  have hsize := congrArg Text.size hbefore
  have hoffset := hplace.offset_eq
  rw [h.range.stop_cut.size_before_eq, Text.size_append, h.range.start_cut.size_before_eq] at hsize
  rw [Text.size_append] at hoffset
  rw [hplace.lineHead_eq] at hwithin ⊢
  have htext : above ++ (head ++ source.slice d.start d.stop ++ source.after d.stop) =
      above ++ (context ++ (returns ++ below)) := by
    calc above ++ (head ++ source.slice d.start d.stop ++ source.after d.stop)
      _ = source.before d.stop ++ source.after d.stop := by
        rw [hbefore, hplace.before_eq]
        simp
      _ = above ++ (head ++ tail) ++ below := by
        rw [Text.before_append_after]
        nth_rewrite 1 [hplace.text_eq]
        simp
      _ = above ++ (context ++ (returns ++ below)) := by
        rw [hline]
        simp
  have hprefix : head ++ source.slice d.start d.stop <+: context := by
    apply Text.prefix_of_size_le (List.prefix_append _ (source.after d.stop))
    · rw [List.append_cancel_left htext]
      exact List.prefix_append _ _
    · rw [Text.size_append]
      omega
  obtain ⟨rest, hrest⟩ := hprefix
  refine ⟨by rw [hcolumn, Nat.add_comm], by omega, rest, by rw [hcontext, hrest]⟩

end Diagnostic

/-! ## Rows -/

namespace TextForm

variable {form : TextForm} {d : Diagnostic} {context : Text} {k : Nat}

/-- The row with the line of a diagnostic. -/
def lineRow (line : Nat) (context : Text) : String :=
  padNumber line ++ " | " ++ String.ofList context ++ "\n"

/-- The row below it: blanks and marks behind a bar and a blank. -/
def markRow (blanks marks : Nat) : String :=
  "     | " ++ String.ofList (List.replicate blanks ' ' ++ List.replicate marks '^') ++ "\n"

theorem pushn_empty (c : Char) (n : Nat) : "".pushn c n = String.ofList (List.replicate n c) := by
  rw [String.pushn_eq_repeat_push]
  induction n with
  | zero => rfl
  | succ n ih =>
      rw [Nat.repeat, ih, List.replicate_succ', String.ofList_append]
      rfl

theorem paint_eq (h : form.isColored = false) (ink : Ink) (s : String) : form.paint ink s = s := by
  rw [paint, h]
  rfl

/-- Without colors, a column of its own and a range in order, the rows have a blank for each
character in front of the column. -/
theorem sourceLines_eq (hcolor : form.isColored = false) (hcolumn : d.column = some (k + 1))
    (hk : k ≤ maxBlanks) (hrange : d.start ≤ d.stop) :
    form.sourceLines d context = .ok (lineRow d.line context ++
      markRow k (min (max 1 (context.length - k)) (max 1 (d.stop - d.start)))) := by
  have hfits : ¬ (decide (k + 1 = 0) || decide (maxBlanks < k)) = true := by
    simpa using hk
  have hbar : " | " = " " ++ "|" ++ " " := rfl
  have hindent : "     | " = "     " ++ "|" ++ " " := rfl
  simp only [sourceLines, hcolumn, Option.getD_some, paint_eq hcolor, pushn_empty,
    Nat.add_sub_cancel]
  rw [if_neg hfits, if_neg (Nat.not_lt.mpr hrange), lineRow, markRow, hbar, hindent,
    String.ofList_append]
  simp only [toString, String.append_assoc]
  rfl

/-- So the text of a diagnostic with a context has these rows behind its first one. -/
theorem diagnostic_eq (hcolor : form.isColored = false) (hsource : form.showSource = true)
    (hcontext : d.context = some context) (hcolumn : d.column = some (k + 1)) (hk : k ≤ maxBlanks)
    (hrange : d.start ≤ d.stop) (file : String) :
    form.diagnostic file d = .ok (form.headLine file d ++ (lineRow d.line context ++
      markRow k (min (max 1 (context.length - k)) (max 1 (d.stop - d.start)))) ++
      if form.showFixes then form.fixLine d else "") := by
  rw [diagnostic, hcontext]
  dsimp only
  rw [if_pos hsource, sourceLines_eq hcolor hcolumn hk hrange]
  rfl

end TextForm

theorem Engine.anchoredIn_of_check {e : Engine} {source : Text} {l : Language} {o : Options}
    {clock : Deadline} {r : Report} {d : Diagnostic} (h : e.check source l o clock = .ok r)
    (hd : d ∈ r.diagnostics) : d.AnchoredIn source := by
  rcases check_eq_ok_iff.mp h with ⟨-, rfl⟩ | ⟨c, f, -, -, rfl⟩
  · cases hd
  · exact anchoredIn_of_mem_report hd

/-- Below the line of a diagnostic whose range lies in the context, there is a blank for each
character in front of the range, and then a mark for each byte of the range, as long as there are
characters left on the line. There are as many marks as the range has characters if and only if the
range goes on to the end of the context or holds nothing but ASCII characters. No text in memory
has more bytes than fit into one piece of blanks. -/
theorem Engine.check_marked {e : Engine} {source : Text} {l : Language} {o : Options}
    {clock : Deadline} {r : Report} {d : Diagnostic} {form : TextForm}
    (hcheck : e.check source l o clock = .ok r) (hd : d ∈ r.diagnostics)
    (hrange : d.IsInContext source) (hcolor : form.isColored = false)
    (hsource : form.showSource = true) (hsize : source.size ≤ TextForm.maxBlanks)
    (file : String) :
    ∃ head marked rest marks, head = source.lineHead d.start ∧
      marked = source.slice d.start d.stop ∧
      d.column = some (head.length + 1) ∧ d.context = some (head ++ marked ++ rest) ∧
      form.diagnostic file d = .ok (form.headLine file d ++
        (TextForm.lineRow d.line (head ++ marked ++ rest) ++
          TextForm.markRow head.length marks) ++
        if form.showFixes then form.fixLine d else "") ∧
      marks = min (marked.length + rest.length) marked.size ∧
      (marks = marked.length ↔ rest = [] ∨ ∀ c ∈ marked, Text.isAscii c) := by
  have hanchored := anchoredIn_of_check hcheck hd
  have hcut := hanchored.range.start_cut
  obtain ⟨hcolumn, hbytes, rest, hcontext⟩ := hanchored.exists_context hrange
  have hblanks : (source.lineHead d.start).length ≤ TextForm.maxBlanks :=
    calc (source.lineHead d.start).length
      _ ≤ (source.lineHead d.start).size := Text.length_le_size _
      _ ≤ d.start := Text.size_lineHead_le hcut
      _ ≤ source.size := hcut.le_size
      _ ≤ TextForm.maxBlanks := hsize
  have hdiagnostic := TextForm.diagnostic_eq hcolor hsource hcontext hcolumn hblanks
    hanchored.range.le file
  have hnonempty := hrange.nonempty
  generalize source.lineHead d.start = head at *
  generalize source.slice d.start d.stop = marked at *
  have hle := Text.length_le_size marked
  have hpos : 0 < marked.length := by
    apply List.length_pos_iff.mpr
    rintro rfl
    rw [Text.size_nil] at hbytes
    omega
  have hmarks : min (max 1 ((head ++ marked ++ rest).length - head.length))
      (max 1 (d.stop - d.start)) = min (marked.length + rest.length) marked.size := by
    simp only [List.length_append]
    omega
  rw [hmarks] at hdiagnostic
  refine ⟨head, marked, rest, _, rfl, rfl, hcolumn, hcontext, hdiagnostic, rfl, ?_⟩
  rw [← Text.size_eq_length_iff, ← List.length_eq_zero_iff]
  omega

/-- A length with a wide character in it, which ends its line. -/
def Style.wideLength : Text := "a\x7bwidth:1é\n\x7d".toList

/-- What is reported for a wide length, with what stands behind it on its line. -/
def Style.wideLengthIssue (rest : String) : Diagnostic where
  message := "Invalid length value for width: 1é"
  severity := .error
  category := some .value
  start := 8
  stop := 11
  line := 1
  column := some 9
  rule := some "invalid-value"
  context := some ("a\x7bwidth:1é" ++ rest).toList

/-- There are two marks below the two characters of the length. -/
theorem Engine.check_marked_wideLength :
    ∃ r d form, standard.check Style.wideLength .style {} = .ok r ∧ d ∈ r.diagnostics ∧
      d = Style.wideLengthIssue "" ∧ d.IsInContext Style.wideLength ∧
      Style.wideLength.size ≤ TextForm.maxBlanks ∧ form = { isColored := false } ∧
      TextForm.diagnostic form "a.css" d = .ok (form.headLine "a.css" d ++
        (TextForm.lineRow 1 "a\x7bwidth:1é".toList ++ TextForm.markRow 8 2) ++ "") := by
  have hcheck : standard.check Style.wideLength .style {} = .ok _ := rfl
  have hissues : (Findings.report Style.wideLength {}
      (Style.check Style.Validators.standard Style.wideLength {})).diagnostics =
      [Style.wideLengthIssue ""] := by
    decide +kernel
  have hd := hissues ▸ List.mem_singleton_self (Style.wideLengthIssue "")
  have hrange : (Style.wideLengthIssue "").IsInContext Style.wideLength :=
    ⟨by decide, _, rfl, by decide +kernel⟩
  have hsize : Style.wideLength.size ≤ TextForm.maxBlanks := by decide +kernel
  have hcolor : TextForm.isColored { isColored := false } = false := rfl
  obtain ⟨head, marked, rest, marks, hhead, hmarked, -, hcontext, hrows, -, hmarks⟩ :=
    check_marked hcheck hd hrange hcolor rfl hsize "a.css"
  replace hhead : head = "a\x7bwidth:".toList := hhead.trans (by decide +kernel)
  replace hmarked : marked = ['1', 'é'] := hmarked.trans (by decide +kernel)
  subst hhead hmarked
  have hline : "a\x7bwidth:".toList ++ ['1', 'é'] ++ rest = "a\x7bwidth:1é".toList :=
    Option.some.inj (hcontext.symm.trans (by decide +kernel))
  have hrest : rest = [] := List.append_right_eq_self.mp (hline.trans (by decide +kernel))
  rw [hline, hmarks.mpr (.inl hrest)] at hrows
  exact ⟨_, _, _, hcheck, hd, rfl, hrange, hsize, rfl, hrows⟩

/-- A length with a wide character in it, and a brace behind it on its line. -/
def Style.wideLengthInLine : Text := "a\x7bwidth:1é\x7d".toList

/-- Below the length of two characters there are three marks. -/
theorem Engine.check_marked_wideLengthInLine :
    ∃ r d, standard.check Style.wideLengthInLine .style {} = .ok r ∧ r.diagnostics = [d] ∧
      d.IsInContext Style.wideLengthInLine ∧
      Style.wideLengthInLine.slice d.start d.stop = ['1', 'é'] ∧
      TextForm.diagnostic { isColored := false } "a.css" d =
        .ok ("a.css:1:9: error[invalid-value]: Invalid length value for width: 1é\n" ++
          ("   1 | a\x7bwidth:1é\x7d\n" ++
           "     |         ^^^\n")) := by
  have hissues : (Findings.report Style.wideLengthInLine {}
      (Style.check Style.Validators.standard Style.wideLengthInLine {})).diagnostics =
      [Style.wideLengthIssue "\x7d"] := by
    decide +kernel
  exact ⟨_, Style.wideLengthIssue "\x7d", rfl, hissues, ⟨by decide, _, rfl, by decide +kernel⟩,
    by decide +kernel, by decide +kernel⟩

end PageLint
