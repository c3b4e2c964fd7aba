import PageLint.Style.Check
import PageLint.Proofs.Style.Declarations
import PageLint.Proofs.Style.Strides
import PageLint.Proofs.Text.Taken

/-! # Fixes for values that are important more than once

The fix for such a value is made from the masked copy and replaces a piece of the source. It keeps
what the source has there exactly when masking has hidden nothing of the value. -/

namespace PageLint.Style

/-! ## Characters that are hidden -/

/-- `l'` is `l` without some characters at offsets that are not marked, and with others for some at
such offsets. -/
inductive Thins (marked : List Nat) : (l l' : List (Nat × Char)) → Prop where
  | nil : Thins marked [] []
  | drop {n : Nat} (c : Char) {l l' : List (Nat × Char)} (h : n ∉ marked)
      (rest : Thins marked l l') : Thins marked ((n, c) :: l) l'
  | keep {n : Nat} {c d : Char} {l l' : List (Nat × Char)} (h : n ∈ marked → c = d)
      (rest : Thins marked l l') : Thins marked ((n, c) :: l) ((n, d) :: l')

namespace Thins

variable {marked : List Nat} {l l' : List (Nat × Char)}

theorem length_le (h : Thins marked l l') : l'.length ≤ l.length := by
  induction h with
  | nil => rfl
  | drop _ _ _ ih => exact Nat.le_succ_of_le ih
  | keep _ _ ih => exact Nat.succ_le_succ ih

/-- As many characters are missing in all as are among those that are not marked. -/
theorem length_filter (h : Thins marked l l') :
    (l.filter (!marked.contains ·.1)).length + l'.length =
      (l'.filter (!marked.contains ·.1)).length + l.length := by
  induction h with
  | nil => rfl
  | drop c h _ ih =>
      rw [List.filter_cons_of_pos (by simpa using h), List.length_cons, List.length_cons]
      omega
  | @keep n c d l l' h _ ih =>
      by_cases hn : n ∈ marked
      · rw [List.filter_cons_of_neg (by simpa using hn), List.filter_cons_of_neg (by simpa using hn),
          List.length_cons, List.length_cons]
        omega
      · rw [List.filter_cons_of_pos (by simpa using hn), List.filter_cons_of_pos (by simpa using hn)]
        simp only [List.length_cons]
        omega

theorem map_eq_iff_of_length (h : Thins marked l l') (hlength : l'.length = l.length) :
    (l'.filter (!marked.contains ·.1)).map (·.2) = (l.filter (!marked.contains ·.1)).map (·.2) ↔
      l'.map (·.2) = l.map (·.2) := by
  induction h with
  | nil => exact Iff.rfl
  | drop c _ rest =>
      have hle := rest.length_le
      rw [List.length_cons] at hlength
      omega
  | @keep n c d l l' h _ ih =>
      have hrest := ih (Nat.succ.inj hlength)
      by_cases hn : n ∈ marked
      · obtain rfl := h hn
        rw [List.filter_cons_of_neg (by simpa using hn), List.filter_cons_of_neg (by simpa using hn),
          List.map_cons, List.map_cons, List.cons_inj_right, hrest]
      · rw [List.filter_cons_of_pos (by simpa using hn), List.filter_cons_of_pos (by simpa using hn)]
        simp only [List.map_cons, List.cons.injEq, hrest]

/-- Apart from the marked characters nothing is missing exactly when nothing is missing at all. -/
theorem map_eq_iff (h : Thins marked l l') :
    (l'.filter (!marked.contains ·.1)).map (·.2) = (l.filter (!marked.contains ·.1)).map (·.2) ↔
      l'.map (·.2) = l.map (·.2) := by
  have hcount := h.length_filter
  constructor
  · intro heq
    have hlength := congrArg List.length heq
    rw [List.length_map, List.length_map] at hlength
    exact (h.map_eq_iff_of_length (by omega)).mp heq
  · intro heq
    have hlength := congrArg List.length heq
    rw [List.length_map, List.length_map] at hlength
    exact (h.map_eq_iff_of_length hlength).mpr heq

end Thins

section

variable {source masked a b t : Text} {marked : List Nat} {n : Nat}

/-- The character is none of those that masking may put in the place of others. -/
def IsMarkable (c : Char) : Prop := c ≠ '(' ∧ c ≠ ')'

/-- The offsets from `n` on are those of characters of the text that starts there. -/
def MarksIn (marked : List Nat) (n : Nat) (t : Text) : Prop :=
  ∀ k ∈ marked, n ≤ k → ∃ c, (k, c) ∈ Text.visibleFrom n t ∧ IsMarkable c

theorem MarksIn.of_append (h : MarksIn marked n (a ++ b)) :
    MarksIn marked (n + a.size) b := by
  intro k hk hle
  obtain ⟨c, hc, hmarkable⟩ := h k hk (by omega)
  exact ⟨c, Text.mem_visibleFrom_of_append hc hle, hmarkable⟩

/-- Where only characters are marked that masking puts in no other's place, it keeps all of them. -/
theorem IsCopy.thins (h : IsCopy source masked) (n : Nat)
    (hmarked : MarksIn marked n masked) :
    Thins marked (Text.visibleFrom n source) (Text.visibleFrom n masked) := by
  induction h generalizing n with
  | nil => exact .nil
  | keep c _ ih =>
      have hrest := ih (n + c.utf8Size) (hmarked.of_append (a := [c]))
      rw [Text.visibleFrom_cons, Text.visibleFrom_cons]
      split
      · exact hrest
      · exact .keep (fun _ => rfl) hrest
  | @blank c source masked _ ih =>
      have hbehind := hmarked.of_append
      have hnone : Text.visibleFrom n (blanked c) = [] :=
        Text.visibleFrom_eq_nil (fun d hd => Masks.isBlank_of_mem_blanked hd) n
      rw [Masks.size_blanked] at hbehind
      rw [Text.visibleFrom_cons, Text.visibleFrom_append, hnone, Masks.size_blanked]
      split
      · exact ih _ hbehind
      · refine .drop c (fun hn => ?_) (ih _ hbehind)
        obtain ⟨d, hd, -⟩ := hmarked n hn (Nat.le_refl n)
        rw [Text.visibleFrom_append, hnone, Masks.size_blanked] at hd
        have hle := Text.le_of_mem_visibleFrom hd
        have hpos := c.utf8Size_pos
        omega
  | @brace c d source masked hbrace _ ih =>
      have hrest := ih (n + d.utf8Size) (hmarked.of_append (a := [d]))
      have hsame : c.utf8Size = d.utf8Size ∧ Text.isBlank c = false ∧ Text.isBlank d = false ∧
          ¬ IsMarkable d := by
        obtain ⟨rfl, rfl⟩ | ⟨rfl, rfl⟩ := hbrace
        · exact ⟨rfl, by decide, by decide, fun h => h.1 rfl⟩
        · exact ⟨rfl, by decide, by decide, fun h => h.2 rfl⟩
      obtain ⟨hsize, hc, hd, hnot⟩ := hsame
      rw [Text.visibleFrom_cons, Text.visibleFrom_cons, hc, hd, hsize]
      refine .keep (fun hn => ?_) hrest
      obtain ⟨e, he, hmarkable⟩ := hmarked n hn (Nat.le_refl n)
      rw [Text.visibleFrom_cons, hd] at he
      rcases List.mem_cons.mp he with heq | he
      · obtain ⟨-, rfl⟩ := Prod.mk.inj heq
        exact absurd hmarkable hnot
      · have hle := Text.le_of_mem_visibleFrom he
        have hpos := d.utf8Size_pos
        omega

end

/-! ## Occurrences of `!important` -/

theorem isMarkable_of_isBlank {c : Char} (h : Text.isBlank c) : IsMarkable c := by
  constructor <;> rintro rfl <;> exact absurd h (by decide)

theorem isMarkable_of_matchesLetter {l c : Char} (hl : l ∈ "important".toList)
    (h : Text.matchesLetter l c) : IsMarkable c := by
  have hnone : "important".toList.all
      (fun l => !Text.matchesLetter l '(' && !Text.matchesLetter l ')') = true := by decide
  have hparens := List.all_eq_true.mp hnone l hl
  constructor <;> rintro rfl <;> simp [h] at hparens

/-- No parenthesis is part of an occurrence. -/
theorem isMarkable_of_important {previous : Option Char} {t : Text} {a : Unit} {len : Nat}
    (h : important previous t = some (a, len)) : 0 < len ∧ ∀ c ∈ t.take len, IsMarkable c := by
  simp only [important, Option.bind_eq_bind, Option.bind_eq_some_iff, Option.pure_def,
    Option.some_inj] at h
  obtain ⟨behind, hmark, rest, hword, htook⟩ := h
  obtain rfl := Text.eq_append_of_dropWord? hmark
  obtain ⟨word, hsplit, hletters⟩ := Text.exists_of_dropWordFold? hword
  have hjoin : behind = behind.takeWhile Text.isBlank ++ word ++ rest := by
    rw [List.append_assoc, ← hsplit]
    exact List.takeWhile_append_dropWhile.symm
  obtain ⟨run, hrun⟩ : ∃ run, run = '!' :: (behind.takeWhile Text.isBlank ++ word) := ⟨_, rfl⟩
  have hwhole : ['!'] ++ behind = run ++ rest := hrun ▸ congrArg ('!' :: ·) hjoin
  have hlen : len = run.length := by
    have hlength := congrArg Prod.snd htook
    rw [Text.took, hwhole, List.length_append, Nat.add_sub_cancel] at hlength
    exact hlength.symm
  rw [hlen, hwhole, List.take_left, hrun]
  refine ⟨Nat.succ_pos _, fun c hc => ?_⟩
  rcases List.mem_cons.mp hc with rfl | hc
  · exact ⟨by decide, by decide⟩
  · rcases List.mem_append.mp hc with hc | hc
    · exact isMarkable_of_isBlank (List.all_eq_true.mp List.all_takeWhile c hc)
    · obtain ⟨l, hl, hmatch⟩ := hletters c hc
      exact isMarkable_of_matchesLetter hl hmatch

/-- The offsets of the characters, other than white space, of the occurrences in the value. -/
def importantOffsets (d : Declaration) : List Nat :=
  Text.visibleOffsets (Text.takenFrom important d.valueStart none 0 d.value)

theorem marksIn_importantOffsets (d : Declaration) :
    MarksIn (importantOffsets d) d.valueStart d.value := by
  intro k hk _
  obtain ⟨⟨k, c⟩, hmem, rfl⟩ := List.mem_map.mp hk
  obtain ⟨htaken, hvisible⟩ := List.mem_filter.mp hmem
  refine ⟨c, List.mem_filter.mpr ⟨Text.takenFrom_subset htaken, hvisible⟩, ?_⟩
  exact Text.forall_mem_takenFrom (fun _ _ _ _ => isMarkable_of_important) (by simp) (k, c) htaken

/-! ## The fix -/

/-- The edit puts, for the text that it replaces, all characters of it other than white space and
those of the occurrences of `!important` in the value, and then one `!important`. -/
def KeepsValue (source : Text) (d : Declaration) (edit : Edit) : Prop :=
  Text.visible edit.text =
    Text.visibleApart edit.start (importantOffsets d) (source.slice edit.start edit.stop) ++
      "!important".toList

instance (source : Text) (d : Declaration) (edit : Edit) : Decidable (KeepsValue source d edit) :=
  inferInstanceAs (Decidable (_ = _))

theorem visible_singleImportant (d : Declaration) :
    Text.visible (singleImportant d.value) =
      Text.visibleApart d.valueStart (importantOffsets d) d.value ++ "!important".toList := by
  have hone : Text.visible " !important".toList = "!important".toList := by decide
  rw [singleImportant, Text.visible_append, Text.visible_trim_eq, Text.remove,
    Text.visible_removeFrom d.valueStart, hone]
  rfl

/-- A value that is important more than once is reported with a fix for all of it. The fix keeps the
value exactly when masking has hidden nothing of it, be it in strings, in comments or of
interpolations. -/
theorem importantIssues_keeps_iff {source : Text} {d : Declaration}
    (hd : d ∈ declarations (mask source))
    (hmany : 1 < (Text.matchesOf important d.value).length) :
    ∃ edit, importantIssues d =
        [(Issue.multipleImportant d.property).report edit.start edit.stop [edit]] ∧
      source.IsRange edit.start edit.stop ∧
      (KeepsValue source d edit ↔
        Text.visible (source.slice edit.start edit.stop) = Text.visible d.value) := by
  obtain ⟨⟨back, hstands⟩, hbegins, hends⟩ := (isOf_of_mem_declarations hd).value
  have hcopy := isCopy_mask source
  have hpiece := hcopy.piece hstands hbegins hends
  have hthins := hpiece.thins d.valueStart (marksIn_importantOffsets d)
  refine ⟨⟨d.valueStart, d.valueStart + d.value.size, singleImportant d.value⟩, ?_,
    hcopy.masks.isRange hstands hbegins hends, ?_⟩
  · rw [importantIssues, if_pos hmany]
  · rw [KeepsValue, visible_singleImportant, List.append_cancel_right_eq,
      ← Text.map_snd_visibleFrom d.valueStart d.value,
      ← Text.map_snd_visibleFrom d.valueStart (source.slice _ _),
      eq_comm (a := List.map _ (Text.visibleFrom d.valueStart (source.slice _ _)))]
    exact hthins.map_eq_iff

/-- A value without strings. -/
theorem importantIssues_keeps_iff_name :
    let source : Text := "p\x7bcolor:red !important ! IMPORTANT\x7d".toList
    let d : Declaration :=
      { property := "color", propertyStart := 2, value := "red !important ! IMPORTANT".toList,
        valueStart := 8 }
    ∃ edit, importantIssues d =
        [(Issue.multipleImportant "color").report edit.start edit.stop [edit]] ∧
      source.IsRange edit.start edit.stop ∧
      (KeepsValue source d edit ↔
        Text.visible (source.slice edit.start edit.stop) = Text.visible d.value) :=
  importantIssues_keeps_iff (by decide +kernel) (by decide +kernel)

/-- The fix for the value `"x" !important !important` puts white space for what the string holds. -/
theorem importantIssues_losesString :
    let source : Text := "a \x7b b: \"x\" !important !important; \x7d".toList
    let d : Declaration :=
      { property := "b", propertyStart := 4, value := "\" \" !important !important".toList,
        valueStart := 7 }
    let edit : Edit := ⟨7, 32, "\" \" !important".toList⟩
    d ∈ declarations (mask source) ∧ 1 < (Text.matchesOf important d.value).length ∧
      importantIssues d = [(Issue.multipleImportant "b").report 7 32 [edit]] ∧
      ¬ KeepsValue source d edit := by
  decide +kernel

end PageLint.Style
