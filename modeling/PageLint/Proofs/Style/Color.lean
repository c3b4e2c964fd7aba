import PageLint.Style.Value
import PageLint.Proofs.Text.Ascii
import PageLint.Proofs.Text.Edits
import Mathlib.Data.List.Induction
import Mathlib.Data.List.TakeWhile

/-! # The closest color

The rows of the table hold distances of texts, so a value that is close to a named color is close to
it by the number of edits between the two. What is suggested for a misspelt name is the first of the
closest names. -/

namespace PageLint.Style

namespace Color

/-! ## The table of distances -/

/-- The entries of the row are the distances of `a` from `b` and from what the characters of `word`,
one after the other, make of it. Texts grow at their ends, so both are kept backwards. -/
inductive IsRow (a : Text) : (b word : Text) → List Nat → Prop where
  | last {b : Text} {entry : Nat} (h : Text.IsDistance a b entry) : IsRow a b [] [entry]
  | next {b word : Text} {entry : Nat} {row : List Nat} {d : Char} (h : Text.IsDistance a b entry)
      (rest : IsRow a (d :: b) word row) : IsRow a b (d :: word) (entry :: row)

variable {a b word : Text} {row : List Nat}

theorem IsRow.head {entry : Nat} (h : IsRow a b word (entry :: row)) :
    Text.IsDistance a b entry := by
  cases h with
  | last h => exact h
  | next h _ => exact h

theorem IsRow.exists_cons (h : IsRow a b word row) : ∃ entry rest, row = entry :: rest := by
  cases h with
  | last _ => exact ⟨_, _, rfl⟩
  | next _ _ => exact ⟨_, _, rfl⟩

/-- One more entry is found from the three around it. -/
theorem isRow_rowFrom {c : Char} {diagonal left : Nat} (h : IsRow a b word (diagonal :: row))
    (hleft : Text.IsDistance (c :: a) b left) :
    IsRow (c :: a) b word (left :: rowFrom c diagonal left word row) := by
  induction word generalizing b diagonal left row with
  | nil => exact .last hleft
  | cons d word ih =>
      cases h with
      | next hdiagonal hrest =>
          obtain ⟨above, row, rfl⟩ := hrest.exists_cons
          have hentry : Text.IsDistance (c :: a) (d :: b)
              (if c = d then diagonal else 1 + min (min diagonal above) left) := by
            split
            · rename_i hsame
              exact hsame ▸ hdiagonal.keep c
            · rename_i hne
              exact .exchange hne hdiagonal hrest.head hleft
          exact .next hleft (ih hrest hentry)

theorem IsRow.nextRow (h : IsRow a [] word row) (c : Char) :
    IsRow (c :: a) [] word (nextRow word row c) := by
  obtain ⟨first, rest, rfl⟩ := h.exists_cons
  exact isRow_rowFrom h (h.head.delete c)

theorem IsRow.foldl (h : IsRow a [] word row) (t : Text) :
    IsRow (t.reverse ++ a) [] word (t.foldl (Color.nextRow word) row) := by
  induction t generalizing a row with
  | nil => exact h
  | cons c t ih =>
      have hrest := ih (h.nextRow c)
      rwa [List.foldl_cons, List.reverse_cons, List.append_assoc]

/-- Nothing becomes a text by as many insertions as it has characters. -/
theorem isRow_range' {n : Nat} (h : Text.IsDistance [] b n) (word : Text) :
    IsRow [] b word (List.range' n (word.length + 1)) := by
  induction word generalizing b n with
  | nil => exact .last h
  | cons d word ih => exact .next h (ih (h.insert d))

theorem IsRow.exists_getLast? (h : IsRow a b word row) :
    ∃ k, row.getLast? = some k ∧ Text.IsDistance a (word.reverse ++ b) k := by
  induction h with
  | last h => exact ⟨_, rfl, h⟩
  | next _ hrest ih =>
      obtain ⟨k, hlast, hk⟩ := ih
      obtain ⟨entry, rest, rfl⟩ := hrest.exists_cons
      exact ⟨k, by rw [List.getLast?_cons_cons, hlast], by simpa using hk⟩

/-- The last entry of the last row is the distance of the two texts. -/
theorem isDistance_distance (a b : Text) : Text.IsDistance a b (distance a b) := by
  have hstart : IsRow [] [] b (List.range (b.length + 1)) := by
    rw [List.range_eq_range']
    exact isRow_range' .nil b
  obtain ⟨k, hlast, hk⟩ := (hstart.foldl a).exists_getLast?
  rw [List.append_nil, List.append_nil] at hk
  rw [distance, hlast, Option.getD_some]
  have hback := hk.reverse
  rwa [List.reverse_reverse, List.reverse_reverse] at hback

/-! ## The first of the closest names -/

/-- `x` is the first of the elements of the list that have the least measure. -/
def IsFirstLeast {α : Type} (measure : α → Nat) (l : List α) (x : α) : Prop :=
  ∃ front back, l = front ++ x :: back ∧ (∀ y ∈ front, measure x < measure y) ∧
    ∀ y ∈ back, measure x ≤ measure y

/-- `name` is the first of the named colors that are closest to the value. -/
def IsNearest (value : Text) (name : String) : Prop :=
  IsFirstLeast (fun name => distance value name.toList) names name

/-- The better one of the best entry so far and the one at hand. -/
def better (best : Option (Nat × String)) (entry : Nat × String) : Option (Nat × String) :=
  match best with
  | none => some entry
  | some b => if entry.1 < b.1 then some entry else some b

namespace IsFirstLeast

section

variable {α : Type} {measure : α → Nat} {l : List α} {x y : α}

/-- Each of two such elements would stand in front of the other one. -/
theorem unique (hx : IsFirstLeast measure l x) (hy : IsFirstLeast measure l y) : x = y := by
  obtain ⟨front, back, rfl, hfront, hback⟩ := hx
  obtain ⟨front', back', hsplit, hfront', hback'⟩ := hy
  rcases List.append_eq_append_iff.mp hsplit with ⟨between, rfl, hrest⟩ | ⟨between, rfl, hrest⟩
  · cases between with
    | nil => exact (List.cons.inj hrest).1
    | cons z between =>
        obtain ⟨rfl, rfl⟩ := List.cons.inj hrest
        have hlt := hfront' x (by simp)
        have hle := hback y (by simp)
        omega
  · cases between with
    | nil => exact (List.cons.inj hrest).1.symm
    | cons z between =>
        obtain ⟨rfl, rfl⟩ := List.cons.inj hrest
        have hlt := hfront y (by simp)
        have hle := hback' x (by simp)
        omega

/-- Elements above a bound that `x` does not exceed do not matter. -/
theorem of_filter {k : Nat} (h : IsFirstLeast measure (l.filter (measure · ≤ k)) x) :
    IsFirstLeast measure l x ∧ measure x ≤ k := by
  obtain ⟨front, back, hsplit, hfront, hback⟩ := h
  obtain ⟨l₁, l₂, rfl, rfl, hrest⟩ := List.filter_eq_append_iff.mp hsplit
  obtain ⟨m₁, m₂, rfl, hfar, hx, rfl⟩ := List.filter_eq_cons_iff.mp hrest
  have hxk : measure x ≤ k := by simpa using hx
  refine ⟨⟨l₁ ++ m₁, m₂, by simp, fun y hy => ?_, fun y hy => ?_⟩, hxk⟩
  · by_cases hyk : measure y ≤ k
    · rcases List.mem_append.mp hy with hy | hy
      · exact hfront y (List.mem_filter.mpr ⟨hy, by simpa using hyk⟩)
      · exact absurd (by simpa using hyk) (hfar y hy)
    · omega
  · by_cases hyk : measure y ≤ k
    · exact hback y (List.mem_filter.mpr ⟨hy, by simpa using hyk⟩)
    · omega

end

theorem concat {l : List (Nat × String)} {b : Nat × String} (h : IsFirstLeast Prod.fst l b)
    (e : Nat × String) :
    ∃ b', better (some b) e = some b' ∧ IsFirstLeast Prod.fst (l ++ [e]) b' := by
  obtain ⟨front, back, rfl, hfront, hback⟩ := h
  by_cases hlt : e.1 < b.1
  · refine ⟨e, if_pos hlt, front ++ b :: back, [], rfl, fun x hx => ?_, by simp⟩
    rcases List.mem_append.mp hx with hx | hx
    · exact Nat.lt_trans hlt (hfront x hx)
    · rcases List.mem_cons.mp hx with rfl | hx
      · exact hlt
      · exact Nat.lt_of_lt_of_le hlt (hback x hx)
  · refine ⟨b, if_neg hlt, front, back ++ [e], by simp, hfront, fun x hx => ?_⟩
    rcases List.mem_append.mp hx with hx | hx
    · exact hback x hx
    · obtain rfl := List.mem_singleton.mp hx
      exact Nat.le_of_not_lt hlt

/-- The first of the least pairs belongs to the first of the least elements. -/
theorem of_map {measure : String → Nat} {l : List String} {b : Nat × String}
    (h : IsFirstLeast Prod.fst (l.map fun x => (measure x, x)) b) :
    IsFirstLeast measure l b.2 := by
  obtain ⟨front, back, hsplit, hfront, hback⟩ := h
  obtain ⟨l₁, l₂, rfl, rfl, hrest⟩ := List.map_eq_append_iff.mp hsplit
  obtain ⟨x, l₂, rfl, rfl, rfl⟩ := List.map_eq_cons_iff.mp hrest
  exact ⟨l₁, l₂, rfl, fun y hy => hfront _ (List.mem_map_of_mem hy),
    fun y hy => hback _ (List.mem_map_of_mem hy)⟩

end IsFirstLeast

theorem foldl_better (l : List (Nat × String)) :
    l = [] ∨ ∃ b, l.foldl better none = some b ∧ IsFirstLeast Prod.fst l b := by
  induction l using List.reverseRecOn with
  | nil => exact .inl rfl
  | append_singleton l e ih =>
      right
      rw [List.foldl_append]
      rcases ih with rfl | ⟨b, hb, hleast⟩
      · exact ⟨e, rfl, [], [], rfl, by simp, by simp⟩
      · rw [hb]
        exact hleast.concat e

/-- Either all named colors are more than two edits away, or the first of the closest ones is
suggested. -/
theorem nearest?_cases (value : Text) :
    (nearest? value = none ∧ ∀ name ∈ names, 2 < distance value name.toList) ∨
      ∃ name, nearest? value = some name ∧ IsNearest value name ∧
        distance value name.toList ≤ 2 := by
  let near := names.filter fun name => distance value name.toList ≤ 2
  have hnear : (names.map fun name => (distance value name.toList, name)).filter (·.1 ≤ 2) =
      near.map fun name => (distance value name.toList, name) := List.filter_map
  have hfold : nearest? value =
      ((near.map fun name => (distance value name.toList, name)).foldl better none).map (·.2) := by
    rw [← hnear]
    rfl
  rcases foldl_better (near.map fun name => (distance value name.toList, name)) with
    hnone | ⟨b, hb, hleast⟩
  · left
    rw [hnone] at hfold
    refine ⟨hfold, fun name hname => ?_⟩
    have hfar := List.filter_eq_nil_iff.mp (List.map_eq_nil_iff.mp hnone) name hname
    simpa using hfar
  · right
    rw [hb] at hfold
    exact ⟨b.2, hfold, hleast.of_map.of_filter⟩

theorem nearest?_eq_some_iff {value : Text} {name : String} :
    nearest? value = some name ↔ IsNearest value name ∧ distance value name.toList ≤ 2 := by
  rcases nearest?_cases value with ⟨hnone, hfar⟩ | ⟨found, hfound, hnearest, hle⟩
  · rw [hnone]
    constructor
    · rintro ⟨⟩
    · rintro ⟨⟨front, back, hsplit, -⟩, hle⟩
      have hlt := hfar name (by simp [hsplit])
      omega
  · rw [hfound, Option.some_inj]
    constructor
    · rintro rfl
      exact ⟨hnearest, hle⟩
    · rintro ⟨hname, -⟩
      exact hnearest.unique hname

theorem nearest?_eq_none_iff {value : Text} :
    nearest? value = none ↔ ∀ name ∈ names, 2 < distance value name.toList := by
  rcases nearest?_cases value with ⟨hnone, hfar⟩ | ⟨found, hfound, ⟨front, back, hsplit, -⟩, hle⟩
  · exact ⟨fun _ => hfar, fun _ => hnone⟩
  · rw [hfound]
    constructor
    · rintro ⟨⟩
    · intro hfar
      have hlt := hfar found (by simp [hsplit])
      omega

end Color

/-! ## The suggestion -/

theorem isAsciiLetter_lowerChar {c : Char} (h : Text.isAsciiLetter c) :
    Text.isAsciiLetter (Text.lowerChar c) :=
  Text.forall_ascii (P := fun c => Text.isAsciiLetter c → Text.isAsciiLetter (Text.lowerChar c))
    (by decide) (Text.toNat_lt_of_isAsciiLetter h) h

theorem all_isAsciiLetter_lower {value : Text} (h : ∀ c ∈ value, Text.isAsciiLetter c) :
    (Text.lower value).all Text.isAsciiLetter = true := by
  rw [List.all_eq_true]
  intro c hc
  obtain ⟨d, hd, rfl⟩ := List.mem_map.mp hc
  exact isAsciiLetter_lowerChar (h d hd)

/-- A word is no call of a function. -/
theorem colorFunction?_of_all {t : Text} (h : t.all Text.isAsciiLetter = true) :
    colorFunction? t = none := by
  have hdrop : t.dropWhile (· != '(') = [] := by
    rw [List.dropWhile_eq_nil_iff]
    intro c hc
    have hletter := List.all_eq_true.mp h c hc
    rw [bne_iff_ne]
    rintro rfl
    exact absurd hletter (by decide)
  unfold colorFunction?
  rw [hdrop]

theorem checkColor_of_letters {value : Text} (h : ∀ c ∈ value, Text.isAsciiLetter c)
    (hinvalid : checkColor value ≠ .valid) :
    checkColor value = .invalid ((Color.nearest? (Text.lower value)).map (·.toList)) := by
  have hlower := all_isAsciiLetter_lower h
  unfold checkColor at hinvalid ⊢
  dsimp only at hinvalid ⊢
  split
  · rename_i hvalid
    exact absurd (if_pos hvalid) hinvalid
  · rw [colorFunction?_of_all hlower]

/-- The table gives the least number of edits between two texts. For a word that is no color, the
first of the closest named colors is suggested if it is at most two edits away, and nothing
otherwise. -/
theorem checkColor_suggests :
    (∀ a b : Text, Text.IsDistance a b (Color.distance a b)) ∧
      ∀ value : Text, (∀ c ∈ value, Text.isAsciiLetter c) → checkColor value ≠ .valid →
        ∃ suggestion : Option String,
          checkColor value = .invalid (suggestion.map (·.toList)) ∧
          (∀ name, suggestion = some name ↔ Color.IsNearest (Text.lower value) name ∧
            Color.distance (Text.lower value) name.toList ≤ 2) ∧
          (suggestion = none ↔
            ∀ name ∈ Color.names, 2 < Color.distance (Text.lower value) name.toList) :=
  ⟨Color.isDistance_distance, fun _ hletters hinvalid =>
    ⟨_, checkColor_of_letters hletters hinvalid, fun _ => Color.nearest?_eq_some_iff,
      Color.nearest?_eq_none_iff⟩⟩

/-- Two names are one letter away, and the first of them is suggested. -/
theorem checkColor_suggests_grxy :
    checkColor "GRXY".toList = .invalid (some "gray".toList) ∧
      Color.distance "grxy".toList "grey".toList = 1 ∧
      Color.IsNearest "grxy".toList "gray" ∧ Color.distance "grxy".toList "gray".toList ≤ 2 := by
  have hgray : checkColor "GRXY".toList = .invalid (some "gray".toList) := by decide +kernel
  have hinvalid : checkColor "GRXY".toList ≠ .valid := by
    rw [hgray]
    rintro ⟨⟩
  obtain ⟨suggestion, hcheck, hnearest, -⟩ :=
    checkColor_suggests.2 "GRXY".toList (List.all_eq_true.mp (by decide)) hinvalid
  rw [hgray, Verdict.invalid.injEq] at hcheck
  obtain ⟨name, hname, hsame⟩ := Option.map_eq_some_iff.mp hcheck.symm
  obtain rfl := String.toList_inj.mp hsame
  exact ⟨hgray, by decide, (hnearest "gray").mp hname⟩

end PageLint.Style
