import PageLint.Script.Equality
import PageLint.Proofs.Repair.Revision
import PageLint.Proofs.Text.Bytes
import PageLint.Proofs.Text.Names

/-! # Comparisons

The search for comparisons takes one, two or three characters at a time. It never begins inside of
an operator that stands alone, so each of these is reported once. Where the strict operators are put
in the place of the others, the next search takes the same characters and finds nothing. -/

namespace PageLint.Script

open Repair (Stretch original revised edits)

/-! ## Operators -/

/-- Characters that operators are made of, so that an equals sign behind one may belong to it. -/
def operatorChars : List Char := ['=', '!', '<', '>']

/-- A comparison that converts its operands. -/
inductive Comparison where
  | equal
  | unequal
  deriving DecidableEq, Repr

namespace Comparison

def first : Comparison → Char
  | equal => '='
  | unequal => '!'

def text (o : Comparison) : Text := [o.first, '=']

/-- The operator that compares without conversion. -/
def strict (o : Comparison) : Text := [o.first, '=', '=']

def issue : Comparison → Issue
  | equal => .looseEquality
  | unequal => .looseInequality

/-- The report of an operator at offset `n`, with its replacement. -/
def report (o : Comparison) (n : Nat) : Diagnostic :=
  o.issue.report n (n + 2) [⟨n, n + 2, o.strict⟩]

/-- The operator is no part of another one that begins with it, and neither, if it is that for
equality, of one that begins with the character in front. -/
def IsWhole (o : Comparison) (previous : Option Char) (behind : Text) : Prop :=
  behind.head? ≠ some '=' ∧ (o = equal → previous.any operatorChars.contains = false)

section

variable {o o' : Comparison} {previous : Option Char} {a b behind : Text}

theorem eq_of_text_append (h : o.text ++ a = o'.text ++ b) : o = o' ∧ a = b := by
  cases o <;> cases o' <;> simp_all [text, first]

theorem equality_of_isWhole (h : o.IsWhole previous behind) :
    equality previous (o.text ++ behind) = some (some o.issue, 2) := by
  obtain ⟨hbehind, hfront⟩ := h
  cases o with
  | equal =>
      have hnot : previous.any ['=', '!', '<', '>'].contains = false := hfront rfl
      simp [text, first, issue, equality, hbehind, hnot]
  | unequal => simp [text, first, issue, equality, hbehind]

theorem equality_of_not_isWhole (h : ¬ o.IsWhole previous behind) :
    equality previous (o.text ++ behind) = some (none, 3) := by
  by_cases hbehind : behind.head? = some '='
  · cases o <;> simp [text, first, equality, hbehind]
  · cases o with
    | unequal => exact absurd ⟨hbehind, by simp⟩ h
    | equal =>
        have hfront : previous.any ['=', '!', '<', '>'].contains = true := by
          rw [← Bool.not_eq_false]
          exact fun hnot => h ⟨hbehind, fun _ => hnot⟩
        simp [text, first, equality, hfront]

/-- Where no operator stands, nothing is found. -/
theorem equality_of_forall_ne {t : Text} (h : ∀ (o : Comparison) behind, t ≠ o.text ++ behind) :
    equality previous t = none := by
  unfold equality
  split
  · exact absurd rfl (h .unequal _)
  · exact absurd rfl (h .equal _)
  · rfl

end

end Comparison

/-! ## What the search takes -/

/-- Characters that the search takes at once. -/
inductive Segment where
  | other (t : Text)
  | comparison (o : Comparison)

namespace Segment

def text : Segment → Text
  | other t => t
  | comparison o => o.text

/-- The segment with a strict operator. -/
def strictened : Segment → Segment
  | other t => other t
  | comparison o => other o.strict

def stretch : Segment → Stretch
  | other t => .kept t
  | comparison o => .changed o.text o.strict

end Segment

/-- The text of segments. -/
def joined (segments : List Segment) : Text := segments.flatMap Segment.text

/-- The reports of segments that start at offset `n`. -/
def reports (n : Nat) : List Segment → List Diagnostic
  | [] => []
  | .other t :: segments => reports (n + t.size) segments
  | .comparison o :: segments => o.report n :: reports (n + o.text.size) segments

/-- The search takes the segments one after the other. The third character of an operator is taken
along whatever it is. -/
inductive Takes : Option Char → Text → List Segment → Prop where
  | done {previous} : Takes previous [] []
  | pass {previous c t segments} (h : ∀ (o : Comparison) behind, c :: t ≠ o.text ++ behind)
      (rest : Takes (some c) t segments) : Takes previous (c :: t) (.other [c] :: segments)
  | operator {previous t segments} {o : Comparison} (h : ¬ o.IsWhole previous t)
      (rest : Takes (o.text ++ t.take 1).getLast? (t.drop 1) segments) :
      Takes previous (o.text ++ t) (.other (o.text ++ t.take 1) :: segments)
  | comparison {previous t segments} {o : Comparison} (h : o.IsWhole previous t)
      (rest : Takes (some '=') t segments) :
      Takes previous (o.text ++ t) (.comparison o :: segments)

theorem exists_takes (previous : Option Char) (t : Text) :
    ∃ segments, Takes previous t segments := by
  induction hlength : t.length using Nat.strongRecOn generalizing previous t with
  | ind length ih =>
      subst hlength
      by_cases h : ∃ (o : Comparison) (behind : Text), t = o.text ++ behind
      · obtain ⟨o, behind, rfl⟩ := h
        have hshorter : behind.length < (o.text ++ behind).length := by
          have htext : o.text.length = 2 := rfl
          rw [List.length_append]
          omega
        by_cases hwhole : o.IsWhole previous behind
        · obtain ⟨segments, hrest⟩ := ih _ hshorter (some '=') behind rfl
          exact ⟨_, .comparison hwhole hrest⟩
        · have hdrop : (behind.drop 1).length < (o.text ++ behind).length := by
            rw [List.length_drop]
            omega
          obtain ⟨segments, hrest⟩ := ih _ hdrop (o.text ++ behind.take 1).getLast? _ rfl
          exact ⟨_, .operator hwhole hrest⟩
      · cases t with
        | nil => exact ⟨[], .done⟩
        | cons c t =>
            obtain ⟨segments, hrest⟩ := ih _ (Nat.lt_succ_self _) (some c) t rfl
            exact ⟨_, .pass (fun o behind heq => h ⟨o, behind, heq⟩) hrest⟩

namespace Takes

variable {previous : Option Char} {t : Text} {o : Comparison}
  {segments before after : List Segment}

theorem joined_eq (h : Takes previous t segments) : joined segments = t := by
  induction h with
  | done => rfl
  | pass _ _ ih => simpa [joined, Segment.text] using ih
  | @operator previous t segments o _ _ ih =>
      change o.text ++ t.take 1 ++ joined segments = o.text ++ t
      rw [ih, List.append_assoc, List.take_append_drop]
  | comparison _ _ ih => simpa [joined, Segment.text] using ih

/-- The matches of the search are the reports of its segments. -/
theorem filterMap_matchesFrom (h : Takes previous t segments) (n : Nat) :
    ((Text.matchesFrom equality n previous 0 t).filterMap fun (n, found) =>
      found.map fun issue => issue.report n (n + 2) [⟨n, n + 2, strictForm issue⟩]) =
        reports n segments := by
  induction h generalizing n with
  | done => rfl
  | @pass previous c t segments h _ ih =>
      rw [Text.matchesFrom.eq_def]
      dsimp only
      rw [Comparison.equality_of_forall_ne h]
      simpa [reports] using ih (n + c.utf8Size)
  | @operator previous t segments o h _ ih =>
      have htake : (o.text ++ t).take 3 = o.text ++ t.take 1 := rfl
      rw [Text.matchesFrom_of_match (Comparison.equality_of_not_isWhole h) (by simp [Comparison.text]),
        htake]
      exact ih _
  | @comparison previous t segments o h _ ih =>
      have htake : (o.text ++ t).take 2 = o.text := rfl
      rw [Text.matchesFrom_of_match (Comparison.equality_of_isWhole h) (by simp [Comparison.text]),
        htake, reports, ← ih]
      cases o <;> rfl

/-- From any segment on, the search takes the segments that are left. -/
theorem of_append (h : Takes previous t (before ++ after)) :
    Takes ((joined before).getLast?.or previous) (joined after) after := by
  induction before generalizing previous t with
  | nil =>
      have heq := h.joined_eq
      rw [List.nil_append] at h heq
      rwa [heq]
  | cons segment before ih =>
      have hjoined : joined (segment :: before) = segment.text ++ joined before := rfl
      have hlast : (joined (segment :: before)).getLast?.or previous =
          (joined before).getLast?.or (segment.text.getLast?.or previous) := by
        rw [hjoined, List.getLast?_append, Option.or_assoc]
      rw [hlast]
      cases h with
      | pass _ rest => exact ih rest
      | @operator _ t _ o _ rest =>
          have hsome : (o.text ++ t.take 1).getLast?.or previous =
              (o.text ++ t.take 1).getLast? := by
            cases t <;> rfl
          exact hsome ▸ ih rest
      | comparison _ rest => exact ih rest

theorem isWhole (h : Takes previous t (before ++ .comparison o :: after)) :
    o.IsWhole ((joined before).getLast?.or previous) (joined after) := by
  have hrest := h.of_append
  generalize joined (.comparison o :: after) = u at hrest
  generalize hfirst : Segment.comparison o :: after = segments at hrest
  cases hrest with
  | done => cases hfirst
  | pass _ _ => cases hfirst
  | operator _ _ => cases hfirst
  | comparison hwhole hrest =>
      obtain ⟨hsame, rfl⟩ := List.cons.inj hfirst
      obtain rfl := Segment.comparison.inj hsame
      rwa [hrest.joined_eq]

/-- Where an operator stands alone, no other one reaches into it. -/
theorem eq_nil_or_of_eq_append {o' : Comparison} {front rest behind : Text}
    (h : o'.text ++ rest = front ++ (o.text ++ behind))
    (halone : (front.getLast?.or previous).any operatorChars.contains = false) :
    front = [] ∨ ∃ c more, front = o'.text ++ c :: more := by
  have hfirst : operatorChars.contains o'.first = true := by cases o' <;> rfl
  rcases front with _ | ⟨d, _ | ⟨e, _ | ⟨c, more⟩⟩⟩
  · exact .inl rfl
  · obtain ⟨rfl, -⟩ := List.cons.inj h
    rw [List.getLast?_singleton, Option.some_or, Option.any_some, hfirst] at halone
    cases halone
  · obtain ⟨rfl, htail⟩ := List.cons.inj h
    obtain ⟨rfl, -⟩ := List.cons.inj htail
    simp [operatorChars] at halone
  · obtain ⟨rfl, htail⟩ := List.cons.inj h
    obtain ⟨rfl, -⟩ := List.cons.inj htail
    exact .inr ⟨c, more, rfl⟩

/-- The search comes to every operator that stands alone. -/
theorem exists_append (h : Takes previous t segments) {front behind : Text}
    (ht : t = front ++ (o.text ++ behind))
    (halone : (front.getLast?.or previous).any operatorChars.contains = false)
    (hbehind : behind.head? ≠ some '=') :
    ∃ before after, segments = before ++ .comparison o :: after ∧ joined before = front := by
  induction h generalizing front with
  | done => simp [Comparison.text] at ht
  | @pass previous c t segments h _ ih =>
      cases front with
      | nil => exact absurd ht (h o behind)
      | cons d front =>
          obtain ⟨rfl, htail⟩ := List.cons.inj ht
          rw [Text.getLast?_cons_eq_or, Option.or_assoc, Option.some_or] at halone
          obtain ⟨before, after, rfl, rfl⟩ := ih htail halone
          exact ⟨.other [c] :: before, after, rfl, rfl⟩
  | @operator previous t segments o' h _ ih =>
      obtain rfl | ⟨c, more, rfl⟩ := eq_nil_or_of_eq_append ht halone
      · obtain ⟨rfl, rfl⟩ := Comparison.eq_of_text_append ht
        exact absurd ⟨hbehind, fun _ => halone⟩ h
      · rw [List.append_assoc] at ht
        obtain rfl : t = c :: (more ++ (o.text ++ behind)) := List.append_cancel_left ht
        have hlast : (o'.text ++ c :: more).getLast?.or previous =
            more.getLast?.or (o'.text ++ [c]).getLast? := by
          simp only [List.getLast?_append, Text.getLast?_cons_eq_or, Option.or_assoc, Option.some_or]
          rfl
        obtain ⟨before, after, rfl, rfl⟩ := ih rfl (hlast ▸ halone)
        exact ⟨.other (o'.text ++ [c]) :: before, after, rfl, by simp [joined, Segment.text]⟩
  | @comparison previous t segments o' h _ ih =>
      obtain rfl | ⟨c, more, rfl⟩ := eq_nil_or_of_eq_append ht halone
      · obtain ⟨rfl, rfl⟩ := Comparison.eq_of_text_append ht
        exact ⟨[], segments, rfl, rfl⟩
      · rw [List.append_assoc] at ht
        have hlast : (o'.text ++ c :: more).getLast?.or previous =
            (c :: more).getLast?.or (some '=') := by
          simp only [List.getLast?_append, Text.getLast?_cons_eq_or, Option.or_assoc, Option.some_or]
        obtain ⟨before, after, rfl, hjoined⟩ := ih (List.append_cancel_left ht) (hlast ▸ halone)
        exact ⟨.comparison o' :: before, after, rfl, congrArg (o'.text ++ ·) hjoined⟩

/-- What comes next begins in the same way, whatever operators are put there. -/
theorem head?_strictened (h : Takes previous t segments) :
    (joined (segments.map Segment.strictened)).head? = t.head? := by
  cases h <;> rfl

/-- Among strict operators the search takes the same segments. -/
theorem strictened (h : Takes previous t segments) :
    Takes previous (joined (segments.map Segment.strictened))
      (segments.map Segment.strictened) := by
  induction h with
  | done => exact .done
  | @pass previous c t segments h rest ih =>
      refine .pass (fun o behind heq => ?_) ih
      obtain ⟨rfl, htail⟩ := List.cons.inj heq
      have hhead := rest.head?_strictened
      obtain ⟨t, rfl⟩ : ∃ u, t = '=' :: u := by
        rw [← List.head?_eq_some_iff, ← hhead]
        exact congrArg List.head? htail
      exact h o t rfl
  | @operator previous t segments o h rest ih =>
      have htext : joined ((Segment.other (o.text ++ t.take 1) :: segments).map
          Segment.strictened) =
          o.text ++ (t.take 1 ++ joined (segments.map Segment.strictened)) :=
        List.append_assoc _ _ _
      have hhead := rest.head?_strictened
      rw [htext]
      generalize joined (segments.map Segment.strictened) = u at ih hhead
      cases t with
      | nil =>
          obtain rfl : u = [] := List.head?_eq_none_iff.mp hhead
          exact .operator h ih
      | cons c t => exact .operator h ih
  | @comparison previous t segments o h rest ih =>
      have hnot : ¬ o.IsWhole previous ('=' :: joined (segments.map Segment.strictened)) :=
        fun hwhole => hwhole.1 rfl
      exact .operator hnot ih

end Takes

/-! ## Reports and their edits -/

theorem reports_append (n : Nat) (a b : List Segment) :
    reports n (a ++ b) = reports n a ++ reports (n + (joined a).size) b := by
  induction a generalizing n with
  | nil => rfl
  | cons segment a ih =>
      cases segment <;> simp [reports, ih, joined, Segment.text, Nat.add_assoc]

theorem mem_reports {n : Nat} {segments : List Segment} {d : Diagnostic}
    (h : d ∈ reports n segments) : ∃ before o after, segments = before ++ .comparison o :: after ∧
      d = o.report (n + (joined before).size) := by
  induction segments generalizing n with
  | nil => cases h
  | cons segment segments ih =>
      -- a report of the segments behind the first one is one of all of them
      have hlater : d ∈ reports (n + segment.text.size) segments →
          ∃ before o after, segment :: segments = before ++ .comparison o :: after ∧
            d = o.report (n + (joined before).size) := by
        intro h
        obtain ⟨before, o, after, rfl, rfl⟩ := ih h
        exact ⟨segment :: before, o, after, rfl, by simp [joined, Nat.add_assoc]⟩
      cases segment with
      | other t => exact hlater h
      | comparison o =>
          rcases List.mem_cons.mp h with rfl | h
          · exact ⟨[], o, segments, rfl, rfl⟩
          · exact hlater h

/-- Reports lie within the text that they are about. -/
theorem start_of_mem_reports {n : Nat} {segments : List Segment} {d : Diagnostic}
    (h : d ∈ reports n segments) : n ≤ d.start ∧ d.start < n + (joined segments).size := by
  obtain ⟨before, o, after, rfl, rfl⟩ := mem_reports h
  have htext : joined (before ++ .comparison o :: after) =
      joined before ++ (o.text ++ joined after) := by
    simp [joined, Segment.text]
  have hpos := o.first.utf8Size_pos
  have hstart : (o.report (n + (joined before).size)).start = n + (joined before).size := rfl
  simp only [hstart, htext, Text.size_append, Comparison.text, Text.size_cons]
  omega

/-- The reports at the place of a comparison. -/
theorem filter_reports (n : Nat) (before : List Segment) (o : Comparison) (after : List Segment) :
    (reports n (before ++ .comparison o :: after)).filter
      (·.start == n + (joined before).size) = [o.report (n + (joined before).size)] := by
  have hfront : (reports n before).filter (·.start == n + (joined before).size) = [] := by
    rw [List.filter_eq_nil_iff]
    intro d hd
    have hlt := (start_of_mem_reports hd).2
    simpa using Nat.ne_of_lt hlt
  have hback : (reports (n + (joined before).size + o.text.size) after).filter
      (·.start == n + (joined before).size) = [] := by
    rw [List.filter_eq_nil_iff]
    intro d hd
    have hle := (start_of_mem_reports hd).1
    have hpos := o.first.utf8Size_pos
    simp only [Comparison.text, Text.size_cons] at hle
    have hne : d.start ≠ n + (joined before).size := by omega
    simpa using hne
  have hself : ((o.report (n + (joined before).size)).start == n + (joined before).size) = true :=
    beq_self_eq_true _
  rw [reports_append, reports, List.filter_append, List.filter_cons, hfront, hback, hself]
  rfl

theorem reports_strictened (n : Nat) (segments : List Segment) :
    reports n (segments.map Segment.strictened) = [] := by
  induction segments generalizing n with
  | nil => rfl
  | cons segment segments ih => cases segment <;> exact ih _

theorem filterMap_reports (n : Nat) (segments : List Segment) :
    (reports n segments).filterMap (·.firstEdit?) = edits n (segments.map Segment.stretch) := by
  induction segments generalizing n with
  | nil => rfl
  | cons segment segments ih =>
      cases segment with
      | other t => exact ih _
      | comparison o => cases o <;> exact congrArg (_ :: ·) (ih _)

theorem original_stretches (segments : List Segment) :
    original (segments.map Segment.stretch) = joined segments := by
  induction segments with
  | nil => rfl
  | cons segment segments ih =>
      cases segment <;>
        simpa [original, joined, Segment.stretch, Segment.text, Stretch.old] using ih

theorem revised_stretches (segments : List Segment) :
    revised (segments.map Segment.stretch) = joined (segments.map Segment.strictened) := by
  induction segments with
  | nil => rfl
  | cons segment segments ih =>
      cases segment <;>
        simpa [revised, joined, Segment.stretch, Segment.strictened, Segment.text, Stretch.new]
          using ih

/-! ## Bytes -/

/-- The bytes from offset `n` on are those of the operator, and no equals sign follows. -/
structure Comparison.IsAt (o : Comparison) (source : Text) (n : Nat) : Prop where
  first : source.bytes[n]? = some o.first.toUInt8
  second : source.bytes[n + 1]? = some '='.toUInt8
  third : source.bytes[n + 2]? ≠ some '='.toUInt8

/-- The byte in front of offset `n` is that of a character that operators are made of. -/
def FollowsOperator (source : Text) (n : Nat) : Prop :=
  ∃ c ∈ operatorChars, ∃ k, n = k + 1 ∧ source.bytes[k]? = some c.toUInt8

theorem Comparison.toNat_first_lt (o : Comparison) : o.first.toNat < 128 := by
  cases o <;> decide

theorem Comparison.bytes_append (o : Comparison) (behind : Text) :
    Text.bytes (o.text ++ behind) = o.first.toUInt8 :: '='.toUInt8 :: behind.bytes := by
  cases o <;> rfl

theorem Comparison.isAt_iff {o : Comparison} {source : Text} {n : Nat} :
    o.IsAt source n ↔ ∃ front behind, source = front ++ (o.text ++ behind) ∧ front.size = n ∧
      behind.head? ≠ some '=' := by
  have hsign : '='.toNat < 128 := by decide
  constructor
  · intro h
    obtain ⟨front, rest, rfl, rfl⟩ := (Text.getElem?_bytes_eq_some_iff o.toNat_first_lt).mp h.first
    have hcons : Text.bytes (o.first :: rest) = o.first.toUInt8 :: Text.bytes rest := by
      rw [Text.bytes_cons, Text.utf8EncodeChar_of_ascii o.toNat_first_lt, List.singleton_append]
    have hsecond := h.second
    rw [Text.getElem?_bytes_append, hcons, List.getElem?_cons_succ, ← List.head?_eq_getElem?,
      Text.head?_bytes_eq_some_iff hsign, List.head?_eq_some_iff] at hsecond
    obtain ⟨behind, rfl⟩ := hsecond
    refine ⟨front, behind, rfl, rfl, fun hhead => h.third ?_⟩
    have hbytes := o.bytes_append behind
    rw [Text.getElem?_bytes_append, ← (Text.head?_bytes_eq_some_iff hsign).mpr hhead,
      List.head?_eq_getElem?]
    exact congrArg (·[2]?) hbytes
  · rintro ⟨front, behind, rfl, rfl, hbehind⟩
    have hat := fun k => Text.getElem?_bytes_append front (o.text ++ behind) k
    rw [o.bytes_append] at hat
    refine ⟨hat 0, hat 1, fun hthird => hbehind ?_⟩
    rw [hat 2, List.getElem?_cons_succ, List.getElem?_cons_succ, ← List.head?_eq_getElem?] at hthird
    exact (Text.head?_bytes_eq_some_iff hsign).mp hthird

theorem toNat_lt_of_mem_operatorChars : ∀ c ∈ operatorChars, c.toNat < 128 := by
  simp [operatorChars]

theorem followsOperator_append (front rest : Text) :
    FollowsOperator (front ++ rest) front.size ↔
      front.getLast?.any operatorChars.contains = true := by
  have hlast : ∀ k, front.size = k + 1 → (Text.bytes (front ++ rest))[k]? = front.bytes.getLast? := by
    intro k hk
    rw [Text.bytes_append, List.getElem?_append_left (by rw [Text.length_bytes]; omega),
      List.getLast?_eq_getElem?, Text.length_bytes, hk, Nat.add_sub_cancel]
  constructor
  · rintro ⟨c, hc, k, hk, hbyte⟩
    rw [hlast k hk, Text.getLast?_bytes_eq_some_iff (toNat_lt_of_mem_operatorChars c hc)] at hbyte
    rw [hbyte]
    simpa using hc
  · intro h
    cases hfront : front.getLast? with
    | none => simp [hfront] at h
    | some c =>
        rw [hfront, Option.any_some, List.contains_iff_mem] at h
        have hpos : front.size ≠ 0 := by
          obtain ⟨more, rfl⟩ := List.getLast?_eq_some_iff.mp hfront
          have := c.utf8Size_pos
          simp only [Text.size_append, Text.size_cons, Text.size_nil]
          omega
        obtain ⟨k, hk⟩ := Nat.exists_eq_add_one_of_ne_zero hpos
        refine ⟨c, h, k, hk, ?_⟩
        rwa [hlast k hk, Text.getLast?_bytes_eq_some_iff (toNat_lt_of_mem_operatorChars c h)]

/-! ## All comparisons of a script -/

/-- What is reported are comparisons that convert their operands, and every one of them that stands
alone is reported once. The replacements fit together, and among them nothing is left to report. -/
theorem equalityIssues_exact (source : Text) :
    (∀ d ∈ equalityIssues source, ∃ o n, d = Comparison.report o n ∧ o.IsAt source n ∧
      (o = .equal → ¬ FollowsOperator source n)) ∧
    (∀ o n, Comparison.IsAt o source n → ¬ FollowsOperator source n →
      (equalityIssues source).filter (·.start == n) = [o.report n]) ∧
    (Repair.applyFixes source (equalityIssues source)).skipped = 0 ∧
    equalityIssues (Repair.applyFixes source (equalityIssues source)).output = [] := by
  obtain ⟨segments, htakes⟩ := exists_takes none source
  have hjoined := htakes.joined_eq
  have hissues : equalityIssues source = reports 0 segments := htakes.filterMap_matchesFrom 0
  have hfixed := Repair.applyEdits_edits (segments.map Segment.stretch)
  rw [original_stretches, hjoined, revised_stretches, ← filterMap_reports, ← hissues,
    ← Repair.applyFixes] at hfixed
  refine ⟨fun d hd => ?_, fun o n hat halone => ?_, congrArg _ hfixed, ?_⟩
  · rw [hissues] at hd
    obtain ⟨before, o, after, rfl, rfl⟩ := mem_reports hd
    have hwhole := htakes.isWhole
    have htext : source = joined before ++ (o.text ++ joined after) := by
      rw [← hjoined]
      simp [joined, Segment.text]
    rw [Option.or_none] at hwhole
    refine ⟨o, (joined before).size, by rw [Nat.zero_add], ?_, fun hequal => ?_⟩
    · exact Comparison.isAt_iff.mpr ⟨_, _, htext, rfl, hwhole.1⟩
    · rw [htext, followsOperator_append, hwhole.2 hequal]
      exact Bool.false_ne_true
  · obtain ⟨front, behind, rfl, rfl, hbehind⟩ := Comparison.isAt_iff.mp hat
    rw [followsOperator_append, Bool.not_eq_true, ← Option.or_none (o := front.getLast?)] at halone
    obtain ⟨before, after, rfl, rfl⟩ := htakes.exists_append rfl halone hbehind
    have hfilter := filter_reports 0 before o after
    rw [Nat.zero_add] at hfilter
    rw [hissues, hfilter]
  · rw [hfixed]
    have hagain := htakes.strictened.filterMap_matchesFrom 0
    rwa [reports_strictened] at hagain

end PageLint.Script
