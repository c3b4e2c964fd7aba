import PageLint.Proofs.Script.ByteWords

/-! # The pass over bytes

The pass over the bare text can be made over its bytes, with two offsets: the place of the scan, and
the place behind the last end of a statement. What it looks at are slices of the text. A character of
more than one byte takes a step for each of them, or none of its own as a part of a word. The scan
fails where the pass fails, and else both see the same. -/

namespace PageLint.Script

namespace Pass

variable {p : Pass} {c : Char}

/-- What the pass has seen, without the text since the last end of a statement. -/
def forget (p : Pass) : Pass := { p with lead := [] }

theorem forget_learn (p : Pass) (name : Text) : p.forget.learn name = (p.learn name).forget := by
  have hlevel : p.forget.isAtTopLevel = p.isAtTopLevel := rfl
  unfold learn
  rw [hlevel]
  split <;> rfl

theorem forget_declare (p : Pass) (n : Nat) (name : Text) :
    p.forget.declare n name = (p.declare n name).forget := by
  have hnested : p.forget.isInParentheses = p.isInParentheses := rfl
  have hblock : (p.learn name).forget.block = (p.learn name).block := rfl
  unfold declare
  rw [hnested, forget_learn]
  dsimp only
  rw [hblock]
  split
  · rfl
  · split <;> rfl

theorem forget_destructure (p : Pass) (n : Nat) (rest : Text) :
    p.forget.destructure n rest = (p.destructure n rest).forget := by
  have hlevel : p.forget.isAtTopLevel = p.isAtTopLevel := rfl
  unfold destructure
  rw [hlevel]
  split
  · split <;> rfl
  · rfl

/-- Characters that count on their own. -/
def markChars : List Char := ['{', '}', ';', '(', ')']

theorem mark_other (h : c ∉ markChars) : p.mark c = .ok { p with lead := c :: p.lead } := by
  simp only [markChars, List.mem_cons, List.not_mem_nil, or_false, not_or] at h
  obtain ⟨hopen, hclose, hend, hleft, hright⟩ := h
  rw [mark, if_neg hopen, if_neg hclose, if_neg hend, if_neg hleft, if_neg hright]

end Pass

/-! ## The scan -/

/-- A pass over the bytes of a script. -/
structure ByteScan where
  /-- What it has seen. The text since the last end of a statement is not kept. -/
  pass : Pass := {}
  /-- The place behind the last end of a statement. -/
  boundary : Nat := 0
  pos : Nat := 0

namespace ByteScan

/-! ### Words -/

def awaitIssues (source : Text) (s : ByteScan) (start stop : Nat) :
    Except Fault (List Diagnostic) :=
  if s.pass.isAsync? = some true then .ok []
  else do
    let lead ← source.sliceBetween s.boundary start
    return if Header.Matches Header.asyncArrow lead then [] else [Issue.strayAwait.report start stop]

def learn (source : Text) (p : Pass) (start stop : Nat) : Except Fault Pass :=
  if p.isAtTopLevel then do
    let name ← source.sliceBetween start stop
    return p.learn name
  else .ok p

def declare (source : Text) (p : Pass) (start stop : Nat) : Except Fault Pass :=
  if p.isInParentheses then .ok p
  else do
    let name ← source.sliceBetween start stop
    return p.declare start name

def destructure (source : Text) (p : Pass) (stop : Nat) : Except Fault Pass :=
  if p.isAtTopLevel then do
    let rest ← source.sliceFrom stop
    return p.destructure stop rest
  else .ok p

/-- What a word means that stands between two offsets. -/
def meet (source : Text) (s : ByteScan) (start stop : Nat) : Except Fault Pass := do
  let word ← source.sliceBetween start stop
  match String.ofList word with
  | "await" =>
    let issues ← s.awaitIssues source start stop
    return { s.pass with found := issues ++ s.pass.found }
  | "let" | "const" =>
    match nextName? source.bytes stop with
    | some (n, m) => declare source s.pass n m
    | none => destructure source s.pass stop
  | "class" =>
    match nextName? source.bytes stop with
    | some (n, m) => declare source s.pass n m
    | none => return s.pass
  | "var" =>
    match nextName? source.bytes stop with
    | some (n, m) => learn source s.pass n m
    | none => destructure source s.pass stop
  | "function" =>
    match nextName? source.bytes stop with
    | some (n, m) => learn source s.pass n m
    | none => return s.pass
  | "import" =>
    if s.pass.isAtTopLevel then
      let rest ← source.sliceFrom stop
      return { s.pass with known := ImportClause.names rest ++ s.pass.known }
    else return s.pass
  | _ => return s.pass

/-- The scan behind a word that starts here. The name of a member means nothing. -/
def word (source : Text) (s : ByteScan) : Except Fault ByteScan :=
  let stop := wordEnd source.bytes s.pos
  if lastVisible? source.bytes s.pos = some '.'.toUInt8 then .ok { s with pos := stop }
  else do
    let pass ← s.meet source s.pos stop
    return { s with pass, pos := stop }

/-! ### Bytes -/

def skip (s : ByteScan) : ByteScan := { s with pos := s.pos + 1 }

/-- A statement ends here, unless it is one in the head of a loop. -/
def endStatement (s : ByteScan) (isNested : Bool) : ByteScan :=
  { s.skip with boundary := if isNested then s.boundary else s.pos + 1 }

def openBlock (source : Text) (s : ByteScan) : Except Fault ByteScan := do
  let header ← source.sliceBetween s.boundary s.pos
  let kind ← Header.classify header
  let opened := { s.pass with
    block := ⟨kind, s.pass.parens, []⟩, outer := s.pass.block :: s.pass.outer }
  return { s with pass := opened }.endStatement s.pass.isInParentheses

def closeBlock (s : ByteScan) : ByteScan :=
  let closed := match s.pass.outer with
    | [] => s.pass
    | b :: outer => { s.pass with block := b, outer }
  { s with pass := closed }.endStatement closed.isInParentheses

/-- The scan behind a step at byte `b`, which has `previous` in front of it. -/
def act (source : Text) (s : ByteScan) (previous : Option UInt8) (b : UInt8) :
    Except Fault ByteScan :=
  if b = '{'.toUInt8 then s.openBlock source
  else if b = '}'.toUInt8 then .ok s.closeBlock
  else if b = ';'.toUInt8 then .ok (s.endStatement s.pass.isInParentheses)
  else if b = '('.toUInt8 then
    .ok { s.skip with pass := { s.pass with parens := s.pass.parens + 1 } }
  else if b = ')'.toUInt8 then
    .ok { s.skip with pass := { s.pass with parens := s.pass.parens - 1 } }
  else if isStartByte b && !previous.any isWordByte then s.word source
  else .ok s.skip

theorem act_other {source : Text} {s : ByteScan} {previous : Option UInt8} {b : UInt8}
    (h : ∀ d ∈ Pass.markChars, b ≠ d.toUInt8) : s.act source previous b =
      if isStartByte b && !previous.any isWordByte then s.word source else .ok s.skip := by
  simp only [Pass.markChars, List.forall_mem_cons] at h
  obtain ⟨hopen, hclose, hend, hleft, hright, -⟩ := h
  rw [act, if_neg hopen, if_neg hclose, if_neg hend, if_neg hleft, if_neg hright]

theorem toNat_lt_of_mem_markChars : ∀ d ∈ Pass.markChars, d.toNat < 128 := by
  simp [Pass.markChars]

theorem ne_of_not_mem_markChars {c : Char} (hc : c.toNat < 128) (h : c ∉ Pass.markChars) :
    ∀ d ∈ Pass.markChars, c.toUInt8 ≠ d.toUInt8 := by
  intro d hd hsame
  exact h ((Text.toUInt8_inj hc (toNat_lt_of_mem_markChars d hd)).mp hsame ▸ hd)

/-- The scan behind its next step, unless it has come to the end. -/
def step? (source : Text) (s : ByteScan) : Except Fault (Option ByteScan) :=
  match source.bytes[s.pos]? with
  | none => .ok none
  | some b => (s.act source (if s.pos = 0 then none else source.bytes[s.pos - 1]?) b).map some

/-- Steps lead from one scan to the other. -/
inductive Reaches (source : Text) : ByteScan → ByteScan → Prop where
  | refl (s : ByteScan) : Reaches source s s
  | step {s next last : ByteScan} : s.step? source = .ok (some next) → Reaches source next last →
      Reaches source s last

/-- Where a scan ends: at the end of the text or at a fault. -/
inductive Ends (source : Text) (s : ByteScan) : Except Fault ByteScan → Prop where
  | done {last : ByteScan} : Reaches source s last → last.step? source = .ok none →
      Ends source s (.ok last)
  | fault {last : ByteScan} {f : Fault} : Reaches source s last → last.step? source = .error f →
      Ends source s (.error f)

namespace Reaches

variable {source : Text} {s next last : ByteScan}

theorem single (h : s.step? source = .ok (some next)) : Reaches source s next := .step h (.refl next)

theorem trans (h : Reaches source s next) (h' : Reaches source next last) :
    Reaches source s last := by
  induction h with
  | refl => exact h'
  | step hstep _ ih => exact .step hstep (ih h')

/-- What is reached lies on the way to a place from which no step leads on. -/
theorem of_stuck (h : Reaches source s next) (h' : Reaches source s last)
    (hstuck : ∀ more, last.step? source ≠ .ok (some more)) : Reaches source next last := by
  induction h with
  | refl => exact h'
  | step hstep _ ih =>
      cases h' with
      | refl => exact absurd hstep (hstuck _)
      | step hstep' h' =>
          obtain rfl := Option.some.inj (Except.ok.inj (hstep.symm.trans hstep'))
          exact ih h'

/-- Only one place is reached from which no step leads on. -/
theorem eq_of_stuck (h : Reaches source s next) (h' : Reaches source s last)
    (hstuck : ∀ more, next.step? source ≠ .ok (some more))
    (hstuck' : ∀ more, last.step? source ≠ .ok (some more)) : next = last := by
  cases h.of_stuck h' hstuck' with
  | refl => rfl
  | step hstep _ => exact absurd hstep (hstuck _)

end Reaches

/-! ## Where the scan and the pass stand -/

/-- The scan stands behind `front` and in front of `t`, and the pass has come to the same place. -/
structure IsAt (source : Text) (s : ByteScan) (p : Pass) (front t : Text) : Prop where
  split : source = front ++ t
  pos : s.pos = front.size
  pass : s.pass = p.forget
  boundary : front.StandsAt s.boundary p.lead.reverse
  behind : p.IsBehind front

variable {source front t word rest : Text} {s : ByteScan} {p q : Pass} {c : Char}

theorem isAt_start (source : Text) : IsAt source {} {} [] source :=
  ⟨rfl, rfl, rfl, Text.standsAt_zero [], Pass.isBehind_start⟩

namespace IsAt

theorem standsAt (h : IsAt source s p front t) : source.StandsAt s.pos t :=
  ⟨front, h.split, h.pos.symm⟩

/-- The text since the last end of a statement is there to be cut out. -/
theorem sliceBetween_eq (h : IsAt source s p front t) :
    source.sliceBetween s.boundary s.pos = .ok p.lead.reverse := by
  obtain ⟨a, hfront, hsize⟩ := h.boundary
  have hstands : source.StandsAt s.boundary (p.lead.reverse ++ t) :=
    ⟨a, by rw [h.split, hfront, List.append_assoc], hsize⟩
  have hpos : s.pos = s.boundary + Text.size p.lead.reverse := by
    rw [h.pos, hfront, Text.size_append, hsize]
  rw [hpos, hstands.sliceBetween_eq]

/-! ### Words -/

theorem awaitIssues_eq (h : IsAt source s p front t) :
    s.awaitIssues source s.pos (s.pos + 5) = .ok (p.awaitIssues s.pos) := by
  have hasync : p.forget.isAsync? = p.isAsync? := rfl
  rw [ByteScan.awaitIssues, Pass.awaitIssues, h.pass, hasync, h.sliceBetween_eq]
  by_cases hkind : p.isAsync? = some true
  · simp [hkind]
  · simp only [hkind, if_false, decide_false, Bool.false_or]
    rfl

end IsAt

/-- The next name is there to be cut out. -/
theorem standsAt_nextWord? {n m : Nat} {name : Text} (h : source.StandsAt n t)
    (hnext : Pass.nextWord? n t = some (m, name)) :
    ∃ behind, source.StandsAt m (name ++ behind) := by
  obtain ⟨gap, rest, rfl, hgap, hrest⟩ :=
    Text.exists_span (fun c => Pass.isBlank c || c = '*') t
  rw [nextWord?_append hgap hrest] at hnext
  split at hnext
  · obtain ⟨rfl, rfl⟩ := Prod.mk.inj (Option.some.inj hnext)
    refine ⟨rest.dropWhile Pass.isWordChar, ?_⟩
    rw [List.takeWhile_append_dropWhile]
    exact h.skip
  · cases hnext

theorem declare_eq {n : Nat} {name behind : Text} (h : source.StandsAt n (name ++ behind)) :
    declare source p.forget n (n + name.size) = .ok (p.declare n name).forget := by
  have hnested : p.forget.isInParentheses = p.isInParentheses := rfl
  rw [declare, h.sliceBetween_eq, ← Pass.forget_declare, hnested]
  split
  · rename_i hin
    rw [Pass.declare, hnested, if_pos hin]
  · rfl

theorem learn_eq {n : Nat} {name behind : Text} (h : source.StandsAt n (name ++ behind)) :
    learn source p.forget n (n + name.size) = .ok (p.learn name).forget := by
  have hlevel : p.forget.isAtTopLevel = p.isAtTopLevel := rfl
  rw [learn, h.sliceBetween_eq, ← Pass.forget_learn, hlevel]
  split
  · rfl
  · rename_i hout
    rw [Pass.learn, hlevel, if_neg hout]

theorem destructure_eq {n : Nat} (h : source.StandsAt n rest) :
    destructure source p.forget n = .ok (p.destructure n rest).forget := by
  have hlevel : p.forget.isAtTopLevel = p.isAtTopLevel := rfl
  rw [destructure, h.sliceFrom_eq, ← Pass.forget_destructure, hlevel]
  split
  · rfl
  · rename_i hout
    rw [Pass.destructure, hlevel, if_neg hout]

theorem IsAt.meet_eq (h : IsAt source s p front (word ++ rest)) :
    s.meet source s.pos (s.pos + word.size) =
      .ok (p.meet (String.ofList word) s.pos (s.pos + word.size) rest).forget := by
  have hstands := h.standsAt
  have hbehind := hstands.skip
  have hnext : nextName? source.bytes (s.pos + word.size) =
      (Pass.nextWord? (s.pos + word.size) rest).map
        fun next => (next.1, next.1 + next.2.size) := by
    rw [h.split, h.pos, ← List.append_assoc, ← Text.size_append, nextName?_eq]
  have hdeclare : ∀ n name, Pass.nextWord? (s.pos + word.size) rest = some (n, name) →
      declare source p.forget n (n + name.size) = .ok (p.declare n name).forget := by
    intro n name hname
    obtain ⟨behind, hat⟩ := standsAt_nextWord? hbehind hname
    exact declare_eq hat
  have hlearn : ∀ n name, Pass.nextWord? (s.pos + word.size) rest = some (n, name) →
      learn source p.forget n (n + name.size) = .ok (p.learn name).forget := by
    intro n name hname
    obtain ⟨behind, hat⟩ := standsAt_nextWord? hbehind hname
    exact learn_eq hat
  rw [ByteScan.meet, hstands.sliceBetween_eq, hnext]
  simp only [bind, Except.bind, pure, Except.pure, h.pass]
  unfold Pass.meet
  generalize hw : String.ofList word = w
  split
  · have hsize : word.size = 5 := by
      rw [← String.toList_ofList (l := word), hw]
      rfl
    rw [hsize, h.awaitIssues_eq]
    rfl
  · cases hname : Pass.nextWord? (s.pos + word.size) rest with
    | some next => exact hdeclare next.1 next.2 hname
    | none => exact destructure_eq hbehind
  · cases hname : Pass.nextWord? (s.pos + word.size) rest with
    | some next => exact hdeclare next.1 next.2 hname
    | none => exact destructure_eq hbehind
  · cases hname : Pass.nextWord? (s.pos + word.size) rest with
    | some next => exact hdeclare next.1 next.2 hname
    | none => rfl
  · cases hname : Pass.nextWord? (s.pos + word.size) rest with
    | some next => exact hlearn next.1 next.2 hname
    | none => exact destructure_eq hbehind
  · cases hname : Pass.nextWord? (s.pos + word.size) rest with
    | some next => exact hlearn next.1 next.2 hname
    | none => rfl
  · have hlevel : p.forget.isAtTopLevel = p.isAtTopLevel := rfl
    rw [hlevel, hbehind.sliceFrom_eq]
    split <;> rfl
  · simp only

/-- A word takes the scan one step, and the pass as well. -/
theorem IsAt.word_eq (h : IsAt source s p front (word ++ rest))
    (hword : ∀ d ∈ word, Pass.isWordChar d) (hrest : rest.head?.any Pass.isWordChar = false) :
    ∃ next, s.word source = .ok next ∧
      IsAt source next (p.word word s.pos rest) (front ++ word) rest := by
  let m : Mention := ⟨front, word, rest⟩
  have hsplit : source = front ++ word ++ rest := by rw [h.split, List.append_assoc]
  have hpos : s.pos + word.size = Text.size (front ++ word) := by rw [h.pos, Text.size_append]
  have hstop : wordEnd source.bytes s.pos = s.pos + word.size := by
    rw [h.split, h.pos, wordEnd_eq, (Text.span_append hword hrest).1]
  have hmember : lastVisible? source.bytes s.pos = some '.'.toUInt8 ↔ p.isMember = true := by
    rw [h.split, h.pos, lastVisible?_eq_iff, Pass.IsBehind.isMember_eq (m := m) h.behind]
    exact decide_eq_true_iff.symm
  have hbehind : (p.word word s.pos rest).IsBehind (front ++ word) := by
    rw [h.pos]
    exact (Pass.IsBehind.word (m := m) h.behind hword).1
  have hlead : (p.meet (String.ofList word) s.pos (s.pos + word.size) rest).lead = p.lead := by
    rw [h.pos]
    exact (Pass.adds_meet p m front.size).lead
  have hboundary : (front ++ word).StandsAt s.boundary (word.reverse ++ p.lead).reverse := by
    rw [List.reverse_append, List.reverse_reverse]
    exact h.boundary.append word
  rw [Pass.word] at hbehind ⊢
  cases hm : p.isMember with
  | true =>
      rw [hm] at hbehind
      refine ⟨{ s with pos := s.pos + word.size }, ?_, hsplit, hpos, h.pass, hboundary, hbehind⟩
      rw [ByteScan.word, hstop, if_pos (hmember.mpr hm)]
  | false =>
      rw [hm] at hbehind
      refine ⟨⟨(p.meet (String.ofList word) s.pos (s.pos + word.size) rest).forget, s.boundary,
        s.pos + word.size⟩, ?_, hsplit, hpos, rfl, hlead.symm ▸ hboundary, hbehind⟩
      rw [ByteScan.word, hstop, if_neg (by simp [hmember, hm]), h.meet_eq]
      rfl

/-! ### Single characters -/

namespace IsAt

/-- The statement goes on behind a character. -/
theorem behind_char (h : IsAt source s p front (c :: t)) (hbehind : q.IsBehind (front ++ [c]))
    (hlead : q.lead = c :: p.lead) :
    IsAt source ⟨q.forget, s.boundary, s.pos + c.utf8Size⟩ q (front ++ [c]) t where
  split := by rw [h.split, List.append_assoc]; rfl
  pos := by rw [h.pos, Text.size_append]; rfl
  pass := rfl
  boundary := by
    rw [hlead, List.reverse_cons]
    exact h.boundary.append [c]
  behind := hbehind

theorem keep (h : IsAt source s p front (c :: t)) (hc : c.toNat < 128)
    (hbehind : q.IsBehind (front ++ [c])) (hlead : q.lead = c :: p.lead) :
    IsAt source { s.skip with pass := q.forget } q (front ++ [c]) t := by
  have hnext := h.behind_char hbehind hlead
  rwa [Text.utf8Size_of_ascii hc] at hnext

/-- Where a statement may end, the scan and the pass agree on whether it does. -/
theorem endStatement (h : IsAt source s p front (c :: t)) (hc : c.toNat < 128)
    {isNested : Bool} (hbehind : (q.endStatement c isNested).IsBehind (front ++ [c]))
    (hlead : q.lead = p.lead) :
    IsAt source ({ s with pass := q.forget }.endStatement isNested) (q.endStatement c isNested)
      (front ++ [c]) t := by
  cases isNested with
  | true => exact h.keep hc hbehind (congrArg (c :: ·) hlead)
  | false =>
      have hpos : s.pos + 1 = Text.size (front ++ [c]) := by
        rw [h.pos, Text.size_append, Text.size_cons, Text.utf8Size_of_ascii hc, Text.size_nil]
      have hend := Text.standsAt_size (front ++ [c])
      rw [← hpos] at hend
      exact ⟨by rw [h.split, List.append_assoc]; rfl, hpos, rfl, hend, hbehind⟩

theorem openBlock (h : IsAt source s p front ('{' :: t)) (hopened : p.openBlock = .ok q) :
    ∃ next, s.openBlock source = .ok next ∧ IsAt source next q (front ++ ['{']) t := by
  have hbehind := h.behind.openBlock hopened
  obtain ⟨kind, hkind, hq⟩ := exists_of_bind_eq_ok hopened
  obtain rfl := Except.ok.inj hq
  refine ⟨_, ?_, h.endStatement (by decide) hbehind rfl⟩
  rw [← Header.classify_eq] at hkind
  rw [ByteScan.openBlock, h.sliceBetween_eq]
  simp only [bind, Except.bind, hkind, h.pass]
  rfl

theorem closeBlock (h : IsAt source s p front ('}' :: t)) :
    IsAt source s.closeBlock p.closeBlock (front ++ ['}']) t := by
  have hbehind := h.behind.closeBlock
  have houter : p.forget.outer = p.outer := rfl
  unfold ByteScan.closeBlock
  unfold Pass.closeBlock at hbehind ⊢
  rw [h.pass, houter]
  cases hblocks : p.outer with
  | nil =>
      rw [hblocks] at hbehind
      exact h.endStatement (by decide) hbehind rfl
  | cons b outer =>
      rw [hblocks] at hbehind
      exact h.endStatement (by decide) hbehind rfl

/-- A byte that is all of a character has the meaning of the character. -/
theorem act (h : IsAt source s p front (c :: t)) (hc : c.toNat < 128)
    (hstart : p.startsWord c = false) (hmark : p.mark c = .ok q) :
    ∃ next, s.act source front.bytes.getLast? c.toUInt8 = .ok next ∧
      IsAt source next q (front ++ [c]) t := by
  have hbehind := h.behind.mark hmark
  by_cases hopen : c = '{'
  · subst hopen
    exact h.openBlock hmark
  by_cases hclose : c = '}'
  · subst hclose
    obtain rfl := Except.ok.inj hmark
    exact ⟨_, rfl, h.closeBlock⟩
  by_cases hend : c = ';'
  · subst hend
    obtain rfl := Except.ok.inj hmark
    have hnext := h.endStatement (by decide) hbehind rfl
    rw [← h.pass] at hnext
    exact ⟨_, congrArg (fun pass : Pass => Except.ok (s.endStatement pass.isInParentheses)) h.pass,
      hnext⟩
  by_cases hleft : c = '('
  · subst hleft
    obtain rfl := Except.ok.inj hmark
    have hact : s.act source front.bytes.getLast? '('.toUInt8 =
        .ok { s.skip with pass := { s.pass with parens := s.pass.parens + 1 } } := rfl
    refine ⟨_, ?_, h.keep (by decide) hbehind rfl⟩
    rw [hact, h.pass]
    rfl
  by_cases hright : c = ')'
  · subst hright
    obtain rfl := Except.ok.inj hmark
    have hact : s.act source front.bytes.getLast? ')'.toUInt8 =
        .ok { s.skip with pass := { s.pass with parens := s.pass.parens - 1 } } := rfl
    refine ⟨_, ?_, h.keep (by decide) hbehind rfl⟩
    rw [hact, h.pass]
    rfl
  have hother : c ∉ Pass.markChars := by
    simp [Pass.markChars, hopen, hclose, hend, hleft, hright]
  have hword : (isStartByte c.toUInt8 && !front.bytes.getLast?.any isWordByte) = false := by
    rw [isStartByte_of_ascii hc, any_getLast?_bytes, ← h.behind.startsWord_eq, hstart]
  rw [Pass.mark_other hother] at hmark
  obtain rfl := Except.ok.inj hmark
  refine ⟨_, ?_, h.keep hc hbehind rfl⟩
  rw [act_other (ne_of_not_mem_markChars hc hother), hword, if_neg Bool.false_ne_true]
  exact congrArg (fun pass => Except.ok { s.skip with pass }) h.pass

end IsAt

/-! ## Steps -/

/-- A step from a byte that is known to stand there. -/
theorem step?_eq {front back : List UInt8} {b : UInt8} (hsplit : source.bytes = front ++ b :: back)
    (hpos : s.pos = front.length) :
    s.step? source = (s.act source front.getLast? b).map some := by
  have hhere : source.bytes[s.pos]? = some b := by simp [hsplit, hpos]
  have hprevious : (if s.pos = 0 then none else source.bytes[s.pos - 1]?) = front.getLast? := by
    rw [hpos, hsplit, Text.getElem?_before]
  rw [step?, hhere, hprevious]

theorem act_of_le {b : UInt8} {previous : Option UInt8} (hb : 128 ≤ b.toNat) :
    s.act source previous b = .ok s.skip := by
  have hbyte : ∀ d ∈ Pass.markChars, b ≠ d.toUInt8 :=
    fun d hd => Text.ne_toUInt8_of_le hb (toNat_lt_of_mem_markChars d hd)
  rw [act_other hbyte, isStartByte_of_le hb, Bool.false_and, if_neg Bool.false_ne_true]

/-- The bytes of a longer character are passed over one by one. -/
theorem reaches_high {high front back : List UInt8} (hhigh : ∀ x ∈ high, 128 ≤ x.toNat)
    (hsplit : source.bytes = front ++ high ++ back) (hpos : s.pos = front.length) :
    Reaches source s { s with pos := s.pos + high.length } := by
  induction high generalizing s front with
  | nil => exact .refl s
  | cons b high ih =>
      obtain ⟨hb, hhigh⟩ := List.forall_mem_cons.mp hhigh
      have hhere : source.bytes = front ++ b :: (high ++ back) := by simp [hsplit]
      have hstep : s.step? source = .ok (some s.skip) := by
        rw [step?_eq hhere hpos, act_of_le hb]
        rfl
      have hbehind : source.bytes = front ++ [b] ++ high ++ back := by simp [hsplit]
      have hrest : Reaches source s.skip { s with pos := s.pos + 1 + high.length } :=
        ih hhigh hbehind (by rw [skip, hpos, List.length_append, List.length_singleton])
      rw [List.length_cons, Nat.add_comm high.length, ← Nat.add_assoc]
      exact .step hstep hrest

namespace IsAt

theorem bytes_eq (h : IsAt source s p front (c :: t)) :
    source.bytes = front.bytes ++ String.utf8EncodeChar c ++ t.bytes := by
  rw [h.split, Text.bytes_append, Text.bytes_cons, List.append_assoc]

theorem step?_eq (h : IsAt source s p front (c :: t)) (hc : c.toNat < 128) :
    s.step? source = (s.act source front.bytes.getLast? c.toUInt8).map some := by
  have hbytes := h.bytes_eq
  rw [Text.utf8EncodeChar_of_ascii hc, List.append_assoc, List.singleton_append] at hbytes
  exact ByteScan.step?_eq hbytes (by rw [h.pos, Text.length_bytes])

theorem step?_end (h : IsAt source s p source []) : s.step? source = .ok none := by
  have hnone : source.bytes[s.pos]? = none := by simp [h.pos]
  rw [step?, hnone]

/-- A character that no word starts with. -/
theorem advance_mark (h : IsAt source s p front (c :: t)) (hstart : p.startsWord c = false)
    (hmark : p.mark c = .ok q) :
    ∃ next, Reaches source s next ∧ IsAt source next q (front ++ [c]) t := by
  by_cases hc : c.toNat < 128
  · obtain ⟨next, hact, hnext⟩ := h.act hc hstart hmark
    exact ⟨next, .single (by rw [h.step?_eq hc, hact]; rfl), hnext⟩
  · have hreaches := reaches_high (Text.le_of_mem_utf8EncodeChar (Nat.not_lt.mp hc)) h.bytes_eq
      (by rw [h.pos, Text.length_bytes])
    have hother : c ∉ Pass.markChars := fun hmem => hc (toNat_lt_of_mem_markChars c hmem)
    have hbehind := h.behind.mark hmark
    rw [Pass.mark_other hother] at hmark
    obtain rfl := Except.ok.inj hmark
    refine ⟨_, hreaches, ?_⟩
    rw [String.length_utf8EncodeChar, h.pass]
    exact h.behind_char hbehind rfl

/-- A word. -/
theorem advance_word (h : IsAt source s p front (c :: (word ++ rest)))
    (hstart : p.startsWord c = true) (hword : ∀ d ∈ word, Pass.isWordChar d)
    (hrest : rest.head?.any Pass.isWordChar = false) :
    ∃ next, Reaches source s next ∧
      IsAt source next (p.word (c :: word) s.pos rest) (front ++ c :: word) rest := by
  have hstarts := hstart
  rw [h.behind.startsWord_eq, Bool.and_eq_true, Bool.not_eq_true'] at hstarts
  obtain ⟨hc, hfront⟩ := hstarts
  have hascii := toNat_lt_of_isWordStart hc
  have hall : ∀ d ∈ c :: word, Pass.isWordChar d :=
    List.forall_mem_cons.mpr ⟨by simp [Pass.isWordChar, hc], hword⟩
  have hhere : IsAt source s p front (c :: word ++ rest) := h
  obtain ⟨next, hnext, hat⟩ := hhere.word_eq hall hrest
  have hother : c ∉ Pass.markChars := by
    intro hmem
    have hnone : Pass.markChars.any Pass.isWordStart = false := rfl
    rw [List.any_eq_true.mpr ⟨c, hmem, hc⟩] at hnone
    cases hnone
  have hact : s.act source front.bytes.getLast? c.toUInt8 = .ok next := by
    rw [act_other (ne_of_not_mem_markChars hascii hother), isStartByte_of_ascii hascii, hc,
      any_getLast?_bytes, hfront, if_pos (by rfl), hnext]
  exact ⟨next, .single (by rw [h.step?_eq hascii, hact]; rfl), hat⟩

end IsAt

/-- The scan comes to its end where the pass does, which has the result `r`. -/
inductive Follows (source : Text) (s : ByteScan) : Except Fault Pass → Prop where
  | done {last : ByteScan} {q : Pass} : Reaches source s last → IsAt source last q source [] →
      Follows source s (.ok q)
  | fault {last : ByteScan} {q : Pass} {front t : Text} {f : Fault} : Reaches source s last →
      IsAt source last q front ('{' :: t) → Header.kind q.lead.reverse = .error f →
      Follows source s (.error f)

theorem Follows.trans {next : ByteScan} {r : Except Fault Pass} (h : Reaches source s next)
    (h' : Follows source next r) : Follows source s r := by
  cases h' with
  | done hreaches hend => exact .done (h.trans hreaches) hend
  | fault hreaches hat hkind => exact .fault (h.trans hreaches) hat hkind

/-- The only characters without an answer are braces behind heads that cannot be read. -/
theorem eq_of_mark_eq_error {f : Fault} (h : p.mark c = .error f) :
    c = '{' ∧ Header.kind p.lead.reverse = .error f := by
  unfold Pass.mark at h
  split at h
  · refine ⟨‹_›, ?_⟩
    unfold Pass.openBlock at h
    cases hkind : Header.kind p.lead.reverse with
    | error g =>
        rw [hkind] at h
        exact congrArg Except.error (Except.error.inj h)
    | ok kind =>
        rw [hkind] at h
        cases h
  · split at h
    · cases h
    · split at h <;> cases h

/-- From the end of a text on, the scan follows the pass. -/
theorem IsAt.run {n : Nat} (h : IsAt source s p front t) (hn : n = s.pos) :
    Follows source s (p.run n t) := by
  -- By the recursion of the pass. The scan takes one step for each of its steps, or more for a
  -- character of more than one byte.
  induction p, n, t using Pass.run.induct generalizing s front with
  | case1 p n =>
      have hend : front = source := by rw [h.split, List.append_nil]
      subst hend
      rw [Pass.run]
      exact .done (.refl s) h
  | case2 p n c t hstarts word =>
      rename_i rest ih
      subst hn
      have hword : ∀ d ∈ t.takeWhile Pass.isWordChar, Pass.isWordChar d :=
        fun d hd => List.all_eq_true.mp List.all_takeWhile d hd
      rw [Pass.run, ite_cond_eq_true _ _ (eq_true hstarts)]
      rw [← List.takeWhile_append_dropWhile (p := Pass.isWordChar) (l := t)] at h
      obtain ⟨next, hreaches, hnext⟩ :=
        h.advance_word hstarts hword (Text.any_head?_dropWhile _ t)
      exact .trans hreaches (ih hnext (by rw [hnext.pos, h.pos, Text.size_append]))
  | case3 p n c t hstarts ih =>
      subst hn
      rw [Pass.run, ite_cond_eq_false _ _ (eq_false hstarts)]
      cases hmark : p.mark c with
      | error f =>
          obtain ⟨rfl, hkind⟩ := eq_of_mark_eq_error hmark
          exact .fault (.refl s) h hkind
      | ok q =>
          obtain ⟨next, hreaches, hnext⟩ := h.advance_mark (Bool.eq_false_iff.mpr hstarts) hmark
          have hpos : s.pos + c.utf8Size = next.pos := by
            rw [hnext.pos, h.pos, Text.size_append]
            rfl
          exact .trans hreaches (ih q hnext hpos)

end ByteScan

end PageLint.Script
