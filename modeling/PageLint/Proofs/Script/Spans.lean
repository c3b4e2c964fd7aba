import PageLint.Proofs.Engine.Exactness
import PageLint.Proofs.Script.ByteScan
import Mathlib.Data.List.Infix

/-! # Spans and faults of the bare text

What the bare text of a script shows covers characters of it. It shows nothing at all where the scan
comes to a block whose head cannot be read, and this is the only way for it to fail. -/

namespace PageLint.Script

variable {source t rest : Text} {n : Nat}

theorem Issue.liesIn_report (i : Issue) {start stop : Nat} {edits : List Edit}
    (h : source.IsRange start stop) (hedits : ∀ e ∈ edits, e.LiesIn source) :
    (i.report start stop edits).LiesIn source :=
  .of_report rfl rfl rfl h hedits

/-! ## Comparisons -/

theorem liesIn_equalityIssues (source : Text) : ∀ d ∈ equalityIssues source, d.LiesIn source := by
  intro d hd
  obtain ⟨⟨n, found⟩, hmem, hd⟩ := List.mem_filterMap.mp hd
  obtain ⟨issue, rfl, rfl⟩ := Option.map_eq_some_iff.mp hd
  obtain ⟨front, u, before, len, hsplit, hn, hmatch⟩ := Text.exists_of_mem_matchesFrom hmem
  have hstands : source.StandsAt n u := ⟨front, hsplit, by rw [hn, Nat.zero_add]⟩
  have hrange : source.IsRange n (n + 2) := by
    unfold equality at hmatch
    split at hmatch
    · exact hstands.isRange (a := ['!', '='])
    · exact hstands.isRange (a := ['=', '='])
    · cases hmatch
  exact issue.liesIn_report hrange (by simpa [Edit.LiesIn] using hrange)

/-! ## Patterns -/

namespace Destructuring

variable {name inside found : Text} {closer : Char} {d : Destructuring}

theorem suffix_of_assigned? (h : assigned? t = some (name, rest)) : rest <:+ t ∧ name <+: rest := by
  unfold assigned? at h
  obtain ⟨behind, hbehind, h⟩ := Option.bind_eq_some_iff.mp h
  have hsplit := Text.eq_append_of_dropWord? hbehind
  dsimp only at h
  split at h
  · obtain ⟨rfl, rfl⟩ := Prod.mk.inj (Option.some.inj h)
    refine ⟨?_, List.takeWhile_prefix Header.isNameChar⟩
    calc
      behind.trimStart <:+ behind := Text.trimStart_suffix behind
      _ <:+ t.trimStart := ⟨['='], hsplit.symm⟩
      _ <:+ t := Text.trimStart_suffix t
  · cases h

theorem suffix_of_search? (h : search? closer inside t = some (found, name, rest)) :
    rest <:+ t ∧ name <+: rest := by
  induction t generalizing inside with
  | nil => cases h
  | cons c t ih =>
      have hbehind := List.suffix_cons c t
      have hlater : (if c = ';' then none else search? closer (c :: inside) t) =
          some (found, name, rest) → rest <:+ c :: t ∧ name <+: rest := by
        intro h
        split at h
        · cases h
        · exact (ih h).imp_left (·.trans hbehind)
      rw [search?] at h
      split at h
      · split at h
        · rename_i hassigned
          obtain ⟨-, h⟩ := Prod.mk.inj (Option.some.inj h)
          obtain ⟨rfl, rfl⟩ := Prod.mk.inj h
          exact (suffix_of_assigned? hassigned).imp_left (·.trans hbehind)
        · exact hlater h
      · exact hlater h

/-- The name that a pattern takes its values from stands where it is said to stand. -/
theorem isRange_of_read? (h : source.StandsAt n t) (hread : read? n t = some d) :
    source.IsRange d.start d.stop := by
  have hat : ∀ name rest : Text, rest <:+ t → name <+: rest →
      source.IsRange (n + (t.size - rest.size)) (n + (t.size - rest.size) + name.size) := by
    rintro name _ hsuffix ⟨behind, rfl⟩
    rw [← List.append_nil t] at h
    have hstands := h.suffix hsuffix
    rw [List.append_assoc] at hstands
    exact hstands.isRange
  have htrim := Text.trimStart_suffix t
  unfold read? at hread
  dsimp only at hread
  split at hread
  · rename_i u hu
    obtain ⟨⟨inside, name, rest⟩, hfound, hread⟩ := Option.bind_eq_some_iff.mp hread
    obtain rfl := Option.some.inj hread
    obtain ⟨hrest, hname⟩ := suffix_of_search? hfound
    exact hat _ _ (hrest.trans ((List.suffix_cons _ u).trans (hu ▸ htrim))) hname
  · rename_i u hu
    obtain ⟨⟨inside, name, rest⟩, hfound, hread⟩ := Option.bind_eq_some_iff.mp hread
    obtain rfl := Option.some.inj hread
    obtain ⟨hrest, hname⟩ := suffix_of_search? hfound
    exact hat _ _ (hrest.trans ((List.suffix_cons _ u).trans (hu ▸ htrim))) hname
  · cases hread

end Destructuring

/-! ## Words -/

/-- What the pass has found covers characters of the source. -/
structure Pass.LiesIn (source : Text) (p : Pass) : Prop where
  found : ∀ d ∈ p.found, d.LiesIn source
  patterns : ∀ d ∈ p.patterns, source.IsRange d.start d.stop

namespace Pass.LiesIn

variable {p q : Pass}

theorem of_keeps (h : p.LiesIn source) (hkeeps : p.Keeps q) : q.LiesIn source where
  found := hkeeps.found ▸ h.found
  patterns := hkeeps.patterns ▸ h.patterns

theorem learn (h : p.LiesIn source) (name : Text) : (p.learn name).LiesIn source := by
  unfold Pass.learn
  split <;> exact ⟨h.found, h.patterns⟩

theorem declare (h : p.LiesIn source) {name behind : Text}
    (hname : source.StandsAt n (name ++ behind)) : (p.declare n name).LiesIn source := by
  have hlearn := h.learn name
  have hissue : ((Issue.redeclared name).report n (n + name.size)).LiesIn source :=
    Issue.liesIn_report _ hname.isRange (by simp)
  unfold Pass.declare
  split
  · exact h
  · dsimp only
    split
    · exact ⟨List.forall_mem_cons.mpr ⟨hissue, hlearn.found⟩, hlearn.patterns⟩
    · exact ⟨hlearn.found, hlearn.patterns⟩

theorem destructure (h : p.LiesIn source) (hrest : source.StandsAt n rest) :
    (p.destructure n rest).LiesIn source := by
  unfold Pass.destructure
  split
  · split
    · rename_i d hread
      have hrange := Destructuring.isRange_of_read? hrest hread
      exact ⟨h.found, List.forall_mem_cons.mpr ⟨hrange, h.patterns⟩⟩
    · exact h
  · exact h

theorem awaitIssues (p : Pass) (h : source.StandsAt n ("await".toList ++ rest)) :
    ∀ d ∈ p.awaitIssues n, d.LiesIn source := by
  unfold Pass.awaitIssues
  split
  · simp
  · exact List.forall_mem_singleton.mpr (Issue.strayAwait.liesIn_report h.isRange (by simp))

theorem meet (h : p.LiesIn source) {word : Text} (hword : source.StandsAt n (word ++ rest)) :
    (p.meet (String.ofList word) n (n + word.size) rest).LiesIn source := by
  have hrest := hword.skip
  have hdeclare : ∀ m name, nextWord? (n + word.size) rest = some (m, name) →
      (p.declare m name).LiesIn source := by
    intro m name hname
    obtain ⟨behind, hat⟩ := ByteScan.standsAt_nextWord? hrest hname
    exact h.declare hat
  unfold Pass.meet
  split
  · rename_i hawait
    rw [← String.toList_ofList (l := word), hawait] at hword
    exact ⟨List.forall_mem_append.mpr ⟨awaitIssues p hword, h.found⟩, h.patterns⟩
  · split
    · exact hdeclare _ _ ‹_›
    · exact h.destructure hrest
  · split
    · exact hdeclare _ _ ‹_›
    · exact h.destructure hrest
  · split
    · exact hdeclare _ _ ‹_›
    · exact h
  · split
    · exact h.learn _
    · exact h.destructure hrest
  · split
    · exact h.learn _
    · exact h
  · split
    · exact ⟨h.found, h.patterns⟩
    · exact h
  · exact h

theorem word (h : p.LiesIn source) {word : Text} (hword : source.StandsAt n (word ++ rest)) :
    (p.word word n rest).LiesIn source := by
  unfold Pass.word
  dsimp only
  split
  · exact ⟨h.found, h.patterns⟩
  · exact ⟨(h.meet hword).found, (h.meet hword).patterns⟩

theorem run (h : p.LiesIn source) (ht : source.StandsAt n t) (hrun : p.run n t = .ok q) :
    q.LiesIn source := by
  induction p, n, t using Pass.run.induct with
  | case1 p n =>
      rw [Pass.run] at hrun
      obtain rfl := Except.ok.inj hrun
      exact h
  | case2 p n c t hstarts word rest ih =>
      rw [Pass.run, ite_cond_eq_true _ _ (eq_true hstarts)] at hrun
      have hword : source.StandsAt n (word ++ rest) := by
        rwa [List.cons_append, List.takeWhile_append_dropWhile]
      exact ih (h.word hword) hword.skip hrun
  | case3 p n c t hstarts ih =>
      rw [Pass.run, ite_cond_eq_false _ _ (eq_false hstarts)] at hrun
      obtain ⟨next, hmark, hrest⟩ := exists_of_bind_eq_ok hrun
      exact ih next (h.of_keeps (keeps_mark hmark)) ht.skip_cons hrest

end Pass.LiesIn

theorem Pass.LiesIn.undeclaredIssues {p : Pass} (h : p.LiesIn source) :
    ∀ d ∈ p.undeclaredIssues, d.LiesIn source := by
  intro d hd
  obtain ⟨pattern, hpattern, rfl⟩ := List.mem_map.mp hd
  have hmem := List.mem_reverse.mp (List.mem_filter.mp hpattern).1
  exact Issue.liesIn_report _ (h.patterns pattern hmem) (by simp)

/-! ## The whole text -/

/-- The scan stands in front of a brace, behind a head that cannot be read. -/
structure ByteScan.IsFaulty (source : Text) (s : ByteScan) : Prop where
  brace : source.bytes[s.pos]? = some '{'.toUInt8
  head : ∃ header, source.sliceBetween s.boundary s.pos = .ok header ∧ Header.IsUnreadable header

theorem ByteScan.IsFaulty.step?_eq {s : ByteScan} (h : s.IsFaulty source) :
    s.step? source = .error .splitCharacter := by
  obtain ⟨header, hslice, hunreadable⟩ := h.head
  have hkind := Header.kind_eq_error_iff.mpr ⟨rfl, hunreadable⟩
  have hact : ∀ previous, s.act source previous '{'.toUInt8 = s.openBlock source := fun _ => rfl
  rw [step?, h.brace]
  dsimp only
  rw [hact, openBlock, hslice]
  simp only [bind, Except.bind, Header.classify_eq, hkind]
  rfl

theorem ByteScan.IsAt.isFaulty {s : ByteScan} {p : Pass} {front t : Text}
    (h : IsAt source s p front ('{' :: t)) (hunreadable : Header.IsUnreadable p.lead.reverse) :
    s.IsFaulty source where
  brace := (Text.getElem?_bytes_eq_some_iff (by decide)).mpr ⟨front, t, h.split, h.pos.symm⟩
  head := ⟨p.lead.reverse, h.sliceBetween_eq, hunreadable⟩

/-- The bare text shows what the scan over its bytes has found where it ends. It shows nothing at
all if the scan comes to a brace behind a head that cannot be read. On any other text nothing fails,
and what is shown covers characters of it. -/
theorem textIssues_faults (source : Text) :
    (∃ r, ByteScan.Ends source {} r ∧ textIssues source = r.map fun last =>
      equalityIssues source ++ last.pass.found.reverse ++ last.pass.undeclaredIssues) ∧
    (textIssues source = .error .splitCharacter ↔
      ∃ s, ByteScan.Reaches source {} s ∧ s.IsFaulty source) ∧
    (textIssues source = .error .splitCharacter ∨
      ∃ ds, textIssues source = .ok ds ∧ ∀ d ∈ ds, d.LiesIn source) := by
  have hfollows := (ByteScan.isAt_start source).run rfl
  unfold textIssues
  cases hrun : Pass.run {} 0 source with
  | error f =>
      rw [hrun] at hfollows
      cases hfollows with
      | fault hreaches hat hkind =>
          obtain ⟨rfl, hunreadable⟩ := Header.kind_eq_error_iff.mp hkind
          have hfaulty := hat.isFaulty hunreadable
          refine ⟨⟨_, .fault hreaches hfaulty.step?_eq, rfl⟩, ⟨fun _ => ?_, fun _ => rfl⟩, .inl rfl⟩
          exact ⟨_, hreaches, hfaulty⟩
  | ok q =>
      rw [hrun] at hfollows
      cases hfollows with
      | @done last _ hreaches hat =>
          have hend := hat.step?_end
          refine ⟨⟨_, .done hreaches hend, ?_⟩, ⟨nofun, ?_⟩, .inr ⟨_, rfl, ?_⟩⟩
          · rw [Except.map, hat.pass]
            rfl
          · rintro ⟨s, hs, hfaulty⟩
            have hstep := hfaulty.step?_eq
            obtain rfl := hs.eq_of_stuck hreaches (by simp [hstep]) (by simp [hend])
            rw [hstep] at hend
            cases hend
          · have hstart : ({} : Pass).LiesIn source := ⟨by simp, by simp⟩
            have hlies := hstart.run (Text.standsAt_zero source) hrun
            refine List.forall_mem_append.mpr ⟨List.forall_mem_append.mpr ⟨?_, ?_⟩, ?_⟩
            · exact liesIn_equalityIssues source
            · exact fun d hd => hlies.found d (List.mem_reverse.mp hd)
            · exact hlies.undeclaredIssues

-- the dash is looked at only because the word behind it is `await`
example : textIssues "\u2014 await (a) \x7b".toList = .error .splitCharacter := by decide +kernel

end PageLint.Script
