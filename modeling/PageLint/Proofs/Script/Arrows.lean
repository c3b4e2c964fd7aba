import PageLint.Proofs.Script.Introductions
import PageLint.Proofs.Script.Programs
import PageLint.Proofs.Text.Parentheses

/-! # Asynchronous arrow functions

The head of an arrow function is recognised where its parameters hold no parentheses themselves.
With a call among the defaults, the function is taken for one that is not asynchronous, and what it
waits for is reported. -/

namespace PageLint.Script

/-- A character that is neither a brace nor the end of a statement. -/
def IsPlain (c : Char) : Prop := c ≠ '{' ∧ c ≠ '}' ∧ c ≠ ';'

instance : DecidablePred IsPlain := fun _ => inferInstanceAs (Decidable (_ ∧ _))

/-- Parameters of a function, as far as their parentheses go; the word `await` is none of them. -/
structure AreParameters (params : Text) : Prop where
  balanced : params.IsBalanced
  plain : ∀ c ∈ params, IsPlain c
  silent : ∀ m : Mention, m.IsIn params → m.word ≠ "await".toList

/-- What stands in front of the parameters. -/
def arrowStart : Text := "const f = async ".toList

/-- The head of an asynchronous arrow function. -/
def arrowHead (params : Text) : Text :=
  arrowStart ++ '(' :: (params ++ [')', ' ', '=', '>'])

/-- An asynchronous arrow function that waits for a name. -/
def arrowFunction (params : Text) (x : Identifier) : Text :=
  arrowHead params ++ ([' ', '{'] ++ ([' '] ++ "await".toList ++ ' ' :: (x.text ++ [';']) ++
    [' ', '}', ';']))

/-! ## The kind of the block -/

namespace Header

variable {params : Text}

/-- The parameters of an arrow function: parentheses that hold no others, or a name. -/
inductive IsArrowGroup : Text → Prop where
  | parentheses {inside : Text} (h : ∀ c ∈ inside, Text.isParenthesis c = false) :
      IsArrowGroup ('(' :: (inside ++ [')']))
  | name {word : Text} (hne : word ≠ []) (h : ∀ c ∈ word, isNameChar c) : IsArrowGroup word

theorem exists_of_dropParentheses? {t rest : Text} (h : dropParentheses? t = some rest) :
    ∃ group, t = group ++ rest ∧ IsArrowGroup group := by
  obtain ⟨behind, hopen, hclose⟩ := Option.bind_eq_some_iff.mp h
  have hinside : ∀ c ∈ behind.takeWhile fun c => c != '(' && c != ')',
      Text.isParenthesis c = false := by
    intro c hc
    simpa [Text.isParenthesis] using List.all_eq_true.mp List.all_takeWhile c hc
  refine ⟨_, ?_, .parentheses hinside⟩
  have hbehind := Text.eq_append_of_dropWord? hclose
  rw [Text.eq_append_of_dropWord? hopen, List.cons_append, List.nil_append, List.cons_append,
    List.append_assoc, ← hbehind, List.takeWhile_append_dropWhile]

theorem exists_of_dropName? {t rest : Text} (h : dropName? t = some rest) :
    ∃ group, t = group ++ rest ∧ IsArrowGroup group := by
  unfold dropName? at h
  split at h
  · rename_i hstart
    obtain rfl := Option.some.inj h
    refine ⟨t.takeWhile isNameChar, List.takeWhile_append_dropWhile.symm,
      .name ?_ fun c hc => List.all_eq_true.mp List.all_takeWhile c hc⟩
    obtain ⟨c, u, rfl⟩ : ∃ c u, t = c :: u :=
      List.exists_cons_of_ne_nil (by rintro rfl; cases hstart)
    have hc : isNameChar c = true := by
      have hc : isNameStart c = true := hstart
      simp only [isNameStart, Bool.or_eq_true, decide_eq_true_eq] at hc
      rcases hc with (hc | rfl) | rfl
      · simp [isNameChar, Text.isWord, hc]
      · decide
      · decide
    simp [hc]
  · cases h

/-- The words of an arrow function that the text starts with. -/
theorem exists_of_dropAsyncArrow? {t rest : Text} (h : dropAsyncArrow? t = some rest) :
    ∃ gap group gap', t = gap ++ (group ++ (gap' ++ ("=>".toList ++ rest))) ∧
      IsArrowGroup group ∧ ∀ c ∈ gap', Text.isBlank c := by
  obtain ⟨spaced, hasync, h⟩ := Option.bind_eq_some_iff.mp h
  obtain ⟨behind, hgroup, h⟩ := Option.bind_eq_some_iff.mp h
  obtain ⟨group, hsplit, hgroup⟩ : ∃ group, spaced.trimStart = group ++ behind ∧
      IsArrowGroup group := by
    cases hparens : dropParentheses? spaced.trimStart with
    | some other =>
        rw [hparens] at hgroup
        obtain rfl := Option.some.inj hgroup
        exact exists_of_dropParentheses? hparens
    | none =>
        rw [hparens] at hgroup
        exact exists_of_dropName? hgroup
  have hspaced : spaced = spaced.takeWhile Text.isBlank ++ spaced.trimStart :=
    List.takeWhile_append_dropWhile.symm
  have hbehind : behind = behind.takeWhile Text.isBlank ++ behind.trimStart :=
    List.takeWhile_append_dropWhile.symm
  refine ⟨"async".toList ++ spaced.takeWhile Text.isBlank, group,
    behind.takeWhile Text.isBlank, ?_, hgroup, fun c hc =>
      List.all_eq_true.mp List.all_takeWhile c hc⟩
  rw [← Text.eq_append_of_dropWord? h, ← hbehind, ← hsplit, List.append_assoc, ← hspaced]
  exact Text.eq_append_of_dropWord? hasync

theorem matches_finalAsyncArrow (h : ∀ c ∈ params, Text.isParenthesis c = false) :
    Matches finalAsyncArrow (arrowHead params) = true := by
  have hsplit : arrowHead params = "const f = ".toList ++
      'a' :: ("sync ".toList ++ '(' :: (params ++ [')', ' ', '=', '>'])) := rfl
  have hinside : (params ++ [')', ' ', '=', '>']).dropWhile (fun c => c != '(' && c != ')') =
      [')', ' ', '=', '>'] := by
    rw [List.dropWhile_append_of_pos fun c hc => by simpa [Text.isParenthesis] using h c hc]
    rfl
  have hdrop : dropAsyncArrow?
      ('a' :: ("sync ".toList ++ '(' :: (params ++ [')', ' ', '=', '>']))) = some [] := by
    change (((dropParentheses? ('(' :: (params ++ [')', ' ', '=', '>']))) <|> _).bind _) = _
    have hgroup : dropParentheses? ('(' :: (params ++ [')', ' ', '=', '>'])) =
        some [' ', '=', '>'] := by
      change Text.dropWord? [')'] ((params ++ [')', ' ', '=', '>']).dropWhile _) = _
      rw [hinside]
      rfl
    rw [hgroup]
    rfl
  have hstart : startsWord ("const f = ".toList).getLast? = true := by decide
  rw [hsplit]
  refine matches_append ?_
  rw [finalAsyncArrow, asyncArrow, hstart, hdrop]
  simp [Text.took]

/-- A head that ends like that of an asynchronous arrow function. -/
theorem exists_of_finalAsyncArrow {previous : Option Char} {t : Text} {found : Unit × Nat}
    (h : finalAsyncArrow previous t = some found) :
    ∃ front group gap, t = front ++ (group ++ (gap ++ "=>".toList)) ∧ IsArrowGroup group ∧
      ∀ c ∈ gap, Text.isBlank c := by
  obtain ⟨harrow, hall⟩ := Option.filter_eq_some_iff.mp h
  unfold asyncArrow at harrow
  split at harrow
  · cases harrow
  · obtain ⟨rest, hdrop, hfound⟩ := Option.bind_eq_some_iff.mp harrow
    obtain rfl := Option.some.inj hfound
    obtain ⟨front, group, gap, hsplit, hgroup, hgap⟩ := exists_of_dropAsyncArrow? hdrop
    have hrest : rest = [] := by
      have hlength := congrArg List.length hsplit
      have htaken : t.length - rest.length = t.length := of_decide_eq_true hall
      have harrow : "=>".toList.length = 2 := rfl
      simp only [List.length_append] at hlength
      exact List.eq_nil_of_length_eq_zero (by omega)
    rw [hrest, List.append_nil] at hsplit
    exact ⟨front, group, gap, hsplit, hgroup, hgap⟩

theorem IsArrowGroup.endsVisibly {group : Text} (h : IsArrowGroup group) : group.EndsVisibly := by
  cases h with
  | parentheses h => exact ⟨'(' :: _, ')', rfl, by decide⟩
  | name hne h => exact Text.endsVisibly_of_forall hne fun c hc => isBlank_of_headerChar (h c hc)

/-- Where the parameters hold parentheses, the last ones are not those behind `async`. -/
theorem not_matches_finalAsyncArrow (h : params.IsBalanced) (hopen : '(' ∈ params) :
    Matches finalAsyncArrow (arrowHead params) = false := by
  rw [not_matches_iff]
  intro front c u heq
  cases hfound : finalAsyncArrow front.getLast? (c :: u) with
  | none => rfl
  | some found =>
      exfalso
      obtain ⟨more, group, gap, hsplit, hgroup, hgap⟩ := exists_of_finalAsyncArrow hfound
      have hhead : arrowHead params = arrowStart ++ '(' :: params ++ [')'] ++ [' '] ++
          "=>".toList := by
        simp only [arrowHead, List.append_assoc, List.cons_append]
        rfl
      have hclosed : arrowStart ++ '(' :: params ++ [')'] = front ++ more ++ group := by
        have hends : (arrowStart ++ '(' :: params ++ [')']).EndsVisibly := ⟨_, ')', rfl, by decide⟩
        have hblank : ∀ c ∈ [' '], Text.isBlank c := List.forall_mem_singleton.mpr (by decide)
        have hspaced : arrowStart ++ '(' :: params ++ [')'] ++ [' '] =
            front ++ more ++ group ++ gap := by
          refine List.append_cancel_right (?_ : _ ++ "=>".toList = _ ++ "=>".toList)
          rw [← hhead, heq, hsplit]
          simp only [List.append_assoc]
        have htrim := congrArg (Text.dropEndWhile Text.isBlank) hspaced
        rw [Text.dropEndWhile_append _ hblank, Text.dropEndWhile_append _ hgap] at htrim
        exact hends.trimEnd_eq.symm.trans (htrim.trans (hgroup.endsVisibly.append _).trimEnd_eq)
      cases hgroup with
      | name hne hword =>
          have hlast := congrArg List.getLast? hclosed
          rw [List.getLast?_append_of_ne_nil _ hne, List.getLast?_concat] at hlast
          exact absurd (hword ')' (List.mem_of_getLast? hlast.symm)) (by decide)
      | @parentheses inside hinside =>
          obtain ⟨a, b, rfl, hb⟩ := h.exists_last hopen
          have hcut : arrowStart ++ '(' :: a ++ [')'] ++ b = front ++ more ++ ['('] ++ inside := by
            refine List.append_cancel_right (?_ : _ ++ [')'] = _ ++ [')'])
            simpa only [List.append_assoc, List.cons_append, List.nil_append] using hclosed
          have hdrop := congrArg (Text.dropEndWhile (!Text.isParenthesis ·)) hcut
          rw [Text.dropEndWhile_append _ (by simpa using hb),
            Text.dropEndWhile_append (front ++ more ++ ['(']) (by simpa using hinside)] at hdrop
          have hlast : (arrowStart ++ '(' :: a ++ [')']).getLast? =
              (front ++ more ++ ['(']).getLast? :=
            congrArg List.getLast? (by simpa [Text.dropEndWhile, Text.isParenthesis] using hdrop)
          rw [List.getLast?_concat, List.getLast?_concat] at hlast
          exact absurd hlast (by decide)

theorem kind_arrowHead (h : params.IsBalanced) :
    kind (arrowHead params ++ [' ']) = .ok (.function (decide ('(' ∉ params))) := by
  have hlast : arrowHead params =
      arrowStart ++ '(' :: (params ++ [')', ' ', '=']) ++ ['>'] := by
    simp only [arrowHead, List.append_assoc, List.cons_append, List.nil_append]
  have htrim : Text.trimEnd (arrowHead params ++ [' ']) = arrowHead params := by
    have hspace : Text.isBlank ' ' = true := by decide
    have hvisible : (arrowHead params).EndsVisibly := ⟨_, '>', hlast, by decide⟩
    rw [Text.trimEnd_concat, hspace, if_pos rfl, hvisible.trimEnd_eq]
  have hrev : ∃ t, (arrowHead params).reverse = '>' :: '=' :: t := by
    simp only [arrowHead, List.reverse_append, List.reverse_cons, List.append_assoc,
      List.cons_append, List.nil_append, List.reverse_nil]
    exact ⟨_, rfl⟩
  have hasync : Matches finalAsyncArrow (arrowHead params) = decide ('(' ∉ params) := by
    by_cases hopen : '(' ∈ params
    · rw [not_matches_finalAsyncArrow h hopen, decide_eq_false (not_not_intro hopen)]
    · rw [matches_finalAsyncArrow (h.forall_not_isParenthesis hopen), decide_eq_true hopen]
  obtain ⟨t, ht⟩ := hrev
  rw [kind, htrim, ht, ← hasync]
  rfl

end Header

/-! ## The way of the pass -/

/-- Whatever is in front of the parameters, they hold no other words than by themselves. -/
theorem AreParameters.isFrom_ne {params front : Text} {m : Mention} (h : AreParameters params)
    (hm : m.IsFrom front params) : m.word ≠ "await".toList := by
  obtain ⟨passed, hfront, hsplit, hin⟩ := Mention.isFrom_iff.mp hm
  refine h.silent ⟨passed, m.word, m.behind⟩ ⟨hsplit, hin.starts, hin.inside, ?_, hin.ends⟩
  cases hlast : passed.getLast? with
  | none => rfl
  | some c =>
      have hbefore := hin.before
      rwa [hfront, List.getLast?_append, hlast, Option.some_or] at hbefore

namespace Pass

variable {p : Pass} {n k m base : Nat} {c : Char} {t rest params : Text}

/-- In parentheses, no word but `await` means anything. -/
theorem meet_inside (h : p.block.parens < p.parens) {word : String} (hword : word ≠ "await")
    (n stop : Nat) (rest : Text) : p.meet word n stop rest = p := by
  have hinside : p.isInParentheses = true := decide_eq_true h
  have htop : p.isAtTopLevel = false := by
    have hne : (p.parens == 0) = false := beq_eq_false_iff_ne.mpr (by omega)
    rw [isAtTopLevel, hne, Bool.and_false]
  have hlearn : ∀ name, p.learn name = p := fun name => by simp [learn, htop]
  have hdeclare : ∀ n name, p.declare n name = p := fun n name => by simp [declare, hinside]
  have hdestructure : ∀ n rest, p.destructure n rest = p := fun n rest => by
    simp [destructure, htop]
  unfold meet
  split
  · exact absurd rfl hword
  · split <;> simp [hdeclare, hdestructure]
  · split <;> simp [hdeclare, hdestructure]
  · split <;> simp [hdeclare]
  · split <;> simp [hlearn, hdestructure]
  · split <;> simp [hlearn]
  · simp [htop]
  · rfl

theorem word_inside (h : p.block.parens < p.parens) {word : Text} (hword : word ≠ "await".toList)
    (n : Nat) (rest : Text) :
    p.word word n rest = { p with lead := word.reverse ++ p.lead } := by
  have hne : String.ofList word ≠ "await" := fun he => hword (by rw [← he, String.toList_ofList])
  unfold Pass.word
  split
  · rfl
  · rw [meet_inside h hne]

/-- Braces and ends of statements apart, a character counts as a parenthesis at most. -/
theorem exists_mark_plain (hc : IsPlain c) (hp : p.parens = base + k)
    (hopen : Text.openParentheses? k (c :: t) = some m) :
    ∃ j, Text.openParentheses? j t = some m ∧
      p.mark c = .ok { p with parens := base + j, lead := c :: p.lead } := by
  obtain ⟨hbrace, hbrace', hend⟩ := hc
  rw [mark, if_neg hbrace, if_neg hbrace', if_neg hend, hp]
  by_cases hleft : c = '('
  · subst hleft
    exact ⟨k + 1, hopen, rfl⟩
  · by_cases hright : c = ')'
    · subst hright
      cases k with
      | zero => cases hopen
      | succ k => exact ⟨k, hopen, rfl⟩
    · have hother : Text.isParenthesis c = false := by simp [Text.isParenthesis, hleft, hright]
      rw [Text.openParentheses?_other hother] at hopen
      exact ⟨k, hopen, by rw [if_neg hleft, if_neg hright]⟩

theorem not_isParenthesis_of_isWordChar (h : isWordChar c) : Text.isParenthesis c = false := by
  have hne : c ≠ '(' ∧ c ≠ ')' := by
    constructor
    all_goals
      rintro rfl
      revert h
      decide
  simp [Text.isParenthesis, hne]

/-- In parentheses, the pass goes through text without braces and ends of statements and finds
nothing there. -/
theorem leads_inside (hbase : p.block.parens < base) (hp : p.parens = base + k)
    (hplain : ∀ c ∈ t, IsPlain c)
    (hsilent : ∀ m : Mention, m.IsFrom p.lead.reverse t → m.word ≠ "await".toList)
    (hopen : Text.openParentheses? k t = some m) (hrest : rest.head?.any isWordChar = false)
    (n : Nat) : p.Leads n t rest { p with parens := base + m, lead := t.reverse ++ p.lead } := by
  -- By the length of the text, which gets shorter by a word or by a single character.
  induction hlength : t.length using Nat.strong_induction_on generalizing p n k t with
  | _ length ih =>
  subst hlength
  cases t with
  | nil =>
      obtain rfl := Option.some.inj hopen
      rw [← hp]
      exact rfl
  | cons c t =>
      cases hstart : p.startsWord c with
      | false =>
          obtain ⟨j, hj, hmark⟩ := exists_mark_plain (hplain c List.mem_cons_self) hp hopen
          have hbefore : (isWordStart c && !p.lead.reverse.getLast?.any isWordChar) = false := by
            rwa [List.getLast?_reverse]
          have hfirst := leads_mark hstart hmark n (t ++ rest)
          have hlater := ih t.length (Nat.lt_succ_self _)
            (p := { p with parens := base + j, lead := c :: p.lead }) hbase rfl
            (fun d hd => hplain d (List.mem_cons_of_mem c hd))
            (fun m hm => hsilent m ((Mention.isFrom_skip hbefore).mpr (by simpa using hm))) hj
            (n + Text.size [c]) rfl
          have hall := hfirst.trans hlater
          simpa using hall
      | true =>
          obtain ⟨hc, hlast⟩ := Bool.and_eq_true_iff.mp hstart
          rw [Bool.not_eq_true', ← List.getLast?_reverse] at hlast
          obtain ⟨word, t, rfl, hword, hend⟩ := Text.exists_span isWordChar t
          have hchars : ∀ d ∈ c :: word, isWordChar d :=
            List.forall_mem_cons.mpr ⟨by simp [isWordChar, hc], hword⟩
          have hfrom : ∀ m : Mention, m.IsFrom p.lead.reverse (c :: word ++ t) ↔
              m = ⟨p.lead.reverse, c :: word, t⟩ ∨ m.IsFrom (p.lead.reverse ++ c :: word) t :=
            fun m => Mention.isFrom_word hc hchars hlast hend
          have hbehind : (t ++ rest).head?.any isWordChar = false := by
            rw [List.head?_append]
            cases hhead : t.head? with
            | none => exact hrest
            | some d => rwa [hhead] at hend
          rw [← List.cons_append, Text.openParentheses?_append, Text.openParentheses?_of_forall
            fun d hd => not_isParenthesis_of_isWordChar (hchars d hd)] at hopen
          have hfirst := leads_word hstart hword hbehind n
          rw [word_inside (by omega) (hsilent _ ((hfrom _).mpr (.inl rfl)))] at hfirst
          have hlength : t.length < (c :: (word ++ t)).length := by
            rw [List.length_cons, List.length_append]
            omega
          have hlater := ih t.length hlength
            (p := { p with lead := (c :: word).reverse ++ p.lead }) hbase hp
            (fun d hd => hplain d (by simp [hd]))
            (fun m hm => hsilent m ((hfrom m).mpr (.inr (by simpa using hm)))) hopen
            (n + Text.size (c :: word)) rfl
          have hall := hfirst.trans hlater
          simpa using hall

/-- The pass outside of all blocks, somewhere behind the name of the function. -/
def behindName (known : List Text) (parens : Nat) (lead : Text) : Pass :=
  { block := ⟨.other, 0, [letterF.text]⟩, known, parens, lead }

theorem leads_arrowStart (rest : Text) : ∃ known,
    ({} : Pass).Leads 0 arrowStart ('(' :: rest) (behindName known 0 arrowStart.reverse) := by
  have hsplit : arrowStart = declarationWord true ++ ([' '] ++ (letterF.text ++ ([' '] ++ (['='] ++
      ([' '] ++ ("async".toList ++ [' '])))))) := rfl
  have hskip : ∀ (q : Pass) (n : Nat), q.Skips n ([' '] ++ (letterF.text ++ ([' '] ++ (['='] ++
      ([' '] ++ ("async".toList ++ [' '])))))) ('(' :: rest) := by
    intro q n
    refine Skips.append (skips_space _ _ _) fun _ => ?_
    refine Skips.append (skips_name letterF rfl _) fun _ => ?_
    refine Skips.append (skips_space _ _ _) fun _ => ?_
    refine Skips.append (skips_char (startsWord_eq_false (by decide)) (by decide) _ _) fun _ => ?_
    refine Skips.append (skips_space _ _ _) fun _ => ?_
    exact Skips.append (skips_word (by decide) (List.all_eq_true.mp rfl) rfl (by decide) _)
      fun _ => skips_space _ _ _
  have hnone : Gap.none.EndsPlainly := by decide
  have hspace : (" f = async ".toList ++ '(' :: rest).head?.any isWordChar = false := rfl
  have hspace' : (" = async ".toList ++ '(' :: rest).head?.any isWordChar = false := rfl
  obtain ⟨known, q, hq, hword⟩ := leads_gap (p := {}) (c := 'c') (t := ['o', 'n', 's', 't']) hnone
    rfl (by decide) (List.all_eq_true.mp rfl) hspace 0
  have hdeclares : q = Pass.declare { ({} : Pass) with known } 6 letterF.text :=
    hq.trans (meet_declarationWord _ true letterF hspace' 0 5)
  obtain ⟨known', hdeclare⟩ := declare_eq (p := { ({} : Pass) with known }) rfl 6 letterF.text
  rw [hdeclare] at hdeclares
  subst hdeclares
  obtain ⟨known'', hlater⟩ := hskip (behindName known' 0 (declarationWord true).reverse) 5
  rw [hsplit]
  exact ⟨known'', Leads.trans hword hlater⟩

theorem skips_arrow (q : Pass) (n : Nat) (rest : Text) : q.Skips n [' ', '=', '>', ' '] rest := by
  have hsplit : [' ', '=', '>', ' '] = [' '] ++ (['='] ++ (['>'] ++ [' '])) := rfl
  rw [hsplit]
  refine Skips.append (skips_space _ _ _) fun _ => ?_
  refine Skips.append (skips_char (startsWord_eq_false (by decide)) (by decide) _ _) fun _ => ?_
  exact Skips.append (skips_char (startsWord_eq_false (by decide)) (by decide) _ _)
    fun _ => skips_space _ _ _

/-- The pass at the beginning of the function. -/
def inFunction (params : Text) (known : List Text) : Pass where
  block := ⟨.function (decide ('(' ∉ params)), 0, []⟩
  outer := [⟨.other, 0, [letterF.text]⟩]
  known

/-- With its head, the pass enters the function. -/
theorem leads_arrowHead (h : AreParameters params) (rest : Text) : ∃ known,
    ({} : Pass).Leads 0 (arrowHead params ++ [' ', '{']) rest (inFunction params known) := by
  have hsplit : arrowHead params ++ [' ', '{'] =
      arrowStart ++ (['('] ++ (params ++ ([')'] ++ ([' ', '=', '>', ' '] ++ ['{'])))) := by
    simp only [arrowHead, List.append_assoc, List.cons_append, List.nil_append]
  obtain ⟨known, hstart⟩ :=
    leads_arrowStart (params ++ ([')'] ++ ([' ', '=', '>', ' '] ++ ['{'])) ++ rest)
  obtain ⟨known', harrow⟩ : ∃ known',
      (behindName known 0 (')' :: (params.reverse ++ '(' :: arrowStart.reverse))).Leads
        (arrowStart.size + 1 + params.size + 1) [' ', '=', '>', ' '] (['{'] ++ rest)
        (behindName known' 0 (arrowHead params ++ [' ']).reverse) := by
    have hlead : (arrowHead params ++ [' ']).reverse = [' ', '=', '>', ' '].reverse ++
        (')' :: (params.reverse ++ '(' :: arrowStart.reverse)) := by
      simp [arrowHead]
    rw [hlead]
    exact skips_arrow _ _ _
  have hopen : (behindName known 0 arrowStart.reverse).Leads arrowStart.size ['(']
      (params ++ ([')'] ++ ([' ', '=', '>', ' '] ++ ['{'])) ++ rest)
      (behindName known 1 ('(' :: arrowStart.reverse)) :=
    leads_mark (startsWord_eq_false (by decide)) rfl _ _
  have hinside : (behindName known 1 ('(' :: arrowStart.reverse)).Leads (arrowStart.size + 1) params
      ([')'] ++ ([' ', '=', '>', ' '] ++ ['{']) ++ rest)
      (behindName known 1 (params.reverse ++ '(' :: arrowStart.reverse)) :=
    leads_inside Nat.zero_lt_one rfl h.plain (fun m => h.isFrom_ne) h.balanced rfl _
  have hclose : (behindName known 1 (params.reverse ++ '(' :: arrowStart.reverse)).Leads
      (arrowStart.size + 1 + params.size) [')'] ([' ', '=', '>', ' '] ++ ['{'] ++ rest)
      (behindName known 0 (')' :: (params.reverse ++ '(' :: arrowStart.reverse))) :=
    leads_mark (startsWord_eq_false (by decide)) rfl _ _
  have hbrace : (behindName known' 0 (arrowHead params ++ [' ']).reverse).Leads
      (arrowStart.size + 1 + params.size + 1 + 4) ['{'] rest (inFunction params known') := by
    refine leads_mark (startsWord_eq_false (by decide)) ?_ _ rest
    have hmark : ∀ q : Pass, q.mark '{' = q.openBlock := fun _ => rfl
    rw [hmark, openBlock, behindName, List.reverse_reverse, Header.kind_arrowHead h.balanced]
    rfl
  rw [hsplit]
  exact ⟨known', hstart.trans (hopen.trans (hinside.trans (hclose.trans (harrow.trans hbrace))))⟩

/-- How far the head reaches, with the space and the brace behind it. -/
theorem size_arrowHead (params : Text) :
    0 + Text.size (arrowHead params ++ [' ', '{']) = 23 + params.size := by
  have hstart : arrowStart.size = 16 := rfl
  have hend : Text.size [')', ' ', '=', '>'] = 4 := rfl
  have hbrace : Text.size [' ', '{'] = 2 := rfl
  have hopen : '('.utf8Size = 1 := rfl
  simp only [arrowHead, Text.size_append, Text.size_cons, hstart, hend, hbrace, hopen]
  omega

/-- What waits in the function is found if the function is not taken for an asynchronous one. -/
theorem leads_arrowFunction (h : AreParameters params) (x : Identifier) :
    ∃ known, ({} : Pass).Leads 0 (arrowFunction params x) []
      { behindName known 0 [] with
        found := if '(' ∈ params then
          [Issue.strayAwait.report (24 + params.size) (24 + params.size + 5)] else [] } := by
  have hsplit : arrowFunction params x = arrowHead params ++ [' ', '{'] ++
      ([' '] ++ "await".toList ++ ' ' :: (x.text ++ [';'])) ++ [' '] ++ ['}'] ++ [';'] := by
    simp [arrowFunction]
  obtain ⟨known, hhead⟩ := leads_arrowHead h
    ([' '] ++ "await".toList ++ ' ' :: (x.text ++ [';']) ++ [' ', '}', ';'])
  obtain ⟨known', hawait⟩ := leads_await (p := inFunction params known) .space x (by decide) rfl rfl
    (0 + Text.size (arrowHead params ++ [' ', '{'])) [' ', '}', ';']
  have hinside := hhead.trans hawait
  obtain ⟨known'', hspace⟩ := skips_space _ (0 + Text.size (arrowHead params ++ [' ', '{'] ++
    ([' '] ++ "await".toList ++ ' ' :: (x.text ++ [';'])))) ['}', ';']
  have hclosed := Leads.close (hinside.trans hspace) rfl rfl
  have hend := hclosed.trans (leads_semicolon rfl _ [])
  have hasync : ((inFunction params known).isAsync? = some true) = ('(' ∉ params) := by
    have hkind : (inFunction params known).isAsync? = some (decide ('(' ∉ params)) := rfl
    rw [hkind, Option.some_inj, decide_eq_true_eq]
  have hplace : 0 + Text.size (arrowHead params ++ [' ', '{']) + Gap.space.text.size =
      24 + params.size := by
    have hspace : Gap.space.text.size = 1 := rfl
    rw [size_arrowHead, hspace]
    omega
  refine ⟨known'', ?_⟩
  rw [hsplit]
  simp only [hasync, hplace, ite_not] at hend
  have hnone : (inFunction params known).found = [] := rfl
  rw [hnone, List.append_nil] at hend
  exact hend

end Pass

/-! ## Reports -/

theorem rule_of_mem_equalityIssues {t : Text} {d : Diagnostic} (h : d ∈ equalityIssues t) :
    d.rule = some "eqeqeq" := by
  obtain ⟨segments, htakes⟩ := exists_takes none t
  have hissues : equalityIssues t = reports 0 segments := htakes.filterMap_matchesFrom 0
  rw [hissues] at h
  obtain ⟨-, o, -, -, rfl⟩ := mem_reports h
  cases o <;> rfl

variable {params : Text}

/-- Parentheses among the parameters hide that the function is asynchronous, and what it waits for
is reported. -/
theorem textIssues_arrowFunction (h : AreParameters params) (x : Identifier) :
    ∃ ds, textIssues (arrowFunction params x) = .ok ds ∧
      ds.filter (·.rule = some Issue.strayAwait.rule) = if '(' ∈ params then
        [Issue.strayAwait.report (24 + params.size) (24 + params.size + 5)] else [] := by
  obtain ⟨known, hleads⟩ := Pass.leads_arrowFunction h x
  rw [Pass.Leads, List.append_nil, Pass.run] at hleads
  refine ⟨_, by rw [textIssues, hleads]; rfl, ?_⟩
  have hequality : (equalityIssues (arrowFunction params x)).filter
      (·.rule = some Issue.strayAwait.rule) = [] := by
    refine List.filter_eq_nil_iff.mpr fun d hd => ?_
    rw [rule_of_mem_equalityIssues hd]
    decide
  rw [List.filter_append, List.filter_append, hequality]
  split <;> rfl

theorem areParameters_of_not_mem (hbalanced : params.IsBalanced)
    (hplain : params.all (decide <| IsPlain ·)) (h : 'w' ∉ params) : AreParameters params := by
  refine ⟨hbalanced, fun c hc => of_decide_eq_true (List.all_eq_true.mp hplain c hc),
    fun m hm hword => h ?_⟩
  rw [hm.split, hword]
  simp

def letterX : Identifier := ⟨'x', [], rfl, List.all_nil, by decide⟩

/-- A parameter that is taken apart. -/
def pairPattern : Text := "[a, b] = c".toList

theorem textIssues_arrowFunction_pairPattern :
    AreParameters pairPattern ∧ ∃ ds, textIssues (arrowFunction pairPattern letterX) = .ok ds ∧
      ds.filter (·.rule = some Issue.strayAwait.rule) = [] := by
  have hparams : AreParameters pairPattern :=
    areParameters_of_not_mem (by decide) (by decide) (by decide)
  have hopen : '(' ∉ pairPattern := by decide
  obtain ⟨ds, hissues, hawait⟩ := textIssues_arrowFunction hparams letterX
  rw [if_neg hopen] at hawait
  exact ⟨hparams, ds, hissues, hawait⟩

/-- A parameter whose default is called. -/
def callDefault : Text := "a = g()".toList

theorem textIssues_callDefault :
    AreParameters callDefault ∧
      arrowFunction callDefault letterX =
        "const f = async (a = g()) => \x7b await x; \x7d;".toList ∧
      textIssues (arrowFunction callDefault letterX) = .ok [Issue.strayAwait.report 31 36] := by
  have hparams : AreParameters callDefault :=
    areParameters_of_not_mem (by decide) (by decide) (by decide)
  exact ⟨hparams, rfl, by decide +kernel⟩

end PageLint.Script
