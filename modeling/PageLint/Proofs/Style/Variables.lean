import PageLint.Proofs.Style.Symbols
import PageLint.Proofs.Text.Matches
import PageLint.Proofs.Text.Parentheses
import PageLint.Proofs.Style.Interruption

/-! # Variables and parameters

A variable of the Sass dialect is reported wherever it is used, if no place gives it a meaning. The
parameters of a mixin or a function are looked for up to the first closing parenthesis, be it that
of a function that is called in front of them. -/

namespace PageLint.Style

namespace Symbol

variable {t masked x rest params : Text} {previous : Option Char} {len : Nat}

/-! ## Names -/

/-- The name of a variable, which starts with a letter. -/
structure IsVariable (x : Text) : Prop where
  starts : x.head?.any isNameStart
  chars : ∀ c ∈ x, isNameChar c

theorem IsVariable.isName (h : IsVariable x) : IsName x where
  nonempty := by
    rintro rfl
    cases h.starts
  chars := h.chars

theorem name?_eq_some_iff : name? t = some (x, rest) ↔
    t = x ++ rest ∧ IsVariable x ∧ rest.head?.any isNameChar = false := by
  constructor
  · intro h
    unfold name? at h
    split at h
    · rename_i hhead
      obtain ⟨rfl, rfl⟩ := Prod.mk.inj (Option.some.inj h)
      refine ⟨List.takeWhile_append_dropWhile.symm, ⟨?_, fun c hc => ?_⟩,
        Text.any_head?_dropWhile isNameChar t⟩
      · cases t with
        | nil => cases hhead
        | cons c t =>
            rw [List.takeWhile_cons_of_pos (isNameChar_of_isNameStart hhead)]
            exact hhead
      · exact List.all_eq_true.mp List.all_takeWhile c hc
    · cases h
  · rintro ⟨rfl, hx, hrest⟩
    obtain ⟨htake, hdrop⟩ := Text.span_append hx.chars hrest
    have hhead : (x ++ rest).head?.any isNameStart := by
      obtain ⟨c, y, rfl⟩ := List.exists_cons_of_ne_nil hx.isName.nonempty
      exact hx.starts
    rw [name?, if_pos hhead, htake, hdrop]

theorem looseName?_append (hx : IsName x) (hrest : rest.head?.any isNameChar = false) :
    looseName? (x ++ rest) = some (x, rest) := by
  obtain ⟨htake, hdrop⟩ := Text.span_append hx.chars hrest
  have hhead : (x ++ rest).head?.any isNameChar := by
    obtain ⟨c, y, rfl⟩ := List.exists_cons_of_ne_nil hx.nonempty
    exact hx.chars c List.mem_cons_self
  rw [looseName?, if_pos hhead, htake, hdrop]

/-! ## Uses -/

/-- The name stands in the text, behind the mark of a variable. -/
def Mentions (t x : Text) : Prop :=
  ∃ front behind, t = front ++ '$' :: (x ++ behind) ∧ behind.head?.any isNameChar = false

theorem Mentions.append_left (h : Mentions t x) (a : Text) : Mentions (a ++ t) x := by
  obtain ⟨front, behind, rfl, hbehind⟩ := h
  exact ⟨a ++ front, behind, (List.append_assoc _ _ _).symm, hbehind⟩

theorem marked_eq_some_iff : marked '$' previous t = some (x, len) ↔
    ∃ rest, t = '$' :: (x ++ rest) ∧ IsVariable x ∧ rest.head?.any isNameChar = false ∧
      len = x.length + 1 := by
  constructor
  · intro h
    obtain ⟨behind, hmark, hbehind⟩ := Option.bind_eq_some_iff.mp h
    obtain ⟨⟨y, rest⟩, hname, hend⟩ := Option.bind_eq_some_iff.mp hbehind
    obtain ⟨rfl, rfl⟩ := Prod.mk.inj (Option.some.inj hend)
    obtain ⟨rfl, hy, hrest⟩ := name?_eq_some_iff.mp hname
    obtain rfl := Text.eq_append_of_dropWord? hmark
    exact ⟨rest, rfl, hy, hrest, by simp; omega⟩
  · rintro ⟨rest, rfl, hx, hrest, rfl⟩
    have hname := name?_eq_some_iff.mpr ⟨rfl, hx, hrest⟩
    simp [marked, Text.dropWord?, hname, Text.took]
    omega

theorem mem_namesIn_iff : x ∈ namesIn '$' t ↔ IsVariable x ∧ Mentions t x := by
  constructor
  · intro h
    obtain ⟨⟨n, x⟩, hmem, rfl⟩ := List.mem_map.mp h
    obtain ⟨front, u, before, len, rfl, -, hmatch⟩ := Text.exists_of_mem_matchesFrom hmem
    obtain ⟨rest, rfl, hx, hrest, -⟩ := marked_eq_some_iff.mp hmatch
    exact ⟨hx, front, rest, rfl, hrest⟩
  · rintro ⟨hx, front, behind, rfl, hbehind⟩
    have hmatch : marked '$' front.getLast? ('$' :: (x ++ behind)) = some (x, x.length + 1) :=
      marked_eq_some_iff.mpr ⟨behind, rfl, hx, hbehind, rfl⟩
    refine List.mem_map.mpr ⟨_, Text.mem_matchesOf hmatch fun previous t y len h => ?_, rfl⟩
    obtain ⟨rest, rfl, hy, -, rfl⟩ := marked_eq_some_iff.mp h
    rw [List.take_succ_cons, List.take_left, List.tail_cons]
    exact fun hmem => absurd (hy.chars _ hmem) (by decide)

/-! ## Values -/

/-- A name does not go on in white space. -/
theorem any_head?_blank {gap : Text} {c : Char} (hgap : ∀ d ∈ gap, Text.isBlank d)
    (hc : isNameChar c = false) : (gap ++ c :: t).head?.any isNameChar = false := by
  cases gap with
  | nil => exact hc
  | cons d gap =>
      rw [List.cons_append, List.head?_cons, Option.any_some, ← Bool.not_eq_true]
      intro hd
      have hblank := hgap d List.mem_cons_self
      rw [isBlank_of_isNameChar hd] at hblank
      cases hblank

theorem markedBefore_eq_some_iff : markedBefore '$' [':'] previous t = some (x, len) ↔
    ∃ gap rest, t = '$' :: (x ++ (gap ++ ':' :: rest)) ∧ IsVariable x ∧
      (∀ c ∈ gap, Text.isBlank c) ∧ len = x.length + gap.length + 2 := by
  constructor
  · intro h
    obtain ⟨behind, hmark, hbehind⟩ := Option.bind_eq_some_iff.mp h
    obtain ⟨⟨y, rest⟩, hname, hend⟩ := Option.bind_eq_some_iff.mp hbehind
    obtain ⟨rfl, hy, -⟩ := name?_eq_some_iff.mp hname
    obtain rfl := Text.eq_append_of_dropWord? hmark
    dsimp only at hend
    split at hend
    · rename_i c more htrim
      split at hend
      · rename_i hc
        obtain ⟨rfl, rfl⟩ := Prod.mk.inj (Option.some.inj hend)
        obtain rfl : c = ':' := by simpa using hc
        obtain ⟨gap, hgap, hrest⟩ := Text.exists_append_trimStart rest
        rw [htrim] at hrest
        subst hrest
        exact ⟨gap, more, rfl, hy, hgap, by simp; omega⟩
      · cases hend
    · cases hend
  · rintro ⟨gap, rest, rfl, hx, hgap, rfl⟩
    have hname : name? (x ++ (gap ++ ':' :: rest)) = some (x, gap ++ ':' :: rest) :=
      name?_eq_some_iff.mpr ⟨rfl, hx, any_head?_blank hgap (by decide)⟩
    have htrim : Text.trimStart (gap ++ ':' :: rest) = ':' :: rest :=
      Text.trimStart_append hgap ⟨':', rest, rfl, by decide⟩
    simp [markedBefore, Text.dropWord?, hname, htrim, Text.took]
    omega

/-- A variable is given a value. -/
def GivesValue (t x : Text) : Prop :=
  ∃ front gap behind, t = front ++ '$' :: (x ++ (gap ++ ':' :: behind)) ∧ ∀ c ∈ gap, Text.isBlank c

theorem mem_names_markedBefore_iff :
    x ∈ names (markedBefore '$' [':']) t ↔ IsVariable x ∧ GivesValue t x := by
  constructor
  · intro h
    obtain ⟨⟨n, x⟩, hmem, rfl⟩ := List.mem_map.mp h
    obtain ⟨front, u, before, len, rfl, -, hmatch⟩ := Text.exists_of_mem_matchesFrom hmem
    obtain ⟨gap, rest, rfl, hx, hgap, -⟩ := markedBefore_eq_some_iff.mp hmatch
    exact ⟨hx, front, gap, rest, rfl, hgap⟩
  · rintro ⟨hx, front, gap, behind, rfl, hgap⟩
    have hmatch : markedBefore '$' [':'] front.getLast? ('$' :: (x ++ (gap ++ ':' :: behind))) =
        some (x, x.length + gap.length + 2) :=
      markedBefore_eq_some_iff.mpr ⟨gap, behind, rfl, hx, hgap, rfl⟩
    refine List.mem_map.mpr ⟨_, Text.mem_matchesOf hmatch fun previous t y len h => ?_, rfl⟩
    obtain ⟨gap, rest, rfl, hy, hgap, rfl⟩ := markedBefore_eq_some_iff.mp h
    have hsplit : '$' :: (y ++ (gap ++ ':' :: rest)) = ('$' :: (y ++ (gap ++ [':']))) ++ rest := by
      simp
    have hlength : y.length + gap.length + 2 = ('$' :: (y ++ (gap ++ [':']))).length := by
      simp
      omega
    rw [hsplit, hlength, List.take_left, List.tail_cons]
    intro hmem
    rcases List.mem_append.mp hmem with hmem | hmem
    · exact absurd (hy.chars _ hmem) (by decide)
    · rcases List.mem_append.mp hmem with hmem | hmem
      · exact absurd (hgap _ hmem) (by decide)
      · exact absurd hmem (by decide)

/-! ## Parameters -/

/-- What stands in front of the parameters of a mixin or a function. -/
inductive IsSignatureHead : Text → Prop where
  | intro {rule gap name gap' : Text} (hrule : rule = "@mixin".toList ∨ rule = "@function".toList)
      (hgap : gap ≠ []) (hblank : ∀ c ∈ gap ++ gap', Text.isBlank c) (hname : IsName name) :
      IsSignatureHead (rule ++ (gap ++ (name ++ gap')))

/-- There are neither parentheses in it nor another rule. -/
theorem IsSignatureHead.exists_cons {head : Text} (h : IsSignatureHead head) :
    ∃ w, head = '@' :: w ∧ '@' ∉ w ∧ '(' ∉ '@' :: w ∧ ')' ∉ '@' :: w := by
  obtain @⟨rule, gap, name, gap', hrule, -, hblank, hname⟩ := h
  obtain ⟨word, rfl, hword⟩ : ∃ word, rule = '@' :: word ∧
      ∀ c ∈ word, c ≠ '@' ∧ c ≠ '(' ∧ c ≠ ')' := by
    rcases hrule with rfl | rfl
    · exact ⟨"mixin".toList, rfl, by simp⟩
    · exact ⟨"function".toList, rfl, by simp⟩
  have hgaps : ∀ c ∈ gap ++ gap', c ≠ '@' ∧ c ≠ '(' ∧ c ≠ ')' := by
    intro c hc
    have := hblank c hc
    refine ⟨?_, ?_, ?_⟩
    all_goals
      rintro rfl
      revert this
      decide
  have hchars : ∀ c ∈ name, c ≠ '@' ∧ c ≠ '(' ∧ c ≠ ')' := by
    intro c hc
    have := hname.chars c hc
    refine ⟨?_, ?_, ?_⟩
    all_goals
      rintro rfl
      revert this
      decide
  have hall : ∀ c ∈ word ++ (gap ++ (name ++ gap')), c ≠ '@' ∧ c ≠ '(' ∧ c ≠ ')' := by
    intro c hc
    simp only [List.mem_append] at hc
    rcases hc with hc | hc | hc | hc
    · exact hword c hc
    · exact hgaps c (List.mem_append_left _ hc)
    · exact hchars c hc
    · exact hgaps c (List.mem_append_right _ hc)
  refine ⟨_, rfl, fun hmem => (hall _ hmem).1 rfl, ?_, ?_⟩
  · exact List.not_mem_cons_of_ne_of_not_mem (by decide) fun hmem => (hall _ hmem).2.1 rfl
  · exact List.not_mem_cons_of_ne_of_not_mem (by decide) fun hmem => (hall _ hmem).2.2 rfl

theorem parameters?_eq_some_iff : parameters? t = some (params, rest) ↔
    t = '(' :: (params ++ ')' :: rest) ∧ ')' ∉ params := by
  have hnot : ∀ u : Text, ')' ∉ u.takeWhile (· != ')') := fun u hmem => by
    simpa using List.all_eq_true.mp List.all_takeWhile _ hmem
  constructor
  · intro h
    unfold parameters? at h
    split at h
    · rename_i inside
      split at h
      · cases h
      · rename_i c behind hdrop
        obtain ⟨rfl, rfl⟩ := Prod.mk.inj (Option.some.inj h)
        have hc := List.head?_dropWhile_not (· != ')') inside
        rw [hdrop] at hc
        obtain rfl : c = ')' := by simpa using hc
        exact ⟨by rw [← hdrop, List.takeWhile_append_dropWhile], hnot inside⟩
    · cases h
  · rintro ⟨rfl, hclose⟩
    have hend : (')' :: rest).head?.any (· != ')') = false := by simp
    obtain ⟨htake, hdrop⟩ := Text.span_append
      (fun d hd => bne_iff_ne.mpr (ne_of_mem_of_not_mem hd hclose)) hend
    rw [parameters?, hdrop, htake]

theorem signature_eq_some_iff : signature previous t = some (params, len) ↔
    ∃ head behind, t = head ++ '(' :: (params ++ ')' :: behind) ∧ IsSignatureHead head ∧
      ')' ∉ params ∧ len = head.length + params.length + 2 := by
  constructor
  · intro h
    obtain ⟨spaced, hrule, hspaced⟩ := Option.bind_eq_some_iff.mp h
    obtain ⟨named, hblanks, hnamed⟩ := Option.bind_eq_some_iff.mp hspaced
    obtain ⟨⟨name, more⟩, hname, hmore⟩ := Option.bind_eq_some_iff.mp hnamed
    obtain ⟨⟨inside, behind⟩, hparams, hend⟩ := Option.bind_eq_some_iff.mp hmore
    obtain ⟨rfl, rfl⟩ := Prod.mk.inj (Option.some.inj hend)
    obtain ⟨rule, hword, rfl⟩ : ∃ rule, (rule = "@mixin".toList ∨ rule = "@function".toList) ∧
        t = rule ++ spaced := by
      cases hmixin : Text.dropWord? "@mixin".toList t with
      | some other =>
          rw [hmixin] at hrule
          obtain rfl := Option.some.inj hrule
          exact ⟨_, .inl rfl, Text.eq_append_of_dropWord? hmixin⟩
      | none =>
          rw [hmixin] at hrule
          exact ⟨_, .inr rfl, Text.eq_append_of_dropWord? hrule⟩
    obtain ⟨gap, hgap, hblank, rfl⟩ := Text.exists_of_dropBlanks? hblanks
    obtain ⟨rfl, hvalid⟩ := isName_of_looseName? hname
    obtain ⟨gap', hblank', hsplit⟩ := Text.exists_append_trimStart more
    obtain ⟨hopen, hclose⟩ := parameters?_eq_some_iff.mp hparams
    rw [hopen] at hsplit
    subst hsplit
    refine ⟨rule ++ (gap ++ (name ++ gap')), behind, by simp, ?_, hclose, by simp; omega⟩
    exact .intro hword hgap (List.forall_mem_append.mpr ⟨hblank, hblank'⟩) hvalid
  · rintro ⟨_, behind, rfl, @⟨rule, gap, name, gap', hrule, hgap, hblank, hname⟩, hclose, rfl⟩
    obtain ⟨hblank, hblank'⟩ := List.forall_mem_append.mp hblank
    have hparams : parameters? ('(' :: (params ++ ')' :: behind)) = some (params, behind) :=
      parameters?_eq_some_iff.mpr ⟨rfl, hclose⟩
    have htrim := Text.trimStart_append hblank' ⟨'(', params ++ ')' :: behind, rfl, by decide⟩
    have hloose := looseName?_append hname (any_head?_blank (t := params ++ ')' :: behind) hblank'
      (by decide : isNameChar '(' = false))
    have hbegins : (name ++ (gap' ++ '(' :: (params ++ ')' :: behind))).BeginsVisibly :=
      (Text.beginsVisibly_of_forall hname.nonempty fun c hc =>
        isBlank_of_isNameChar (hname.chars c hc)).append _
    have hblanks := Text.dropBlanks?_append hgap hblank hbegins
    have hword : (Text.dropWord? "@mixin".toList (rule ++ (gap ++ (name ++ (gap' ++ '(' ::
        (params ++ ')' :: behind))))) <|> Text.dropWord? "@function".toList (rule ++ (gap ++
          (name ++ (gap' ++ '(' :: (params ++ ')' :: behind)))))) =
        some (gap ++ (name ++ (gap' ++ '(' :: (params ++ ')' :: behind)))) := by
      rcases hrule with rfl | rfl <;> rfl
    have hsplit : rule ++ (gap ++ (name ++ gap')) ++ '(' :: (params ++ ')' :: behind) =
        rule ++ (gap ++ (name ++ (gap' ++ '(' :: (params ++ ')' :: behind)))) := by
      simp only [List.append_assoc]
    rw [hsplit, signature]
    simp only [hword, hblanks, hloose, htrim, hparams, Option.bind_eq_bind, Option.bind_some,
      Option.pure_def, Text.took, List.length_append, List.length_cons]
    exact congrArg _ (Prod.ext rfl (by dsimp only; omega))

/-- The variable is mentioned behind the opening parenthesis of a signature, in front of any closing
one. -/
def GivesParameter (t x : Text) : Prop :=
  ∃ front head params behind, t = front ++ (head ++ '(' :: (params ++ ')' :: behind)) ∧
    IsSignatureHead head ∧ ')' ∉ params ∧ Mentions params x

/-- A signature that begins in another one begins among its parameters, and the parameters of both
have the same end. -/
theorem exists_append_params {b head head' params' behind behind' : Text}
    (h : b ++ (head ++ '(' :: (params ++ ')' :: behind)) =
      head' ++ '(' :: (params' ++ ')' :: behind'))
    (hlen : b.length < head'.length + params'.length + 2) (hhead : IsSignatureHead head)
    (hhead' : IsSignatureHead head') (hclose : ')' ∉ params) (hclose' : ')' ∉ params') :
    ∃ a, params' = a ++ params := by
  obtain ⟨w, rfl, -, hopen, hfirst⟩ := hhead.exists_cons
  obtain ⟨w', rfl, hw', hopen', -⟩ := hhead'.exists_cons
  rcases List.append_eq_append_iff.mp h with ⟨m, hm, hrest⟩ | ⟨m, rfl, hrest⟩
  · cases m with
    | nil =>
        obtain ⟨habsurd, -⟩ := List.cons.inj hrest
        cases habsurd
    | cons d m =>
        obtain ⟨rfl, -⟩ := List.cons.inj hrest
        cases b with
        | nil =>
            obtain ⟨-, hinside⟩ := Text.eq_of_append_cons h hopen hopen'
            exact ⟨[], (Text.eq_of_append_cons hinside hclose hclose').1.symm⟩
        | cons e b =>
            obtain ⟨-, rfl⟩ := List.cons.inj hm
            exact absurd (List.mem_append_right b List.mem_cons_self) hw'
  · cases m with
    | nil =>
        obtain ⟨habsurd, -⟩ := List.cons.inj hrest
        cases habsurd
    | cons d m =>
        obtain ⟨rfl, hinside⟩ := List.cons.inj hrest
        rcases List.append_eq_append_iff.mp hinside with ⟨k, rfl, hend⟩ | ⟨k, rfl, hend⟩
        · cases k with
          | nil =>
              obtain ⟨habsurd, -⟩ := List.cons.inj hend
              cases habsurd
          | cons d k =>
              simp only [List.length_append, List.length_cons] at hlen
              omega
        · have hsplit : ('@' :: w ++ '(' :: params) ++ ')' :: behind = k ++ ')' :: behind' := by
            rw [← hend]
            simp
          have hbefore : ')' ∉ '@' :: w ++ '(' :: params := fun hmem =>
            (List.mem_append.mp hmem).elim hfirst
              (List.not_mem_cons_of_ne_of_not_mem (by decide) hclose)
          have hlast : ')' ∉ k := fun hmem => hclose' (List.mem_append_right m hmem)
          obtain ⟨rfl, -⟩ := Text.eq_of_append_cons hsplit hbefore hlast
          exact ⟨m ++ ('@' :: w ++ ['(']), by simp⟩

theorem mem_flatMap_signature_iff :
    x ∈ (names signature t).flatMap (namesIn '$') ↔ IsVariable x ∧ GivesParameter t x := by
  constructor
  · intro h
    obtain ⟨params, hparams, hx⟩ := List.mem_flatMap.mp h
    obtain ⟨hvariable, hmentions⟩ := mem_namesIn_iff.mp hx
    obtain ⟨⟨n, params⟩, hmem, rfl⟩ := List.mem_map.mp hparams
    obtain ⟨front, u, before, len, rfl, -, hmatch⟩ := Text.exists_of_mem_matchesFrom hmem
    obtain ⟨head, behind, rfl, hhead, hclose, -⟩ := signature_eq_some_iff.mp hmatch
    exact ⟨hvariable, front, head, params, behind, rfl, hhead, hclose, hmentions⟩
  · rintro ⟨hvariable, front, head, params, behind, rfl, hhead, hclose, hmentions⟩
    have hmatch : signature (front.getLast?.or none) (head ++ '(' :: (params ++ ')' :: behind)) =
        some (params, head.length + params.length + 2) :=
      signature_eq_some_iff.mpr ⟨head, behind, rfl, hhead, hclose, rfl⟩
    obtain ⟨w, hw, -⟩ := hhead.exists_cons
    rw [hw, List.cons_append] at hmatch
    obtain ⟨a, b, params', len, rfl, hmatch', hreach, hmem⟩ :=
      Text.exists_mem_matchesFrom (n := 0) (Nat.zero_le _) hmatch
    rw [← List.cons_append, ← hw] at hmatch' hmem
    obtain ⟨head', behind', hsplit, hhead', hclose', rfl⟩ := signature_eq_some_iff.mp hmatch'
    have hlen : b.length < head'.length + params'.length + 2 := by
      rcases hreach with rfl | hlen
      · exact Nat.zero_lt_succ _
      · exact hlen
    obtain ⟨a', rfl⟩ := exists_append_params hsplit hlen hhead hhead' hclose hclose'
    have hgiven := hmentions.append_left a'
    refine List.mem_flatMap.mpr ⟨_, List.mem_map.mpr ⟨_, hmem, rfl⟩, ?_⟩
    exact mem_namesIn_iff.mpr ⟨hvariable, hgiven⟩

/-! ## All of them -/

/-- A variable has a value, is a parameter or runs through a loop. -/
inductive IsGiven (t x : Text) : Prop where
  | value (h : GivesValue t x)
  | parameter (h : GivesParameter t x)
  | loop {head : Text} (hhead : head ∈ names loopHead t) (h : Mentions head x)

theorem mem_sassVariables_iff : x ∈ sassVariables masked ↔ IsVariable x ∧ IsGiven masked x := by
  rw [sassVariables, List.flatMap_append, List.mem_append, List.mem_append,
    mem_names_markedBefore_iff, mem_flatMap_signature_iff, List.mem_flatMap]
  constructor
  · rintro (⟨hx, hvalue⟩ | ⟨hx, hparameter⟩ | ⟨head, hhead, hx⟩)
    · exact ⟨hx, .value hvalue⟩
    · exact ⟨hx, .parameter hparameter⟩
    · obtain ⟨hx, hmentions⟩ := mem_namesIn_iff.mp hx
      exact ⟨hx, .loop hhead hmentions⟩
  · rintro ⟨hx, hvalue | hparameter | ⟨hhead, hmentions⟩⟩
    · exact .inl ⟨hx, hvalue⟩
    · exact .inr (.inl ⟨hx, hparameter⟩)
    · exact .inr (.inr ⟨_, hhead, mem_namesIn_iff.mpr ⟨hx, hmentions⟩⟩)

/-- A variable is undefined if it is mentioned and given nowhere. -/
theorem exists_mem_undefinedSassVariables_iff : (∃ s ∈ undefinedSassVariables masked, s.name = x) ↔
    IsVariable x ∧ Mentions masked x ∧ ¬ IsGiven masked x := by
  have hnames : (uses '$' 0 masked).map (·.name) = namesIn '$' masked := by
    rw [uses, List.map_map, namesIn, Text.matchesOf]
    rfl
  have hfilter : (∃ s ∈ undefinedSassVariables masked, s.name = x) ↔
      x ∈ (uses '$' 0 masked).map (·.name) ∧ x ∉ sassVariables masked := by
    simp only [undefinedSassVariables, List.mem_filter, List.mem_map, Bool.not_eq_true',
      List.contains_eq_mem, decide_eq_false_iff_not]
    constructor
    · rintro ⟨s, ⟨huse, hnot⟩, rfl⟩
      exact ⟨⟨s, huse, rfl⟩, hnot⟩
    · rintro ⟨⟨s, huse, rfl⟩, hnot⟩
      exact ⟨s, ⟨huse, hnot⟩, rfl⟩
  rw [hfilter, hnames, mem_namesIn_iff, mem_sassVariables_iff]
  constructor
  · rintro ⟨⟨hx, hmentions⟩, hnot⟩
    exact ⟨hx, hmentions, fun hgiven => hnot ⟨hx, hgiven⟩⟩
  · rintro ⟨hx, hmentions, hnot⟩
    exact ⟨⟨hx, hmentions⟩, fun hgiven => hnot hgiven.2⟩

end Symbol

/-! ## Reports -/

section

variable (validators : Validators) (source masked x : Text)

/-- No other issue has the message of an undefined variable. -/
theorem Issue.eq_undefinedSassVariable {i : Issue}
    (h : i.message = (undefinedSassVariable x).message) : i = undefinedSassVariable x := by
  have hlist := congrArg String.toList h
  unfold message at hlist
  cases i with
  | undefinedSassVariable other =>
      simpa [toString] using hlist
  | unclosedComment depth =>
      dsimp only at hlist
      split at hlist <;> simp [toString] at hlist
  | unclosedBlock depth =>
      dsimp only at hlist
      split at hlist <;> simp [toString] at hlist
  | _ => simp [toString] at hlist

/-- The diagnostic says that the variable is undefined. -/
def tellsUndefined (d : Diagnostic) : Bool :=
  d.message == (Issue.undefinedSassVariable x).message

theorem tellsUndefined_report (i : Issue) (start stop : Nat) (edits : List Edit) :
    tellsUndefined x (i.report start stop edits) = decide (i = .undefinedSassVariable x) := by
  rw [tellsUndefined, Bool.eq_iff_iff, beq_iff_eq, decide_eq_true_eq]
  exact ⟨Issue.eq_undefinedSassVariable x, congrArg Issue.message⟩

theorem undefined_structureIssues : (structureIssues source).filter (tellsUndefined x) = [] := by
  unfold structureIssues commentIssues braceIssues
  dsimp only
  repeat' split
  all_goals simp [List.filter_map, Function.comp_def, tellsUndefined_report]

theorem undefined_declarationIssues (seen : List String) (d : Declaration) :
    (declarationIssues validators seen d).filter (tellsUndefined x) = [] := by
  unfold declarationIssues importantIssues valueIssues
  dsimp only
  repeat' split
  all_goals simp [tellsUndefined_report]

theorem undefined_declarationsIssues (seen : List String) (ds : List Declaration) :
    (declarationsIssues validators seen ds).filter (tellsUndefined x) = [] := by
  induction ds generalizing seen with
  | nil => rfl
  | cons d ds ih =>
      rw [declarationsIssues, List.filter_append, undefined_declarationIssues, ih, List.nil_append]

theorem exists_symbolIssues_iff (ds : List Declaration) :
    (∃ d ∈ symbolIssues masked ds, tellsUndefined x d) ↔
      ∃ s ∈ Symbol.undefinedSassVariables masked, s.name = x := by
  constructor
  · rintro ⟨d, hd, htells⟩
    simp only [symbolIssues, List.mem_append, List.mem_map] at hd
    rcases hd with ((⟨s, hs, rfl⟩ | ⟨s, -, rfl⟩) | ⟨s, -, rfl⟩) | ⟨s, -, rfl⟩
    all_goals rw [tellsUndefined_report, decide_eq_true_eq] at htells
    · exact ⟨s, hs, Issue.undefinedSassVariable.inj htells⟩
    all_goals cases htells
  · rintro ⟨s, hs, rfl⟩
    refine ⟨(Issue.undefinedSassVariable s.name).report s.start s.stop, ?_, ?_⟩
    · simp only [symbolIssues, List.mem_append, List.mem_map]
      exact .inl (.inl (.inl ⟨s, hs, rfl⟩))
    · rw [tellsUndefined_report, decide_eq_true_eq]

/-- Some diagnostic says that the variable is undefined. -/
def ReportsUndefined (ds : List Diagnostic) : Prop := ∃ d ∈ ds, tellsUndefined x d

theorem reportsUndefined_append {ds ds' : List Diagnostic} (h : ds.filter (tellsUndefined x) = []) :
    ReportsUndefined x (ds ++ ds') ↔ ReportsUndefined x ds' := by
  rw [List.filter_eq_nil_iff] at h
  constructor
  · rintro ⟨d, hd, htells⟩
    exact ⟨d, (List.mem_append.mp hd).resolve_left fun hd => h d hd htells, htells⟩
  · rintro ⟨d, hd, htells⟩
    exact ⟨d, List.mem_append_right ds hd, htells⟩

/-- With time for all of the check, a variable is reported if it is mentioned and given nowhere. -/
theorem reportsUndefined_check_iff {o : Context} (h : o.deadline = .never) :
    ReportsUndefined x (check validators source o).diagnostics ↔ Symbol.IsVariable x ∧
      Symbol.Mentions (mask source) x ∧ ¬ Symbol.IsGiven (mask source) x := by
  rw [check_never validators source h]
  dsimp only
  rw [contentIssues, reportsUndefined_append x (undefined_structureIssues source x),
    reportsUndefined_append x (undefined_declarationsIssues validators x [] _), ReportsUndefined,
    exists_symbolIssues_iff, Symbol.exists_mem_undefinedSassVariables_iff]

end

/-! ## Parameters -/

/-- A mixin or a function with its parameters in parentheses. -/
structure IsSignature (masked front head params behind : Text) : Prop where
  split : masked = front ++ (head ++ '(' :: (params ++ ')' :: behind))
  head : Symbol.IsSignatureHead head
  balanced : params.IsBalanced

/-- A variable among parameters, behind a comma or none at all. -/
structure IsParameter (params before x after : Text) : Prop where
  split : params = before ++ '$' :: (x ++ after)
  outermost : before.IsBalanced
  separated : before.trimEnd = [] ∨ before.trimEnd.getLast? = some ','
  name : Symbol.IsName x
  ends : after.head?.any Symbol.isNameChar = false

section

variable {source masked front head params behind before x after : Text}

theorem IsParameter.ends_append (h : IsParameter params before x after) (behind : Text) :
    (after ++ ')' :: behind).head?.any Symbol.isNameChar = false := by
  have hends := h.ends
  cases after with
  | nil => rfl
  | cons c after => exact hends

/-- The parameter has no value of its own and stands behind a closing parenthesis. -/
def IsHidden (before after : Text) : Prop := ')' ∈ before ∧ after.trimStart.head? ≠ some ':'

instance : Decidable (IsHidden before after) := inferInstanceAs (Decidable (_ ∧ _))

/-- The variable is found up to the first closing parenthesis, or by its value. -/
theorem Symbol.isGiven_of_not_isHidden (hsignature : IsSignature masked front head params behind)
    (hparameter : IsParameter params before x after) (h : ¬ IsHidden before after) :
    Symbol.IsGiven masked x := by
  by_cases hclose : ')' ∈ before
  · have hvalue : after.trimStart.head? = some ':' :=
      Decidable.byContradiction fun hnone => h ⟨hclose, hnone⟩
    obtain ⟨gap, hgap, hafter⟩ := Text.exists_append_trimStart after
    obtain ⟨more, hmore⟩ := List.head?_eq_some_iff.mp hvalue
    rw [hmore] at hafter
    refine .value ⟨front ++ (head ++ '(' :: before), gap, more ++ ')' :: behind, ?_, hgap⟩
    rw [hsignature.split, hparameter.split, hafter]
    simp
  · obtain ⟨a, b, hsplit, ha⟩ := List.eq_append_cons_of_mem
      (List.mem_append_right after (List.mem_cons_self (a := ')') (l := behind)))
    have hend : a.head?.any isNameChar = false := by
      have hboth := hparameter.ends_append behind
      rw [hsplit] at hboth
      cases a with
      | nil => rfl
      | cons c a => exact hboth
    refine .parameter ⟨front, head, before ++ '$' :: (x ++ a), b, ?_, hsignature.head, ?_,
      before, a, rfl, hend⟩
    · rw [hsignature.split, hparameter.split]
      simp [hsplit]
    · intro hmem
      rcases List.mem_append.mp hmem with hmem | hmem
      · exact hclose hmem
      · rcases List.mem_cons.mp hmem with hmark | hmem
        · exact absurd hmark (by decide)
        · rcases List.mem_append.mp hmem with hmem | hmem
          · exact absurd (hparameter.name.chars _ hmem) (by decide)
          · exact ha hmem

/-- A parameter is reported if and only if it is hidden and given nowhere else. -/
theorem reportsUndefined_parameter_iff (validators : Validators)
    (hsignature : IsSignature (mask source) front head params behind)
    (hparameter : IsParameter params before x after) {o : Context} (ho : o.deadline = .never) :
    ReportsUndefined x (check validators source o).diagnostics ↔
      IsHidden before after ∧ Symbol.IsVariable x ∧ ¬ Symbol.IsGiven (mask source) x := by
  have hmentions : Symbol.Mentions (mask source) x := by
    refine ⟨front ++ (head ++ '(' :: before), after ++ ')' :: behind, ?_, ?_⟩
    · rw [hsignature.split, hparameter.split]
      simp
    · exact hparameter.ends_append behind
  rw [reportsUndefined_check_iff validators source x ho]
  constructor
  · rintro ⟨hvariable, -, hnot⟩
    refine ⟨Decidable.byContradiction fun hshown => hnot ?_, hvariable, hnot⟩
    exact Symbol.isGiven_of_not_isHidden hsignature hparameter hshown
  · rintro ⟨-, hvariable, hnot⟩
    exact ⟨hvariable, hmentions, hnot⟩

end

/-- A mixin with a parameter whose default is a call, and another one without a default. -/
def callDefault : Text := "@mixin m($a: f(1), $b) \x7b margin: $b; \x7d".toList

def callParams : Text := "$a: f(1), $b".toList

theorem isSignature_callDefault : IsSignature (mask callDefault) [] "@mixin m".toList callParams
    " \x7b margin: $b; \x7d".toList where
  split := by decide +kernel
  head := @Symbol.IsSignatureHead.intro "@mixin".toList [' '] ['m'] [] (.inl rfl) (by simp)
    (List.all_eq_true.mp rfl) ⟨by simp, List.all_eq_true.mp rfl⟩
  balanced := by decide

/-- The first parameter is in front of the call. -/
theorem reportsUndefined_parameter_iff_firstDefault :
    IsParameter callParams [] ['a'] ": f(1), $b".toList ∧
      ¬ ReportsUndefined ['a'] (check .standard callDefault {}).diagnostics := by
  have hparameter : IsParameter callParams [] ['a'] ": f(1), $b".toList :=
    ⟨rfl, rfl, .inl rfl, ⟨by simp, List.all_eq_true.mp rfl⟩, rfl⟩
  have hshown : ¬ IsHidden [] ": f(1), $b".toList := by decide
  refine ⟨hparameter, fun hreported => hshown ?_⟩
  exact ((reportsUndefined_parameter_iff .standard isSignature_callDefault hparameter rfl).mp
    hreported).1

/-- The second parameter is behind it, and reported where it is declared and where it is used. -/
theorem reportsUndefined_callDefault :
    IsSignature (mask callDefault) [] "@mixin m".toList callParams
      " \x7b margin: $b; \x7d".toList ∧
      IsParameter callParams "$a: f(1), ".toList ['b'] [] ∧
      (check .standard callDefault {}).diagnostics =
        [(Issue.undefinedSassVariable ['b']).report 19 21,
          (Issue.undefinedSassVariable ['b']).report 33 35] ∧
      ReportsUndefined ['b'] (check .standard callDefault {}).diagnostics := by
  have hfound : (check .standard callDefault {}).diagnostics =
      [(Issue.undefinedSassVariable ['b']).report 19 21,
        (Issue.undefinedSassVariable ['b']).report 33 35] := by
    decide +kernel
  have hparameter : IsParameter callParams "$a: f(1), ".toList ['b'] [] :=
    ⟨rfl, rfl, .inr rfl, ⟨by simp, List.all_eq_true.mp rfl⟩, rfl⟩
  refine ⟨isSignature_callDefault, hparameter, hfound, ?_⟩
  rw [hfound]
  exact ⟨_, List.mem_cons_self, by rw [tellsUndefined_report, decide_eq_true_eq]⟩

end PageLint.Style
