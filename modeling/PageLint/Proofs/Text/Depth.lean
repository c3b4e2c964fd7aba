import PageLint.Text.Basic

/-! # Depth

How many brackets are open behind a text, where a closing one that none is open for means nothing.
-/

namespace PageLint.Text

variable {opening closing : Char}

/-- How many brackets are open behind a text, if `k` are open in front of it. -/
def openAfter (opening closing : Char) (k : Nat) (t : Text) : Nat :=
  t.foldl (fun k c => if c = opening then k + 1 else if c = closing then k - 1 else k) k

@[simp] theorem openAfter_nil (k : Nat) : openAfter opening closing k [] = k := rfl

@[simp] theorem openAfter_cons (k : Nat) (c : Char) (t : Text) :
    openAfter opening closing k (c :: t) = openAfter opening closing
      (if c = opening then k + 1 else if c = closing then k - 1 else k) t := rfl

theorem openAfter_append (k : Nat) (t u : Text) : openAfter opening closing k (t ++ u) =
    openAfter opening closing (openAfter opening closing k t) u := List.foldl_append

theorem openAfter_concat (k : Nat) (t : Text) (c : Char) :
    openAfter opening closing k (t ++ [c]) =
      if c = opening then openAfter opening closing k t + 1
      else if c = closing then openAfter opening closing k t - 1
      else openAfter opening closing k t := by
  rw [openAfter_append, openAfter_cons, openAfter_nil]

theorem openAfter_of_forall {t : Text} (h : ∀ c ∈ t, c ≠ opening ∧ c ≠ closing) (k : Nat) :
    openAfter opening closing k t = k := by
  induction t with
  | nil => rfl
  | cons c t ih =>
      obtain ⟨hc, ht⟩ := List.forall_mem_cons.mp h
      rw [openAfter_cons, if_neg hc.1, if_neg hc.2, ih ht]

end PageLint.Text
