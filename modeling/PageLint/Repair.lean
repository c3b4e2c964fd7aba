import PageLint.Diagnostic

/-!
Applying edits to a text. Edits are taken in the order of their offsets, those that cannot be
applied beside the ones before them are skipped, and the rest are applied from the end of the
text backwards, so that the offsets of those still to come stay valid.
-/
namespace PageLint.Repair

structure Outcome where
  output : Text
  applied : Nat
  skipped : Nat
  deriving DecidableEq, Repr

def Outcome.changed (o : Outcome) : Bool := o.applied > 0

/-- Order by start, then by end. -/
def precedes (a b : Edit) : Bool :=
  a.start < b.start || (a.start == b.start && a.stop ≤ b.stop)

/-- Edits by offset; among equal ranges the order of the list stays. -/
def ordered (edits : List Edit) : List Edit := edits.mergeSort precedes

/-- The range lies within the text and splits no character. -/
def fits (source : Text) (e : Edit) : Bool :=
  e.start ≤ e.stop && e.stop ≤ source.size &&
    decide (source.IsBoundary e.start) && decide (source.IsBoundary e.stop)

/-- What the accepted edits so far leave open: the last of them and where the text they replace
ends. -/
structure Cover where
  last : Option Edit := none
  stop : Nat := 0

/-- Inserts may share an offset; a replacement may not touch text that is already replaced. -/
def Cover.collides (c : Cover) (e : Edit) : Bool :=
  match c.last with
  | none => false
  | some prev => e.start < c.stop || (e.start == prev.start && prev.start != prev.stop)

def Cover.add (c : Cover) (e : Edit) : Cover := ⟨some e, max c.stop e.stop⟩

/-- The edits of an ordered list that can be applied together. -/
def accepted (source : Text) (c : Cover) : List Edit → List Edit
  | [] => []
  | e :: rest =>
    if fits source e && !c.collides e then e :: accepted source (c.add e) rest
    else accepted source c rest

def replace (source : Text) (e : Edit) : Text :=
  source.before e.start ++ e.text ++ source.after e.stop

def applyEdits (source : Text) (edits : List Edit) : Outcome :=
  let chosen := accepted source {} (ordered edits)
  { output := chosen.foldr (fun e out => replace out e) source
    applied := chosen.length
    skipped := edits.length - chosen.length }

/-- Applies the first suggested fix of each diagnostic. -/
def applyFixes (source : Text) (ds : List Diagnostic) : Outcome :=
  applyEdits source (ds.filterMap (·.firstEdit?))

end PageLint.Repair
