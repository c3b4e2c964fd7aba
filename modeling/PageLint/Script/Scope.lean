import PageLint.Text.Basic

/-!
Scopes of names. Every frame that was ever open is kept, so that a name can be looked up after its
frame was closed: a use may stand in front of the declaration that it means.
-/
namespace PageLint.Script

/-- What opens a frame. -/
inductive FrameKind where
  | program
  | function
  | block
  deriving DecidableEq, Repr

/-- How a name is bound. -/
inductive BindingKind where
  | var
  /-- With `let`. -/
  | lexical
  | constant
  | function
  | classLike
  | parameter
  /-- By the clause that catches an exception. -/
  | caught
  | imported
  deriving DecidableEq, Repr

namespace BindingKind

/-- A frame can hold no second binding of the same name. -/
def isBlockScoped : BindingKind → Bool
  | .lexical | .constant | .classLike | .imported => true
  | .var | .function | .parameter | .caught => false

/-- The binding is worth a report if nothing reads it. -/
def reportsUnused : BindingKind → Bool
  | .var | .lexical | .constant | .imported => true
  | .function | .classLike | .parameter | .caught => false

end BindingKind

structure Declaration where
  name : Text
  kind : BindingKind
  start : Nat
  stop : Nat
  /-- The bytes of the whole statement, where the declaration can go without a trace. -/
  removal : Option (Nat × Nat) := none
  isExported : Bool := false
  reads : Nat := 0
  deriving DecidableEq, Repr

structure Frame where
  kind : FrameKind
  /-- The frame around it. -/
  parent : Option Nat
  /-- The names bound in it, each with the number of its declaration. -/
  names : List (Text × Nat) := []
  deriving DecidableEq, Repr

/-- Frames and declarations, numbered in the order in which they came up. Frame 0 belongs to the
whole program. -/
structure Scopes where
  frames : Array Frame := #[{ kind := .program, parent := none }]
  declarations : Array Declaration := #[]
  /-- The open frames, innermost first. -/
  active : List Nat := [0]
  deriving DecidableEq, Repr

namespace Scopes

/-- The innermost open frame. -/
def current (s : Scopes) : Nat := s.active.head?.getD 0

/-- The number of open frames. -/
def depth (s : Scopes) : Nat := s.active.length

/-- Opens a frame in the current one. -/
def push (s : Scopes) (kind : FrameKind) : Scopes :=
  { s with
    frames := s.frames.push { kind, parent := some s.current }
    active := s.frames.size :: s.active }

/-- Closes the current frame; the last one stays open. -/
def pop (s : Scopes) : Scopes :=
  match s.active with
  | _ :: outer :: rest => { s with active := outer :: rest }
  | _ => s

/-- The frame is no mere block. -/
def isFunction (s : Scopes) (frame : Nat) : Bool :=
  s.frames[frame]?.any (·.kind != .block)

/-- The innermost open frame that is no mere block. -/
def nearestFunction (s : Scopes) : Nat := (s.active.find? s.isFunction).getD 0

/-- The frame that a binding of some kind goes into. -/
def frameFor (s : Scopes) : BindingKind → Nat
  | .var => s.nearestFunction
  | _ => s.current

/-- The declaration of a name in a frame itself. -/
def bound? (s : Scopes) (frame : Nat) (name : Text) : Option Nat :=
  s.frames[frame]?.bind (·.names.lookup name)

/-- The declaration of a name in the nearest frame from `frame` outwards. A frame is younger than
the one around it, so its number is the greater one. -/
def lookup (s : Scopes) (frame : Nat) (name : Text) : Option Nat :=
  match s.bound? frame name with
  | some d => some d
  | none =>
    match s.frames[frame]?.bind (·.parent) with
    | some outer => if outer < frame then s.lookup outer name else none
    | none => none

/-- Adds a declaration to a frame. -/
def bind (s : Scopes) (frame : Nat) (d : Declaration) : Scopes :=
  { s with
    frames := s.frames.modify frame fun f =>
      { f with names := (d.name, s.declarations.size) :: f.names }
    declarations := s.declarations.push d }

/-- Declares a name in a frame and gives the number of the declaration. A name that the frame has
already fails with the number of that one. -/
def declare (s : Scopes) (frame : Nat) (d : Declaration) : Except Nat (Nat × Scopes) :=
  match s.bound? frame d.name with
  | some existing => .error existing
  | none => .ok (s.declarations.size, s.bind frame d)

/-- Counts one more read of a declaration. -/
def read (s : Scopes) (id : Nat) : Scopes :=
  { s with declarations := s.declarations.modify id fun d => { d with reads := d.reads + 1 } }

end Scopes

end PageLint.Script
