import PageLint.Script.Ambient
import PageLint.Script.Issue
import PageLint.Script.Outline

/-!
Names and what they mean. All declarations are made before any use is looked up, so a use may stand
in front of the declaration that it means.
-/
namespace PageLint.Script

/-- A use of a name inside a frame. -/
structure Use where
  name : Text
  frame : Nat
  role : UseRole
  start : Nat
  stop : Nat
  deriving DecidableEq, Repr

/-- What a walk over a program has gathered. -/
structure Walk where
  scopes : Scopes := {}
  uses : Array Use := #[]
  found : Array Diagnostic := #[]
  /-- Declarations are being exported. -/
  isExporting : Bool := false

namespace Walk

/-- The issue of a name that is bound a second time. -/
def redeclaration (old new : BindingKind) (name : Text) : Issue :=
  if old.isBlockScoped || new.isBlockScoped then .redeclared name else .duplicateDeclaration name

def declare (w : Walk) (name : Text) (kind : BindingKind) (start stop : Nat)
    (removal : Option (Nat × Nat)) : Walk :=
  let frame := w.scopes.frameFor kind
  let isExported := w.isExporting && frame == 0
  match w.scopes.declare frame { name, kind, start, stop, removal, isExported } with
  | .ok (_, scopes) => { w with scopes }
  | .error existing =>
    match w.scopes.declarations[existing]? with
    | none => w
    | some old =>
      { w with found := w.found.push ((redeclaration old.kind kind name).report start stop) }

mutual

def act (w : Walk) : Action → Walk
  | .declare name kind start stop removal => w.declare name kind start stop removal
  | .use name role start stop =>
    { w with uses := w.uses.push ⟨name, w.scopes.current, role, start, stop⟩ }
  | .scope kind body =>
    let inner := ({ w with scopes := w.scopes.push kind }).run body
    { inner with scopes := inner.scopes.pop }
  | .exported body => { ({ w with isExporting := true }).run body with isExporting := false }
  | .debugger start stop =>
    { w with
      found := w.found.push (Issue.debuggerStatement.report start stop [.delete start stop]) }

/-- Actions, one after the other. -/
def run (w : Walk) : List Action → Walk
  | [] => w
  | a :: rest => (w.act a).run rest

end

end Walk

namespace Use

/-- The use asks for the value of what it means. -/
def isRead (u : Use) : Bool := u.role != .write

/-- The declaration that the use means. -/
def target? (s : Scopes) (u : Use) : Option Nat := s.lookup u.frame u.name

/-- The issue of a use that means nothing. -/
def issue? (s : Scopes) (u : Use) : Option Issue :=
  if (u.target? s).isSome || isAmbient u.name then none
  else match u.role with
    | .probe => none
    | .call => some (.undefinedFunction u.name)
    | .read | .write => some (.undefinedVariable u.name)

def report? (s : Scopes) (u : Use) : Option Diagnostic :=
  (u.issue? s).map (·.report u.start u.stop)

end Use

/-- Counts the reads of every declaration. -/
def Scopes.readAll (s : Scopes) (uses : List Use) : Scopes :=
  ((uses.filter (·.isRead)).filterMap (·.target? s)).foldl Scopes.read s

namespace Declaration

/-- Nothing reads the declaration, nor could anything outside of the program. -/
def isUnused (d : Declaration) : Bool :=
  d.kind.reportsUnused && d.reads == 0 && !d.isExported && d.name.head? != some '_'

def unusedIssue (d : Declaration) : Issue :=
  if d.kind = .imported then .unusedImport d.name else .unusedVariable d.name

def report? (d : Declaration) : Option Diagnostic :=
  if d.isUnused then
    some (d.unusedIssue.report d.start d.stop
      (d.removal.toList.map fun (start, stop) => .delete start stop))
  else none

end Declaration

/-- What a walk over a whole program shows: what it has found on the way, the uses of names without
a meaning, and the declarations that nothing reads. -/
def Walk.issues (w : Walk) : List Diagnostic :=
  let uses := w.uses.toList
  w.found.toList ++ uses.filterMap (·.report? w.scopes) ++
    (w.scopes.readAll uses).declarations.toList.filterMap (·.report?)

/-- The issues of the names of a program. -/
def nameIssues (source : Text) (root : Node) : List Diagnostic :=
  (Walk.run {} (root.actions source)).issues

/-- The same as far as there is time. A walk that was cut short does not know what its names mean,
so nothing is reported but what it has found on the way. -/
def nameIssuesInTime (d : Deadline) (source : Text) (root : Node) : Timed (List Diagnostic) :=
  let walked := root.actionsInTime source d
  let walk := Walk.run {} walked.1
  match walked.2 with
  | none => ⟨walk.found.toList, none⟩
  | some w => ⟨walk.issues, some w.deadline⟩

end PageLint.Script
