import PageLint.Language
import PageLint.Number.Natural
import PageLint.Options

/-!
The arguments of the command. They are read from left to right; the first one that cannot be read
ends the reading, as does a question for the version or for help.
-/
namespace PageLint.Command

/-- The form in which the command writes what it finds. -/
inductive OutputForm where
  | text
  | json
  | editor
  deriving DecidableEq, Repr

def OutputForm.ofName? : String → Option OutputForm
  | "text" => some text
  | "json" => some json
  | "lsp" => some editor
  | _ => none

structure Flags where
  files : List Text := []
  language : Option Language := none
  settings : Option Text := none
  form : Option OutputForm := none
  ignore : List String := []
  severity : Option Level := none
  maxErrors : Option Nat := none
  timeout : Option Nat := none
  disabled : List String := []
  allowPartial : Bool := false
  noHeuristics : Bool := false
  noColor : Bool := false
  fix : Bool := false
  write : Bool := false
  deriving DecidableEq, Repr

/-- What the arguments ask for. -/
inductive Request where
  | check (flags : Flags)
  | version
  | help
  deriving DecidableEq, Repr

/-! ## Single flags -/

/-- A flag with a value behind it. -/
inductive Setting where
  | language
  | settings
  | form
  | ignore
  | severity
  | maxErrors
  | timeout
  | disable
  deriving DecidableEq, Repr

def Setting.ofName? : String → Option Setting
  | "language" => some language
  | "config" => some settings
  | "format" => some form
  | "ignore" => some ignore
  | "severity" => some severity
  | "max-errors" => some maxErrors
  | "timeout-ms" => some timeout
  | "disable" => some disable
  | _ => none

def Setting.ofLetter? : Char → Option Setting
  | 'l' => some language
  | 'c' => some settings
  | 'f' => some form
  | _ => none

/-- A flag that stands alone. -/
inductive Switch where
  | allowPartial
  | noHeuristics
  | noColor
  | fix
  | write
  deriving DecidableEq, Repr

def Switch.ofName? : String → Option Switch
  | "allow-partial" => some allowPartial
  | "no-heuristics" => some noHeuristics
  | "no-color" => some noColor
  | "fix" => some fix
  | "write" => some write
  | _ => none

/-- The name of a question. -/
def Request.ofName? : String → Option Request
  | "version" => some .version
  | "help" => some .help
  | _ => none

def Request.ofLetter? : Char → Option Request
  | 'V' => some .version
  | 'h' => some .help
  | _ => none

namespace Flags

/-- A value for something that has none yet. -/
def once (old : Option α) (new : Option α) : Option (Option α) :=
  if old.isSome || new.isNone then none else some new

/-- Takes the value of a flag. Texts to ignore and rules to disable may come more than once. -/
def set? (f : Flags) (s : Setting) (value : Text) : Option Flags :=
  let word := String.ofList value
  match s with
  | .language => (once f.language (Language.ofTag? word)).map fun language => { f with language }
  | .settings =>
    (once f.settings (if value.isEmpty then none else some value)).map fun settings =>
      { f with settings }
  | .form => (once f.form (OutputForm.ofName? word)).map fun form => { f with form }
  | .severity =>
    (once f.severity (Level.read? word).toOption).map fun severity => { f with severity }
  | .maxErrors => (once f.maxErrors (natural? 10 value)).map fun maxErrors => { f with maxErrors }
  | .timeout => (once f.timeout (natural? 10 value)).map fun timeout => { f with timeout }
  | .ignore => some { f with ignore := f.ignore ++ [word] }
  | .disable => some { f with disabled := f.disabled ++ (value.splitOn ',').map String.ofList }

/-- Turns a switch on that was off. -/
def turnOn? (f : Flags) : Switch → Option Flags
  | .allowPartial => if f.allowPartial then none else some { f with allowPartial := true }
  | .noHeuristics => if f.noHeuristics then none else some { f with noHeuristics := true }
  | .noColor => if f.noColor then none else some { f with noColor := true }
  | .fix => if f.fix then none else some { f with fix := true }
  | .write => if f.write then none else some { f with write := true }

/-- The request of complete flags: there is something to check, and fixes are written only if they
are made. -/
def request? (f : Flags) : Option Request :=
  if f.files.isEmpty || (f.write && !f.fix) then none else some (.check f)

end Flags

/-! ## All arguments -/

/-- The argument is no value: a flag, or the mark behind which no flags come. -/
def isFlag : Text → Bool
  | '-' :: _ :: _ => true
  | _ => false

/-- The value of a setting, which is attached to its flag or comes next. -/
def valueOf? (attached : Option Text) (rest : List Text) : Option (Text × List Text) :=
  match attached, rest with
  | some value, _ => some (value, rest)
  | none, value :: rest => if isFlag value then none else some (value, rest)
  | none, [] => none

theorem valueOf?_length_le {attached : Option Text} {rest later : List Text} {value : Text}
    (h : valueOf? attached rest = some (value, later)) : later.length ≤ rest.length := by
  unfold valueOf? at h
  split at h
  · simp_all
  · split at h
    · simp at h
    · simp only [Option.some.injEq, Prod.mk.injEq] at h
      simp [h.2]
  · simp at h

/-- The name in a long flag and the value attached to it. -/
def splitFlag (t : Text) : String × Option Text :=
  let name := t.takeWhile (· != '=')
  (String.ofList name, if name.length < t.length then some (t.drop (name.length + 1)) else none)

/-- The value attached to a letter; an equals sign in front does not belong to it. -/
def attachedTo (t : Text) : Option Text :=
  match t with
  | [] => none
  | '=' :: value => some value
  | value => some value

/-- Reads arguments into flags; `none` if they are not used as they should be. -/
def readArguments? (f : Flags) : List Text → Option Request
  | [] => f.request?
  | arg :: rest =>
    let set (s : Setting) (attached : Option Text) : Option Request :=
      match h : valueOf? attached rest with
      | none => none
      | some (value, later) =>
        have : later.length ≤ rest.length := valueOf?_length_le h
        match f.set? s value with
        | some f => readArguments? f later
        | none => none
    match arg with
    | ['-', '-'] => { f with files := f.files ++ rest }.request?
    | '-' :: '-' :: flag =>
      let (name, attached) := splitFlag flag
      match Setting.ofName? name with
      | some s => set s attached
      | none =>
        if attached.isSome then none
        else match Request.ofName? name with
          | some r => some r
          | none =>
            match (Switch.ofName? name).bind f.turnOn? with
            | some f => readArguments? f rest
            | none => none
    | '-' :: letter :: more =>
      match Setting.ofLetter? letter with
      | some s => set s (attachedTo more)
      | none => Request.ofLetter? letter
    | file => readArguments? { f with files := f.files ++ [file] } rest
termination_by args => args.length

/-- What the arguments of the command ask for. -/
def Request.of? (args : List Text) : Option Request := readArguments? {} args

end PageLint.Command
