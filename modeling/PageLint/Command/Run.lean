import PageLint.Command.Arguments
import PageLint.Command.FileSystem
import PageLint.Editor
import PageLint.Repair
import PageLint.Settings.File
import PageLint.Standard
import PageLint.Survey.Json
import PageLint.Survey.Text

/-!
The command: it checks files, writes what it finds, and mends the files if it is asked to. All that
it reads and writes goes through a `Terminal`.
-/
namespace PageLint.Command

/-- What surrounds the command. -/
structure Terminal (m : Type → Type) extends FileSystem m where
  /-- The home directory. -/
  home? : m (Option Text)
  /-- The whole standard input. -/
  input : m (Except String Text)
  print : String → m Unit
  printError : String → m Unit
  /-- The text that is shown is to be colored. -/
  isColored : Bool
  /-- The milliseconds since some point in time. -/
  clock : m Nat

/-! ## Failures -/

/-- Why the command gives up: a message, and what that comes from. -/
structure Failure where
  message : String
  causes : List String := []
  deriving DecidableEq, Repr

/-- A cause behind its number, or behind blanks if it is the only one. Further lines are
indented. -/
def describeCause (number : Option Nat) (cause : String) : String :=
  let (first, later) := match number with
    | some n => ("".pushn ' ' (5 - (toString n).length) ++ toString n ++ ": ", "       ")
    | none => ("    ", "    ")
  let lines := (Text.splitOn '\n' cause.toList).map String.ofList
  first ++ String.intercalate ("\n" ++ later) lines

def Failure.describe (f : Failure) : String :=
  let causes := match f.causes with
    | [] => []
    | [cause] => [describeCause none cause]
    | causes => causes.mapIdx fun i cause => describeCause (some i) cause
  "Error: " ++ f.message ++
    (if causes.isEmpty then "" else "\n\nCaused by:\n" ++ String.intercalate "\n" causes) ++ "\n"

/-! ## Options -/

/-- The options that the flags set. -/
def Flags.options (f : Flags) : Options where
  ignorePatterns := f.ignore
  severityLevel := f.severity.getD .all
  maxErrors := f.maxErrors
  timeout := f.timeout
  allowPartial := f.allowPartial
  rules := { disabled := f.disabled }
  script := { heuristics := !f.noHeuristics }

/-- The settings of a file with the flags put over them. Unlike other options, the level `all` counts
when a flag asks for it. -/
def Flags.over (f : Flags) (settings : Options) : Options :=
  let o := settings.merge f.options
  if f.severity = some .all then { o with severityLevel := .all } else o

/-- The options of a run, given what the settings file holds. -/
def Flags.effective (f : Flags) (settings : Except Failure Options) : Except Failure Options := do
  let settings ← settings
  if f.maxErrors = some 0 then throw { message := "--max-errors must be at least 1" }
  return f.over settings

/-! ## Reading -/

section

variable {m : Type → Type} [Monad m] (t : Terminal m)

/-- The first settings file in a directory. -/
def settingsIn (directory : Text) : List String → m (Option Text)
  | [] => return none
  | name :: rest => do
    let path := joinPath directory name.toList
    if ← t.isFile path then return some path else settingsIn directory rest

/-- The options in a settings file. -/
def loadSettings (path : Text) : m (Except Settings.LoadError Options) := do
  match ← t.read path with
  | .error reason => return .error (.unreadable reason)
  | .ok content => return Settings.load path content

/-- The options of the settings file in the current directory, or else of the one in the home
directory. One that cannot be loaded counts for nothing. -/
def discoveredSettings : m Options := do
  let inHome : m (Option Text) := do
    match ← t.home? with
    | some home => settingsIn t home Settings.fileNames
    | none => return none
  let found ← match ← settingsIn t currentDirectory Settings.fileNames with
    | some path => pure (some path)
    | none => inHome
  match found with
  | none => return {}
  | some path =>
    match ← loadSettings t path with
    | .ok o => return o
    | .error _ => return {}

/-- The options of the settings file that the flags name, or of the one that is found. -/
def settingsFor (f : Flags) : m (Except Failure Options) := do
  match f.settings with
  | none => return .ok (← discoveredSettings t)
  | some path =>
    match ← loadSettings t path with
    | .ok o => return .ok o
    | .error e =>
      return .error
        { message := "Failed to load config " ++ String.ofList path
          causes := e.message :: e.cause?.toList }

/-- Where a document comes from. -/
inductive Input where
  | standard
  | file (path : Text)
  deriving DecidableEq, Repr

namespace Input

def name : Input → String
  | standard => "<stdin>"
  | file path => String.ofList path

def path? : Input → Option Text
  | standard => none
  | file path => some path

/-- The path made absolute where that is possible. -/
def uri : Input → m String
  | standard => return "untitled:stdin"
  | file path => do
    let absolute := (← t.absolute? path).getD path
    return Editor.fileUri (String.ofList absolute)

def read : Input → m (Except Failure Text)
  | standard => do
    match ← t.input with
    | .ok source => return .ok source
    | .error reason => return .error { message := "Failed to read stdin", causes := [reason] }
  | file path => do
    match ← t.read path with
    | .ok source => return .ok source
    | .error reason =>
      return .error { message := "Failed to read " ++ String.ofList path, causes := [reason] }

end Input

/-- The files that a pattern finds. -/
def filesOf (pattern : Text) : m (Except Failure (List Input)) := do
  match Search.of pattern with
  | .error e =>
    return .error
      { message := "Invalid pattern '" ++ String.ofList pattern ++ "'", causes := [e.message] }
  | .ok search =>
    let paths ← search.run t.toFileSystem
    let files ← paths.filterM fun path => t.isFile path
    return .ok (files.map .file)

/-- The inputs that patterns find; a hyphen stands for the standard input, which is taken once. -/
def inputsOf (isTaken : Bool) : List Text → m (Except Failure (List Input))
  | [] => return .ok []
  | pattern :: rest => do
    if pattern = ['-'] then
      match ← inputsOf true rest with
      | .ok later => return .ok (if isTaken then later else .standard :: later)
      | .error e => return .error e
    else
      match ← filesOf t pattern with
      | .error e => return .error e
      | .ok files =>
        match ← inputsOf isTaken rest with
        | .ok later => return .ok (files ++ later)
        | .error e => return .error e

/-! ## Checking -/

/-- What a run has gathered. -/
structure Progress where
  files : List CheckedFile := []
  publications : List Editor.Publication := []
  /-- A mended text was printed. -/
  hasPrinted : Bool := false
  deriving DecidableEq, Repr

/-- Why a run ends before its end. -/
inductive Stop where
  | failure (f : Failure)
  | fault (f : Fault)
  deriving DecidableEq, Repr

/-- The language of an input: the one that was asked for, or else that of its name, or else the one
that it looks like. -/
def languageOf? (flag : Option Language) (input : Input) (source : Text) : Option Language :=
  flag <|> input.path?.bind Language.ofPath? <|> Language.sniff? source

/-- Mends a document: in its file if fixes are to be written, else on the standard output. Gives
whether it was printed. -/
def mend (f : Flags) (input : Input) (source : Text) (r : Report) : m (Except Failure Bool) := do
  let outcome := Repair.applyFixes source r.diagnostics
  match input.path?.filter fun _ => f.write with
  | some path =>
    if !outcome.changed then return .ok false
    match ← t.write path outcome.output with
    | .ok () => return .ok false
    | .error reason =>
      return .error { message := "Failed to write " ++ String.ofList path, causes := [reason] }
  | none =>
    t.print (String.ofList outcome.output)
    return .ok true

/-- The warning about an input that is passed over. -/
def skipped (form : TextForm) (input : Input) : String :=
  form.paint Ink.yellow.bold "warning" ++
    s!": Skipping {input.name}: cannot tell its language (use --language)\n"

/-- Checks one input. -/
def checkInput (f : Flags) (o : Options) (p : Progress) (input : Input) :
    m (Except Stop Progress) := do
  match ← input.read t with
  | .error e => return .error (.failure e)
  | .ok source =>
    match languageOf? f.language input source with
    | none =>
      t.printError (skipped { isColored := t.isColored && !f.noColor } input)
      return .ok p
    | some language =>
      match Engine.standard.check source language o with
      | .error e => return .error (.fault e)
      | .ok r =>
        let printed ← if f.fix then mend t f input source r else pure (.ok false)
        match printed with
        | .error e => return .error (.failure e)
        | .ok printed =>
          let uri ← input.uri t
          return .ok
            { files := p.files ++ [{ name := input.name, language, report := r }]
              publications := p.publications ++ [Editor.publish source uri none r]
              hasPrinted := p.hasPrinted || printed }

def checkInputs (f : Flags) (o : Options) (p : Progress) : List Input → m (Except Stop Progress)
  | [] => return .ok p
  | input :: rest => do
    match ← checkInput t f o p input with
    | .ok p => checkInputs f o p rest
    | .error e => return .error e

/-- The text that tells what a run found. -/
def output (f : Flags) (p : Progress) (s : Survey) : Except Fault String :=
  match f.form.getD .text with
  | .text => TextForm.survey { isColored := t.isColored && !f.noColor } s
  | .json => .ok (Json.ofSurvey s).pretty
  | .editor => .ok (Json.arr (p.publications.map Editor.ofPublication)).pretty

/-- Checks what the flags ask for and gives the exit code. -/
def check (f : Flags) : m (Except Stop Nat) := do
  match f.effective (← settingsFor t f) with
  | .error e => return .error (.failure e)
  | .ok o =>
    match ← inputsOf t false f.files with
    | .error e => return .error (.failure e)
    | .ok [] => return .error (.failure { message := "No files found to check" })
    | .ok inputs =>
      let start ← t.clock
      match ← checkInputs t f o {} inputs with
      | .error e => return .error e
      | .ok p =>
        let survey : Survey := { files := p.files, milliseconds := (← t.clock) - start }
        match output t f p survey with
        | .error e => return .error (.fault e)
        | .ok text =>
          if p.hasPrinted then t.printError text else t.print text
          return .ok survey.exitCode

/-! ## The command -/

def versionLine : String := "livecheck 0.1.0\n"

def usage : String :=
  "Usage: livecheck [OPTIONS] <FILES>...\n\n" ++
  "Checks HTML, CSS and JavaScript. A file may be a pattern; `-` is the standard input.\n\n" ++
  "  -l, --language <LANGUAGE>  markup, style or script\n" ++
  "  -c, --config <CONFIG>      settings file\n" ++
  "  -f, --format <FORMAT>      text, json or lsp\n" ++
  "      --ignore <TEXT>        leave out diagnostics with this text\n" ++
  "      --severity <LEVEL>     error, warning, suggestion or all\n" ++
  "      --max-errors <N>       at most this many diagnostics for a file\n" ++
  "      --timeout-ms <N>       time for a file in milliseconds\n" ++
  "      --allow-partial        the files are fragments\n" ++
  "      --disable <RULES>      leave out these rules\n" ++
  "      --no-heuristics        leave out the checks on the text of scripts\n" ++
  "      --no-color             no colors\n" ++
  "      --fix                  mend what can be mended\n" ++
  "      --write                write mended files\n" ++
  "  -h, --help                 this text\n" ++
  "  -V, --version              the version\n"

/-- How a run ends. -/
inductive Ending where
  | exit (code : Nat)
  | misuse
  | fault (f : Fault)
  deriving DecidableEq, Repr

/-- Runs the command. -/
def run (args : List Text) : m Ending := do
  match Request.of? args with
  | none => return .misuse
  | some .version =>
    t.print versionLine
    return .exit 0
  | some .help =>
    t.print usage
    return .exit 0
  | some (.check f) =>
    match ← check t f with
    | .ok code => return .exit code
    | .error (.failure e) =>
      t.printError e.describe
      return .exit 1
    | .error (.fault f) => return .fault f

end

end PageLint.Command
