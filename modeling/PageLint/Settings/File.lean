import PageLint.Path
import PageLint.Settings.Json
import PageLint.Settings.Yaml.Options

/-! Settings files: their names, their formats, and what can be wrong with one. -/
namespace PageLint.Settings

/-- The names that a settings file is looked for under, in this order. -/
def fileNames : List String :=
  [".livecheckrc.yaml", ".livecheckrc.yml", ".livecheckrc.json", "livecheck.yaml",
   "livecheck.yml", "livecheck.json"]

inductive LoadError where
  | unreadable (reason : String)
  | yaml
  | json (failure : String)
  | refused (e : SettingsError)
  | unknownFormat (extension : Text)
  deriving DecidableEq, Repr

namespace LoadError

def message : LoadError → String
  | unreadable reason => "IO error: " ++ reason
  | yaml => "YAML parse error"
  | json failure => "JSON parse error: " ++ failure
  | refused e => "Invalid configuration: " ++ e.message
  | unknownFormat extension =>
    "Invalid configuration: Unknown config file format: " ++ String.ofList extension

/-- What the error comes from in turn. -/
def cause? : LoadError → Option String
  | unreadable reason => some reason
  | json failure => some failure
  | _ => none

end LoadError

inductive Format where
  | yaml
  | json
  deriving DecidableEq, Repr

/-- The format that the extension of a path tells. -/
def formatOf (path : Text) : Except LoadError Format :=
  let extension := (Path.extension? path).getD []
  if extension = "yaml".toList || extension = "yml".toList then .ok .yaml
  else if extension = "json".toList then .ok .json
  else .error (.unknownFormat extension)

def parse (format : Format) (content : Text) : Except LoadError Options :=
  match format with
  | .yaml =>
    match Yaml.ofText? content with
    | some o => .ok o
    | none => .error .yaml
  | .json =>
    match ofJson content with
    | .ok o => .ok o
    | .error f => .error (.json (f.message content))

/-- The options in a file, if they are valid. -/
def load (path content : Text) : Except LoadError Options := do
  let o ← parse (← formatOf path) content
  match o.validate with
  | .ok () => return o
  | .error e => throw (.refused e)

end PageLint.Settings
