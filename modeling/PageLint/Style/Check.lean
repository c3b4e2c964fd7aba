import PageLint.Checker
import PageLint.Style.Block
import PageLint.Style.Issue
import PageLint.Style.Mask
import PageLint.Style.Symbol

/-!
The checks of a style sheet, all of them on its masked copy: comments, braces, declarations, and the
symbols of the dialects.
-/
namespace PageLint.Style

/-! ## Comments and braces -/

def commentIssues (source : Text) : List Diagnostic :=
  match openComment? source with
  | none => []
  | some (start, depth) =>
    [(Issue.unclosedComment depth).report start source.size
      [.insert source.size (List.replicate depth ['*', '/']).flatten]]

def braceIssues (masked : Text) : List Diagnostic :=
  let found := braces masked
  (found.strays.map fun n => Issue.strayBrace.report n (n + 1) [.delete n (n + 1)]) ++
    match found.unclosed.getLast? with
    | none => []
    | some first =>
      let depth := found.unclosed.length
      [(Issue.unclosedBlock depth).report first (first + 1)
        [.insert masked.size (List.replicate depth '}')]]

/-! ## Declarations -/

/-- An exclamation mark and the word behind it, in any case. -/
def important : Text.Pattern Unit := fun _ t => do
  let rest ← Text.dropWord? ['!'] t
  let rest ← Text.dropWordFold? "important".toList (Text.trimStart rest)
  return Text.took t rest ()

/-- The value with one `!important` in place of all. -/
def singleImportant (value : Text) : Text :=
  Text.trim (Text.remove important value) ++ " !important".toList

def importantIssues (d : Declaration) : List Diagnostic :=
  let stop := d.valueStart + d.value.size
  if (Text.matchesOf important d.value).length > 1 then
    [(Issue.multipleImportant d.property).report d.valueStart stop
      [⟨d.valueStart, stop, singleImportant d.value⟩]]
  else []

/-- A character that a value may hold. -/
def isValueChar (c : Char) : Bool :=
  Text.isAlphanumeric c || Text.isBlank c || "#-.%(),!@/+*_\"'$:?=&\\~[]".toList.contains c

/-- The first character that has no place in the value, with its offset. -/
def invalidCharacter? (d : Declaration) : Option (Nat × Char) :=
  (d.value.offsetsFrom d.valueStart).find? fun (_, c) => !isValueChar c

/-- The value in front of any `!`. -/
def core (value : Text) : Text := Text.trimEnd (value.takeWhile (· != '!'))

/-- What the value is depends on variables or interpolations. -/
def isComputed (value : Text) : Bool :=
  value.any (· == '$') || value.any (· == '@') || value.contains "#(".toList ||
    value.contains "var(".toList

def valueIssues (validators : Validators) (d : Declaration) : List Diagnostic :=
  let value := core d.value
  match validators.find? d.property with
  | none => []
  | some kind =>
    if value.isEmpty || isComputed value then []
    else match kind.check value with
      | .valid => []
      | .invalid replacement =>
        let stop := d.valueStart + value.size
        [(Issue.invalidValue kind d.property value replacement).report d.valueStart stop
          (replacement.toList.map fun text => ⟨d.valueStart, stop, text⟩)]

/-- Issues of one declaration, given the properties in front of it. A value with a character that
has no place in it is not looked at further. -/
def declarationIssues (validators : Validators) (seen : List String) (d : Declaration) :
    List Diagnostic :=
  (if seen.contains d.property then
    [(Issue.duplicateProperty d.property).report d.propertyStart
      (d.propertyStart + d.property.utf8ByteSize)]
  else []) ++
  importantIssues d ++
  match invalidCharacter? d with
  | some (n, c) =>
    [(Issue.invalidCharacter c d.property).report n (n + c.utf8Size)
      [.delete n (n + c.utf8Size)]]
  | none => valueIssues validators d

/-- Issues of declarations in order; a property counts as seen wherever it stands. -/
def declarationsIssues (validators : Validators) (seen : List String) :
    List Declaration → List Diagnostic
  | [] => []
  | d :: rest =>
    declarationIssues validators seen d ++ declarationsIssues validators (d.property :: seen) rest

/-! ## Symbols -/

def symbolIssues (masked : Text) (ds : List Declaration) : List Diagnostic :=
  let report (issue : Text → Issue) (s : Symbol) := (issue s.name).report s.start s.stop
  (Symbol.undefinedSassVariables masked).map (report .undefinedSassVariable) ++
    (Symbol.undefinedMixins masked).map (report .undefinedMixin) ++
    (Symbol.undefinedPlaceholders masked).map (report .undefinedPlaceholder) ++
    (Symbol.undefinedLessVariables masked ds).map (report .undefinedLessVariable)

/-! ## The style sheet -/

/-- Issues of the parts that are read before the time budget is asked for. -/
def structureIssues (source : Text) : List Diagnostic :=
  commentIssues source ++ braceIssues (mask source)

def contentIssues (validators : Validators) (source : Text) : List Diagnostic :=
  let masked := mask source
  let ds := declarations masked
  declarationsIssues validators [] ds ++ symbolIssues masked ds

/-- The same as far as there is time. It is asked for in front of every 64th declaration. -/
def contentInTime (validators : Validators) (d : Deadline) (source : Text) :
    Timed (List Diagnostic) :=
  let masked := mask source
  let ds := declarations masked
  let reached := d.reach 64 (fun _ => true) 0 ds
  let found := declarationsIssues validators [] reached.found
  match reached.left? with
  | none => ⟨found, none⟩
  | some d => ⟨found ++ symbolIssues masked ds, some d⟩

def check (validators : Validators) (source : Text) (c : Context) : Findings :=
  match c.deadline.poll? with
  | none => { diagnostics := structureIssues source, interrupted := true }
  | some d =>
    let content := contentInTime validators d source
    { diagnostics := structureIssues source ++ content.found, interrupted := content.left?.isNone }

def checkerWith (validators : Validators) : Checker where
  id := "style"
  description := "Brace, comment, property value and preprocessor checks for CSS/Sass/Less"
  language := .style
  check source c := .ok (check validators source c)

def checker : Checker := checkerWith .standard

end PageLint.Style
