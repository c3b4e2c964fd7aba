import PageLint.Json.Codec
import PageLint.Text.Position

/-!
Diagnostics and quick fixes in the form in which a language server sends them to an editor. Lines
count from zero and columns in UTF-16 units.
-/
namespace PageLint.Editor

structure Position where
  line : Nat
  character : Nat
  deriving DecidableEq, Repr

structure Range where
  start : Position
  stop : Position
  deriving DecidableEq, Repr

structure TextEdit where
  range : Range
  newText : Text
  deriving DecidableEq, Repr

/-- A diagnostic as an editor shows it. -/
structure Notice where
  range : Range
  severity : Nat
  code : Option String
  message : String
  category : Option Category
  fixes : List Fix
  deriving DecidableEq, Repr

/-- A change of one document that an editor offers for a notice. -/
structure QuickFix where
  title : String
  notice : Notice
  uri : String
  edit : TextEdit
  isPreferred : Bool
  deriving DecidableEq, Repr

/-- The notices of one document. -/
structure Publication where
  uri : String
  notices : List Notice
  version : Option Int
  deriving DecidableEq, Repr

/-! ## From diagnostics -/

/-- The numbers of a position have 32 bits. -/
def position (source : Text) (n : Nat) : Position :=
  let (line, character) := source.editorPosition n
  { line := line % UInt32.size, character := character % UInt32.size }

def range (source : Text) (start stop : Nat) : Range :=
  ⟨position source start, position source stop⟩

/-- The number of a severity; 3 is for mere information, which nothing here is. -/
def severityNumber : Severity → Nat
  | .error => 1
  | .warning => 2
  | .suggestion => 4

def notice (source : Text) (d : Diagnostic) : Notice where
  range := range source d.start d.stop
  severity := severityNumber d.severity
  code := d.rule
  message := d.message
  category := d.category
  fixes := d.fixes

/-- One quick fix for each suggested fix; the first one is preferred. -/
def quickFixes (source : Text) (uri : String) (d : Diagnostic) : List QuickFix :=
  d.fixes.mapIdx fun i fix =>
    { title := fix.description
      notice := notice source d
      uri
      edit := ⟨range source fix.edit.start fix.edit.stop, fix.edit.text⟩
      isPreferred := i == 0 }

def publish (source : Text) (uri : String) (version : Option Int) (r : Report) : Publication where
  uri
  notices := r.diagnostics.map (notice source)
  version

/-- The URI of a file with this path. -/
def fileUri (path : String) : String := "file://" ++ path

/-! ## As JSON -/

def ofPosition (p : Position) : Json :=
  .obj [("line", .nat p.line), ("character", .nat p.character)]

def ofRange (r : Range) : Json := .obj [("start", ofPosition r.start), ("end", ofPosition r.stop)]

/-- The members of a fix that travels with a notice stand in alphabetical order. -/
def ofFix (f : Fix) : Json :=
  .obj [("description", .str f.description),
    ("edit", .obj [("from", .nat f.edit.start), ("text", Json.ofText f.edit.text),
      ("to", .nat f.edit.stop)])]

def ofNotice (n : Notice) : Json :=
  .obj ([("range", ofRange n.range), ("severity", .nat n.severity),
    ("code", Json.ofOption .str n.code), ("source", .str "livecheck"),
    ("message", .str n.message)] ++
    if n.fixes.isEmpty then []
    else [("data", .obj [("category", Json.ofOption (fun c => .str (Category.name c)) n.category),
      ("fixes", .arr (n.fixes.map ofFix))])])

def ofTextEdit (e : TextEdit) : Json :=
  .obj [("range", ofRange e.range), ("newText", Json.ofText e.newText)]

def ofQuickFix (q : QuickFix) : Json :=
  .obj [("title", .str q.title), ("kind", .str "quickfix"),
    ("diagnostics", .arr [ofNotice q.notice]),
    ("edit", .obj [("changes", .obj [(q.uri, .arr [ofTextEdit q.edit])])]),
    ("isPreferred", .bool q.isPreferred)]

def ofPublication (p : Publication) : Json :=
  .obj ([("uri", .str p.uri), ("diagnostics", .arr (p.notices.map ofNotice))] ++
    Json.optional "version" .int p.version)

end PageLint.Editor
