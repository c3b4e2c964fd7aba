import PageLint.Text.Classes

/-! Colors by name, and the color that a misspelt name is closest to. -/
namespace PageLint.Style.Color

/-- Values that stand for a color of elsewhere. -/
def keywords : List String :=
  ["transparent", "currentcolor", "inherit", "initial", "unset", "revert"]

/-- The named colors in alphabetical order. -/
def names : List String :=
  ["aliceblue", "antiquewhite", "aqua", "aquamarine", "azure", "beige", "bisque", "black",
    "blanchedalmond", "blue", "blueviolet", "brown", "burlywood", "cadetblue", "chartreuse",
    "chocolate", "coral", "cornflowerblue", "cornsilk", "crimson", "cyan", "darkblue", "darkcyan",
    "darkgoldenrod", "darkgray", "darkgreen", "darkgrey", "darkkhaki", "darkmagenta",
    "darkolivegreen", "darkorange", "darkorchid", "darkred", "darksalmon", "darkseagreen",
    "darkslateblue", "darkslategray", "darkslategrey", "darkturquoise", "darkviolet", "deeppink",
    "deepskyblue", "dimgray", "dimgrey", "dodgerblue", "firebrick", "floralwhite", "forestgreen",
    "fuchsia", "gainsboro", "ghostwhite", "gold", "goldenrod", "gray", "green", "greenyellow",
    "grey", "honeydew", "hotpink", "indianred", "indigo", "ivory", "khaki", "lavender",
    "lavenderblush", "lawngreen", "lemonchiffon", "lightblue", "lightcoral", "lightcyan",
    "lightgoldenrodyellow", "lightgray", "lightgreen", "lightgrey", "lightpink", "lightsalmon",
    "lightseagreen", "lightskyblue", "lightslategray", "lightslategrey", "lightsteelblue",
    "lightyellow", "lime", "limegreen", "linen", "magenta", "maroon", "mediumaquamarine",
    "mediumblue", "mediumorchid", "mediumpurple", "mediumseagreen", "mediumslateblue",
    "mediumspringgreen", "mediumturquoise", "mediumvioletred", "midnightblue", "mintcream",
    "mistyrose", "moccasin", "navajowhite", "navy", "oldlace", "olive", "olivedrab", "orange",
    "orangered", "orchid", "palegoldenrod", "palegreen", "paleturquoise", "palevioletred",
    "papayawhip", "peachpuff", "peru", "pink", "plum", "powderblue", "purple", "rebeccapurple",
    "red", "rosybrown", "royalblue", "saddlebrown", "salmon", "sandybrown", "seagreen", "seashell",
    "sienna", "silver", "skyblue", "slateblue", "slategray", "slategrey", "snow", "springgreen",
    "steelblue", "tan", "teal", "thistle", "tomato", "turquoise", "violet", "wheat", "white",
    "whitesmoke", "yellow", "yellowgreen"]

/-! ## Distance -/

/-- The next row of the table of distances: `diagonal` stands above and `left` beside the entry
that comes next. -/
def rowFrom (c : Char) (diagonal left : Nat) : Text → List Nat → List Nat
  | d :: word, above :: row =>
    let entry := if c = d then diagonal else 1 + min (min diagonal above) left
    entry :: rowFrom c above entry word row
  | _, _ => []

def nextRow (word : Text) (row : List Nat) (c : Char) : List Nat :=
  match row with
  | [] => []
  | first :: rest => (first + 1) :: rowFrom c first (first + 1) word rest

/-- The least number of characters to insert, delete or exchange in order to turn `a` into `b`.
Entry `j` of a row is the distance of the part of `a` read so far from the first `j` characters
of `b`. -/
def distance (a b : Text) : Nat :=
  ((a.foldl (nextRow b) (List.range (b.length + 1))).getLast?).getD 0

/-- The first of the closest names that are at most two edits away. -/
def nearest? (value : Text) : Option String :=
  let near := (names.map fun name => (distance value name.toList, name)).filter (·.1 ≤ 2)
  (near.foldl (fun best entry => match best with
    | none => some entry
    | some b => if entry.1 < b.1 then some entry else some b) none).map (·.2)

end PageLint.Style.Color
