/-! Elements of a document: which hold text only, which have no content, and which may stand in
which. Names are in lower case. -/
namespace PageLint.Markup

/-- The body is text, in which no tag but the closing one counts. -/
def isRawText (name : String) : Bool := ["script", "style", "textarea", "title"].contains name

/-- The element has no body and no closing tag. -/
def isVoid (name : String) : Bool :=
  ["area", "base", "br", "col", "embed", "hr", "img", "input", "link", "meta", "param", "source",
    "track", "wbr"].contains name

/-- The elements directly inside of which an element has to stand. -/
def requiredParents? : String → Option (List String)
  | "li" => some ["ul", "ol", "menu"]
  | "dt" | "dd" => some ["dl"]
  | "tr" => some ["table", "thead", "tbody", "tfoot"]
  | "td" | "th" => some ["tr"]
  | "thead" | "tbody" | "tfoot" | "caption" | "colgroup" => some ["table"]
  | "option" => some ["select", "optgroup", "datalist"]
  | "optgroup" => some ["select"]
  | "legend" => some ["fieldset"]
  | "figcaption" => some ["figure"]
  | "summary" => some ["details"]
  | _ => none

def strangers : List (String × String) :=
  [("p", "div"), ("p", "ul"), ("p", "ol"), ("a", "a"), ("button", "button"), ("form", "form"),
    ("label", "label")]

/-- The two may not stand directly inside each other, whichever is outside. -/
def excludes (outer inner : String) : Bool :=
  strangers.contains (outer, inner) || strangers.contains (inner, outer)

end PageLint.Markup
