import SafeOutput.Text.Class

namespace SafeOutput.Markup

open Text

/-- Elements without children and without an end tag. -/
def voidNames : List Text :=
  ["area", "base", "br", "col", "command", "embed", "hr", "img", "input", "keygen", "link", "meta",
    "param", "source", "track", "wbr"].map String.toList

/-- Elements whose body is not markup. -/
def rawTextNames : List Text :=
  ["script", "style", "textarea", "title"].map String.toList

/-- Elements that start on a fresh line. -/
def blockNames : List Text :=
  ["address", "blockquote", "dd", "div", "dl", "dt", "h1", "h2", "h3", "h4", "h5", "h6", "hr", "li",
    "ol", "p", "pre", "table", "tr", "ul"].map String.toList

def cellNames : List Text :=
  ["td", "th"].map String.toList

/-- Whether no word goes on at the head of the text. -/
def endsWord : Text → Bool
  | [] => true
  | c :: _ => !isWord c

/-- A name is void if a void name is its first word: `br` and `br-x` are, `colgroup` is not. -/
def isVoid (name : Text) : Bool :=
  voidNames.any fun v => v.isPrefixOf name && endsWord (name.drop v.length)

def isRawText (name : Text) : Bool :=
  rawTextNames.contains name

def isBlock (name : Text) : Bool :=
  blockNames.contains name

def isCell (name : Text) : Bool :=
  cellNames.contains name

end SafeOutput.Markup
