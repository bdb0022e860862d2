namespace SafeOutput

/-- The output context that a trusted text is valid for. -/
inductive Kind where
  | html
  | js
  | jsStrChars
  | uri
  | trustedResourceUri
  | attributes
  | css
  | text
  deriving DecidableEq, Repr

inductive Direction where
  | leftToRight
  | neutral
  | rightToLeft
  deriving DecidableEq, Repr

namespace Kind

def all : List Kind :=
  [html, js, jsStrChars, uri, trustedResourceUri, attributes, css, text]

def label : Kind → String
  | html => "HTML"
  | js => "JS"
  | jsStrChars => "JS_STR_CHARS"
  | uri => "URI"
  | trustedResourceUri => "TRUSTED_RESOURCE_URI"
  | attributes => "ATTRIBUTES"
  | css => "CSS"
  | text => "TEXT"

/-- Code runs from left to right; prose keeps the direction that its author gives. -/
def intrinsicDir : Kind → Option Direction
  | css | attributes | js | uri | trustedResourceUri => some .leftToRight
  | html | jsStrChars | text => none

end Kind

end SafeOutput
