import SafeOutput.Markup.Element

namespace SafeOutput.Policy

open Markup

/-- Elements that may never be kept, whatever a policy says. -/
def neverSafeNames : List Text :=
  ["base", "embed", "form", "iframe", "input", "link", "math", "meta", "noscript", "object", "script",
    "style", "svg", "template", "textarea", "title", "xmp"].map String.toList

/-- Why a tag name is refused, in the order in which the rules are tried. -/
inductive TagFault where
  | malformed
  | rawText
  | neverSafe
  deriving DecidableEq, Repr

def TagFault.reason : TagFault → String
  | malformed => "not a valid element name"
  | rawText => "raw text elements cannot be whitelisted"
  | neverSafe => "element is never safe"

/-- Names of a small letter and then small letters, digits, colons and hyphens. -/
def isTagName : Text → Bool
  | [] => false
  | c :: cs => c.isLower && cs.all fun c => c.isLower || c.isDigit || c == ':' || c == '-'

def tagFault? (name : Text) : Option TagFault :=
  if !isTagName name then some .malformed
  else if isRawText name then some .rawText
  else if neverSafeNames.contains name then some .neverSafe
  else none

end SafeOutput.Policy
