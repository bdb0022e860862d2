import SafeOutput.Text.Class
import SafeOutput.Text.Fold

namespace SafeOutput.Accept

open Text

def isNameChar (c : Char) : Bool :=
  isFoldedAlphanum c || c == '_' || c == '$' || c == ':' || c == '-'

/-- Attributes whose value is a URI, a style or otherwise too powerful, and the starts of the names
of such attributes. -/
def isDangerousAttribute (t : Text) : Bool :=
  ["on", "src"].any (fun w => startsFolded w.toList t) ||
    ["action", "archive", "background", "cite", "classid", "codebase", "content", "data", "dsync",
      "href", "http-equiv", "longdesc", "style", "usemap"].any
      fun w => (dropFolded? w.toList t).any (·.all isBlank)

/-- The starts of the names of elements that carry code, load resources or are not markup. -/
def isDangerousElement (t : Text) : Bool :=
  ["base", "iframe", "link", "no", "object", "script", "style", "textarea", "title", "xmp"].any
    fun w => startsFolded w.toList t

def isSafeAttributeName (t : Text) : Bool :=
  !isDangerousAttribute t && t.all isNameChar

def isSafeElementName (t : Text) : Bool :=
  !isDangerousElement t && t.all isNameChar

def isNonceChar (c : Char) : Bool :=
  c.isAlphanum || c == '+' || c == '/' || c == '_' || c == '-'

/-- A nonce is a non-empty run of base 64 digits, of either alphabet, with at most two signs of
padding. -/
def isNonce (t : Text) : Bool :=
  let padding := t.dropWhile isNonceChar
  !(t.takeWhile isNonceChar).isEmpty && padding.all (· == '=') && padding.length ≤ 2

/-- A number is a run of digits in which one point may stand, but not at the end. -/
def isNumber (t : Text) : Bool :=
  match t.dropWhile isDecimalDigit with
  | [] => !t.isEmpty
  | '.' :: fraction => !fraction.isEmpty && fraction.all isDecimalDigit
  | _ => false

end SafeOutput.Accept
