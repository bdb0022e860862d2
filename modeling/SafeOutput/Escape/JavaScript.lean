import SafeOutput.Text.Hex

namespace SafeOutput.Escape

open Text

/-- Characters that end a quoted string, matter to HTML, or end a line. -/
def endsScriptString (c : Char) : Bool :=
  ['\x00', '\x08', '\t', '\n', '\x0b', '\x0c', '\r', '"', '&', '\'', '-', '/', '<', '=', '>', '\\',
    '\x60', '\u0085', '\u2028', '\u2029'].contains c

/-- The further characters with a meaning in a regular expression. -/
def isPatternSign (c : Char) : Bool :=
  ['$', '(', ')', '*', '+', ',', '.', ':', '?', '[', ']', '^', '{', '|', '}'].contains c

/-- The escape sequence of a character: a short one if there is one, else by its code point. -/
def scriptEscape (c : Char) : Text :=
  match c with
  | '\t' => "\\t".toList
  | '\n' => "\\n".toList
  | '\x0c' => "\\f".toList
  | '\r' => "\\r".toList
  | '/' => "\\/".toList
  | '\\' => "\\\\".toList
  | _ => if c.toNat < 0x100 then '\\' :: 'x' :: hex 2 c.toNat else '\\' :: 'u' :: hex 4 c.toNat

def escapeScriptString (t : Text) : Text :=
  t.flatMap fun c => if endsScriptString c then scriptEscape c else [c]

/-- Text as a part of a regular expression that matches just that text. -/
def escapeScriptRegex (t : Text) : Text :=
  t.flatMap fun c => if endsScriptString c || isPatternSign c then scriptEscape c else [c]

end SafeOutput.Escape
