import SafeOutput.Text.Hex

namespace SafeOutput.Escape

open Text

/-- Characters that end a quoted string, matter to CSS or HTML, or end a line. -/
def endsCssString (c : Char) : Bool :=
  ['\x00', '\x08', '\t', '\n', '\x0b', '\x0c', '\r', '"', '&', '\'', '(', ')', '*', '/', ':', '<',
    '=', '>', '@', '[', '\\', ']', '{', '}', '\u0085', '\u00a0', '\u2028', '\u2029'].contains c

/-- The escape of a character, with the space that ends it. -/
def cssEscape (c : Char) : Text :=
  '\\' :: hex 1 c.toNat ++ [' ']

def escapeCssString (t : Text) : Text :=
  t.flatMap fun c => if endsCssString c then cssEscape c else [c]

/-- Style text in which `</` and `]]>` are written so that they end neither an element nor a
section. -/
def embedCss : Text → Text
  | '<' :: '/' :: cs => '<' :: '\\' :: '/' :: embedCss cs
  | ']' :: ']' :: '>' :: cs => ']' :: ']' :: '\\' :: '>' :: embedCss cs
  | c :: cs => c :: embedCss cs
  | [] => []

end SafeOutput.Escape
