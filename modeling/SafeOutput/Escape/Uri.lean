import SafeOutput.Text.Hex

namespace SafeOutput.Escape

open Text

/-- The UTF-8 bytes of a character, each as a percent sign and two digits. -/
def percentEncode (c : Char) : Text :=
  (String.utf8EncodeChar c).flatMap fun b => '%' :: hexByte b

/-- Characters that stand for themselves in a part of a URI. -/
def isUnreserved (c : Char) : Bool :=
  c.isAlphanum || ['!', '\'', '(', ')', '*', '-', '.', '_'].contains c

/-- Text as one query parameter or path segment. -/
def escapeUri (t : Text) : Text :=
  t.flatMap fun c => if isUnreserved c then [c] else percentEncode c

/-- Characters that could end an attribute value or be taken for URI punctuation: controls, quotes,
brackets, line ends and the full-width forms of punctuation. -/
def breaksUri (c : Char) : Bool :=
  c.toNat ≤ 0x20 || (0xFF06 ≤ c.toNat && c.toNat ≤ 0xFF0C) ||
    ['"', '\'', '(', ')', '<', '>', '\\', '{', '}', '\x7f', '\u0085', '\u00a0', '\u2028', '\u2029',
      '\uff01', '\uff03', '\uff04', '\uff0f', '\uff1a', '\uff1b', '\uff1d', '\uff1f', '\uff20',
      '\uff3b', '\uff3d'].contains c

/-- A URI with the characters that break it encoded and its structure kept. -/
def tidyUri (t : Text) : Text :=
  t.flatMap fun c => if breaksUri c then percentEncode c else [c]

end SafeOutput.Escape
