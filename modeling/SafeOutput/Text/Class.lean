import SafeOutput.Text.Basic
import SafeOutput.Text.DigitTable
import SafeOutput.Text.WordTable

namespace SafeOutput.Text

/-- White space of all scripts. -/
def isBlank (c : Char) : Bool :=
  let n := c.toNat
  (9 ≤ n && n ≤ 13) || n == 0x20 || n == 0x85 || n == 0xA0 || n == 0x1680 ||
    (0x2000 ≤ n && n ≤ 0x200A) || n == 0x2028 || n == 0x2029 || n == 0x202F || n == 0x205F ||
    n == 0x3000

/-- Decimal digits of all scripts. -/
def isDecimalDigit (c : Char) : Bool :=
  c.isDigit || inRanges digitRanges c.toNat

/-- Word characters: letters, marks, decimal digits, connectors and join controls. -/
def isWord (c : Char) : Bool :=
  if c.toNat < 128 then c.isAlphanum || c == '_' else inRanges wordRanges c.toNat

def trim (t : Text) : Text :=
  ((t.dropWhile isBlank).reverse.dropWhile isBlank).reverse

/-- Space, tab, carriage return and line feed: the white space that HTML collapses. -/
def isHtmlSpace (c : Char) : Bool :=
  c == ' ' || c == '\t' || c == '\r' || c == '\n'

end SafeOutput.Text
