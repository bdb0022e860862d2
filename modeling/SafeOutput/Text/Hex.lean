import SafeOutput.Text.Basic

namespace SafeOutput.Text

/-- The hexadecimal numeral of `n` in small letters, filled up with zeros to `width` digits. -/
def hex (width n : Nat) : Text :=
  (Nat.toDigits 16 n).leftpad width '0'

/-- The hexadecimal numeral of a byte: two digits, in capitals. -/
def hexByte (b : UInt8) : Text :=
  (hex 2 b.toNat).map Char.toUpper

def isHexDigit (c : Char) : Bool :=
  c.isDigit || ('a' ≤ c && c ≤ 'f') || ('A' ≤ c && c ≤ 'F')

def hexValue (c : Char) : Nat :=
  if c.isDigit then c.toNat - '0'.toNat else c.toLower.toNat - 'a'.toNat + 10

def digitsValue (base : Nat) (digits : Text) : Nat :=
  digits.foldl (fun n d => base * n + hexValue d) 0

end SafeOutput.Text
