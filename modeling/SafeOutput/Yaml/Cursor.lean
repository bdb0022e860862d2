import SafeOutput.Text.Basic

namespace SafeOutput.Yaml

/-- A place in a text: what is still to be read, and where that starts. -/
structure Cursor where
  rest : Text
  line : Nat
  column : Nat
  index : Nat

def isBreak (c : Char) : Bool :=
  c == '\n' || c == '\u2028' || c == '\u2029'

def isSpaceOrTab (c : Char) : Bool :=
  c == ' ' || c == '\t'

/-- Characters between the words of a scalar. -/
def isGap (c : Char) : Bool :=
  isSpaceOrTab c || isBreak c

/-- Letters, digits and the two signs that names may hold. -/
def isNameChar (c : Char) : Bool :=
  c.isAlphanum || c == '_' || c == '-'

def atGap (t : Text) : Bool :=
  t.head?.all isGap

def atBreak (t : Text) : Bool :=
  t.head?.all isBreak

def startsMark (mark : String) (t : Text) : Bool :=
  mark.toList.isPrefixOf t && atGap (t.drop mark.length)

namespace Cursor

def start (t : Text) : Cursor := ⟨t, 0, 0, 0⟩

def next (c : Cursor) : Cursor :=
  match c.rest with
  | [] => c
  | x :: rest =>
    if isBreak x then ⟨rest, c.line + 1, 0, c.index + 1⟩
    else ⟨rest, c.line, c.column + 1, c.index + 1⟩

def skip (c : Cursor) : Nat → Cursor
  | 0 => c
  | n + 1 => c.next.skip n

def skipWhile (c : Cursor) (p : Char → Bool) : Cursor :=
  c.skip (c.rest.takeWhile p).length

def peek? (c : Cursor) : Option Char := c.rest.head?

/-- Whether a mark between documents stands at the start of this line. -/
def atDocumentMark (c : Cursor) : Bool :=
  c.column == 0 && (startsMark "---" c.rest || startsMark "..." c.rest)

end Cursor

def isAllowed (c : Char) : Bool :=
  let n := c.toNat
  n == 9 || n == 10 || n == 13 || (0x20 ≤ n && n ≤ 0x7E) || n == 0x85 || (0xA0 ≤ n && n ≤ 0xFFFD) ||
    0x10000 ≤ n

/-- Writes the ends of lines that are one line feed to the reader as one line feed. -/
def unifyBreaks : Text → Text
  | '\r' :: '\n' :: cs => '\n' :: unifyBreaks cs
  | '\r' :: cs => '\n' :: unifyBreaks cs
  | '\u0085' :: cs => '\n' :: unifyBreaks cs
  | c :: cs => c :: unifyBreaks cs
  | [] => []

end SafeOutput.Yaml
