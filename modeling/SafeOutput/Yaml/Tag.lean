import SafeOutput.Text.Hex
import SafeOutput.Yaml.Cursor

namespace SafeOutput.Yaml

open Text

/-- Tags are compared octet by octet: an escape in one may stand for any octet. -/
abbrev Octets := List UInt8

def asciiOctets (t : Text) : Octets :=
  t.map fun c => c.toNat.toUInt8

/-- How many octets the character has that starts with this one. -/
def sequenceLength (octet : Nat) : Option Nat :=
  if octet < 0x80 then some 1
  else if octet < 0xC0 then none
  else if octet < 0xE0 then some 2
  else if octet < 0xF0 then some 3
  else if octet < 0xF8 then some 4
  else none

def isContinuation (octet : Nat) : Bool :=
  0x80 ≤ octet && octet < 0xC0

/-- The octets of a text with escapes, when `missing` octets of a character are still to come. The
octets of one character are escapes without anything between them. -/
def unescapeOctets (missing : Nat) : Text → Option Octets
  | [] => if missing = 0 then some [] else none
  | '%' :: a :: b :: cs =>
    if isHexDigit a && isHexDigit b then
      let octet := digitsValue 16 [a, b]
      if missing = 0 then do
        let length ← sequenceLength octet
        (octet.toUInt8 :: ·) <$> unescapeOctets (length - 1) cs
      else if isContinuation octet then (octet.toUInt8 :: ·) <$> unescapeOctets (missing - 1) cs
      else none
    else none
  | c :: cs =>
    if missing = 0 && c != '%' then (c.toNat.toUInt8 :: ·) <$> unescapeOctets 0 cs else none

/-- The octets that a written tag, or a part of one, stands for. It ends before a zero. -/
def tagOctets (t : Text) : Option Octets :=
  (unescapeOctets 0 t).map (·.takeWhile (· != 0))

/-- A tag as its handle, which is empty if there is none, and the rest of it. -/
structure WrittenTag where
  handle : Text
  suffix : Octets
  deriving DecidableEq, Repr

/-- The handle of a tag: one exclamation mark, or a name between two. -/
def handleAt (t : Text) : Option Text :=
  if t.head? == some '!' then
    let name := t.tail.takeWhile isNameChar
    if (t.drop (name.length + 1)).head? == some '!' then some ('!' :: name ++ ['!'])
    else some ('!' :: name)
  else none

def isTagChar (verbatim : Bool) (c : Char) : Bool :=
  isNameChar c || [';', '/', '?', ':', '@', '&', '=', '+', '$', '.', '%', '!', '~', '*', '\'', '(',
    ')'].contains c || (verbatim && (c == ',' || c == '[' || c == ']'))

/-- The tag that stands here. A lone exclamation mark is a tag of its own and no handle. -/
def tagAt (c : Cursor) : Option (WrittenTag × Cursor) :=
  if c.next.peek? == some '<' then do
    let uri := (c.skip 2).rest.takeWhile (isTagChar true)
    let c := c.skip (2 + uri.length)
    if uri.isEmpty || c.peek? != some '>' then none
    some (⟨[], ← tagOctets uri⟩, c.next)
  else do
    let handle ← handleAt c.rest
    let suffix := (c.rest.drop handle.length).takeWhile (isTagChar false)
    let c := c.skip (handle.length + suffix.length)
    if 1 < handle.length && handle.getLast? == some '!' then
      if suffix.isEmpty then none else some (⟨handle, ← tagOctets suffix⟩, c)
    else
      match ← tagOctets (handle.tail ++ suffix) with
      | [] => some (⟨[], asciiOctets ['!']⟩, c)
      | suffix => some (⟨['!'], suffix⟩, c)

end SafeOutput.Yaml
