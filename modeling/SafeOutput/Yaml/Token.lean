import SafeOutput.Yaml.Scalar
import SafeOutput.Yaml.Tag

namespace SafeOutput.Yaml

open Text

inductive Token where
  | versionDirective (major minor : Nat)
  | tagDirective (handle : Text) (start : Octets)
  | documentStart
  | documentEnd
  | streamEnd
  | blockSequenceStart
  | blockMappingStart
  | blockEnd
  | flowSequenceStart
  | flowSequenceEnd
  | flowMappingStart
  | flowMappingEnd
  | blockEntry
  | flowEntry
  | key
  | value
  | alias (name : Text)
  | anchor (name : Text)
  | tag (tag : WrittenTag)
  | scalar (plain : Bool) (text : Text)
  deriving DecidableEq, Repr

/-- A token that is a mapping key if a colon follows it soon enough. -/
structure SimpleKey where
  token : Nat
  required : Bool
  line : Nat
  column : Nat
  index : Nat

/-- The state of reading tokens: the blocks that are open, by their columns, and for each open
bracket, innermost first and the text itself last, the key that may start there. -/
structure Scanner where
  cursor : Cursor
  tokens : Array Token
  indent : Int
  indents : List Int
  keys : List (Option SimpleKey)
  keyAllowed : Bool

namespace Scanner

def start (t : Text) : Scanner := ⟨.start t, #[], -1, [], [none], true⟩

def inFlow (s : Scanner) : Bool := 1 < s.keys.length

def emit (s : Scanner) (t : Token) : Scanner := { s with tokens := s.tokens.push t }

def moveTo (s : Scanner) (c : Cursor) : Scanner := { s with cursor := c }

def allowKey (s : Scanner) (allowed : Bool) : Scanner := { s with keyAllowed := allowed }

/-- Gives up the key that may start here; a key that must be one cannot be given up. -/
def dropKey (s : Scanner) : Option Scanner :=
  match s.keys with
  | some key :: keys => if key.required then none else some { s with keys := none :: keys }
  | _ => some s

/-- Notes that the next token may be a key. At the column of its block it must be one. -/
def saveKey (s : Scanner) : Option Scanner :=
  if s.keyAllowed then do
    let s ← s.dropKey
    let c := s.cursor
    let key : SimpleKey :=
      ⟨s.tokens.size, !s.inFlow && s.indent == c.column, c.line, c.column, c.index⟩
    some { s with keys := some key :: s.keys.tail }
  else some s

/-- Gives up the keys that can no longer be followed by a colon: those on an earlier line, and those
too long. -/
def dropStaleKeys (s : Scanner) : Option Scanner := do
  let keys ← s.keys.mapM fun
    | some key =>
      if key.line < s.cursor.line || key.index + 1024 < s.cursor.index then
        if key.required then none else some none
      else some (some key)
    | none => some none
  some { s with keys }

/-- Opens a block at the column if it lies further right; the token goes to `place`. -/
def openBlock (s : Scanner) (column : Nat) (place : Nat) (t : Token) : Scanner :=
  if !s.inFlow && s.indent < column then
    { s with
      indents := s.indent :: s.indents
      indent := column
      tokens := s.tokens.insertIdxIfInBounds place t }
  else s

/-- Closes the blocks right of the column, at most `fuel` of them. -/
def closeBlocks (column : Int) : Nat → Scanner → Scanner
  | 0, s => s
  | fuel + 1, s =>
    if !s.inFlow && column < s.indent then
      closeBlocks column fuel
        { s with
          tokens := s.tokens.push .blockEnd
          indent := s.indents.headD (-1)
          indents := s.indents.tail }
    else s

def closeTo (s : Scanner) (column : Int) : Scanner :=
  closeBlocks column (s.indents.length + 1) s

/-- Skips white space, comments and line ends. A tab may not stand where a key could; a byte order
mark may start a line, and takes up a column of it. -/
def skipSpace : Nat → Scanner → Scanner
  | 0, s => s
  | fuel + 1, s =>
    let c := s.cursor
    let c := if c.column == 0 && c.peek? == some '\ufeff' then c.next else c
    let c := c.skipWhile fun x => x == ' ' || (x == '\t' && (s.inFlow || !s.keyAllowed))
    let c := if c.peek? == some '#' then c.skipWhile (!isBreak ·) else c
    let s := s.moveTo c
    if c.peek?.any isBreak then
      skipSpace fuel ((s.moveTo c.next).allowKey (s.keyAllowed || !s.inFlow))
    else s

def nameAt (c : Cursor) : Option (Text × Cursor) :=
  let name := c.next.rest.takeWhile isNameChar
  let c := c.skip (name.length + 1)
  if name.isEmpty then none
  else if atGap c.rest || c.peek?.any (['?', ':', ',', ']', '}', '%', '@', '\x60'].contains ·) then
    some (name, c)
  else none

/-- The number at the head of the text, of at most nine digits, and how long it is. -/
def versionNumber (t : Text) : Option (Nat × Nat) :=
  let digits := t.takeWhile Char.isDigit
  if digits.isEmpty || 9 < digits.length then none
  else some (digitsValue 10 digits, digits.length)

def directiveAt (c : Cursor) : Option (Token × Cursor) := do
  let c := c.next
  let name := c.rest.takeWhile isNameChar
  let c := c.skip name.length
  if name.isEmpty || !atGap c.rest then none
  let c := c.skipWhile isSpaceOrTab
  let (token, c) ←
    if name = "YAML".toList then do
      let (major, n) ← versionNumber c.rest
      let c := c.skip n
      if c.peek? != some '.' then none
      let (minor, n) ← versionNumber c.next.rest
      some (Token.versionDirective major minor, c.skip (n + 1))
    else if name = "TAG".toList then do
      let handle ← handleAt c.rest
      if handle != ['!'] && handle.getLast? != some '!' then none
      let c := c.skip handle.length
      if !c.peek?.any isSpaceOrTab then none
      let c := c.skipWhile isSpaceOrTab
      let start := c.rest.takeWhile (isTagChar true)
      let c := c.skip start.length
      if start.isEmpty || !atGap c.rest then none
      some (Token.tagDirective handle (← tagOctets start), c)
    else none
  let c := c.skipWhile isSpaceOrTab
  let c := if c.peek? == some '#' then c.skipWhile (!isBreak ·) else c
  if atBreak c.rest then some (token, c.next) else none

def openFlow (s : Scanner) (t : Token) : Option Scanner := do
  let s ← s.saveKey
  some { (s.moveTo s.cursor.next).emit t with keys := none :: s.keys, keyAllowed := true }

def closeFlow (s : Scanner) (t : Token) : Option Scanner := do
  let s ← s.dropKey
  let keys := if s.inFlow then s.keys.tail else s.keys
  some { (s.moveTo s.cursor.next).emit t with keys, keyAllowed := false }

/-- Reads the sign of an entry or of a key of a block; it opens the block where that starts. -/
def blockSign (s : Scanner) (opening t : Token) : Option Scanner := do
  if !s.inFlow && !s.keyAllowed then none
  let s := s.openBlock s.cursor.column s.tokens.size opening
  let s ← s.dropKey
  some ((s.moveTo s.cursor.next).emit t)

/-- Reads the colon before a value. A key noted earlier gets its token now. -/
def valueSign (s : Scanner) : Option Scanner :=
  match s.keys with
  | some key :: keys =>
    let s := { s with tokens := s.tokens.insertIdxIfInBounds key.token .key, keys := none :: keys }
    let s := s.openBlock key.column key.token .blockMappingStart
    some (((s.moveTo s.cursor.next).emit .value).allowKey false)
  | _ => do
    if !s.inFlow && !s.keyAllowed then none
    let s := s.openBlock s.cursor.column s.tokens.size .blockMappingStart
    some (((s.moveTo s.cursor.next).emit .value).allowKey !s.inFlow)

/-- Characters that a plain scalar does not start with, unless the next one allows it. -/
def isIndicator (c : Char) : Bool :=
  ['-', '?', ':', ',', '[', ']', '{', '}', '#', '&', '*', '!', '|', '>', '\'', '"', '%', '@',
    '\x60'].contains c

def startsPlain (s : Scanner) (x : Char) (rest : Text) : Bool :=
  !(isIndicator x || isGap x) || (x == '-' && !rest.head?.any isSpaceOrTab) ||
    (!s.inFlow && (x == '?' || x == ':') && !atGap rest)

/-- Ends the blocks before a mark or a directive. -/
def leaveDocument (s : Scanner) : Option Scanner := do
  let s ← (s.closeTo (-1)).dropKey
  some (s.allowKey false)

def readToken (s : Scanner) (x : Char) (rest : Text) : Option Scanner :=
  let c := s.cursor
  if c.column == 0 && x == '%' then do
    let s ← s.leaveDocument
    let (t, c) ← directiveAt c
    some ((s.moveTo c).emit t)
  else if c.atDocumentMark then do
    let s ← s.leaveDocument
    some ((s.moveTo (c.skip 3)).emit (if x == '-' then .documentStart else .documentEnd))
  else if x == '[' then s.openFlow .flowSequenceStart
  else if x == '{' then s.openFlow .flowMappingStart
  else if x == ']' then s.closeFlow .flowSequenceEnd
  else if x == '}' then s.closeFlow .flowMappingEnd
  else if x == ',' then do
    let s ← s.dropKey
    some (((s.moveTo c.next).emit .flowEntry).allowKey true)
  else if x == '-' && atGap rest then do
    let s ← s.blockSign .blockSequenceStart .blockEntry
    some (s.allowKey true)
  else if x == '?' && (s.inFlow || atGap rest) then do
    let s ← s.blockSign .blockMappingStart .key
    some (s.allowKey !s.inFlow)
  else if x == ':' && (s.inFlow || atGap rest) then s.valueSign
  else if x == '*' || x == '&' then do
    let s ← s.saveKey
    let (name, c) ← nameAt c
    some (((s.moveTo c).emit (if x == '*' then .alias name else .anchor name)).allowKey false)
  else if x == '!' then do
    let s ← s.saveKey
    let (tag, c) ← tagAt c
    if atGap c.rest || (s.inFlow && c.peek? == some ',') then
      some (((s.moveTo c).emit (.tag tag)).allowKey false)
    else none
  else if (x == '|' || x == '>') && !s.inFlow then do
    let s ← s.dropKey
    let (text, c) ← blockAt (x == '|') s.indent c
    some (((s.moveTo c).emit (.scalar false text)).allowKey true)
  else if x == '\'' || x == '"' then do
    let s ← s.saveKey
    let (text, c) ← quotedAt x c
    some (((s.moveTo c).emit (.scalar false text)).allowKey false)
  else if s.startsPlain x rest then do
    let s ← s.saveKey
    let scanned ← plainAt s.inFlow (s.indent + 1).toNat c
    some (((s.moveTo scanned.cursor).emit (.scalar true scanned.text)).allowKey scanned.lineEnded)
  else none

def readAll : Nat → Scanner → Option (Array Token)
  | 0, _ => none
  | fuel + 1, s => do
    let s ← (skipSpace (s.cursor.rest.length + 1) s).dropStaleKeys
    let s := s.closeTo s.cursor.column
    match s.cursor.rest with
    | [] =>
      let s ← s.leaveDocument
      some (s.emit .streamEnd).tokens
    | x :: rest => readAll fuel (← s.readToken x rest)

end Scanner

def tokens? (t : Text) : Option (List Token) :=
  if t.all isAllowed then
    (Scanner.readAll (t.length + 1) (.start (unifyBreaks t))).map Array.toList
  else none

end SafeOutput.Yaml
