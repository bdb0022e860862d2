import SafeOutput.Text.Hex
import SafeOutput.Yaml.Cursor

namespace SafeOutput.Yaml

open Text

/-- Breaks behind a first break: a single line end folds into a space, and of several the first is
dropped. -/
def foldBreaks (first : Char) (more : Text) : Text :=
  if first = '\n' then (if more.isEmpty then [' '] else more) else first :: more

/-- What a gap inside a scalar stands for: white space as it is, or the line ends without the white
space around them. -/
def foldGap (run : Text) : Text :=
  match run.filter isBreak with
  | [] => run
  | first :: more => foldBreaks first more

/-- Whether a line of the gap is indented by a tab before `column`; `at?` is the column within the
line, and nothing counts on the first line. -/
def tabIndents (column : Nat) (at? : Option Nat) : Text → Bool
  | [] => false
  | c :: cs =>
    if isBreak c then tabIndents column (some 0) cs
    else at?.any (fun n => n < column && c == '\t') || tabIndents column (at?.map (· + 1)) cs

def isFlowSign (c : Char) : Bool :=
  c == ',' || c == '[' || c == ']' || c == '{' || c == '}'

/-- The characters of a plain scalar up to a gap or a sign that ends it. -/
def plainWord (inFlow : Bool) : Text → Option Text
  | [] => some []
  | c :: cs =>
    if isGap c then some []
    else if inFlow && c == ':' && cs.head?.any (fun x => isFlowSign x || x == '?') then none
    else if (c == ':' && atGap cs) || (inFlow && isFlowSign c) then some []
    else (plainWord inFlow cs).map (c :: ·)

/-- A scalar as it was read: its text, whether a line ended behind it, and what follows. -/
structure Scanned where
  text : Text
  lineEnded : Bool
  cursor : Cursor

/-- Reads a plain scalar on from `acc`, behind which `gap` stands. The lines of a scalar outside
brackets start at `indent` or further right. -/
def plainFrom (inFlow : Bool) (indent : Nat) :
    Nat → Text → Text → Bool → Cursor → Option Scanned
  | 0, acc, _, lineEnded, c => some ⟨acc, lineEnded, c⟩
  | fuel + 1, acc, gap, lineEnded, c =>
    if c.atDocumentMark || c.peek? == some '#' then some ⟨acc, lineEnded, c⟩
    else
      match plainWord inFlow c.rest with
      | none => none
      | some [] => some ⟨acc, lineEnded, c⟩
      | some word =>
        let acc := acc ++ gap ++ word
        let c := c.skip word.length
        let run := c.rest.takeWhile isGap
        if run.isEmpty then some ⟨acc, false, c⟩
        else if tabIndents indent none run then none
        else
          let c := c.skip run.length
          let lineEnded := run.any isBreak
          if !inFlow && c.column < indent then some ⟨acc, lineEnded, c⟩
          else plainFrom inFlow indent fuel acc (foldGap run) lineEnded c

def plainAt (inFlow : Bool) (indent : Nat) (c : Cursor) : Option Scanned :=
  plainFrom inFlow indent (c.rest.length + 1) [] [] false c

def escapedCode (count : Nat) (cs : Text) : Option (Char × Nat) :=
  let digits := cs.take count
  let n := digitsValue 16 digits
  if digits.length = count ∧ digits.all isHexDigit ∧ n.isValidChar then
    some (Char.ofNat n, count + 1)
  else none

/-- The character of the escape whose backslash stands before the text, and the length of the
escape. -/
def escapedChar : Text → Option (Char × Nat)
  | [] => none
  | c :: cs =>
    match c with
    | '0' => some ('\x00', 1)
    | 'a' => some ('\x07', 1)
    | 'b' => some ('\x08', 1)
    | 't' | '\t' => some ('\t', 1)
    | 'n' => some ('\n', 1)
    | 'v' => some ('\x0b', 1)
    | 'f' => some ('\x0c', 1)
    | 'r' => some ('\r', 1)
    | 'e' => some ('\x1b', 1)
    | ' ' | '"' | '/' | '\\' => some (c, 1)
    | 'N' => some ('\u0085', 1)
    | '_' => some ('\u00a0', 1)
    | 'L' => some ('\u2028', 1)
    | 'P' => some ('\u2029', 1)
    | 'x' => escapedCode 2 cs
    | 'u' => escapedCode 4 cs
    | 'U' => escapedCode 8 cs
    | _ => none

/-- Reads a quoted scalar on from its text so far, which is given backwards. -/
def quotedFrom (quote : Char) : Nat → Text → Cursor → Option (Text × Cursor)
  | 0, _, _ => none
  | fuel + 1, acc, c =>
    if c.atDocumentMark then none
    else
      match c.rest with
      | [] => none
      | x :: rest =>
        if isGap x then
          let run := c.rest.takeWhile isGap
          quotedFrom quote fuel ((foldGap run).reverse ++ acc) (c.skip run.length)
        else if quote == '"' && x == '\\' then
          if rest.head?.any isBreak then
            let run := rest.tail.takeWhile isGap
            quotedFrom quote fuel ((run.filter isBreak).reverse ++ acc) (c.skip (2 + run.length))
          else
            match escapedChar rest with
            | some (y, length) => quotedFrom quote fuel (y :: acc) (c.skip (length + 1))
            | none => none
        else if x == quote then
          if quote == '\'' && rest.head? == some '\'' then quotedFrom quote fuel (x :: acc) (c.skip 2)
          else some (acc.reverse, c.next)
        else quotedFrom quote fuel (x :: acc) c.next

def quotedAt (quote : Char) (c : Cursor) : Option (Text × Cursor) :=
  quotedFrom quote (c.rest.length + 1) [] c.next

/-- What becomes of the line ends behind a block scalar. -/
inductive Chomping where
  | strip
  | clip
  | keep
  deriving DecidableEq

/-- The chomping and the indentation that stand behind the sign of a block scalar, in either order;
zero stands for no indentation. -/
def blockHeader (t : Text) : Option (Chomping × Nat × Nat) :=
  let chomping? : Text → Option Chomping := fun
    | '+' :: _ => some .keep
    | '-' :: _ => some .strip
    | _ => none
  let digit? : Text → Option Nat := fun t =>
    (t.head?.filter Char.isDigit).map fun d => d.toNat - '0'.toNat
  let (chomping, n, length) := match chomping? t with
    | some ch => match digit? t.tail with
      | some n => (ch, some n, 2)
      | none => (ch, none, 1)
    | none => match digit? t with
      | some n => match chomping? t.tail with
        | some ch => (ch, some n, 2)
        | none => (.clip, some n, 1)
      | none => (.clip, none, 0)
  if n = some 0 then none else some (chomping, n.getD 0, length)

/-- Skips the indentation and empty lines before a line of a block scalar: the line ends that were
skipped and the deepest column that was reached. An `indent` of zero is not known yet. -/
def blockBreaks (indent : Nat) : Nat → Text → Nat → Cursor → Option (Text × Nat × Cursor)
  | 0, breaks, deepest, c => some (breaks, deepest, c)
  | fuel + 1, breaks, deepest, c =>
    let spaces := (c.rest.takeWhile (· == ' ')).length
    let c := c.skip (if indent = 0 then spaces else min spaces (indent - c.column))
    let deepest := max deepest c.column
    match c.rest with
    | [] => some (breaks, deepest, c)
    | x :: _ =>
      if x == '\t' && (indent = 0 || c.column < indent) then none
      else if isBreak x then blockBreaks indent fuel (breaks ++ [x]) deepest c.next
      else some (breaks, deepest, c)

/-- Reads the lines of a block scalar: its text, the end of its last line and the line ends behind
that. `lastBlank` says that the last line started with white space. -/
def blockLines (literal : Bool) (indent : Nat) :
    Nat → Text → Text → Text → Bool → Cursor → Option (Text × Text × Text × Cursor)
  | 0, acc, lineEnd, breaks, _, c => some (acc, lineEnd, breaks, c)
  | fuel + 1, acc, lineEnd, breaks, lastBlank, c =>
    match c.rest with
    | [] => some (acc, lineEnd, breaks, c)
    | x :: _ =>
      if c.column ≠ indent then some (acc, lineEnd, breaks, c)
      else
        let blank := isSpaceOrTab x
        let folds := !literal && lineEnd.head? == some '\n' && !lastBlank && !blank
        let joint := if folds then (if breaks.isEmpty then [' '] else []) else lineEnd
        let line := c.rest.takeWhile (!isBreak ·)
        let c := c.skip line.length
        let acc := acc ++ joint ++ breaks ++ line
        match blockBreaks indent (c.rest.length + 1) [] 0 c.next with
        | none => none
        | some (breaks, _, c') =>
          blockLines literal indent fuel acc (c.rest.take 1) breaks blank c'

/-- Reads the block scalar whose sign stands here, inside a block at column `parent`. -/
def blockAt (literal : Bool) (parent : Int) (c : Cursor) : Option (Text × Cursor) := do
  let (chomping, increment, length) ← blockHeader c.next.rest
  let c := (c.skip (length + 1)).skipWhile isSpaceOrTab
  let c := if c.peek? == some '#' then c.skipWhile (!isBreak ·) else c
  if !atBreak c.rest then none
  let c := c.next
  let fixed := if increment = 0 then 0 else (if parent < 0 then 0 else parent.toNat) + increment
  let (breaks, deepest, c) ← blockBreaks fixed (c.rest.length + 1) [] 0 c
  let indent := if fixed = 0 then max (max deepest (parent + 1).toNat) 1 else fixed
  let (text, lineEnd, breaks, c) ←
    blockLines literal indent (c.rest.length + 1) [] [] breaks false c
  let tail := match chomping with
    | .strip => []
    | .clip => lineEnd
    | .keep => lineEnd ++ breaks
  some (text ++ tail, c)

end SafeOutput.Yaml
