import SafeOutput.Markup.Element
import SafeOutput.Markup.Reference
import SafeOutput.Markup.Style

namespace SafeOutput.Markup

open Text

/-- An open element and whether white space is kept in it. -/
structure Frame where
  name : Text
  keepsSpace : Bool
  deriving DecidableEq, Repr

/-- The state of reading a document as plain text: the text so far, last character first, the open
elements, innermost first, and the raw text element whose body is being skipped. -/
structure Extraction where
  out : Text
  frames : List Frame
  skipping : Option Text
  deriving DecidableEq, Repr

/-- Replaces each run of white space by one space; `inRun` says that one has been written. -/
def collapseSpace (inRun : Bool) : Text → Text
  | [] => []
  | c :: cs =>
    if isHtmlSpace c then
      if inRun then collapseSpace true cs else ' ' :: collapseSpace true cs
    else c :: collapseSpace false cs

def dropLeadingSpace : Text → Text
  | ' ' :: cs => cs
  | cs => cs

namespace Extraction

def start : Extraction := ⟨[], [], none⟩

def keepsSpace (e : Extraction) : Bool :=
  e.frames.head?.any Frame.keepsSpace

def endsSolid (e : Extraction) : Bool :=
  e.out.head?.any fun c => !isHtmlSpace c

/-- Writes a gap. Where white space is not kept, a run of it counts as one space, and as nothing
behind other white space. -/
def pushGap (e : Extraction) (gap : Text) : Extraction :=
  let decoded := decodeReferences gap
  if e.keepsSpace then { e with out := decoded.reverse ++ e.out }
  else
    let collapsed := collapseSpace false decoded
    let chunk := if e.endsSolid then collapsed else dropLeadingSpace collapsed
    { e with out := chunk.reverse ++ e.out }

/-- Ends the line, unless nothing is on it. -/
def freshLine (e : Extraction) : Extraction :=
  if e.out.head?.any (· != '\n') then { e with out := '\n' :: e.out } else e

/-- What an element writes where its tag stands. -/
def pushBreak (e : Extraction) (name : Text) (closing : Bool) : Extraction :=
  if !closing && isRawText name then { e with skipping := some name }
  else if !closing && name == "br".toList then { e with out := '\n' :: e.out }
  else if isBlock name then e.freshLine
  else if !closing && isCell name then { e with out := '\t' :: e.out }
  else e

/-- Closes the nearest element of the name and all inside it; without one, everything. -/
def closeFrames (name : Text) : List Frame → List Frame
  | [] => []
  | f :: fs => if f.name = name then fs else closeFrames name fs

/-- White space is kept in a `pre` and as a style says, else as it is outside. -/
def openFrame (e : Extraction) (name attrs : Text) : Extraction :=
  let keeps := name == "pre".toList || (attributesKeepSpace attrs).getD e.keepsSpace
  { e with frames := ⟨name, keeps⟩ :: e.frames }

def pushTag (e : Extraction) (tag : Tag) : Extraction :=
  match tag.name, e.skipping with
  | none, _ => e
  | some name, some skipped =>
    if tag.closing && name == skipped then { e with skipping := none } else e
  | some name, none =>
    let e := e.pushBreak name tag.closing
    if tag.closing then { e with frames := closeFrames name e.frames }
    else if isVoid name then e
    else e.openFrame name tag.attrs

def push (e : Extraction) : Token → Extraction
  | .text gap => if e.skipping.isSome then e else e.pushGap gap
  | .tag tag => e.pushTag tag

end Extraction

/-- The text of a document, no-break spaces written as spaces. -/
def plainText (html : Text) : Text :=
  let e := (Grammar.document.tokens html).foldl Extraction.push .start
  e.out.reverse.map fun c => if c = '\u00a0' then ' ' else c

end SafeOutput.Markup
