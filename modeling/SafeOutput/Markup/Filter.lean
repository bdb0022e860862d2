import SafeOutput.Escape.Html
import SafeOutput.Journal
import SafeOutput.Markup.Balance
import SafeOutput.Markup.TagSet
import SafeOutput.Markup.Token

namespace SafeOutput.Markup

open Text

def gaps (ts : List Token) : Text :=
  ts.flatMap fun
    | .text gap => gap
    | .tag _ => []

/-- Deletes the tags and only then escapes `<`, so that no tag can form around a deleted one. -/
def stripAll (t : Text) : Text :=
  replaceChar '<' "&lt;".toList (gaps (Grammar.markup.tokens t))

/-- The bare form of a tag whose name is allowed. -/
def keep? (allowed : TagSet) (tag : Tag) : Option BareTag :=
  match tag.name with
  | some name => if allowed.contains name then some ⟨name, tag.closing⟩ else none
  | none => none

def keptTags (allowed : TagSet) : List Token → List BareTag
  | [] => []
  | .text _ :: ts => keptTags allowed ts
  | .tag tag :: ts => (keep? allowed tag).toList ++ keptTags allowed ts

def removedCount (allowed : TagSet) (ts : List Token) : Nat :=
  ts.countP fun
    | .text _ => false
    | .tag tag => (keep? allowed tag).isNone

def marker (n : Nat) : Text :=
  '[' :: decimal n ++ [']']

/-- The gaps with a marker in place of each allowed tag, the first of them numbered `n`. -/
def markFrom (allowed : TagSet) (n : Nat) : List Token → Text
  | [] => []
  | .text gap :: ts => gap ++ markFrom allowed n ts
  | .tag tag :: ts =>
    if (keep? allowed tag).isSome then marker n ++ markFrom allowed (n + 1) ts
    else markFrom allowed n ts

/-- The number that decimal digits denote; digits beyond ASCII denote none. -/
def number? (digits : Text) : Option Nat :=
  if digits.all Char.isDigit then
    some (digits.foldl (fun n d => 10 * n + (d.toNat - '0'.toNat)) 0)
  else none

/-- The digits of the marker whose `[` stands before the text, and what follows the marker. -/
def markerAt (cs : Text) : Option (Text × Text) :=
  match cs.takeWhile isDecimalDigit, cs.dropWhile isDecimalDigit with
  | d :: ds, ']' :: rest => some (d :: ds, rest)
  | _, _ => none

theorem markerAt_length {cs digits rest : Text} (h : markerAt cs = some (digits, rest)) :
    rest.length < cs.length := by
  unfold markerAt at h
  have hl := (cs.dropWhile_sublist isDecimalDigit).length_le
  split at h
  case h_1 hd => simp at h; simp [hd, h.2] at hl; omega
  · simp at h

/-- Puts the tags in place of their markers. A marker without tags vanishes. -/
def splice (rendered : Array (List BareTag)) : Text → Text
  | [] => []
  | c :: cs =>
    if c = '[' then
      match h : markerAt cs with
      | some (digits, rest) =>
        have := markerAt_length h
        ((number? digits).bind (rendered[·]?)).elim [] renderTags ++ splice rendered rest
      | none => c :: splice rendered cs
    else c :: splice rendered cs
termination_by cs => cs.length

structure Filtered where
  text : Text
  kept : Nat
  removed : Nat
  droppedClosers : Nat
  autoClosed : Bool

/-- Keeps the allowed tags, bare and well nested, and escapes the rest. The kept tags are held by
markers while the gaps are escaped; a `[` of the text itself is written as a reference, so that it
makes no marker. -/
def filterAllowed (allowed : TagSet) (t : Text) : Filtered :=
  let tokens := Grammar.markup.tokens (replaceChar '[' "&#91;".toList t)
  let tags := keptTags allowed tokens
  let balanced := balance tags
  let escaped := Escape.tidyHtml (markFrom allowed 0 tokens)
  { text := splice balanced.rendered.toArray escaped ++ renderTags balanced.autoClose
    kept := tags.length
    removed := removedCount allowed tokens
    droppedClosers := balanced.dropped tags
    autoClosed := !balanced.autoClose.isEmpty }

/-- Deletes the tags that are not allowed; without an allow-list, or with an empty one, every
tag. -/
def stripTags (allowed : Option TagSet) (t : Text) : Journal Text :=
  match allowed with
  | some allowed =>
    if allowed.isEmpty then pure (stripAll t)
    else
      let f := filterAllowed allowed t
      ⟨f.text, [.markupFiltered f.kept f.removed f.droppedClosers f.autoClosed]⟩
  | none => pure (stripAll t)

end SafeOutput.Markup
