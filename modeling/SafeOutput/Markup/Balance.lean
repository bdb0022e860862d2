import SafeOutput.Markup.Element
import Std.Data.HashMap

namespace SafeOutput.Markup

structure BareTag where
  name : Text
  closing : Bool
  deriving DecidableEq, Repr

def BareTag.opener (name : Text) : BareTag := ⟨name, false⟩

def BareTag.closer (name : Text) : BareTag := ⟨name, true⟩

def BareTag.render (t : BareTag) : Text :=
  (if t.closing then "</" else "<").toList ++ t.name ++ ['>']

def renderTags (ts : List BareTag) : Text :=
  ts.flatMap BareTag.render

/-- What stands in place of each tag of a run, and the closers of what is open after it. -/
structure Balanced where
  rendered : List (List BareTag)
  autoClose : List BareTag
  deriving DecidableEq, Repr

/-- The open elements, innermost first, and how often each name is among them. -/
structure Nesting where
  stack : List Text
  counts : Std.HashMap Text Nat

def Nesting.empty : Nesting := ⟨[], ∅⟩

/-- Splits a stack behind the nearest element of the name. -/
def popThrough? (name : Text) : List Text → Option (List Text × List Text)
  | [] => none
  | n :: ns =>
    if n = name then some ([n], ns)
    else (popThrough? name ns).map fun (popped, rest) => (n :: popped, rest)

def Nesting.push (s : Nesting) (name : Text) : Nesting :=
  ⟨name :: s.stack, s.counts.insert name (s.counts.getD name 0 + 1)⟩

/-- The counts after elements of these names are closed. -/
def uncount (counts : Std.HashMap Text Nat) (names : List Text) : Std.HashMap Text Nat :=
  names.foldl (fun m n => m.insert n (m.getD n 0 - 1)) counts

/-- What a tag becomes, and the open elements behind it. A closer of an element that is not open is
dropped; any other first closes what was opened inside its element. The counts spare a stray closer
the search of the stack. -/
def Nesting.step (s : Nesting) (t : BareTag) : List BareTag × Nesting :=
  if t.closing then
    if s.counts.getD t.name 0 = 0 then ([], s)
    else
      match popThrough? t.name s.stack with
      | some (popped, rest) => (popped.map BareTag.closer, ⟨rest, uncount s.counts popped⟩)
      | none => ([], s)
  else ([t], if isVoid t.name then s else s.push t.name)

def Nesting.run (s : Nesting) : List BareTag → List (List BareTag) × Nesting
  | [] => ([], s)
  | t :: ts =>
    let (out, s') := s.step t
    let (outs, final) := s'.run ts
    (out :: outs, final)

def balance (ts : List BareTag) : Balanced :=
  let (rendered, final) := Nesting.empty.run ts
  ⟨rendered, final.stack.map BareTag.closer⟩

/-- How many closers of the run found no element to close. -/
def Balanced.dropped (b : Balanced) (ts : List BareTag) : Nat :=
  (ts.zip b.rendered).countP fun (t, out) => t.closing && out.isEmpty

end SafeOutput.Markup
