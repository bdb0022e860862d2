import SafeOutput.Content.Basic
import SafeOutput.Decimal.Printer

namespace SafeOutput

open Text

/-- What a template prints. -/
inductive Value where
  | null
  | int (n : Int)
  | float (x : Binary64)
  | str (t : Text)
  | content (c : Content)
  deriving DecidableEq, Repr

namespace Value

def isNull : Value → Bool
  | null => true
  | _ => false

/-- The text of a value. Null prints as nothing. -/
def display : Value → Text
  | null => []
  | int n => (if n < 0 then ['-'] else []) ++ decimal n.natAbs
  | float x => x.render
  | str t => t
  | content c => c.text

def isContent : Value → Bool
  | content _ => true
  | _ => false

def contentIf? (kind : Kind) : Value → Option Text
  | content c => if c.kind = kind then some c.text else none
  | _ => none

def isKind (v : Value) (kind : Kind) : Bool :=
  (v.contentIf? kind).isSome

def dir : Value → Option Direction
  | content c => c.dir
  | _ => none

/-- Equality of values, in which floats compare as numbers. -/
def eqv : Value → Value → Bool
  | float x, float y => x.eqv y
  | v, w => v == w

end Value

end SafeOutput
