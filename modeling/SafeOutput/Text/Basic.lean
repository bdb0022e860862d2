namespace SafeOutput

/-- Text is handled as the list of its characters. -/
abbrev Text := List Char

namespace Text

instance : Hashable Text := ⟨fun t => (String.ofList t).hash⟩

def byteSize (t : Text) : Nat :=
  t.foldr (fun c n => c.utf8Size + n) 0

@[simp] theorem byteSize_nil : byteSize [] = 0 := rfl

@[simp] theorem byteSize_cons (c : Char) (t : Text) :
    byteSize (c :: t) = c.utf8Size + byteSize t := rfl

@[simp] theorem byteSize_append (s t : Text) : byteSize (s ++ t) = byteSize s + byteSize t := by
  induction s with
  | nil => simp
  | cons c s ih => simp [ih, Nat.add_assoc]

/-- Lower case for the letters `A` to `Z` only. -/
def lowerAscii (t : Text) : Text :=
  t.map Char.toLower

def replaceChar (c : Char) (r : Text) (t : Text) : Text :=
  t.flatMap fun x => if x = c then r else [x]

/-- Whether a code point lies in one of the ranges, ends included. -/
def inRanges (ranges : List (Nat × Nat)) (n : Nat) : Bool :=
  ranges.any fun r => r.1 ≤ n && n ≤ r.2

def decimal (n : Nat) : Text :=
  Nat.toDigits 10 n

end Text

end SafeOutput
