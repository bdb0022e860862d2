import SafeOutput.Markup.ReferenceTable
import SafeOutput.Text.Hex

namespace SafeOutput.Markup

open Text

def namedReference? (name : Text) : Option Text :=
  match name with
  | [] => none
  | c :: _ => ((namedReferences c).find? (·.1.toList = name)).map (·.2.map Char.ofNat)

/-- The characters that numeric references to the second control block stand for; those left out
stand for themselves. -/
def controlMeanings : List (Nat × Nat) := [
  (0x80, 0x20AC), (0x82, 0x201A), (0x83, 0x192), (0x84, 0x201E), (0x85, 0x2026), (0x86, 0x2020),
  (0x87, 0x2021), (0x88, 0x2C6), (0x89, 0x2030), (0x8A, 0x160), (0x8B, 0x2039), (0x8C, 0x152),
  (0x8E, 0x17D), (0x91, 0x2018), (0x92, 0x2019), (0x93, 0x201C), (0x94, 0x201D), (0x95, 0x2022),
  (0x96, 0x2013), (0x97, 0x2014), (0x98, 0x2DC), (0x99, 0x2122), (0x9A, 0x161), (0x9B, 0x203A),
  (0x9C, 0x153), (0x9E, 0x17E), (0x9F, 0x178)]

/-- The character of a numeric reference. Zero and numbers without a character give the replacement
character. -/
def referencedChar (n : Nat) : Char :=
  if n = 0 then '\ufffd'
  else
    match controlMeanings.lookup n with
    | some m => Char.ofNat m
    | none => if n.isValidChar then Char.ofNat n else '\ufffd'

def dropSemicolon : Text → Text
  | ';' :: cs => cs
  | cs => cs

/-- A numeric reference from its digits on, and what follows it. -/
def numericAt (base : Nat) (isDigit : Char → Bool) (cs : Text) : Option (Text × Text) :=
  match cs.takeWhile isDigit with
  | [] => none
  | d :: ds =>
    some ([referencedChar (digitsValue base (d :: ds))], dropSemicolon (cs.dropWhile isDigit))

/-- The letters and digits that may be the name of a reference. No name is longer than 31. -/
def referenceName (cs : Text) : Text :=
  (cs.take 31).takeWhile Char.isAlphanum

/-- A reference by name that ends in a semicolon, and what follows it. -/
def closedAt (cs : Text) : Option (Text × Text) :=
  match cs.drop (referenceName cs).length with
  | ';' :: rest => (namedReference? (referenceName cs)).map fun meaning => (meaning, rest)
  | _ => none

/-- A reference that needs no semicolon, at the head of the name, and what follows it. -/
def bareAt (cs : Text) : Option (Text × Text) :=
  match bareReferenceNames.find? (·.toList.isPrefixOf (referenceName cs)) with
  | some bare => (namedReference? bare.toList).map fun meaning => (meaning, cs.drop bare.length)
  | none => none

def namedAt (cs : Text) : Option (Text × Text) :=
  match closedAt cs with
  | some found => some found
  | none => bareAt cs

/-- What the reference whose `&` stands before the text stands for, and what follows it. -/
def referenceAt (cs : Text) : Option (Text × Text) :=
  match cs with
  | '#' :: 'x' :: ds | '#' :: 'X' :: ds => numericAt 16 isHexDigit ds
  | '#' :: ds => numericAt 10 Char.isDigit ds
  | _ => namedAt cs

theorem numericAt_length {base : Nat} {isDigit : Char → Bool} {cs meaning rest : Text}
    (h : numericAt base isDigit cs = some (meaning, rest)) : rest.length ≤ cs.length := by
  unfold numericAt at h
  split at h
  · simp at h
  · simp at h
    have hd := (cs.dropWhile_sublist isDigit).length_le
    rw [← h.2]
    unfold dropSemicolon
    split
    · simp_all
      omega
    · simp_all

theorem closedAt_length {cs meaning rest : Text} (h : closedAt cs = some (meaning, rest)) :
    rest.length ≤ cs.length := by
  unfold closedAt at h
  split at h
  case h_1 hd =>
    obtain ⟨m, -, he⟩ := Option.map_eq_some_iff.1 h
    have hl := congrArg List.length hd
    simp at hl he
    rw [← he.2]
    omega
  · simp at h

theorem bareAt_length {cs meaning rest : Text} (h : bareAt cs = some (meaning, rest)) :
    rest.length ≤ cs.length := by
  unfold bareAt at h
  split at h
  · obtain ⟨m, -, he⟩ := Option.map_eq_some_iff.1 h
    simp at he
    simp [← he.2]
  · simp at h

theorem namedAt_length {cs meaning rest : Text} (h : namedAt cs = some (meaning, rest)) :
    rest.length ≤ cs.length := by
  unfold namedAt at h
  split at h
  case h_1 hc => exact closedAt_length (hc.trans h)
  · exact bareAt_length h

theorem referenceAt_length {cs meaning rest : Text} (h : referenceAt cs = some (meaning, rest)) :
    rest.length ≤ cs.length := by
  unfold referenceAt at h
  split at h
  · have := numericAt_length h; simp; omega
  · have := numericAt_length h; simp; omega
  · have := numericAt_length h; simp; omega
  · exact namedAt_length h

def decodeReferences : Text → Text
  | [] => []
  | c :: cs =>
    if c = '&' then
      match h : referenceAt cs with
      | some (meaning, rest) =>
        have := referenceAt_length h
        meaning ++ decodeReferences rest
      | none => c :: decodeReferences cs
    else c :: decodeReferences cs
termination_by cs => cs.length

end SafeOutput.Markup
