import SafeOutput.Text.Basic
import SafeOutput.Text.CaseTable

namespace SafeOutput.Text

def LowerRun.covers (r : LowerRun) (n : Nat) : Bool :=
  r.first ≤ n && n ≤ r.last && (n - r.first) % r.step == 0

/-- Lower case of one character, its surroundings aside. -/
def lowerChar (c : Char) : Text :=
  if c.toNat < 128 then [c.toLower]
  else if c.toNat == 0x130 then ['i', '\u0307']
  else
    match lowerRuns.find? (·.covers c.toNat) with
    | some r => [Char.ofNat (c.toNat + r.offset).toNat]
    | none => [c]

/-- Whether a letter with case comes next, past the characters that case mapping ignores. -/
def casedNext (t : Text) : Bool :=
  match t.dropWhile fun c => inRanges caseIgnorableRanges c.toNat with
  | [] => false
  | c :: _ => inRanges casedRanges c.toNat

/-- Lower case of a text that follows `before`, which is given backwards. A capital sigma takes its
final form at the end of a word. -/
def lowercaseAfter (before : Text) : Text → Text
  | [] => []
  | c :: cs =>
    (if c == 'Σ' then (if casedNext before && !casedNext cs then ['ς'] else ['σ'])
      else lowerChar c) ++ lowercaseAfter (c :: before) cs

/-- Lower case by the full mapping of all scripts. -/
def lowercase (t : Text) : Text :=
  lowercaseAfter [] t

end SafeOutput.Text
