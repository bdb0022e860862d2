import SafeOutput.Text.Basic

namespace SafeOutput.Text

/-- Simple case folding onto ASCII: capital letters, the long s and the Kelvin sign fold to small
letters, and every other character stays. No further character folds to an ASCII letter. -/
def foldChar (c : Char) : Char :=
  if c == '\u017f' then 's' else if c == '\u212a' then 'k' else c.toLower

/-- A letter of `a` to `z` up to case folding. -/
def isFoldedLetter (c : Char) : Bool :=
  (foldChar c).isLower

def isFoldedAlphanum (c : Char) : Bool :=
  isFoldedLetter c || c.isDigit

/-- What follows `word` at the head of the text, up to case folding; `word` is in small letters. -/
def dropFolded? : Text → Text → Option Text
  | [], t => some t
  | _ :: _, [] => none
  | w :: ws, c :: cs => if foldChar c = w then dropFolded? ws cs else none

def startsFolded (word t : Text) : Bool :=
  (dropFolded? word t).isSome

theorem dropFolded?_length {word t rest : Text} (h : dropFolded? word t = some rest) :
    rest.length + word.length = t.length := by
  fun_induction dropFolded? word t with
  | case1 => simp_all
  | case2 => simp at h
  | case3 ws c cs ih => have := ih h; simp; omega
  | case4 => simp at h

end SafeOutput.Text
