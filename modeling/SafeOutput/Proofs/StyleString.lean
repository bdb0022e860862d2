import Mathlib
import SafeOutput.Escape.Css
import SafeOutput.Proofs.Numeral
import SafeOutput.Proofs.Text

namespace SafeOutput.Css

open Text Escape

variable {c d quote : Char} {t body digits before after : Text}

def lineEnds : List Char := ['\n', '\r', '\x0c']

def isSpace (c : Char) : Bool :=
  c == ' ' || c == '\t' || lineEnds.contains c

/-- What follows the white space at the head of the text, of which at most one is taken. A carriage
return and the line feed behind it are one. -/
def dropSpace : Text → Text
  | '\r' :: '\n' :: cs => cs
  | c :: cs => if isSpace c then cs else c :: cs
  | [] => []

def digitRun (t : Text) : Text :=
  (t.takeWhile isHexDigit).take 6

/-- The character of a number. The replacement character stands for a number that has none. Zero is
a number like the others here, although browsers put the replacement character for it too. -/
def numbered (n : Nat) : Char :=
  if n.isValidChar then Char.ofNat n else '\ufffd'

/-- A backslash before another sign denotes that sign, and before the end of a line or of the text
nothing. -/
def signAt : Text → Option Char × Text
  | [] => (none, [])
  | c :: cs => if lineEnds.contains c then (none, dropSpace (c :: cs)) else (some c, cs)

def escapeAt (t : Text) : Option Char × Text :=
  if digitRun t ≠ [] then
    (some (numbered (digitsValue 16 (digitRun t))), dropSpace (t.drop (digitRun t).length))
  else signAt t

theorem length_dropSpace (t : Text) : (dropSpace t).length ≤ t.length := by
  fun_cases dropSpace t <;> simp only [List.length_cons, List.length_nil] <;> omega

theorem length_signAt (t : Text) : (signAt t).2.length ≤ t.length := by
  cases t with
  | nil => exact Nat.le_refl 0
  | cons c cs =>
    rw [signAt]
    split
    case isTrue => exact length_dropSpace (c :: cs)
    case isFalse => exact Nat.le_succ cs.length

theorem length_escapeAt (t : Text) : (escapeAt t).2.length ≤ t.length := by
  rw [escapeAt]
  split
  case isTrue =>
    apply (length_dropSpace _).trans
    rw [List.length_drop]
    exact Nat.sub_le _ _
  case isFalse => exact length_signAt t

/-- What a text denotes, its escapes read from left to right. -/
def unescape : Text → Text
  | [] => []
  | c :: cs =>
    if c = '\\' then
      have := length_escapeAt cs
      (escapeAt cs).1.toList ++ unescape (escapeAt cs).2
    else c :: unescape cs
termination_by t => t.length
decreasing_by all_goals simp only [List.length_cons]; omega

/-- What the string denotes whose opening quote stands before the text, and what follows its closing
quote. -/
def stringAt? (quote : Char) : Text → Option (Text × Text)
  | [] => none
  | c :: cs =>
    if c = quote then some ([], cs)
    else if c ∈ lineEnds then none
    else if c = '\\' then
      have := length_escapeAt cs
      (stringAt? quote (escapeAt cs).2).map (Prod.map ((escapeAt cs).1.toList ++ ·) id)
    else (stringAt? quote cs).map (Prod.map (c :: ·) id)
termination_by t => t.length
decreasing_by all_goals simp only [List.length_cons]; omega

def quotes : List Char := ['"', '\'']

section Reading

/-- Behind a backslash, the text denotes the character, whatever follows. -/
def Denotes (body : Text) (c : Char) : Prop :=
  ∀ rest, escapeAt (body ++ rest) = (some c, rest)

theorem digitRun_append (hd : ∀ d ∈ digits, isHexDigit d) (hl : digits.length ≤ 6) (rest : Text) :
    digitRun (digits ++ ' ' :: rest) = digits := by
  have hstop : (' ' :: rest).takeWhile isHexDigit = [] :=
    List.takeWhile_cons_of_neg Bool.false_ne_true
  rw [digitRun, List.takeWhile_append_of_pos hd, hstop, List.append_nil]
  exact List.take_of_length_le hl

/-- The space behind the digits ends the escape, so that no digit and no space of what follows is
taken for a part of it. -/
theorem denotes_digits (hne : digits ≠ []) (hd : ∀ d ∈ digits, isHexDigit d)
    (hl : digits.length ≤ 6) (hv : digitsValue 16 digits = c.toNat) :
    Denotes (digits ++ [' ']) c := by
  intro rest
  have hc : numbered c.toNat = c := by
    have hvalid : c.toNat.isValidChar := c.valid
    rw [numbered, if_pos hvalid, Char.ofNat_toNat]
  have hspace : dropSpace (' ' :: rest) = rest := rfl
  rw [List.append_assoc, List.singleton_append, escapeAt, digitRun_append hd hl, if_pos hne, hv, hc,
    List.drop_left, hspace]

theorem unescape_nil : unescape [] = [] := by
  rw [unescape]

theorem unescape_plain (hc : c ≠ '\\') (cs : Text) : unescape (c :: cs) = c :: unescape cs := by
  rw [unescape, if_neg hc]

theorem unescape_escape (h : Denotes body c) (rest : Text) :
    unescape ('\\' :: (body ++ rest)) = c :: unescape rest := by
  rw [unescape, if_pos rfl, h rest]
  rfl

theorem stringAt?_plain (hq : c ≠ quote) (hl : c ∉ lineEnds) (hc : c ≠ '\\') (cs : Text) :
    stringAt? quote (c :: cs) = (stringAt? quote cs).map (Prod.map (c :: ·) id) := by
  rw [stringAt?, if_neg hq, if_neg hl, if_neg hc]

theorem stringAt?_escape (hq : quote ≠ '\\') (h : Denotes body c) (rest : Text) :
    stringAt? quote ('\\' :: (body ++ rest)) =
      (stringAt? quote rest).map (Prod.map (c :: ·) id) := by
  rw [stringAt?, if_neg hq.symm, if_neg (by decide), if_pos rfl, h rest]
  rfl

end Reading

section Writing

def stringChar (c : Char) : Text :=
  if endsCssString c then cssEscape c else [c]

theorem escapeCssString_cons (c : Char) (cs : Text) :
    escapeCssString (c :: cs) = stringChar c ++ escapeCssString cs :=
  List.flatMap_cons

structure IsNumeral (digits : Text) (c : Char) : Prop where
  ne_nil : digits ≠ []
  hexDigits : ∀ d ∈ digits, isHexDigit d
  length_le : digits.length ≤ 6
  value : digitsValue 16 digits = c.toNat

theorem isNumeral_hex (c : Char) : IsNumeral (hex 1 c.toNat) c where
  ne_nil := hex_ne_nil 1 c.toNat
  hexDigits _ hd := isHexDigit_of_mem_hex hd
  length_le := by
    apply length_hex_le (by decide) (by decide)
    have hc : c.toNat.isValidChar := c.valid
    unfold Nat.isValidChar at hc
    omega
  value := digitsValue_hex 1 c.toNat

theorem IsNumeral.denotes (h : IsNumeral digits c) : Denotes (digits ++ [' ']) c :=
  denotes_digits h.ne_nil h.hexDigits h.length_le h.value

theorem stringChar_cases (c : Char) :
    endsCssString c ∧ (∃ digits, IsNumeral digits c ∧ stringChar c = '\\' :: (digits ++ [' '])) ∨
      endsCssString c = false ∧ stringChar c = [c] := by
  rw [stringChar]
  cases hc : endsCssString c with
  | true => exact .inl ⟨rfl, hex 1 c.toNat, isNumeral_hex c, rfl⟩
  | false => exact .inr ⟨rfl, rfl⟩

theorem ne_of_not_endsCssString (h : endsCssString c = false) (hd : endsCssString d) : c ≠ d := by
  rintro rfl
  rw [hd] at h
  cases h

theorem unescape_stringChar (c : Char) (rest : Text) :
    unescape (stringChar c ++ rest) = c :: unescape rest := by
  rcases stringChar_cases c with ⟨-, digits, hd, he⟩ | ⟨hc, he⟩
  · rw [he, List.cons_append, unescape_escape hd.denotes]
  · rw [he, List.singleton_append]
    apply unescape_plain
    exact ne_of_not_endsCssString hc (by decide)

theorem unescape_append (t rest : Text) :
    unescape (escapeCssString t ++ rest) = t ++ unescape rest := by
  induction t with
  | nil => rfl
  | cons c cs ih =>
    rw [escapeCssString_cons, List.append_assoc, unescape_stringChar, ih, List.cons_append]

theorem unescape_escapeCssString (t : Text) : unescape (escapeCssString t) = t := by
  have h := unescape_append t []
  rw [List.append_nil, unescape_nil, List.append_nil] at h
  exact h

theorem stringAt?_stringChar (hq : quote ∈ quotes) (c : Char) (rest : Text) :
    stringAt? quote (stringChar c ++ rest) =
      (stringAt? quote rest).map (Prod.map (c :: ·) id) := by
  have hends : (quotes ++ lineEnds).all endsCssString := by decide
  have hlisted := List.all_eq_true.1 hends
  rcases stringChar_cases c with ⟨-, digits, hd, he⟩ | ⟨hc, he⟩
  · rw [he, List.cons_append]
    apply stringAt?_escape _ hd.denotes
    rintro rfl
    exact absurd hq (by decide)
  · rw [he, List.singleton_append]
    apply stringAt?_plain
    · exact ne_of_not_endsCssString hc (hlisted quote (List.mem_append_left _ hq))
    · intro hl
      exact ne_of_not_endsCssString hc (hlisted c (List.mem_append_right _ hl)) rfl
    · exact ne_of_not_endsCssString hc (by decide)

theorem stringAt?_escapeCssString (hq : quote ∈ quotes) (t rest : Text) :
    stringAt? quote (escapeCssString t ++ quote :: rest) = some (t, rest) := by
  induction t with
  | nil =>
    have hnil : escapeCssString [] = [] := rfl
    rw [hnil, List.nil_append, stringAt?, if_pos rfl]
  | cons c cs ih =>
    rw [escapeCssString_cons, List.append_assoc, stringAt?_stringChar hq, ih]
    rfl

theorem not_endsCssString_of_isHexDigit (h : isHexDigit d) : endsCssString d = false := by
  rw [Bool.eq_false_iff]
  intro hd
  have hnone := (List.all_eq_true (p := (!isHexDigit ·))).1 (by decide) d
    (List.contains_iff_mem.1 hd)
  rw [h] at hnone
  cases hnone

theorem IsNumeral.not_endsCssString (h : IsNumeral digits c) (hd : d ∈ digits ++ [' ']) :
    endsCssString d = false := by
  rcases List.mem_append.1 hd with hm | hm
  · exact not_endsCssString_of_isHexDigit (h.hexDigits d hm)
  · rw [List.mem_singleton.1 hm]
    decide

theorem eq_backslash_of_mem (hm : d ∈ escapeCssString t) (hd : endsCssString d) : d = '\\' := by
  obtain ⟨c, -, hc⟩ := List.mem_flatMap.1 hm
  have hwritten : d ∈ stringChar c := hc
  rcases stringChar_cases c with ⟨-, digits, hn, he⟩ | ⟨hc, he⟩
  · rw [he, List.mem_cons] at hwritten
    apply hwritten.resolve_right
    intro hbody
    exact ne_of_not_endsCssString (hn.not_endsCssString hbody) hd rfl
  · rw [he, List.mem_singleton] at hwritten
    exact absurd hwritten.symm (ne_of_not_endsCssString hc hd)

/-- Each backslash of an escaped text starts the escape of a character that had to be escaped, and
what it denotes stands at this place of the text. -/
theorem escape_of_backslash (h : escapeCssString t = before ++ '\\' :: after) :
    ∃ c digits rest, endsCssString c ∧ IsNumeral digits c ∧ after = digits ++ ' ' :: rest ∧
      t = unescape before ++ c :: unescape rest := by
  induction t generalizing before with
  | nil => exact absurd h.symm (List.append_ne_nil_of_right_ne_nil before (List.cons_ne_nil _ _))
  | cons x xs ih =>
    rw [escapeCssString_cons] at h
    -- A backslash further on is one of the rest of the text.
    have hlater {mid : Text} (hb : before = stringChar x ++ mid)
        (hm : escapeCssString xs = mid ++ '\\' :: after) :
        ∃ c digits rest, endsCssString c ∧ IsNumeral digits c ∧ after = digits ++ ' ' :: rest ∧
          x :: xs = unescape before ++ c :: unescape rest := by
      obtain ⟨c, digits, rest, hc, hd, ha, rfl⟩ := ih hm
      refine ⟨c, digits, rest, hc, hd, ha, ?_⟩
      rw [hb, unescape_stringChar, List.cons_append]
    rcases stringChar_cases x with ⟨hx, digits, hd, he⟩ | ⟨hx, he⟩
    · cases before with
      | nil =>
        rw [he, List.cons_append, List.nil_append] at h
        refine ⟨x, digits, escapeCssString xs, hx, hd, ?_, ?_⟩
        · rw [← (List.cons.inj h).2, List.append_assoc, List.singleton_append]
        · rw [unescape_nil, unescape_escapeCssString, List.nil_append]
      | cons y more =>
        rw [he, List.cons_append, List.cons_append] at h
        obtain ⟨rfl, hbehind⟩ := List.cons.inj h
        have hbody : '\\' ∉ digits ++ [' '] := by
          intro hm
          exact ne_of_not_endsCssString (hd.not_endsCssString hm) (by decide) rfl
        obtain ⟨mid, rfl, hm⟩ := append_eq_append_cons hbehind hbody
        apply hlater _ hm
        rw [he, List.cons_append]
    · have hplain : '\\' ∉ stringChar x := by
        rw [he, List.mem_singleton]
        exact (ne_of_not_endsCssString hx (by decide)).symm
      obtain ⟨mid, hb, hm⟩ := append_eq_append_cons h hplain
      exact hlater hb hm

end Writing

/-- Escaped for a quoted string, a text is read back from its escapes, whatever follows it, so that
different texts stay different. What would end the string or matters outside of it does not occur,
backslashes apart, and each of these starts an escape with a space behind its digits. Between quotes
the text is one string. -/
theorem escapeCssString_denotes (t : Text) :
    let out := escapeCssString t
    (∀ rest, unescape (out ++ rest) = t ++ unescape rest) ∧ unescape out = t ∧
      Function.Injective escapeCssString ∧
      (∀ c ∈ out, endsCssString c → c = '\\') ∧
      (∀ before after, out = before ++ '\\' :: after →
        ∃ c digits rest, endsCssString c ∧ IsNumeral digits c ∧ after = digits ++ ' ' :: rest ∧
          t = unescape before ++ c :: unescape rest) ∧
      ∀ quote ∈ quotes, ∀ rest, stringAt? quote (out ++ quote :: rest) = some (t, rest) := by
  intro out
  refine ⟨unescape_append t, unescape_escapeCssString t, ?_, ?_, ?_, ?_⟩
  · exact Function.LeftInverse.injective unescape_escapeCssString
  · intro c hm hc
    exact eq_backslash_of_mem hm hc
  · intro before after h
    exact escape_of_backslash h
  · intro quote hq rest
    exact stringAt?_escapeCssString hq t rest

/-- Digits and spaces behind an escaped character stay apart from its escape. -/
theorem escapeCssString_denotes_digits :
    let t := "'f 0\n\"  \\22 ".toList
    let out := "\\27 f 0\\a \\22   \\5c 22 ".toList
    escapeCssString t = out ∧ '"' ∈ quotes ∧
      stringAt? '"' (out ++ '"' :: "af'".toList) = some (t, "af'".toList) := by
  intro t out
  have hout : escapeCssString t = out := by decide
  have hq : '"' ∈ quotes := by decide
  obtain ⟨-, -, -, -, -, hstring⟩ := escapeCssString_denotes t
  rw [hout] at hstring
  exact ⟨hout, hq, hstring '"' hq "af'".toList⟩

end SafeOutput.Css
