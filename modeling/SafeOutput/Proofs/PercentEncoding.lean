import Mathlib
import SafeOutput.Proofs.Decoding
import SafeOutput.Proofs.FilterStability

namespace SafeOutput.Uri

open Text Escape

variable {b : UInt8} {c : Char} {t cs rest : Text}

def utf8 (t : Text) : List UInt8 :=
  (String.ofList t).toUTF8.data.toList

def digit? : Text → Option (Nat × Text)
  | [] => none
  | c :: cs => if isHexDigit c then some (hexValue c, cs) else none

/-- The byte of the triplet at the head of the text, and what follows. -/
def triplet? : Text → Option (UInt8 × Text)
  | '%' :: cs =>
    (digit? cs).bind fun high => (digit? high.2).map fun low =>
      (UInt8.ofNat (16 * high.1 + low.1), low.2)
  | _ => none

theorem digit?_length {n : Nat} (h : digit? t = some (n, rest)) : rest.length < t.length := by
  cases t with
  | nil => cases h
  | cons c cs =>
    rw [digit?, Option.ite_none_right_eq_some] at h
    cases h.2
    exact Nat.lt_succ_self _

theorem triplet?_length (h : triplet? t = some (b, rest)) : rest.length < t.length := by
  unfold triplet? at h
  split at h
  case h_1 cs =>
    obtain ⟨high, hh, htail⟩ := Option.bind_eq_some_iff.1 h
    obtain ⟨low, hl, he⟩ := Option.map_eq_some_iff.1 htail
    cases he
    have hfirst := digit?_length hh
    have hsecond := digit?_length hl
    rw [List.length_cons]
    omega
  case h_2 => cases h

/-- The bytes that are read from a URI. A percent sign without two digits behind it stands for
itself. -/
def percentDecode : Text → List UInt8
  | [] => []
  | c :: cs =>
    match h : triplet? (c :: cs) with
    | some (b, rest) =>
      have := triplet?_length h
      b :: percentDecode rest
    | none => String.utf8EncodeChar c ++ percentDecode cs
termination_by t => t.length
decreasing_by all_goals simp only [List.length_cons] at *; omega

def isCapitalDigit (c : Char) : Bool :=
  c.isDigit || ('A' ≤ c && c ≤ 'F')

def marks : List Char := ['!', '\'', '(', ')', '*', '-', '.', '_']

/-- The text holds nothing but letters, digits, marks and triplets in capitals. -/
inductive IsPart : Text → Prop
  | nil : IsPart []
  | char {c : Char} {t : Text} (hc : c.isAlphanum ∨ c ∈ marks) (ht : IsPart t) : IsPart (c :: t)
  | triplet {high low : Char} {t : Text} (hh : isCapitalDigit high) (hl : isCapitalDigit low)
      (ht : IsPart t) : IsPart ('%' :: high :: low :: t)

section Triplets

theorem utf8_eq (t : Text) : utf8 t = t.flatMap String.utf8EncodeChar := by
  rw [utf8, String.toUTF8_eq_toByteArray, String.toByteArray_ofList, List.utf8Encode,
    List.data_toByteArray]

theorem isHexDigit_of_isCapitalDigit (h : isCapitalDigit c) : isHexDigit c := by
  rw [isHexDigit, Bool.or_right_comm]
  exact Bool.or_eq_true_iff.2 (.inl h)

theorem hexByte_digits : ∀ n < 256, (hexByte (UInt8.ofNat n)).length = 2 ∧
    (hexByte (UInt8.ofNat n)).all isCapitalDigit ∧
    digitsValue 16 (hexByte (UInt8.ofNat n)) = n := by
  decide +kernel

theorem hexByte_eq (b : UInt8) : ∃ high low, hexByte b = [high, low] ∧ isCapitalDigit high ∧
    isCapitalDigit low ∧ 16 * hexValue high + hexValue low = b.toNat := by
  obtain ⟨hlength, hdigits, hvalue⟩ := hexByte_digits b.toNat b.toNat_lt
  rw [UInt8.ofNat_toNat] at hlength hdigits hvalue
  obtain ⟨high, low, he⟩ := List.length_eq_two.1 hlength
  rw [he] at hdigits hvalue
  rw [List.all_cons, List.all_cons, List.all_nil, Bool.and_true, Bool.and_eq_true] at hdigits
  refine ⟨high, low, he, hdigits.1, hdigits.2, ?_⟩
  rw [← hvalue]
  simp only [digitsValue, List.foldl_cons, List.foldl_nil, Nat.mul_zero, Nat.zero_add]

theorem digit?_cons (h : isHexDigit c) (cs : Text) : digit? (c :: cs) = some (hexValue c, cs) :=
  if_pos h

theorem triplet?_of_ne (h : c ≠ '%') (cs : Text) : triplet? (c :: cs) = none := by
  unfold triplet?
  split
  case h_1 he => exact absurd (List.cons.inj he).1 h
  case h_2 => rfl

theorem triplet?_hexByte (b : UInt8) (rest : Text) :
    triplet? ('%' :: (hexByte b ++ rest)) = some (b, rest) := by
  obtain ⟨high, low, he, hh, hl, hvalue⟩ := hexByte_eq b
  have hhigh := digit?_cons (isHexDigit_of_isCapitalDigit hh) (low :: rest)
  have hlow := digit?_cons (isHexDigit_of_isCapitalDigit hl) rest
  rw [he, List.cons_append, List.singleton_append, triplet?, hhigh, Option.bind_some, hlow,
    Option.map_some, hvalue, UInt8.ofNat_toNat]

end Triplets

section Decoding

theorem percentDecode_nil : percentDecode [] = [] := by
  rw [percentDecode]

theorem percentDecode_of_some (h : triplet? t = some (b, rest)) :
    percentDecode t = b :: percentDecode rest := by
  cases t with
  | nil => cases h
  | cons c cs =>
    rw [percentDecode]
    split
    case h_1 he =>
      rw [h] at he
      cases he
      rfl
    case h_2 he =>
      rw [h] at he
      cases he

theorem percentDecode_of_none (h : triplet? (c :: cs) = none) :
    percentDecode (c :: cs) = String.utf8EncodeChar c ++ percentDecode cs := by
  rw [percentDecode]
  split
  case h_1 he =>
    rw [h] at he
    cases he
  case h_2 => rfl

theorem percentDecode_encoded (bytes : List UInt8) (rest : Text) :
    percentDecode (bytes.flatMap (fun b => '%' :: hexByte b) ++ rest) =
      bytes ++ percentDecode rest := by
  induction bytes with
  | nil => rfl
  | cons b bytes ih =>
    rw [List.flatMap_cons, List.append_assoc, List.cons_append,
      percentDecode_of_some (triplet?_hexByte b _), ih, List.cons_append]

theorem percentDecode_percentEncode (c : Char) (rest : Text) :
    percentDecode (percentEncode c ++ rest) = String.utf8EncodeChar c ++ percentDecode rest :=
  percentDecode_encoded (String.utf8EncodeChar c) rest

end Decoding

section Parts

theorem isUnreserved_iff : isUnreserved c ↔ c.isAlphanum ∨ c ∈ marks := by
  rw [isUnreserved, Bool.or_eq_true, List.contains_iff_mem, marks]

theorem ne_percent_of_isUnreserved (h : isUnreserved c) : c ≠ '%' := by
  rintro rfl
  exact absurd h (by decide)

theorem escapeUri_cons (c : Char) (cs : Text) : escapeUri (c :: cs) =
    (if isUnreserved c then [c] else percentEncode c) ++ escapeUri cs :=
  List.flatMap_cons

theorem percentDecode_escapeUri (t : Text) : percentDecode (escapeUri t) = utf8 t := by
  rw [utf8_eq]
  induction t with
  | nil => exact percentDecode_nil
  | cons c cs ih =>
    rw [escapeUri_cons, List.flatMap_cons, ← ih]
    split
    case isTrue hc =>
      exact percentDecode_of_none (triplet?_of_ne (ne_percent_of_isUnreserved hc) _)
    case isFalse => exact percentDecode_percentEncode c _

theorem IsPart.encoded (ht : IsPart t) (bytes : List UInt8) :
    IsPart (bytes.flatMap (fun b => '%' :: hexByte b) ++ t) := by
  induction bytes with
  | nil => exact ht
  | cons b bytes ih =>
    obtain ⟨high, low, he, hh, hl, -⟩ := hexByte_eq b
    rw [List.flatMap_cons, List.append_assoc, he]
    exact .triplet hh hl ih

theorem isPart_escapeUri (t : Text) : IsPart (escapeUri t) := by
  induction t with
  | nil => exact .nil
  | cons c cs ih =>
    rw [escapeUri_cons]
    split
    case isTrue hc => exact .char (isUnreserved_iff.1 hc) ih
    case isFalse => exact ih.encoded (String.utf8EncodeChar c)

end Parts

section Tidying

theorem not_breaksUri_of_isHexDigit (h : isHexDigit c) : breaksUri c = false := by
  apply not_breaksUri_of_isAlphanum
  exact isAlphanum_of_isHexDigit h

/-- A digit is found in a tidied text where it was found before: what is encoded starts with a
percent sign, which is none. -/
theorem digit?_tidyUri (t : Text) : digit? (tidyUri t) = (digit? t).map (Prod.map id tidyUri) := by
  cases t with
  | nil => rfl
  | cons c cs =>
    cases hc : breaksUri c with
    | false =>
      rw [tidyUri_cons_of_intact hc, digit?, digit?]
      split
      case isTrue => rfl
      case isFalse => rfl
    | true =>
      obtain ⟨more, hm⟩ := tidyUri_cons_percent hc cs
      have hdigit : ¬isHexDigit c := by
        intro hd
        rw [not_breaksUri_of_isHexDigit hd] at hc
        cases hc
      rw [hm, digit?, digit?, if_neg hdigit]
      rfl

/-- So tidying what stands behind a percent sign neither completes a triplet nor breaks one. -/
theorem triplet?_tidyUri (c : Char) (cs : Text) :
    triplet? (c :: tidyUri cs) = (triplet? (c :: cs)).map (Prod.map id tidyUri) := by
  by_cases hc : c = '%'
  · subst c
    rw [triplet?, triplet?, digit?_tidyUri]
    cases digit? cs with
    | none => rfl
    | some high =>
      rw [Option.map_some, Option.bind_some, Option.bind_some, Prod.map_snd, digit?_tidyUri,
        Option.map_map, Option.map_map]
      rfl
  · rw [triplet?_of_ne hc, triplet?_of_ne hc, Option.map_none]

theorem percentDecode_tidyUri (t : Text) : percentDecode (tidyUri t) = percentDecode t := by
  fun_induction percentDecode t with
  | case1 => exact percentDecode_nil
  | case2 c cs b rest h _ ih =>
    have hc : c = '%' := by
      by_contra hne
      rw [triplet?_of_ne hne] at h
      cases h
    have htidied := triplet?_tidyUri c cs
    rw [h, Option.map_some] at htidied
    rw [tidyUri_cons_of_intact (by rw [hc]; decide), percentDecode_of_some htidied, ih]
    rfl
  | case3 c cs h ih =>
    cases hc : breaksUri c with
    | true => rw [tidyUri_cons_of_breaks hc, percentDecode_percentEncode, ih]
    | false =>
      have htidied := triplet?_tidyUri c cs
      rw [h, Option.map_none] at htidied
      rw [tidyUri_cons_of_intact hc, percentDecode_of_none htidied, ih]

end Tidying

/-- Escaped as a part of a URI, a text is letters, digits, marks and triplets that are read as its
bytes. A URI that is tidied has no character that breaks it, stays as it is when it is tidied again,
and is read as before. -/
theorem percentDecode_exact (t : Text) :
    (IsPart (escapeUri t) ∧ percentDecode (escapeUri t) = utf8 t) ∧
      (∀ c ∈ tidyUri t, breaksUri c = false) ∧ tidyUri (tidyUri t) = tidyUri t ∧
      percentDecode (tidyUri t) = percentDecode t := by
  refine ⟨⟨isPart_escapeUri t, percentDecode_escapeUri t⟩, ?_, tidyUri_tidyUri t,
    percentDecode_tidyUri t⟩
  intro c hc
  exact not_breaksUri_of_mem_tidyUri hc

/-- A triplet that a space cuts apart stays cut apart, and a whole one stays whole. -/
theorem percentDecode_exact_cut :
    let t := "%4 1%%C3%a9(".toList
    let tidied := "%4%201%%C3%a9%28".toList
    tidyUri t = tidied ∧ '%' ∈ tidied ∧ breaksUri '%' = false ∧
      percentDecode tidied = utf8 "%4 1%é(".toList := by
  intro t tidied
  have htidied : tidyUri t = tidied := by decide +kernel
  have hpercent : '%' ∈ tidied := List.mem_cons_self
  obtain ⟨-, hintact, -, hread⟩ := percentDecode_exact t
  rw [htidied] at hintact hread
  refine ⟨htidied, hpercent, hintact '%' hpercent, ?_⟩
  rw [hread]
  decide +kernel

end SafeOutput.Uri
