import Mathlib
import SafeOutput.Sanitizer
import SafeOutput.Proofs.AsciiFilter
import SafeOutput.Proofs.Rounding

namespace SafeOutput

open Text Accept

def readExponent? : Text → Option ℤ
  | [] => none
  | sign :: digits =>
    if digits.isEmpty || !digits.all Char.isDigit then none
    else if sign = '+' then some (digitsValue 10 digits)
    else if sign = '-' then some (-(digitsValue 10 digits : ℤ))
    else none

/-- The number that a script reads a decimal literal as. -/
def readLiteral? (t : Text) : Option ℚ :=
  (readNumber? 0 (t.takeWhile (· != 'e'))).bind fun m =>
    if (t.dropWhile (· != 'e')).isEmpty then some m
    else (readExponent? (t.dropWhile (· != 'e')).tail).map fun e => m * 10 ^ e

/-- The parts of a decimal literal. A zero leads the digits before the point only if it is all of
them, and an exponent has a sign and at least two digits. -/
structure NumberLiteral where
  whole : Text
  fraction : Text
  exponent : Option (Bool × Text)
  whole_ne : whole ≠ []
  whole_digits : ∀ c ∈ whole, c.isDigit
  whole_lead : whole.head? = some '0' → whole = ['0']
  fraction_digits : ∀ c ∈ fraction, c.isDigit
  exponent_length : ∀ e ∈ exponent, 2 ≤ e.2.length
  exponent_digits : ∀ e ∈ exponent, ∀ c ∈ e.2, c.isDigit

namespace NumberLiteral

def mantissa (l : NumberLiteral) : Text :=
  l.whole ++ if l.fraction.isEmpty then [] else '.' :: l.fraction

def exponentPart (l : NumberLiteral) : Text :=
  l.exponent.elim [] fun e => 'e' :: (if e.1 then '-' else '+') :: e.2

def write (l : NumberLiteral) : Text :=
  l.mantissa ++ l.exponentPart

def power (l : NumberLiteral) : ℤ :=
  l.exponent.elim 0 fun e => if e.1 then -(digitsValue 10 e.2 : ℤ) else digitsValue 10 e.2

def value (l : NumberLiteral) : ℚ :=
  digitsValue 10 (l.whole ++ l.fraction) * 10 ^ (l.power - l.fraction.length)

theorem readNumber?_mantissa (l : NumberLiteral) : readNumber? 0 l.mantissa =
    some ((digitsValue 10 (l.whole ++ l.fraction) : ℚ) / 10 ^ l.fraction.length) := by
  rw [mantissa]
  cases hf : l.fraction with
  | nil =>
    have hplain := Numeral.plain l.whole_ne l.whole_digits
    simp only [List.isEmpty_nil, if_true, List.append_nil]
    rw [hplain.read_eq, literalValue_plain l.whole_digits, List.length_nil, pow_zero, div_one]
  | cons c cs =>
    have hdigits := l.fraction_digits
    rw [hf] at hdigits
    have hpointed := Numeral.pointed l.whole_digits (List.cons_ne_nil c cs) hdigits
    simp only [List.isEmpty_cons, Bool.false_eq_true, if_false]
    rw [hpointed.read_eq, literalValue_pointed l.whole_digits hdigits]

theorem mantissa_ne_e (l : NumberLiteral) : ∀ c ∈ l.mantissa, (c != 'e') = true := by
  have hdigit {c : Char} (hc : c.isDigit) : (c != 'e') = true := by
    rw [bne_iff_ne]
    rintro rfl
    cases hc
  intro c hc
  rcases List.mem_append.1 hc with hm | hm
  · exact hdigit (l.whole_digits c hm)
  · split at hm
    case isTrue => cases hm
    case isFalse =>
      rcases List.mem_cons.1 hm with rfl | hm
      · rfl
      · exact hdigit (l.fraction_digits c hm)

theorem readExponent?_digits {negative : Bool} {digits : Text} (hne : digits ≠ [])
    (hd : ∀ c ∈ digits, c.isDigit) :
    readExponent? ((if negative then '-' else '+') :: digits) =
      some (if negative then -(digitsValue 10 digits : ℤ) else digitsValue 10 digits) := by
  have hall : digits.all Char.isDigit := List.all_eq_true.2 hd
  rw [readExponent?, List.isEmpty_eq_false_iff.2 hne, hall]
  cases negative with
  | true => rfl
  | false => rfl

theorem readLiteral?_write (l : NumberLiteral) : readLiteral? l.write = some l.value := by
  have hstop : ∀ c ∈ l.exponentPart.head?, (c != 'e') = false := by
    rw [exponentPart]
    cases l.exponent with
    | none => exact nofun
    | some e =>
      intro c hc
      cases hc
      rfl
  rw [readLiteral?, write, takeWhile_append_stop l.mantissa_ne_e hstop,
    dropWhile_append_stop l.mantissa_ne_e hstop, readNumber?_mantissa, Option.bind_some]
  cases he : l.exponent with
  | none =>
    simp only [exponentPart, value, power, he, Option.elim_none, List.isEmpty_nil, if_true,
      zero_sub, zpow_neg, zpow_natCast]
    rfl
  | some e =>
    have hlength := l.exponent_length e he
    have hne : e.2 ≠ [] := by
      rintro hnil
      rw [hnil] at hlength
      cases hlength
    simp only [exponentPart, value, power, he, Option.elim_some, List.isEmpty_cons,
      Bool.false_eq_true, if_false, List.tail_cons]
    rw [readExponent?_digits hne (l.exponent_digits e he), Option.map_some, Option.some.injEq,
      zpow_sub₀ (by norm_num), zpow_natCast]
    ring

theorem isDigit_of_write_eq_cons {l : NumberLiteral} {c : Char} {cs : Text}
    (h : l.write = c :: cs) : c.isDigit := by
  cases hw : l.whole with
  | nil => exact absurd hw l.whole_ne
  | cons d ds =>
    rw [write, mantissa, hw, List.cons_append, List.cons_append] at h
    rw [← (List.cons.inj h).1]
    exact l.whole_digits d (hw ▸ List.mem_cons_self)

/-- The number of the digits, moved by as many places as the exponent and the point say. -/
theorem value_eq {l : NumberLiteral} {d : Decimal} {k : ℕ}
    (hdigits : digitsValue 10 (l.whole ++ l.fraction) = d.digits * 10 ^ k)
    (hpower : l.power - l.fraction.length + k = d.exponent) : l.value = d.value := by
  rw [value, hdigits, Decimal.value, ← hpower, zpow_add₀ (by norm_num), zpow_natCast]
  push_cast
  ring

theorem whole_lead_decimal (n : ℕ) (h : (decimal n).head? = some '0') : decimal n = ['0'] := by
  rcases Nat.eq_zero_or_pos n with rfl | hn
  · rfl
  · exact absurd h (head?_decimal_ne_zero hn)

def ofNat (n : ℕ) : NumberLiteral where
  whole := decimal n
  fraction := []
  exponent := none
  whole_ne := decimal_ne_nil n
  whole_digits _ hc := isDigit_of_mem_decimal hc
  whole_lead := whole_lead_decimal n
  fraction_digits _ hc := absurd hc List.not_mem_nil
  exponent_length := nofun
  exponent_digits := nofun

theorem write_ofNat (n : ℕ) : (ofNat n).write = decimal n := by
  simp [write, mantissa, exponentPart, ofNat]

theorem value_ofNat (n : ℕ) : (ofNat n).value = n := by
  simp [value, power, ofNat, digitsValue_decimal]

end NumberLiteral

namespace Decimal

variable {d : Decimal}

theorem isDigit_of_mem_zeros {c : Char} {k : ℕ} (h : c ∈ List.replicate k '0') : c.isDigit := by
  rw [List.eq_of_mem_replicate h]
  decide

/-- A number below one: zeros stand between the point and the digits. -/
def smallLiteral (d : Decimal) : NumberLiteral where
  whole := ['0']
  fraction := List.replicate (-d.leading - 1).toNat '0' ++ decimal d.digits
  exponent := none
  whole_ne := List.cons_ne_nil _ _
  whole_digits _ hc := List.mem_singleton.1 hc ▸ rfl
  whole_lead _ := rfl
  fraction_digits := by
    intro c hc
    rcases List.mem_append.1 hc with hm | hm
    · exact isDigit_of_mem_zeros hm
    · exact isDigit_of_mem_decimal hm
  exponent_length := nofun
  exponent_digits := nofun

theorem write_smallLiteral (h : d.leading < 0) : d.smallLiteral.write = d.positional := by
  have hne : d.smallLiteral.fraction.isEmpty = false := by
    rw [List.isEmpty_eq_false_iff]
    exact List.append_ne_nil_of_right_ne_nil _ (decimal_ne_nil _)
  rw [positional, if_pos h, NumberLiteral.write, NumberLiteral.mantissa, hne]
  simp [smallLiteral, NumberLiteral.exponentPart]

theorem value_smallLiteral (h : d.leading < 0) : d.smallLiteral.value = d.value := by
  apply NumberLiteral.value_eq (k := 0)
  · have hzeros := digitsValue_zeros 10 (1 + (-d.leading - 1).toNat) (decimal d.digits)
    rw [List.replicate_add, List.append_assoc, digitsValue_decimal] at hzeros
    rw [pow_zero, mul_one]
    exact hzeros
  · simp only [smallLiteral, NumberLiteral.power, Option.elim_none, List.length_append,
      List.length_replicate]
    rw [leading] at h ⊢
    omega

def wholeDigits (d : Decimal) : Text :=
  ((decimal d.digits).take (d.leading + 1).toNat).rightpad (d.leading + 1).toNat '0'

def fractionDigits (d : Decimal) : Text :=
  if ((decimal d.digits).drop (d.leading + 1).toNat).isEmpty then ['0']
  else (decimal d.digits).drop (d.leading + 1).toNat

theorem positional_eq (h : ¬d.leading < 0) :
    d.positional = d.wholeDigits ++ '.' :: d.fractionDigits :=
  if_neg h

theorem head?_wholeDigits (h : ¬d.leading < 0) :
    d.wholeDigits.head? = (decimal d.digits).head? := by
  obtain ⟨k, hk⟩ : ∃ k, (d.leading + 1).toNat = k + 1 := ⟨d.leading.toNat, by omega⟩
  rw [wholeDigits, hk, List.rightpad]
  cases hds : decimal d.digits with
  | nil => exact absurd hds (decimal_ne_nil _)
  | cons c cs => rfl

theorem isDigit_of_mem_wholeDigits {c : Char} (h : c ∈ d.wholeDigits) : c.isDigit := by
  rcases List.mem_append.1 h with hm | hm
  · exact isDigit_of_mem_decimal (List.mem_of_mem_take hm)
  · exact isDigit_of_mem_zeros hm

theorem isDigit_of_mem_fractionDigits {c : Char} (h : c ∈ d.fractionDigits) : c.isDigit := by
  rw [fractionDigits] at h
  split at h
  case isTrue => exact isDigit_of_mem_zeros (k := 1) h
  case isFalse => exact isDigit_of_mem_decimal (List.mem_of_mem_drop h)

/-- The point stands in the digits, or in zeros that are written behind them. -/
theorem wholeDigits_append (h : ¬d.leading < 0) : ∃ k : ℕ,
    d.wholeDigits ++ d.fractionDigits = decimal d.digits ++ List.replicate k '0' ∧
      (k : ℤ) - d.fractionDigits.length = d.exponent := by
  have hwhole : ((d.leading + 1).toNat : ℤ) = d.exponent + (decimal d.digits).length := by
    rw [leading] at h ⊢
    omega
  rw [wholeDigits, fractionDigits, List.rightpad]
  rcases le_or_gt (decimal d.digits).length (d.leading + 1).toNat with hle | hlt
  · refine ⟨(d.leading + 1).toNat - (decimal d.digits).length + 1, ?_, ?_⟩
    · rw [List.drop_eq_nil_of_le hle, List.take_of_length_le hle, List.isEmpty_nil, if_pos rfl,
        List.replicate_add, List.append_assoc]
      rfl
    · rw [List.drop_eq_nil_of_le hle, List.isEmpty_nil, if_pos rfl, List.length_singleton]
      omega
  · have hne : ((decimal d.digits).drop (d.leading + 1).toNat).isEmpty = false := by
      rw [List.isEmpty_eq_false_iff, Ne, List.drop_eq_nil_iff]
      omega
    refine ⟨0, ?_, ?_⟩
    · rw [hne, if_neg Bool.false_ne_true, List.length_take_of_le hlt.le, Nat.sub_self]
      simp only [List.replicate_zero, List.append_nil, List.take_append_drop]
    · rw [hne, if_neg Bool.false_ne_true, List.length_drop]
      omega

def positionalLiteral (d : Decimal) (hd : 0 < d.digits) (h : ¬d.leading < 0) : NumberLiteral where
  whole := d.wholeDigits
  fraction := d.fractionDigits
  exponent := none
  whole_ne := by
    intro hnil
    have hhead := head?_wholeDigits h
    rw [hnil, List.head?_nil, eq_comm, List.head?_eq_none_iff] at hhead
    exact decimal_ne_nil _ hhead
  whole_digits _ hc := isDigit_of_mem_wholeDigits hc
  whole_lead := by
    rw [head?_wholeDigits h]
    intro hzero
    exact absurd hzero (head?_decimal_ne_zero hd)
  fraction_digits _ hc := isDigit_of_mem_fractionDigits hc
  exponent_length := nofun
  exponent_digits := nofun

theorem fractionDigits_ne_nil (d : Decimal) : d.fractionDigits.isEmpty = false := by
  rw [fractionDigits]
  split
  case isTrue => rfl
  case isFalse hne => exact Bool.eq_false_iff.2 hne

theorem write_positionalLiteral (hd : 0 < d.digits) (h : ¬d.leading < 0) :
    (d.positionalLiteral hd h).write = d.positional := by
  rw [positional_eq h, NumberLiteral.write, NumberLiteral.mantissa]
  simp [positionalLiteral, NumberLiteral.exponentPart, fractionDigits_ne_nil]

theorem value_positionalLiteral (hd : 0 < d.digits) (h : ¬d.leading < 0) :
    (d.positionalLiteral hd h).value = d.value := by
  obtain ⟨k, hdigits, hexponent⟩ := wholeDigits_append h
  apply NumberLiteral.value_eq (k := k)
  · have hvalue := congrArg (digitsValue 10) hdigits
    rw [digitsValue_append_zeros, digitsValue_decimal] at hvalue
    exact hvalue
  · have hpower : (d.positionalLiteral hd h).power = 0 := rfl
    have hfraction : (d.positionalLiteral hd h).fraction = d.fractionDigits := rfl
    rw [hpower, hfraction]
    omega

def exponentDigits (d : Decimal) : Text :=
  (decimal d.leading.natAbs).leftpad 2 '0'

theorem digitsValue_exponentDigits (d : Decimal) :
    digitsValue 10 d.exponentDigits = d.leading.natAbs := by
  rw [exponentDigits, List.leftpad, digitsValue_zeros, digitsValue_decimal]

def scientificLiteral (d : Decimal) : NumberLiteral where
  whole := (decimal d.digits).take 1
  fraction := (decimal d.digits).drop 1
  exponent := some (decide (d.leading < 0), d.exponentDigits)
  whole_ne := by
    rw [Ne, List.take_eq_nil_iff]
    exact fun h => h.elim one_ne_zero (decimal_ne_nil _)
  whole_digits _ hc := isDigit_of_mem_decimal (List.mem_of_mem_take hc)
  whole_lead := by
    cases decimal d.digits with
    | nil => exact nofun
    | cons c cs =>
      intro h
      exact congrArg (fun c => [c]) (Option.some.inj h)
  fraction_digits _ hc := isDigit_of_mem_decimal (List.mem_of_mem_drop hc)
  exponent_length := by
    rintro e ⟨⟩
    rw [exponentDigits, List.length_leftpad]
    exact le_max_left _ _
  exponent_digits := by
    rintro e ⟨⟩ c hc
    rcases List.mem_append.1 hc with hm | hm
    · exact isDigit_of_mem_zeros hm
    · exact isDigit_of_mem_decimal hm

theorem write_scientificLiteral (d : Decimal) : d.scientificLiteral.write = d.scientific := by
  simp [scientific, NumberLiteral.write, NumberLiteral.mantissa, NumberLiteral.exponentPart,
    scientificLiteral, exponentDigits]

theorem value_scientificLiteral (d : Decimal) : d.scientificLiteral.value = d.value := by
  apply NumberLiteral.value_eq (k := 0)
  · have hsplit : d.scientificLiteral.whole ++ d.scientificLiteral.fraction = decimal d.digits :=
      List.take_append_drop 1 _
    rw [hsplit, digitsValue_decimal, pow_zero, mul_one]
  · have hpower : d.scientificLiteral.power = d.leading := by
      simp only [NumberLiteral.power, scientificLiteral, Option.elim_some, decide_eq_true_eq,
        digitsValue_exponentDigits]
      split <;> omega
    have hlength : d.scientificLiteral.fraction.length = (decimal d.digits).length - 1 :=
      List.length_drop
    have hpos := length_decimal_pos d.digits
    rw [hpower, hlength, leading]
    omega

theorem exists_literal (hd : 0 < d.digits) :
    ∃ l : NumberLiteral, l.write = d.render ∧ l.value = d.value := by
  rw [render]
  split
  case isTrue =>
    by_cases h : d.leading < 0
    · exact ⟨d.smallLiteral, write_smallLiteral h, value_smallLiteral h⟩
    · exact ⟨d.positionalLiteral hd h, write_positionalLiteral hd h, value_positionalLiteral hd h⟩
  case isFalse => exact ⟨d.scientificLiteral, d.write_scientificLiteral, d.value_scientificLiteral⟩

end Decimal

def signed (negative : Bool) (t : Text) : Text :=
  (if negative then ['-'] else []) ++ t

def numberNames : List Text :=
  ["NaN".toList, "Infinity".toList, "-Infinity".toList]

def IsScriptNumber (t : Text) : Prop :=
  (∃ (negative : Bool) (l : NumberLiteral), t = signed negative l.write) ∨ t ∈ numberNames

theorem not_isScriptNumber {c : Char} {cs : Text} {negative : Bool} (hc : c.isDigit = false)
    (hm : c ≠ '-') (hn : signed negative (c :: cs) ∉ numberNames) :
    ¬IsScriptNumber (signed negative (c :: cs)) := by
  have hfirst {l : NumberLiteral} {d : Char} {ds : Text} (hd : d.isDigit = false) :
      d :: ds ≠ l.write := by
    intro h
    rw [NumberLiteral.isDigit_of_write_eq_cons h.symm] at hd
    cases hd
  rintro (⟨negative', l, h⟩ | h)
  · cases negative with
    | true =>
      cases negative' with
      | true => exact hfirst hc (List.cons.inj h).2
      | false => exact hfirst rfl h
    | false =>
      cases negative' with
      | true => exact hm (List.cons.inj h).1
      | false => exact hfirst hc h
  · exact hn h

theorem not_isScriptNumber_nan : ¬IsScriptNumber "nan".toList := by
  have hword : "nan".toList = signed false ('n' :: "an".toList) := rfl
  rw [hword]
  exact not_isScriptNumber rfl (by decide) (by decide)

theorem not_isScriptNumber_inf (negative : Bool) :
    ¬IsScriptNumber (signed negative "inf".toList) := by
  apply not_isScriptNumber rfl (by decide)
  cases negative <;> decide

namespace Binary64

variable {x : Binary64}

def isFinite (x : Binary64) : Bool :=
  x.exponentField != 2047

theorem isFinite_cases (x : Binary64) :
    (x.isFinite ∧ x.isNaN = false ∧ x.isInfinite = false) ∨
      (x.isFinite = false ∧ x.isNaN) ∨ (x.isFinite = false ∧ x.isNaN = false ∧ x.isInfinite) := by
  simp only [isFinite, isNaN, isInfinite, bne]
  cases x.exponentField == 2047 with
  | false => simp
  | true => cases x.fractionField == 0 <;> simp

theorem exists_literal (hx : x.isZero = false) :
    ∃ l : NumberLiteral, l.write = (Decimal.shortest x).render ∧ RoundsTo l.value x := by
  have hcovers := Decimal.covers_shortest hx
  have hpos : 0 < (Decimal.shortest x).digits := by
    have hvalue := hcovers.pos hx
    rw [Nat.pos_iff_ne_zero]
    intro hzero
    rw [Decimal.value, hzero, Nat.cast_zero, zero_mul] at hvalue
    exact lt_irrefl 0 hvalue
  obtain ⟨l, hwrite, hvalue⟩ := Decimal.exists_literal hpos
  exact ⟨l, hwrite, hvalue ▸ hcovers.roundsTo⟩

theorem render_finite (hn : x.isNaN = false) (hi : x.isInfinite = false) :
    ∃ (l : NumberLiteral) (q : ℚ), x.render = signed x.isNegative l.write ∧
      readLiteral? l.write = some q ∧ RoundsTo q x := by
  rw [render, hn, hi, if_neg Bool.false_ne_true, if_neg Bool.false_ne_true]
  cases hz : x.isZero with
  | true =>
    let zero : NumberLiteral := Decimal.smallLiteral ⟨0, -1⟩
    have hvalue : zero.value = 0 := by
      rw [Decimal.value_smallLiteral (by decide), Decimal.value, Nat.cast_zero, zero_mul]
    refine ⟨zero, zero.value, rfl, zero.readLiteral?_write, ?_⟩
    rw [hvalue]
    exact roundsTo_of_isZero hz
  | false =>
    obtain ⟨l, hwrite, hrounds⟩ := exists_literal hz
    refine ⟨l, l.value, ?_, l.readLiteral?_write, hrounds⟩
    rw [hwrite]
    rfl

end Binary64

namespace Sanitizer

open Binary64

/-- In a script, whole numbers are written by their literals, and finite numbers by literals that are
read as those numbers and no others. The rest get names that a script does not know. -/
theorem escapeJsValue_number_exact (s : Sanitizer) :
    (∀ n : ℤ, ∃ l : NumberLiteral,
      s.escapeJsValue (.int n) = ' ' :: signed (n < 0) l.write ++ [' '] ∧
        readLiteral? l.write = some (n.natAbs : ℚ)) ∧
      ∀ x : Binary64, ∃ body, s.escapeJsValue (.float x) = ' ' :: body ++ [' '] ∧
        (IsScriptNumber body ↔ x.isFinite) ∧
        ((x.isFinite ∧ ∃ (l : NumberLiteral) (q : ℚ), body = signed x.isNegative l.write ∧
            readLiteral? l.write = some q ∧ RoundsTo q x ∧
              ∀ y, RoundsTo q y → y.magnitude = x.magnitude) ∨
          (x.isNaN ∧ body = "nan".toList) ∨
          (x.isInfinite ∧ body = signed x.isNegative "inf".toList)) := by
  constructor
  · intro n
    refine ⟨.ofNat n.natAbs, ?_, ?_⟩
    · rw [NumberLiteral.write_ofNat]
      simp [escapeJsValue, Value.display, signed]
    · rw [NumberLiteral.readLiteral?_write, NumberLiteral.value_ofNat]
  · intro x
    refine ⟨x.render, rfl, ?_⟩
    rcases x.isFinite_cases with ⟨hfinite, hn, hi⟩ | ⟨hfinite, hn⟩ | ⟨hfinite, hn, hi⟩
    · obtain ⟨l, q, hrender, hread, hrounds⟩ := render_finite hn hi
      refine ⟨iff_of_true (.inl ⟨_, l, hrender⟩) hfinite, .inl ⟨hfinite, l, q, hrender, hread, ?_⟩⟩
      exact ⟨hrounds, fun y hy => hrounds.unique hy⟩
    · have hrender : x.render = "nan".toList := if_pos hn
      rw [hrender, hfinite]
      exact ⟨iff_of_false not_isScriptNumber_nan Bool.false_ne_true, .inr (.inl ⟨hn, rfl⟩)⟩
    · have hrender : x.render = signed x.isNegative "inf".toList := by
        rw [render, hn, hi, if_neg Bool.false_ne_true, if_pos rfl]
        rfl
      rw [hrender, hfinite]
      exact ⟨iff_of_false (not_isScriptNumber_inf _) Bool.false_ne_true, .inr (.inr ⟨hi, rfl⟩)⟩

/-- None of the three numbers that are not finite is written as a number. -/
theorem escapeJsValue_nonfinite :
    let written (bits : UInt64) := standard.escapeJsValue (.float ⟨bits⟩)
    written 0x7FF8000000000000 = " nan ".toList ∧ ¬IsScriptNumber "nan".toList ∧
      written 0x7FF0000000000000 = " inf ".toList ∧ ¬IsScriptNumber "inf".toList ∧
      written 0xFFF0000000000000 = " -inf ".toList ∧ ¬IsScriptNumber "-inf".toList := by
  intro written
  exact ⟨by decide +kernel, not_isScriptNumber_nan, by decide +kernel,
    not_isScriptNumber_inf false, by decide +kernel, not_isScriptNumber_inf true⟩

end Sanitizer

end SafeOutput
