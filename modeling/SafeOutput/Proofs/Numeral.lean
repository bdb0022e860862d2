import Mathlib
import SafeOutput.Text.Hex
import SafeOutput.Proofs.Text

namespace SafeOutput.Text

variable {c : Char} {width n : Nat}

theorem digitsValue_concat (base : Nat) (digits : Text) (c : Char) :
    digitsValue base (digits ++ [c]) = base * digitsValue base digits + hexValue c := by
  rw [digitsValue, List.foldl_append]
  rfl

theorem digitsValue_append (base : Nat) (t u : Text) :
    digitsValue base (t ++ u) = digitsValue base t * base ^ u.length + digitsValue base u := by
  induction u using List.reverseRecOn with
  | nil => simp [digitsValue]
  | append_singleton u c ih =>
    rw [← List.append_assoc, digitsValue_concat, ih, digitsValue_concat, List.length_append,
      List.length_singleton]
    ring

theorem digitsValue_cons (base : Nat) (c : Char) (t : Text) :
    digitsValue base (c :: t) = hexValue c * base ^ t.length + digitsValue base t := by
  rw [← List.singleton_append, digitsValue_append]
  simp [digitsValue]

theorem digitsValue_zeros (base k : Nat) (digits : Text) :
    digitsValue base (List.replicate k '0' ++ digits) = digitsValue base digits := by
  induction k with
  | zero => rfl
  | succ k ih => exact ih

theorem digitsValue_append_zeros (base k : Nat) (t : Text) :
    digitsValue base (t ++ List.replicate k '0') = digitsValue base t * base ^ k := by
  have hzeros := digitsValue_zeros base k []
  rw [List.append_nil] at hzeros
  rw [digitsValue_append, hzeros, List.length_replicate]
  rfl

theorem digitChar_hex : ∀ d < 16, isHexDigit d.digitChar ∧ hexValue d.digitChar = d := by
  decide

theorem digitsValue_toDigits {base : Nat} (hb : 1 < base) (hle : base ≤ 16) (n : Nat) :
    digitsValue base (Nat.toDigits base n) = n := by
  induction n using Nat.strongRecOn with
  | _ n ih =>
    rw [Nat.toDigits_eq_if hb]
    split
    case isTrue hn =>
      have hone : digitsValue base [n.digitChar] = base * 0 + hexValue n.digitChar := rfl
      rw [hone, (digitChar_hex n (by omega)).2, Nat.mul_zero, Nat.zero_add]
    case isFalse hn =>
      have hlt : n / base < n := Nat.div_lt_self (by omega) hb
      have hmod : n % base < 16 := Nat.lt_of_lt_of_le (Nat.mod_lt n (by omega)) hle
      rw [digitsValue_concat, ih (n / base) hlt, (digitChar_hex _ hmod).2, Nat.div_add_mod]

section Decimal

theorem isDigit_of_mem_decimal (h : c ∈ decimal n) : c.isDigit :=
  Nat.isDigit_of_mem_toDigits (by decide) (by decide) h

theorem digitsValue_decimal (n : Nat) : digitsValue 10 (decimal n) = n :=
  digitsValue_toDigits (by decide) (by decide) n

theorem decimal_ne_nil (n : Nat) : decimal n ≠ [] :=
  Nat.toDigits_ne_nil

theorem length_decimal_pos (n : Nat) : 0 < (decimal n).length :=
  List.length_pos_iff.2 (decimal_ne_nil n)

theorem digitChar_ne_zero : ∀ d < 10, d ≠ 0 → d.digitChar ≠ '0' := by
  decide

theorem head?_decimal_ne_zero (hn : 0 < n) : (decimal n).head? ≠ some '0' := by
  induction n using Nat.strongRecOn with
  | _ n ih =>
    rw [decimal, Nat.toDigits_eq_if (by decide)]
    split
    case isTrue hlt =>
      intro h
      exact digitChar_ne_zero n hlt hn.ne' (Option.some.inj h)
    case isFalse hlt =>
      rw [List.head?_append_of_ne_nil _ Nat.toDigits_ne_nil]
      exact ih (n / 10) (by omega) (by omega)

end Decimal

section Hexadecimal

theorem isAlphanum_of_isHexDigit (h : isHexDigit c = true) : c.isAlphanum = true := by
  rw [isAlphanum_iff, isAlpha_iff, isUpper_iff, isLower_iff]
  simp only [isHexDigit, Bool.or_eq_true, Bool.and_eq_true, decide_eq_true_eq] at h
  rcases h with (hd | hl) | hu
  · exact .inr hd
  · have hlo : 97 ≤ c.toNat := hl.1
    have hhi : c.toNat ≤ 102 := hl.2
    omega
  · have hlo : 65 ≤ c.toNat := hu.1
    have hhi : c.toNat ≤ 70 := hu.2
    omega

theorem isHexDigit_of_mem_toDigits (h : c ∈ Nat.toDigits 16 n) : isHexDigit c := by
  induction n using Nat.strongRecOn with
  | _ n ih =>
    rw [Nat.toDigits_eq_if (by decide)] at h
    split at h
    case isTrue hn =>
      rw [List.mem_singleton.1 h]
      exact (digitChar_hex n hn).1
    case isFalse hn =>
      rcases List.mem_append.1 h with hm | hm
      · exact ih (n / 16) (by omega) hm
      · rw [List.mem_singleton.1 hm]
        exact (digitChar_hex (n % 16) (Nat.mod_lt n (by decide))).1

theorem isHexDigit_of_mem_hex (h : c ∈ hex width n) : isHexDigit c := by
  rw [hex, List.leftpad, List.mem_append] at h
  rcases h with hz | hd
  · rw [List.eq_of_mem_replicate hz]
    decide
  · exact isHexDigit_of_mem_toDigits hd

theorem digitsValue_hex (width n : Nat) : digitsValue 16 (hex width n) = n := by
  rw [hex, List.leftpad, digitsValue_zeros, digitsValue_toDigits (by decide) (by decide)]

theorem length_hex (hw : 0 < width) (hn : n < 16 ^ width) : (hex width n).length = width := by
  have hl := (Nat.length_toDigits_le_iff (by decide) hw).2 hn
  rw [hex, List.length_leftpad, max_eq_left hl]

theorem hex_ne_nil (width n : Nat) : hex width n ≠ [] := by
  rw [hex, List.leftpad]
  exact List.append_ne_nil_of_right_ne_nil _ Nat.toDigits_ne_nil

theorem length_hex_le {most : Nat} (hw : width ≤ most) (hm : 0 < most) (hn : n < 16 ^ most) :
    (hex width n).length ≤ most := by
  rw [hex, List.length_leftpad]
  exact max_le hw ((Nat.length_toDigits_le_iff (by decide) hm).2 hn)

end Hexadecimal

end SafeOutput.Text
