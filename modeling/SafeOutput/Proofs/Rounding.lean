import Mathlib
import SafeOutput.Decimal.Shortest

namespace SafeOutput.Binary64

variable {x : Binary64} {q r : ℚ}

def magnitude (x : Binary64) : ℚ :=
  x.significand * 2 ^ x.exponent

/-- The numbers with a significand of 53 bits, with no bound on how large they are. -/
def IsBinary (r : ℚ) : Prop :=
  ∃ (m : ℕ) (e : ℤ), m < 2 ^ 53 ∧ -1074 ≤ e ∧ r = m * 2 ^ e

/-- No number in double precision is nearer, and another as near only if this one is even. -/
structure RoundsTo (q : ℚ) (x : Binary64) : Prop where
  nearest : ∀ r, IsBinary r → |q - x.magnitude| ≤ |q - r|
  tie : ∀ r, IsBinary r → |q - x.magnitude| = |q - r| → r = x.magnitude ∨ x.significand % 2 = 0

section Fields

theorem fractionField_lt (x : Binary64) : x.fractionField < 2 ^ 52 :=
  Nat.mod_lt _ (by decide)

theorem significand_lt (x : Binary64) : x.significand < 2 ^ 53 := by
  have hf := x.fractionField_lt
  simp only [significand, Nat.pow_eq]
  split <;> omega

theorem exponent_ge (x : Binary64) : -1074 ≤ x.exponent := by
  rw [exponent]
  split <;> omega

theorem significand_pos (h : x.isZero = false) : 0 < x.significand := by
  rw [isZero, Bool.and_eq_false_iff, beq_eq_false_iff_ne, beq_eq_false_iff_ne] at h
  simp only [significand, Nat.pow_eq]
  split <;> omega

theorem isBinary_magnitude (x : Binary64) : IsBinary x.magnitude :=
  ⟨x.significand, x.exponent, x.significand_lt, x.exponent_ge, rfl⟩

/-- Half the distance to the number below, in quarters of the distance to the number above. -/
def halfBelow (x : Binary64) : ℕ :=
  if x.fractionField = 0 ∧ 1 < x.exponentField then 1 else 2

theorem halfBelow_le (x : Binary64) : x.halfBelow ≤ 2 := by
  rw [halfBelow]
  split <;> omega

theorem halfBelow_le_significand (h : -1074 < x.exponent) :
    2 ^ 53 - 1 + x.halfBelow ≤ 2 * x.significand := by
  rw [exponent] at h
  simp only [halfBelow, significand, Nat.pow_eq]
  split at h
  case isTrue => omega
  case isFalse he =>
    rw [if_neg he]
    split <;> omega

/-- The interval of a number is wider than the last of seventeen digits counts. -/
theorem significand_lt_halfBelow (x : Binary64) :
    4 * x.significand < 10 ^ 16 * (x.halfBelow + 2) := by
  have hf := x.fractionField_lt
  simp only [halfBelow, significand, Nat.pow_eq]
  split <;> split <;> omega

end Fields

section Spacing

def quarter (x : Binary64) : ℚ :=
  2 ^ (x.exponent - 2)

theorem quarter_pos (x : Binary64) : 0 < x.quarter :=
  zpow_pos two_pos _

theorem two_zpow_exponent (x : Binary64) : (2 : ℚ) ^ x.exponent = 4 * x.quarter := by
  have he : x.exponent = 2 + (x.exponent - 2) := by ring
  rw [quarter, he, zpow_add₀ two_ne_zero]
  norm_num

theorem magnitude_eq (x : Binary64) : x.magnitude = 4 * x.significand * x.quarter := by
  rw [magnitude, two_zpow_exponent]
  ring

theorem spacing_of_multiple (x : Binary64) (m : ℕ) :
    4 * m * x.quarter ≤ (4 * x.significand - 2 * x.halfBelow) * x.quarter ∨
      4 * m * x.quarter = x.magnitude ∨ (4 * x.significand + 4) * x.quarter ≤ 4 * m * x.quarter := by
  have hq := x.quarter_pos.le
  rcases lt_trichotomy m x.significand with hlt | rfl | hgt
  · left
    apply mul_le_mul_of_nonneg_right _ hq
    have hm : ((m + 1 : ℕ) : ℚ) ≤ x.significand := Nat.cast_le.2 hlt
    have hb : ((x.halfBelow : ℕ) : ℚ) ≤ 2 := by exact_mod_cast x.halfBelow_le
    push_cast at hm
    linarith
  · exact .inr (.inl x.magnitude_eq.symm)
  · right; right
    apply mul_le_mul_of_nonneg_right _ hq
    have hm : ((x.significand + 1 : ℕ) : ℚ) ≤ m := Nat.cast_le.2 hgt
    push_cast at hm
    linarith

/-- No number in double precision lies between this one and its neighbours. -/
theorem spacing (x : Binary64) (h : IsBinary r) :
    r ≤ (4 * x.significand - 2 * x.halfBelow) * x.quarter ∨
      r = x.magnitude ∨ (4 * x.significand + 4) * x.quarter ≤ r := by
  obtain ⟨m, k, hm, hk, rfl⟩ := h
  rcases le_or_gt x.exponent k with hle | hlt
  · obtain ⟨j, hj⟩ := Int.le.dest hle
    have hmultiple := spacing_of_multiple x (m * 2 ^ j)
    have hform : (4 * ((m * 2 ^ j : ℕ) : ℚ)) * x.quarter = m * 2 ^ k := by
      rw [← hj, zpow_add₀ two_ne_zero, two_zpow_exponent, zpow_natCast]
      push_cast
      ring
    rwa [hform] at hmultiple
  · left
    have hbelow := halfBelow_le_significand (lt_of_le_of_lt hk hlt)
    have hhalf : (2 : ℚ) ^ k ≤ 2 * x.quarter := by
      calc (2 : ℚ) ^ k ≤ 2 ^ (x.exponent - 1) := zpow_le_zpow_right₀ one_le_two (by omega)
        _ = 2 ^ (1 + (x.exponent - 2)) := by congr 1; ring
        _ = 2 * x.quarter := by rw [zpow_add₀ two_ne_zero, zpow_one, quarter]
    have hcount : (m : ℚ) ≤ 2 * x.significand - x.halfBelow := by
      have hsum : m + x.halfBelow ≤ 2 * x.significand := by omega
      have hcast : ((m + x.halfBelow : ℕ) : ℚ) ≤ ((2 * x.significand : ℕ) : ℚ) := Nat.cast_le.2 hsum
      push_cast at hcast
      linarith
    calc (m : ℚ) * 2 ^ k ≤ m * (2 * x.quarter) := mul_le_mul_of_nonneg_left hhalf m.cast_nonneg
      _ ≤ (2 * x.significand - x.halfBelow) * (2 * x.quarter) :=
        mul_le_mul_of_nonneg_right hcount (by linarith [x.quarter_pos])
      _ = (4 * x.significand - 2 * x.halfBelow) * x.quarter := by ring

/-- Up to the middle between it and its neighbours, a number is nearest. Another is as near only from
the middle. -/
theorem nearest_of_between {v a b : ℚ} (ha : 0 ≤ a) (hb : 0 ≤ b) (hlow : v - a ≤ q)
    (hhigh : q ≤ v + b) (hr : r ≤ v - 2 * a ∨ r = v ∨ v + 2 * b ≤ r) :
    |q - v| ≤ |q - r| ∧ (|q - v| = |q - r| → r = v ∨ q = v - a ∨ q = v + b) := by
  rcases hr with hbelow | rfl | habove
  · rw [abs_of_nonneg (a := q - r) (by linarith)]
    rcases le_total q v with hle | hle
    · rw [abs_of_nonpos (by linarith)]
      exact ⟨by linarith, fun _ => .inr (.inl (by linarith))⟩
    · rw [abs_of_nonneg (by linarith)]
      exact ⟨by linarith, fun _ => .inl (by linarith)⟩
  · exact ⟨le_rfl, fun _ => .inl rfl⟩
  · rw [abs_of_nonpos (a := q - r) (by linarith)]
    rcases le_total q v with hle | hle
    · rw [abs_of_nonpos (by linarith)]
      exact ⟨by linarith, fun _ => .inl (by linarith)⟩
    · rw [abs_of_nonneg (by linarith)]
      exact ⟨by linarith, fun _ => .inr (.inr (by linarith))⟩

end Spacing

section Ties

variable {y : Binary64}

def above (x : Binary64) : ℚ :=
  (x.significand + 1) * 2 ^ x.exponent

theorem above_eq (x : Binary64) : x.above = (4 * x.significand + 4) * x.quarter := by
  rw [above, two_zpow_exponent]
  ring

theorem isBinary_above (x : Binary64) : IsBinary x.above := by
  rcases Nat.lt_or_ge (x.significand + 1) (2 ^ 53) with hlt | hge
  · refine ⟨x.significand + 1, x.exponent, hlt, x.exponent_ge, ?_⟩
    rw [above, Nat.cast_add, Nat.cast_one]
  · have hfull : x.significand + 1 = 2 ^ 53 := le_antisymm x.significand_lt hge
    have hcast : (x.significand : ℚ) + 1 = 2 ^ 53 := by exact_mod_cast hfull
    have hexponent := x.exponent_ge
    refine ⟨2 ^ 52, x.exponent + 1, by norm_num, by omega, ?_⟩
    rw [above, hcast, zpow_add₀ two_ne_zero]
    push_cast
    ring

/-- Of two neighbours, one is odd. -/
theorem magnitude_ne_above (hx : x.significand % 2 = 0) (hy : y.significand % 2 = 0) :
    y.magnitude ≠ x.above := by
  intro h
  rw [magnitude, above] at h
  rcases le_or_gt x.exponent y.exponent with hle | hlt
  · obtain ⟨j, hj⟩ := Int.le.dest hle
    have hcount : y.significand * 2 ^ j = x.significand + 1 := by
      rw [← hj, zpow_add₀ two_ne_zero, zpow_natCast, mul_comm ((2 : ℚ) ^ x.exponent),
        ← mul_assoc] at h
      exact_mod_cast mul_right_cancel₀ (zpow_ne_zero _ two_ne_zero) h
    have hparity := congrArg (· % 2) hcount
    simp only [Nat.mul_mod, hy, Nat.zero_mul, Nat.zero_mod] at hparity
    omega
  · obtain ⟨j, hj⟩ := Int.le.dest (Int.add_one_le_of_lt hlt)
    have hcount : y.significand = (x.significand + 1) * 2 ^ j * 2 := by
      rw [← hj, zpow_add₀ two_ne_zero, zpow_add₀ two_ne_zero, zpow_natCast, zpow_one] at h
      have hpower : (2 : ℚ) ^ y.exponent ≠ 0 := zpow_ne_zero _ two_ne_zero
      have hq : (y.significand : ℚ) = (x.significand + 1) * 2 ^ j * 2 := by
        apply mul_right_cancel₀ hpower
        rw [h]
        ring
      exact_mod_cast hq
    have hfirst := halfBelow_le_significand (lt_of_le_of_lt y.exponent_ge hlt)
    have hbound := y.significand_lt
    have hgrows := Nat.le_mul_of_pos_right (x.significand + 1) (Nat.two_pow_pos j)
    omega

theorem RoundsTo.magnitude_le (hx : RoundsTo q x) (hy : RoundsTo q y) :
    y.magnitude ≤ x.magnitude := by
  by_contra hgt
  have hlt := not_le.1 hgt
  have hdistance : |q - x.magnitude| = |q - y.magnitude| :=
    le_antisymm (hx.nearest _ y.isBinary_magnitude) (hy.nearest _ x.isBinary_magnitude)
  have hxeven := (hx.tie _ y.isBinary_magnitude hdistance).resolve_left hlt.ne'
  have hyeven := (hy.tie _ x.isBinary_magnitude hdistance.symm).resolve_left hlt.ne
  have hmiddle : q - x.magnitude = y.magnitude - q := by
    rcases abs_eq_abs.1 hdistance with he | he
    · linarith
    · linarith
  have habove : x.above ≤ y.magnitude := by
    rw [above_eq]
    have hbelow := mul_nonneg (Nat.cast_nonneg (α := ℚ) x.halfBelow) x.quarter_pos.le
    rcases x.spacing y.isBinary_magnitude with hle | he | hge
    · linarith [x.magnitude_eq]
    · exact absurd he hlt.ne'
    · exact hge
  have hgrows : x.magnitude < x.above := by
    rw [above_eq, magnitude_eq]
    linarith [x.quarter_pos]
  -- If the number above `x` is not `y`, it lies between them and is nearer.
  rcases habove.eq_or_lt with he | hbetween
  · exact magnitude_ne_above hxeven hyeven he.symm
  · have hnearer : |q - x.above| < q - x.magnitude := abs_lt.2 ⟨by linarith, by linarith⟩
    have hnearest := hx.nearest _ x.isBinary_above
    rw [abs_of_nonneg (a := q - x.magnitude) (by linarith)] at hnearest
    exact absurd hnearest (not_le.2 hnearer)

theorem RoundsTo.unique (hx : RoundsTo q x) (hy : RoundsTo q y) : y.magnitude = x.magnitude :=
  le_antisymm (hx.magnitude_le hy) (hy.magnitude_le hx)

end Ties

/-- The point is in the interval that is read as this number, which has its ends if the number is
even. -/
structure Covers (x : Binary64) (q : ℚ) : Prop where
  low : (4 * x.significand - x.halfBelow) * x.quarter ≤ q
  high : q ≤ (4 * x.significand + 2) * x.quarter
  ends : q = (4 * x.significand - x.halfBelow) * x.quarter ∨
    q = (4 * x.significand + 2) * x.quarter → x.significand % 2 = 0

theorem covers_of_lt (hlow : (4 * x.significand - x.halfBelow) * x.quarter < q)
    (hhigh : q < (4 * x.significand + 2) * x.quarter) : x.Covers q := by
  refine ⟨hlow.le, hhigh.le, ?_⟩
  rintro (he | he)
  · exact absurd he hlow.ne'
  · exact absurd he hhigh.ne

theorem Covers.roundsTo (h : x.Covers q) : RoundsTo q x := by
  have hquarter := x.quarter_pos
  have hv := x.magnitude_eq
  have hlow : x.magnitude - x.halfBelow * x.quarter ≤ q := by linarith [h.low]
  have hhigh : q ≤ x.magnitude + 2 * x.quarter := by linarith [h.high]
  have hnear {r : ℚ} (hr : IsBinary r) := by
    apply nearest_of_between (by positivity) (by positivity) hlow hhigh (r := r)
    rcases x.spacing hr with hbelow | heq | habove
    · exact .inl (by linarith)
    · exact .inr (.inl heq)
    · exact .inr (.inr (by linarith))
  refine ⟨fun r hr => (hnear hr).1, fun r hr heq => ?_⟩
  rcases (hnear hr).2 heq with hr | hend | hend
  · exact .inl hr
  · exact .inr (h.ends (.inl (by linarith)))
  · exact .inr (h.ends (.inr (by linarith)))

theorem Covers.pos (hx : x.isZero = false) (h : x.Covers q) : 0 < q := by
  have hsignificand : (1 : ℚ) ≤ x.significand := by exact_mod_cast significand_pos hx
  have hbelow : (x.halfBelow : ℚ) ≤ 2 := by exact_mod_cast x.halfBelow_le
  apply lt_of_lt_of_le _ h.low
  apply mul_pos _ x.quarter_pos
  linarith

theorem roundsTo_of_isZero (hx : x.isZero) : RoundsTo 0 x := by
  have hm : x.magnitude = 0 := by
    rw [isZero, Bool.and_eq_true, beq_iff_eq, beq_iff_eq] at hx
    rw [magnitude, significand, if_pos hx.1, hx.2, Nat.cast_zero, zero_mul]
  rw [← hm]
  refine ⟨fun r _ => ?_, fun r _ heq => .inl ?_⟩
  · rw [sub_self, abs_zero]
    exact abs_nonneg _
  · rw [sub_self, abs_zero, eq_comm, abs_eq_zero, sub_eq_zero] at heq
    exact heq.symm

end SafeOutput.Binary64

namespace SafeOutput.Decimal

open Binary64

variable {x : Binary64} {i : Interval} {exponent : ℤ} {n : ℕ} {d : Decimal}

def value (d : Decimal) : ℚ :=
  d.digits * 10 ^ d.exponent

section Grid

/-- On a grid, the interval of the number is written as multiples of one unit. -/
structure Scales (x : Binary64) (i : Interval) (exponent : ℤ) (unit : ℚ) : Prop where
  unit_pos : 0 < unit
  low : (i.low : ℚ) = (4 * x.significand - x.halfBelow) * x.quarter * unit
  mid : (i.mid : ℚ) = x.magnitude * unit
  high : (i.high : ℚ) = (4 * x.significand + 2) * x.quarter * unit
  denominator : (i.denominator : ℚ) = 10 ^ exponent * unit
  closed : i.closed ↔ x.significand % 2 = 0

theorem pow_toNat {b : ℚ} (hb : b ≠ 0) (a : ℤ) : b ^ a.toNat = b ^ a * b ^ (-a).toNat := by
  obtain ⟨n, rfl | rfl⟩ := a.eq_nat_or_neg
  · simp
  · simp [hb]

theorem scales_of (hx : x.isZero = false) :
    Scales x (Interval.of x) 0 (Interval.of x).denominator := by
  have hscale := pow_toNat (b := 2) two_ne_zero (x.exponent - 2)
  rw [neg_sub, ← quarter] at hscale
  have hbelow : x.halfBelow ≤ 4 * x.significand := by
    have := x.halfBelow_le
    have := significand_pos hx
    omega
  constructor
  · simp only [Interval.of, Nat.pow_eq]
    positivity
  · have hlow : (Interval.of x).low =
        (4 * x.significand - x.halfBelow) * 2 ^ (x.exponent - 2).toNat := rfl
    rw [hlow]
    simp only [Interval.of, Nat.pow_eq]
    push_cast [hbelow]
    rw [hscale]
    ring
  · simp only [Interval.of, Nat.pow_eq]
    push_cast
    rw [hscale, magnitude_eq]
    ring
  · simp only [Interval.of, Nat.pow_eq]
    push_cast
    rw [hscale]
    ring
  · simp
  · simp [Interval.of]

theorem scales_onGrid (hx : x.isZero = false) (exponent : ℤ) :
    ∃ unit, Scales x ((Interval.of x).onGrid exponent) exponent unit := by
  have h := scales_of hx
  refine ⟨(Interval.of x).denominator * 10 ^ (-exponent).toNat, ?_, ?_, ?_, ?_, ?_, h.closed⟩
  · exact mul_pos h.unit_pos (by positivity)
  · simp only [Interval.onGrid, Nat.pow_eq]
    push_cast
    rw [h.low]
    ring
  · simp only [Interval.onGrid, Nat.pow_eq]
    push_cast
    rw [h.mid]
    ring
  · simp only [Interval.onGrid, Nat.pow_eq]
    push_cast
    rw [h.high]
    ring
  · simp only [Interval.onGrid, Nat.pow_eq]
    push_cast
    rw [pow_toNat (by norm_num) exponent]
    ring

variable {unit bound : ℚ} {m : ℕ}

theorem Scales.le_point_iff (h : Scales x i exponent unit) (hm : (m : ℚ) = bound * unit) :
    m ≤ n * i.denominator ↔ bound ≤ n * 10 ^ exponent := by
  rw [← Nat.cast_le (α := ℚ), Nat.cast_mul, hm, h.denominator, ← mul_assoc,
    mul_le_mul_iff_of_pos_right h.unit_pos]

theorem Scales.point_le_iff (h : Scales x i exponent unit) (hm : (m : ℚ) = bound * unit) :
    n * i.denominator ≤ m ↔ n * 10 ^ exponent ≤ bound := by
  rw [← Nat.cast_le (α := ℚ), Nat.cast_mul, hm, h.denominator, ← mul_assoc,
    mul_le_mul_iff_of_pos_right h.unit_pos]

theorem Scales.contains_iff (h : Scales x i exponent unit) :
    i.contains n ↔ x.Covers (n * 10 ^ exponent) := by
  rw [Interval.contains]
  by_cases hclosed : i.closed
  · rw [if_pos hclosed, Bool.and_eq_true, decide_eq_true_iff, decide_eq_true_iff,
      h.le_point_iff h.low, h.point_le_iff h.high]
    exact ⟨fun hq => ⟨hq.1, hq.2, fun _ => h.closed.1 hclosed⟩, fun hq => ⟨hq.low, hq.high⟩⟩
  · rw [if_neg hclosed, Bool.and_eq_true, decide_eq_true_iff, decide_eq_true_iff, ← not_le,
      ← not_le, h.point_le_iff h.low, h.le_point_iff h.high, not_le, not_le]
    have hodd : ¬x.significand % 2 = 0 := fun heven => hclosed (h.closed.2 heven)
    constructor
    · rintro ⟨hlow, hhigh⟩
      exact covers_of_lt hlow hhigh
    · intro hq
      exact ⟨lt_of_le_of_ne hq.low fun he => hodd (hq.ends (.inl he.symm)),
        lt_of_le_of_ne hq.high fun he => hodd (hq.ends (.inr he))⟩

theorem Interval.contains_of_nearest? (h : i.nearest? = some n) : i.contains n := by
  rw [Interval.nearest?] at h
  split at h
  case isTrue hupper =>
    cases h
    rw [Bool.and_eq_true] at hupper
    exact hupper.1
  case isFalse =>
    split at h
    case isTrue hlower =>
      cases h
      exact hlower
    case isFalse => cases h

theorem Interval.not_contains_of_nearest? (h : i.nearest? = none) :
    ¬i.contains (i.mid / i.denominator) ∧ ¬i.contains (i.mid / i.denominator + 1) := by
  rw [Interval.nearest?] at h
  split at h
  case isTrue => cases h
  case isFalse hupper =>
    split at h
    case isTrue => cases h
    case isFalse hlower =>
      refine ⟨hlower, fun hcontains => hupper ?_⟩
      rw [hcontains, Bool.eq_false_iff.2 hlower]
      rfl

theorem Scales.between (h : Scales x i exponent unit) :
    ((i.mid / i.denominator : ℕ) : ℚ) * 10 ^ exponent ≤ x.magnitude ∧
      x.magnitude < ((i.mid / i.denominator + 1 : ℕ) : ℚ) * 10 ^ exponent := by
  have hpos : 0 < i.denominator := by
    rw [← Nat.cast_pos (α := ℚ), h.denominator]
    exact mul_pos (by positivity) h.unit_pos
  refine ⟨(h.point_le_iff h.mid).1 (Nat.div_mul_le_self _ _), ?_⟩
  rw [← not_le, ← h.point_le_iff h.mid, not_le]
  exact (Nat.div_lt_iff_lt_mul hpos).1 (Nat.lt_succ_self _)

/-- A grid that is fine enough for the number has a point in its interval. -/
theorem Scales.nearest?_ne_none (h : Scales x i exponent unit)
    (hfine : 10 ^ 16 * 10 ^ exponent ≤ x.magnitude) : i.nearest? ≠ none := by
  intro hnone
  obtain ⟨hlower, hupper⟩ := Interval.not_contains_of_nearest? hnone
  rw [h.contains_iff] at hlower hupper
  obtain ⟨hle, hlt⟩ := h.between
  have hquarter := x.quarter_pos
  have hv := x.magnitude_eq
  have hbelow : (0 : ℚ) < x.halfBelow := by
    rw [Nat.cast_pos, halfBelow]
    split <;> omega
  have hlow : ((i.mid / i.denominator : ℕ) : ℚ) * 10 ^ exponent ≤
      (4 * x.significand - x.halfBelow) * x.quarter := by
    by_contra hgt
    exact hlower (covers_of_lt (not_le.1 hgt) (by linarith))
  have hhigh : (4 * x.significand + 2) * x.quarter ≤
      ((i.mid / i.denominator + 1 : ℕ) : ℚ) * 10 ^ exponent := by
    by_contra hgt
    apply hupper (covers_of_lt _ (not_le.1 hgt))
    have hgap := mul_pos hbelow hquarter
    linarith
  -- Two neighbours on the grid have the whole interval between them, so the grid is too coarse.
  have hwidth : 10 ^ 16 * (x.halfBelow + 2) * x.quarter ≤ 4 * x.significand * x.quarter := by
    push_cast at hhigh
    linarith
  have hcount : ((4 * x.significand : ℕ) : ℚ) < ((10 ^ 16 * (x.halfBelow + 2) : ℕ) : ℚ) :=
    Nat.cast_lt.2 x.significand_lt_halfBelow
  push_cast at hcount
  exact absurd (le_of_mul_le_mul_right hwidth hquarter) (not_le.2 hcount)

theorem pow_length_toDigits_le (hn : 0 < n) : 10 ^ ((Nat.toDigits 10 n).length - 1) ≤ n := by
  rcases Nat.eq_zero_or_pos ((Nat.toDigits 10 n).length - 1) with hzero | hpos
  · rw [hzero]
    exact hn
  · rw [← not_lt, ← Nat.length_toDigits_le_iff (by decide) hpos]
    omega

theorem two_pow_le_ten_pow {k j places : ℕ} (hk : k ≤ 109 * j) (hplaces : 33 * j ≤ places) :
    2 ^ k ≤ 10 ^ places := by
  calc 2 ^ k ≤ 2 ^ (109 * j) := Nat.pow_le_pow_right (by decide) hk
    _ = (2 ^ 109) ^ j := pow_mul _ _ _
    _ ≤ (10 ^ 33) ^ j := Nat.pow_le_pow_left (by norm_num) j
    _ = 10 ^ (33 * j) := (pow_mul _ _ _).symm
    _ ≤ 10 ^ places := Nat.pow_le_pow_right (by decide) hplaces

theorem denominator_le {places : ℕ} (hx : x.isZero = false) (hplaces : 330 ≤ places) :
    (Interval.of x).denominator ≤ (Interval.of x).mid * Nat.pow 10 places := by
  have hmid : 1 ≤ (Interval.of x).mid := by
    simp only [Interval.of, Nat.pow_eq]
    have := significand_pos hx
    exact Nat.mul_pos (by omega) (by positivity)
  have hexponent : (2 - x.exponent).toNat ≤ 109 * 10 := by
    have := x.exponent_ge
    omega
  calc (Interval.of x).denominator = 2 ^ (2 - x.exponent).toNat := rfl
    _ ≤ 10 ^ places := two_pow_le_ten_pow hexponent hplaces
    _ ≤ (Interval.of x).mid * Nat.pow 10 places := Nat.le_mul_of_pos_left _ hmid

/-- The digits of the scaled number tell where its leading digit stands. -/
theorem le_magnitude_of_places (hx : x.isZero = false) (places : ℕ) (hplaces : 330 ≤ places) :
    (10 : ℚ) ^ (((Nat.toDigits 10 ((Interval.of x).mid * Nat.pow 10 places /
      (Interval.of x).denominator)).length : ℤ) - places - 1) ≤ x.magnitude := by
  have h := scales_of hx
  have hpos := Nat.div_pos (denominator_le hx hplaces) (Nat.cast_pos.1 h.unit_pos)
  have hscaled : (((Interval.of x).mid * Nat.pow 10 places / (Interval.of x).denominator : ℕ) : ℚ) ≤
      ((Interval.of x).mid * 10 ^ places : ℕ) / (Interval.of x).denominator := Nat.cast_div_le
  generalize (Interval.of x).mid * Nat.pow 10 places / (Interval.of x).denominator = n at *
  have hlength : 0 < (Nat.toDigits 10 n).length := List.length_pos_iff.2 Nat.toDigits_ne_nil
  have hexponent : ((Nat.toDigits 10 n).length : ℤ) - places - 1 =
      (((Nat.toDigits 10 n).length - 1 : ℕ) : ℤ) - places := by
    omega
  rw [hexponent, zpow_sub₀ (by norm_num), zpow_natCast, zpow_natCast, div_le_iff₀ (by positivity)]
  calc (10 : ℚ) ^ ((Nat.toDigits 10 n).length - 1) ≤ n := by
        exact_mod_cast pow_length_toDigits_le hpos
    _ ≤ ((Interval.of x).mid * 10 ^ places : ℕ) / (Interval.of x).denominator := hscaled
    _ = x.magnitude * 10 ^ places := by
        have hden := h.unit_pos.ne'
        push_cast
        rw [h.mid]
        field_simp

theorem le_magnitude (hx : x.isZero = false) :
    (10 : ℚ) ^ ((Interval.of x).magnitude - 1) ≤ x.magnitude := by
  -- With the number in place, comparing the two sides would work out the power of ten.
  obtain ⟨places, hplaces⟩ : ∃ places : ℕ, places = 330 := ⟨330, rfl⟩
  have hcast : (330 : ℤ) = places := by rw [hplaces, Nat.cast_ofNat]
  rw [Interval.magnitude, hcast, ← hplaces]
  exact le_magnitude_of_places hx places hplaces.ge

end Grid

theorem value_trimZeros (fuel : ℕ) (d : Decimal) : (trimZeros fuel d).value = d.value := by
  induction fuel generalizing d with
  | zero => rfl
  | succ fuel ih =>
    rw [trimZeros]
    split
    case isTrue h =>
      rw [ih, value, value]
      have hdigits : d.digits / 10 * 10 = d.digits := by omega
      have hcast : ((d.digits / 10 : ℕ) : ℚ) * 10 = d.digits := by exact_mod_cast hdigits
      rw [zpow_add₀ (by norm_num), zpow_one, ← hcast]
      ring
    case isFalse => rfl

/-- Seventeen digits always suffice. -/
theorem covers_shortest (hx : x.isZero = false) : x.Covers (shortest x).value := by
  let exponent (n : ℕ) : ℤ := (Interval.of x).magnitude - (n + 1)
  let pick (n : ℕ) : Option Decimal :=
    ((Interval.of x).onGrid (exponent n)).nearest?.map fun digits => ⟨digits, exponent n⟩
  have hcovers {n : ℕ} {d : Decimal} (hd : pick n = some d) : x.Covers d.value := by
    obtain ⟨digits, hdigits, rfl⟩ := Option.map_eq_some_iff.1 hd
    obtain ⟨unit, h⟩ := scales_onGrid hx (exponent n)
    exact h.contains_iff.1 (Interval.contains_of_nearest? hdigits)
  have hlast : pick 16 ≠ none := by
    obtain ⟨unit, h⟩ := scales_onGrid hx (exponent 16)
    rw [Ne, Option.map_eq_none_iff]
    apply h.nearest?_ne_none
    have hsum : (Interval.of x).magnitude - 1 = 16 + exponent 16 := by
      simp only [exponent]
      omega
    calc (10 : ℚ) ^ 16 * 10 ^ exponent 16 = 10 ^ (16 + exponent 16) := by
          rw [zpow_add₀ (by norm_num)]
          rfl
      _ = 10 ^ ((Interval.of x).magnitude - 1) := by rw [hsum]
      _ ≤ x.magnitude := le_magnitude hx
  have hform : shortest x = trimZeros 17 (((List.range 17).findSome? pick).getD ⟨0, 0⟩) := rfl
  rw [hform, value_trimZeros]
  cases hfound : (List.range 17).findSome? pick with
  | none => exact absurd (List.findSome?_eq_none_iff.1 hfound 16 (by decide)) hlast
  | some d =>
    obtain ⟨n, -, hd⟩ := List.exists_of_findSome?_eq_some hfound
    exact hcovers hd

end SafeOutput.Decimal
