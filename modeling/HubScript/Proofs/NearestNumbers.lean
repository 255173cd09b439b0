import HubScript.Number.Decimal
import Mathlib.Algebra.Order.Field.Power
import Mathlib.Algebra.Order.Floor.Semifield
import Mathlib.Data.Int.Log
import Mathlib.Data.Rat.Floor
import Mathlib.Tactic.FieldSimp
import Mathlib.Tactic.Linarith
import Mathlib.Tactic.NormNum
import Mathlib.Tactic.Positivity
import Mathlib.Tactic.Ring

/-!
# The number nearest to a rational

Rounding works on a numerator and a denominator, and a decimal that is read and the decimal that
was written are seldom the same pair. `nearest` rounds the rational itself, by its binary
logarithm, and `round` is proved to compute it from any pair that stands for the rational. What
follows is said of `nearest`: it gives numbers in canonical form, it gives back a number for every
rational close enough to it, and the cut that `ofDecimal` makes at extreme sizes changes nothing.
-/
namespace HubScript

/-- A fraction multiplied or divided by a power of a base, as the two kinds of scaling do it. -/
theorem ratio_scaled {b : ℕ} (hb : 0 < b) (num den : ℕ) (exponent : ℤ) :
    ((if 0 ≤ exponent then (num, den * b ^ exponent.toNat)
        else (num * b ^ (-exponent).toNat, den)).1 : ℚ) /
      (if 0 ≤ exponent then (num, den * b ^ exponent.toNat)
        else (num * b ^ (-exponent).toNat, den)).2 = num / den / (b : ℚ) ^ exponent := by
  have hbase : (b : ℚ) ≠ 0 := by positivity
  split
  next h =>
    obtain ⟨n, rfl⟩ := Int.eq_ofNat_of_zero_le h
    simp only [Int.toNat_natCast, Nat.cast_mul, Nat.cast_pow, zpow_natCast, div_div]
  next h =>
    obtain ⟨n, rfl⟩ : ∃ n : ℕ, exponent = -(n : ℤ) := ⟨(-exponent).toNat, by omega⟩
    simp only [neg_neg, Int.toNat_natCast, Nat.cast_mul, Nat.cast_pow, zpow_neg, zpow_natCast,
      div_inv_eq_mul]
    ring

theorem den_scaled_pos {b : ℕ} (hb : 0 < b) (num : ℕ) {den : ℕ} (hden : 0 < den) (exponent : ℤ) :
    0 < (if 0 ≤ exponent then (num, den * b ^ exponent.toNat)
      else (num * b ^ (-exponent).toNat, den)).2 := by
  split
  · exact Nat.mul_pos hden (Nat.pow_pos hb)
  · exact hden

theorem two_zpow_pos (n : ℤ) : (0 : ℚ) < 2 ^ n := zpow_pos (by norm_num) n

theorem ten_zpow_pos (n : ℤ) : (0 : ℚ) < 10 ^ n := zpow_pos (by norm_num) n

namespace Decimal

theorem ratio_scale (num den : ℕ) (exponent : ℤ) :
    ((scale num den exponent).1 : ℚ) / (scale num den exponent).2 =
      num / den / (10 : ℚ) ^ exponent := by
  exact_mod_cast ratio_scaled (b := 10) (by decide) num den exponent

theorem den_scale_pos (num : ℕ) {den : ℕ} (hden : 0 < den) (exponent : ℤ) :
    0 < (scale num den exponent).2 :=
  den_scaled_pos (b := 10) (by decide) num hden exponent

end Decimal

namespace Binary64

theorem ratio_scale (num den : ℕ) (exponent : ℤ) :
    ((scale num den exponent).1 : ℚ) / (scale num den exponent).2 =
      num / den / (2 : ℚ) ^ exponent := by
  exact_mod_cast ratio_scaled (b := 2) (by decide) num den exponent

theorem den_scale_pos (num : ℕ) {den : ℕ} (hden : 0 < den) (exponent : ℤ) :
    0 < (scale num den exponent).2 :=
  den_scaled_pos (b := 2) (by decide) num hden exponent

/-! ## Rounding to a natural -/

/-- The natural nearest to a rational, from a tie the even one. -/
def nearestNat (q : ℚ) : ℕ :=
  if q - ⌊q⌋₊ < 1 / 2 ∨ (q - ⌊q⌋₊ = 1 / 2 ∧ ⌊q⌋₊ % 2 = 0) then ⌊q⌋₊ else ⌊q⌋₊ + 1

theorem roundDiv_eq_nearestNat (num : ℕ) {den : ℕ} (hden : 0 < den) :
    roundDiv num den = nearestNat (num / den) := by
  have hpos : (0 : ℚ) < den := by exact_mod_cast hden
  have hfloor : ⌊(num : ℚ) / den⌋₊ = num / den := Nat.floor_div_eq_div num den
  have hrest : (num : ℚ) / den - ((num / den : ℕ) : ℚ) = ((num % den : ℕ) : ℚ) / den := by
    have hsplit : (num : ℚ) = den * ((num / den : ℕ) : ℚ) + ((num % den : ℕ) : ℚ) := by
      exact_mod_cast (Nat.div_add_mod num den).symm
    rw [eq_div_iff hpos.ne', sub_mul, div_mul_cancel₀ _ hpos.ne']
    linarith
  have hlt : ((num % den : ℕ) : ℚ) / den < 1 / 2 ↔ 2 * (num % den) < den := by
    rw [div_lt_div_iff₀ hpos two_pos, one_mul, mul_comm]
    exact_mod_cast Iff.rfl
  have heq : ((num % den : ℕ) : ℚ) / den = 1 / 2 ↔ 2 * (num % den) = den := by
    rw [div_eq_div_iff hpos.ne' two_ne_zero, one_mul, mul_comm]
    exact_mod_cast Iff.rfl
  simp only [roundDiv, nearestNat, hfloor, hrest, hlt, heq, Bool.or_eq_true, Bool.and_eq_true,
    decide_eq_true_eq, beq_iff_eq]

theorem nearestNat_eq {q : ℚ} {n : ℕ} (hlow : (n : ℚ) - 1 / 2 < q) (hhigh : q < n + 1 / 2) :
    nearestNat q = n := by
  rw [nearestNat]
  by_cases hle : (n : ℚ) ≤ q
  · have hfloor : ⌊q⌋₊ = n := by
      rw [Nat.floor_eq_iff (le_trans (by positivity) hle)]
      constructor <;> linarith
    rw [hfloor, if_pos (Or.inl (by linarith))]
  · rw [not_le] at hle
    cases n with
    | zero =>
      have hfloor : ⌊q⌋₊ = 0 := Nat.floor_eq_zero.mpr (by norm_num at hle; linarith)
      rw [hfloor, if_pos (Or.inl (by norm_num at hle ⊢; linarith))]
    | succ n =>
      push_cast at hlow hhigh hle
      have hfloor : ⌊q⌋₊ = n := by
        rw [Nat.floor_eq_iff (by have : (0 : ℚ) ≤ n := by positivity
                                 linarith)]
        constructor <;> linarith
      rw [hfloor, if_neg]
      rintro (h | ⟨h, -⟩) <;> linarith

theorem le_nearestNat {q : ℚ} {n : ℕ} (h : (n : ℚ) ≤ q) : n ≤ nearestNat q := by
  have hfloor : n ≤ ⌊q⌋₊ := Nat.le_floor h
  rw [nearestNat]
  split <;> omega

theorem nearestNat_le {q : ℚ} {n : ℕ} (hq : 0 ≤ q) (h : q < n) : nearestNat q ≤ n := by
  have hfloor : ⌊q⌋₊ < n := (Nat.floor_lt hq).mpr h
  rw [nearestNat]
  split <;> omega

/-! ## Rounding to a number -/

/-- The exponent at which a positive rational has a mantissa of 53 bits, or the least one. -/
def exponentAt (q : ℚ) : ℤ := max leastExponent (Int.log 2 q - 52)

/-- A rounded mantissa as a number: one of 54 bits gives its last bit to the exponent. -/
def carry (negative : Bool) (mantissa : ℕ) (exponent : ℤ) : Binary64 :=
  let (mantissa, exponent) :=
    if mantissa = twoPow 53 then (twoPow 52, exponent + 1) else (mantissa, exponent)
  if exponent > greatestExponent then .infinite negative
  else .finite negative mantissa exponent

/-- The number nearest to a rational that is not negative, with the given sign. -/
def nearest (negative : Bool) (q : ℚ) : Binary64 :=
  if q = 0 then zero negative
  else carry negative (nearestNat (q / 2 ^ exponentAt q)) (exponentAt q)

theorem le_log {q : ℚ} {n : ℤ} (h : (2 : ℚ) ^ n ≤ q) : n ≤ Int.log 2 q :=
  (Int.zpow_le_iff_le_log (b := 2) (by decide) ((two_zpow_pos n).trans_le h)).mp
    (by exact_mod_cast h)

theorem log_lt {q : ℚ} {n : ℤ} (hq : 0 < q) (h : q < 2 ^ n) : Int.log 2 q < n :=
  (Int.lt_zpow_iff_log_lt (b := 2) (by decide) hq).mp (by exact_mod_cast h)

/-- The binary logarithm is determined by the powers on both sides. -/
theorem log_eq_of_bounds {q : ℚ} {n : ℤ} (hlow : (2 : ℚ) ^ n ≤ q) (hhigh : q < 2 ^ (n + 1)) :
    Int.log 2 q = n := by
  have hge := le_log hlow
  have hlt := log_lt ((two_zpow_pos n).trans_le hlow) hhigh
  omega

/-- A fraction between the powers of two that the lengths of its parts give. -/
theorem ratio_bounds {num den : ℕ} (hnum : 0 < num) (hden : 0 < den) :
    (2 : ℚ) ^ ((num.log2 : ℤ) - den.log2 - 1) < num / den ∧
      (num : ℚ) / den < 2 ^ ((num.log2 : ℤ) - den.log2 + 1) := by
  have hpos : (0 : ℚ) < den := by exact_mod_cast hden
  have hnumLow : (2 : ℚ) ^ num.log2 ≤ num := by exact_mod_cast Nat.log2_self_le hnum.ne'
  have hnumHigh : (num : ℚ) < 2 ^ (num.log2 + 1) := by exact_mod_cast Nat.lt_log2_self
  have hdenLow : (2 : ℚ) ^ den.log2 ≤ den := by exact_mod_cast Nat.log2_self_le hden.ne'
  have hdenHigh : (den : ℚ) < 2 ^ (den.log2 + 1) := by exact_mod_cast Nat.lt_log2_self
  have hlow : (2 : ℚ) ^ ((num.log2 : ℤ) - den.log2 - 1) = 2 ^ num.log2 / 2 ^ (den.log2 + 1) := by
    rw [show (num.log2 : ℤ) - den.log2 - 1 = (num.log2 : ℤ) - ((den.log2 + 1 : ℕ) : ℤ) by
      push_cast; ring, zpow_sub₀ two_ne_zero, zpow_natCast, zpow_natCast]
  have hhigh : (2 : ℚ) ^ ((num.log2 : ℤ) - den.log2 + 1) = 2 ^ (num.log2 + 1) / 2 ^ den.log2 := by
    rw [show (num.log2 : ℤ) - den.log2 + 1 = ((num.log2 + 1 : ℕ) : ℤ) - (den.log2 : ℤ) by
      push_cast; ring, zpow_sub₀ two_ne_zero, zpow_natCast, zpow_natCast]
  rw [hlow, hhigh, div_lt_div_iff₀ (by positivity) hpos, div_lt_div_iff₀ hpos (by positivity)]
  constructor
  · calc (2 : ℚ) ^ num.log2 * den ≤ num * den := by gcongr
      _ < num * 2 ^ (den.log2 + 1) := by
        have : (0 : ℚ) < num := by exact_mod_cast hnum
        gcongr
  · calc (num : ℚ) * 2 ^ den.log2 ≤ num * den := by gcongr
      _ < 2 ^ (num.log2 + 1) * den := by gcongr

/-- The quotient is tested in naturals, which compares the rational with a power of two. -/
theorem quotient_lt_iff (num : ℕ) {den : ℕ} (hden : 0 < den) (exponent : ℤ) :
    (scale num den exponent).1 / (scale num den exponent).2 < twoPow 52 ↔
      (num : ℚ) / den < 2 ^ (exponent + 52) := by
  have hpos := den_scale_pos num hden exponent
  have hcast : (0 : ℚ) < (scale num den exponent).2 := by exact_mod_cast hpos
  rw [Nat.div_lt_iff_lt_mul hpos, zpow_add₀ two_ne_zero, ← div_lt_iff₀' (two_zpow_pos exponent),
    ← ratio_scale, div_lt_iff₀ hcast]
  exact_mod_cast Iff.rfl

theorem exponentOf_eq_exponentAt {num den : ℕ} (hnum : 0 < num) (hden : 0 < den) :
    exponentOf num den = exponentAt (num / den) := by
  obtain ⟨hlow, hhigh⟩ := ratio_bounds hnum hden
  set guess : ℤ := (num.log2 : ℤ) - den.log2 - 52 with hguess
  have hlog : Int.log 2 ((num : ℚ) / den) - 52 =
      if (scale num den guess).1 / (scale num den guess).2 < twoPow 52 then guess - 1
      else guess := by
    split
    next h =>
      rw [quotient_lt_iff num hden] at h
      have hbelow : (num : ℚ) / den < 2 ^ (guess + 51 + 1) := by
        rw [show guess + 51 + 1 = guess + 52 by ring]
        exact h
      have habove : (2 : ℚ) ^ (guess + 51) ≤ num / den := by
        rw [show guess + 51 = (num.log2 : ℤ) - den.log2 - 1 by omega]
        exact hlow.le
      have := log_eq_of_bounds habove hbelow
      omega
    next h =>
      rw [quotient_lt_iff num hden, not_lt] at h
      have hbelow : (num : ℚ) / den < 2 ^ (guess + 52 + 1) := by
        rw [show guess + 52 + 1 = (num.log2 : ℤ) - den.log2 + 1 by omega]
        exact hhigh
      have := log_eq_of_bounds h hbelow
      omega
  rw [exponentAt, hlog]
  rfl

/-- Rounding a fraction rounds the rational that it stands for. -/
theorem round_eq_nearest (negative : Bool) (num : ℕ) {den : ℕ} (hden : 0 < den) :
    round negative num den = nearest negative (num / den) := by
  have hpos : (0 : ℚ) < den := by exact_mod_cast hden
  by_cases hnum : num = 0
  · simp [round, nearest, hnum]
  · have hne : (num : ℚ) / den ≠ 0 := div_ne_zero (by exact_mod_cast hnum) hpos.ne'
    rw [nearest, if_neg hne, ← exponentOf_eq_exponentAt (Nat.pos_of_ne_zero hnum) hden,
      ← ratio_scale, ← roundDiv_eq_nearestNat _ (den_scale_pos num hden _)]
    rw [round, if_neg hnum]
    rfl

/-! ## Canonical numbers -/

/-- A mantissa and an exponent in the range of the format, with 53 bits in the mantissa unless the
exponent is the least one. -/
structure IsCanonical (mantissa : ℕ) (exponent : ℤ) : Prop where
  mantissa_lt : mantissa < 2 ^ 53
  least_le : -1074 ≤ exponent
  le_greatest : exponent ≤ 971
  normal : mantissa < 2 ^ 52 → exponent = -1074

theorem scaled_bounds {q : ℚ} (hq : 0 < q) :
    q / 2 ^ exponentAt q < 2 ^ 53 ∧
      (exponentAt q = -1074 ∨ (2 : ℚ) ^ 52 ≤ q / 2 ^ exponentAt q) := by
  have hlow : (2 : ℚ) ^ Int.log 2 q ≤ q := by
    exact_mod_cast Int.zpow_log_le_self (b := 2) (by decide) hq
  have hhigh : q < 2 ^ (Int.log 2 q + 1) := by
    exact_mod_cast Int.lt_zpow_succ_log_self (b := 2) (by decide) q
  have hexponent : exponentAt q = max (-1074) (Int.log 2 q - 52) := rfl
  constructor
  · rw [div_lt_iff₀ (two_zpow_pos _), ← zpow_natCast, ← zpow_add₀ two_ne_zero]
    exact hhigh.trans_le (zpow_le_zpow_right₀ one_le_two (by push_cast; omega))
  · rcases max_choice (-1074 : ℤ) (Int.log 2 q - 52) with h | h
    · exact Or.inl (hexponent.trans h)
    · right
      rw [hexponent, h, le_div_iff₀ (two_zpow_pos _), ← zpow_natCast, ← zpow_add₀ two_ne_zero]
      exact (zpow_le_zpow_right₀ one_le_two (by push_cast; omega)).trans hlow

/-- Rounding gives infinity or a number in canonical form. -/
theorem nearest_cases (negative : Bool) {q : ℚ} (hq : 0 ≤ q) :
    nearest negative q = .infinite negative ∨
      ∃ mantissa exponent, nearest negative q = .finite negative mantissa exponent ∧
        IsCanonical mantissa exponent := by
  rcases hq.eq_or_lt with rfl | hpos
  · exact Or.inr ⟨0, -1074, by simp [nearest, zero, leastExponent], by norm_num, by norm_num,
      by norm_num, fun _ => rfl⟩
  · obtain ⟨hhigh, hlow⟩ := scaled_bounds hpos
    have hleast : -1074 ≤ exponentAt q := le_max_left _ _
    have hle : nearestNat (q / 2 ^ exponentAt q) ≤ 2 ^ 53 :=
      nearestNat_le (div_pos hpos (two_zpow_pos _)).le (by exact_mod_cast hhigh)
    have hnormal : nearestNat (q / 2 ^ exponentAt q) < 2 ^ 52 → exponentAt q = -1074 := by
      intro hlt
      refine hlow.resolve_right fun hge => ?_
      have : 2 ^ 52 ≤ nearestNat (q / 2 ^ exponentAt q) := le_nearestNat (by exact_mod_cast hge)
      omega
    rw [nearest, if_neg hpos.ne', carry]
    by_cases hcarry : nearestNat (q / 2 ^ exponentAt q) = twoPow 53
    · rw [if_pos hcarry]
      by_cases hbig : exponentAt q + 1 > greatestExponent
      · exact Or.inl (if_pos hbig)
      · refine Or.inr ⟨_, _, if_neg hbig, by decide, by omega, not_lt.mp hbig, fun h => ?_⟩
        exact absurd h (by decide)
    · rw [if_neg hcarry]
      by_cases hbig : exponentAt q > greatestExponent
      · exact Or.inl (if_pos hbig)
      · exact Or.inr ⟨_, _, if_neg hbig, lt_of_le_of_ne hle hcarry, hleast, not_lt.mp hbig,
          hnormal⟩

/-- A rational strictly within half a unit of a mantissa, at the exponent that it is rounded at. -/
theorem nearest_eq_finite (negative : Bool) {q : ℚ} {mantissa : ℕ} {exponent : ℤ}
    (hpos : 0 < q) (hexponent : exponentAt q = exponent)
    (hlow : ((mantissa : ℚ) - 1 / 2) * 2 ^ exponent < q)
    (hhigh : q < ((mantissa : ℚ) + 1 / 2) * 2 ^ exponent)
    (hcanonical : IsCanonical mantissa exponent) :
    nearest negative q = .finite negative mantissa exponent := by
  have hround : nearestNat (q / 2 ^ exponent) = mantissa := by
    apply nearestNat_eq
    · exact (lt_div_iff₀ (two_zpow_pos exponent)).mpr hlow
    · exact (div_lt_iff₀ (two_zpow_pos exponent)).mpr hhigh
  have hmantissa : mantissa ≠ twoPow 53 := hcanonical.mantissa_lt.ne
  rw [nearest, if_neg hpos.ne', hexponent, hround, carry, if_neg hmantissa]
  exact if_neg (not_lt.mpr hcanonical.le_greatest)

/-- A rational just below a power of two, where the numbers are twice as dense, is rounded up to
it through the carry. -/
theorem nearest_eq_power (negative : Bool) {q : ℚ} {exponent : ℤ} (hleast : -1074 < exponent)
    (hgreatest : exponent ≤ 971) (hlow : ((2 : ℚ) ^ 53 - 1 / 2) * 2 ^ (exponent - 1) < q)
    (hhigh : q < 2 ^ (exponent + 52)) :
    nearest negative q = .finite negative (2 ^ 52) exponent := by
  have hstep : (2 : ℚ) ^ (exponent + 52) = 2 ^ 53 * 2 ^ (exponent - 1) := by
    rw [← zpow_natCast, ← zpow_add₀ two_ne_zero]
    congr 1
    push_cast
    ring
  have hunit := two_zpow_pos (exponent - 1)
  have hpos : 0 < q := lt_trans (by positivity) hlow
  have hlog : Int.log 2 q = exponent + 51 := by
    apply log_eq_of_bounds
    · rw [show exponent + 51 = ((52 : ℕ) : ℤ) + (exponent - 1) by push_cast; ring,
        zpow_add₀ two_ne_zero, zpow_natCast]
      nlinarith
    · rw [show exponent + 51 + 1 = exponent + 52 by ring]
      exact hhigh
  have hexponent : exponentAt q = exponent - 1 := by
    rw [exponentAt, hlog, leastExponent]
    omega
  have hround : nearestNat (q / 2 ^ (exponent - 1)) = 2 ^ 53 := by
    apply nearestNat_eq
    · rw [lt_div_iff₀ hunit]
      exact_mod_cast hlow
    · rw [div_lt_iff₀ hunit]
      push_cast
      linarith
  rw [nearest, if_neg hpos.ne', hexponent, hround, carry, if_pos (show 2 ^ 53 = twoPow 53 from rfl)]
  dsimp only
  rw [show exponent - 1 + 1 = exponent by ring]
  exact if_neg (not_lt.mpr hgreatest)

/-- Every rational whose relative distance to a number is below `2 ^ -54` is rounded to it. -/
theorem nearest_of_close (negative : Bool) {q : ℚ} {mantissa : ℕ} {exponent : ℤ}
    (hmantissa : 0 < mantissa) (hcanonical : IsCanonical mantissa exponent)
    (hclose : |q - mantissa * 2 ^ exponent| * 2 ^ 54 < mantissa * 2 ^ exponent) :
    nearest negative q = .finite negative mantissa exponent := by
  obtain ⟨hlt, hleast, hgreatest, hnormal⟩ := hcanonical
  have hunit := two_zpow_pos exponent
  have hone : (1 : ℚ) ≤ mantissa := by exact_mod_cast hmantissa
  have hbits : (mantissa : ℚ) + 1 ≤ 2 ^ 53 := by exact_mod_cast hlt
  -- The distance is below half a unit, and below a quarter for the least mantissa of 53 bits.
  obtain ⟨hup, hdown⟩ : (q - mantissa * 2 ^ exponent) * 2 ^ 54 < mantissa * 2 ^ exponent ∧
      -(q - mantissa * 2 ^ exponent) * 2 ^ 54 < mantissa * 2 ^ exponent := by
    have h₁ := le_abs_self (q - mantissa * 2 ^ exponent)
    have h₂ := neg_le_abs (q - mantissa * 2 ^ exponent)
    constructor <;> nlinarith
  have hhigh : q < ((mantissa : ℚ) + 1 / 2) * 2 ^ exponent := by nlinarith
  have hlow : ((mantissa : ℚ) - 1 / 2) * 2 ^ exponent < q := by nlinarith
  have hpos : 0 < q := lt_of_le_of_lt (mul_nonneg (by linarith) hunit.le) hlow
  have hlogLe : Int.log 2 q ≤ exponent + 52 := by
    have hbelow : q < 2 ^ (exponent + 53) := by
      rw [show exponent + 53 = ((53 : ℕ) : ℤ) + exponent by push_cast; ring,
        zpow_add₀ two_ne_zero, zpow_natCast]
      nlinarith
    have := log_lt hpos hbelow
    omega
  by_cases habove : (2 : ℚ) ^ (exponent + 52) ≤ q
  · have hlogGe := le_log habove
    have hexponent : exponentAt q = exponent := by
      rw [exponentAt, leastExponent]
      omega
    exact nearest_eq_finite negative hpos hexponent hlow hhigh ⟨hlt, hleast, hgreatest, hnormal⟩
  · rw [not_le] at habove
    have hlogLt := log_lt hpos habove
    rcases hleast.eq_or_lt with rfl | hleast'
    · have hexponent : exponentAt q = -1074 := by
        rw [exponentAt, leastExponent]
        omega
      exact nearest_eq_finite negative hpos hexponent hlow hhigh ⟨hlt, hleast, hgreatest, hnormal⟩
    · -- Below `2 ^ 52` units only the least mantissa of 53 bits is half a unit away.
      have hsplit : (2 : ℚ) ^ (exponent + 52) = 2 ^ 52 * 2 ^ exponent := by
        rw [add_comm, zpow_add₀ two_ne_zero]
        rfl
      have hge : 2 ^ 52 ≤ mantissa := by
        by_contra h
        exact hleast'.ne' (hnormal (not_le.mp h))
      have hle : mantissa ≤ 2 ^ 52 := by
        by_contra h
        have hsucc : (2 : ℚ) ^ 52 + 1 ≤ mantissa := by exact_mod_cast not_le.mp h
        nlinarith
      obtain rfl : mantissa = 2 ^ 52 := le_antisymm hle hge
      have hhalf : (2 : ℚ) ^ exponent = 2 * 2 ^ (exponent - 1) := by
        rw [zpow_sub_one₀ two_ne_zero]
        ring
      refine nearest_eq_power negative hleast' hgreatest ?_ habove
      rw [hhalf] at hdown
      push_cast at hdown
      linarith

/-! ## Decimals -/

theorem two_pow_lt_ten_pow {m n : ℕ} (hn : n ≠ 0) (h : m ≤ 3 * n) : (2 : ℚ) ^ m < 10 ^ n := by
  calc (2 : ℚ) ^ m ≤ 2 ^ (3 * n) := pow_le_pow_right₀ one_le_two h
    _ = 8 ^ n := by rw [pow_mul]; norm_num
    _ < 10 ^ n := pow_lt_pow_left₀ (by norm_num) (by norm_num) hn

theorem nearest_of_large (negative : Bool) {q : ℚ} (h : (2 : ℚ) ^ 1024 ≤ q) :
    nearest negative q = .infinite negative := by
  have hpos : 0 < q := lt_of_lt_of_le (by positivity) h
  have hlog : 1024 ≤ Int.log 2 q := le_log (by exact_mod_cast h)
  have hexponent : 972 ≤ exponentAt q := by
    rw [exponentAt]
    omega
  rw [nearest, if_neg hpos.ne', carry]
  by_cases hcarry : nearestNat (q / 2 ^ exponentAt q) = twoPow 53
  · rw [if_pos hcarry]
    exact if_pos (by rw [greatestExponent]; omega)
  · rw [if_neg hcarry]
    exact if_pos (by rw [greatestExponent]; omega)

theorem nearest_of_small (negative : Bool) {q : ℚ} (hpos : 0 < q)
    (h : q < (2 : ℚ) ^ (-1075 : ℤ)) : nearest negative q = zero negative := by
  have hlog := log_lt hpos h
  have hexponent : exponentAt q = -1074 := by
    rw [exponentAt, leastExponent]
    omega
  have hhalf : (2 : ℚ) ^ (-1075 : ℤ) = 1 / 2 * 2 ^ (-1074 : ℤ) := by
    rw [show (-1075 : ℤ) = -1 + -1074 by norm_num, zpow_add₀ two_ne_zero]
    norm_num
  have hunit := two_zpow_pos (-1074)
  apply nearest_eq_finite negative hpos hexponent
  · rw [Nat.cast_zero, zero_sub, neg_mul]
    exact (neg_neg_of_pos (mul_pos one_half_pos hunit)).trans hpos
  · rw [Nat.cast_zero, zero_add]
    exact h.trans_eq hhalf
  · exact ⟨by norm_num, by decide, by decide, fun _ => rfl⟩

/-- The estimate of a decimal logarithm from a binary one, over the exponents of the format. -/
theorem log_estimate {n : ℕ} (h : n < 1100) :
    10 ^ (n * 30103 / 100000) ≤ 2 ^ n ∧ 2 ^ (n + 1) ≤ 10 ^ (n * 30103 / 100000 + 2) := by
  have hall : (List.range 1100).all fun n =>
      10 ^ (n * 30103 / 100000) ≤ 2 ^ n && 2 ^ (n + 1) ≤ 10 ^ (n * 30103 / 100000 + 2) := by
    decide +kernel
  have := List.all_eq_true.mp hall n (List.mem_range.mpr h)
  simpa using this

theorem round_eq_nearest_decimal (negative : Bool) (digits : ℕ) (exponent : ℤ) :
    (if 0 ≤ exponent then round negative (digits * tenPow exponent.toNat) 1
      else round negative digits (tenPow (-exponent).toNat)) =
        nearest negative (digits * (10 : ℚ) ^ exponent) := by
  split
  next h =>
    obtain ⟨n, rfl⟩ := Int.eq_ofNat_of_zero_le h
    rw [round_eq_nearest negative _ Nat.one_pos]
    congr 1
    simp [tenPow]
  next h =>
    obtain ⟨n, rfl⟩ : ∃ n : ℕ, exponent = -(n : ℤ) := ⟨(-exponent).toNat, by omega⟩
    have hden : 0 < tenPow n := Nat.pow_pos (by decide)
    rw [neg_neg, Int.toNat_natCast, round_eq_nearest negative _ hden]
    congr 1
    simp [tenPow, zpow_neg, div_eq_mul_inv]

/-- A decimal of at most forty digits is read as the nearest number: no size that is settled
without the power is within reach of the format. -/
theorem ofDecimal_eq_nearest (negative : Bool) {digits : ℕ} (hdigits : digits < 10 ^ 40)
    (exponent : ℤ) :
    ofDecimal negative digits exponent = nearest negative (digits * (10 : ℚ) ^ exponent) := by
  by_cases hzero : digits = 0
  · simp [ofDecimal, nearest, hzero]
  have hlen : digits.log2 < 140 := by
    rw [Nat.log2_lt hzero]
    exact hdigits.trans (by decide)
  obtain ⟨hestLow, hestHigh⟩ := log_estimate (hlen.trans (by decide))
  have hlow : (10 : ℚ) ^ (digits.log2 * 30103 / 100000) ≤ digits := by
    exact_mod_cast hestLow.trans (Nat.log2_self_le hzero)
  have hhigh : (digits : ℚ) < 10 ^ (digits.log2 * 30103 / 100000 + 2) := by
    exact_mod_cast (Nat.lt_log2_self (n := digits)).trans_le hestHigh
  have hsize : exponent + (digits.log2 : ℤ) * 30103 / 100000 =
      exponent + ((digits.log2 * 30103 / 100000 : ℕ) : ℤ) := by
    push_cast
    rfl
  have hten := ten_zpow_pos exponent
  have hpos : (0 : ℚ) < digits := by exact_mod_cast Nat.pos_of_ne_zero hzero
  rw [ofDecimal, if_neg hzero, hsize]
  generalize digits.log2 * 30103 / 100000 = estimate at hlow hhigh
  dsimp only
  split
  next hlarge =>
    symm
    apply nearest_of_large
    calc (2 : ℚ) ^ 1024 ≤ 10 ^ 401 := (two_pow_lt_ten_pow (by decide) (by decide)).le
      _ = 10 ^ (401 : ℤ) := (zpow_ofNat 10 401).symm
      _ ≤ 10 ^ ((estimate : ℤ) + exponent) := zpow_le_zpow_right₀ (by norm_num) (by omega)
      _ = 10 ^ estimate * 10 ^ exponent := by rw [zpow_add₀ (by norm_num), zpow_natCast]
      _ ≤ digits * 10 ^ exponent := by gcongr
  next =>
    split
    next hsmall =>
      symm
      apply nearest_of_small negative (mul_pos hpos hten)
      calc (digits : ℚ) * 10 ^ exponent ≤ 10 ^ (estimate + 2) * 10 ^ exponent := by gcongr
        _ = 10 ^ ((estimate : ℤ) + 2 + exponent) := by
          rw [zpow_add₀ (by norm_num), ← zpow_natCast]
          push_cast
          rfl
        _ ≤ 10 ^ (-398 : ℤ) := zpow_le_zpow_right₀ (by norm_num) (by omega)
        _ < 2 ^ (-1075 : ℤ) := by
          rw [zpow_neg, zpow_neg, zpow_ofNat, zpow_ofNat]
          exact inv_strictAnti₀ (by positivity) (two_pow_lt_ten_pow (by decide) (by decide))
    next => exact round_eq_nearest_decimal negative digits exponent

end Binary64

end HubScript
