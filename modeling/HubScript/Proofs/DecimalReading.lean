import HubScript.Proofs.NearestNumbers
import HubScript.Proofs.NumeralText
import Mathlib.Data.List.TakeWhile
import Mathlib.Data.Nat.Cast.Order.Field

/-!
# The shortest decimal of a number is read back as the number

The shortest decimal of a number is looked for among those that read back as it, so all there is to
prove of the search is that it ends with one: of the decimals of seventeen digits the nearest lies
within the distance that is rounded to the number. `IsShortest` says what is known of the decimal
that is found, whatever the count of its digits.
-/
namespace HubScript

open Text Binary64

/-! ## Digits -/

theorem ofDigitChars_lt {cs : List Char} (h : ∀ c ∈ cs, isDigit c = true) :
    Nat.ofDigitChars 10 cs 0 < 10 ^ cs.length := by
  induction cs with
  | nil => simp
  | cons c cs ih =>
    obtain ⟨hc, hcs⟩ := List.forall_mem_cons.mp h
    have hdigit : c.toNat - '0'.toNat < 10 := by
      simp only [isDigit, Bool.and_eq_true, decide_eq_true_eq] at hc
      have := UInt32.le_iff_toNat_le.mp hc.2
      have h9 : '9'.val.toNat = 57 := rfl
      have h0 : '0'.toNat = 48 := rfl
      change c.val.toNat - _ < 10
      omega
    have := ih hcs
    rw [Nat.ofDigitChars_cons, Nat.ofDigitChars_eq_ofDigitChars_zero, List.length_cons, pow_succ]
    nlinarith

theorem isDigit_of_mem_toDigits {n : ℕ} {c : Char} (h : c ∈ Nat.toDigits 10 n) :
    isDigit c = true :=
  Nat.isDigit_of_mem_toDigits (by decide) (by decide) h

/-- No digits of a positive natural start with a zero. -/
theorem toDigits_ne_zero_cons {n : ℕ} (hn : 0 < n) (rest : List Char) :
    Nat.toDigits 10 n ≠ '0' :: rest := by
  intro h
  have hvalue : Nat.ofDigitChars 10 rest 0 = n := by
    rw [← Nat.ofDigitChars_ten_toDigits (n := n), h]
    rfl
  have hrest : ∀ c ∈ rest, isDigit c = true := fun c hc =>
    isDigit_of_mem_toDigits (n := n) (by rw [h]; exact List.mem_cons_of_mem _ hc)
  cases rest with
  | nil => exact hn.ne hvalue
  | cons c cs =>
    have hlen := (Nat.length_toDigits_le_iff (b := 10) (n := n) (k := (c :: cs).length)
      (by decide) (by simp)).mpr (hvalue ▸ ofDigitChars_lt hrest)
    rw [h] at hlen
    simp at hlen

namespace Decimal

/-- The rational that a decimal stands for. -/
def value (d : Decimal) : ℚ :=
  (Nat.ofDigitChars 10 d.digits 0 : ℚ) * 10 ^ (d.point - d.digits.length)

theorem value_ofUnits (units : ℕ) (exponent : ℤ) :
    (ofUnits units exponent).value = units * 10 ^ exponent := by
  rw [value, ofUnits, digitsOf]
  dsimp only
  rw [Nat.ofDigitChars_ten_toDigits, add_sub_cancel_right]

/-- Only zeros are dropped. -/
theorem exists_dropZeros (cs : List Char) :
    ∃ n, cs = dropZeros cs ++ List.replicate n '0' := by
  refine ⟨(cs.reverse.takeWhile (· == '0')).length, ?_⟩
  have hzeros : cs.reverse.takeWhile (· == '0') =
      List.replicate (cs.reverse.takeWhile (· == '0')).length '0' := by
    apply List.eq_replicate_of_mem
    intro c hc
    simpa using List.mem_takeWhile_imp hc
  rw [← List.reverse_replicate, ← hzeros, dropZeros, ← List.reverse_append,
    List.takeWhile_append_dropWhile, List.reverse_reverse]

theorem value_append_zeros (cs : List Char) (n : ℕ) (point : ℤ) :
    (⟨cs ++ List.replicate n '0', point⟩ : Decimal).value = (⟨cs, point⟩ : Decimal).value := by
  simp only [value, Nat.ofDigitChars_append, Nat.ofDigitChars_replicate_zero, List.length_append,
    List.length_replicate, Nat.cast_mul, Nat.cast_pow, Nat.cast_ofNat, Nat.cast_add]
  rw [mul_right_comm, ← zpow_natCast, ← zpow_add₀ (by norm_num), mul_comm]
  congr 2
  ring

theorem value_dropZeros (d : Decimal) :
    (⟨dropZeros d.digits, d.point⟩ : Decimal).value = d.value := by
  obtain ⟨n, hn⟩ := exists_dropZeros d.digits
  rw [← value_append_zeros _ n, ← hn]

/-! ## The point of a fraction -/

theorem below_iff (num : ℕ) {den : ℕ} (hden : 0 < den) (exponent : ℤ) :
    below num den exponent = true ↔ (num : ℚ) / den < 10 ^ exponent := by
  have hpos : (0 : ℚ) < (scale num den exponent).2 := by exact_mod_cast den_scale_pos num hden _
  rw [← one_mul ((10 : ℚ) ^ exponent), ← div_lt_iff₀ (ten_zpow_pos exponent), ← ratio_scale,
    div_lt_one hpos, Nat.cast_lt]
  exact decide_eq_true_iff

/-- The estimate of the point, for fractions of the size of the format. -/
theorem point_estimate {n : ℤ} (hlow : -1100 < n) (hhigh : n < 1100) :
    (10 : ℚ) ^ (n * 30103 / 100000 - 2) ≤ 2 ^ (n - 1) ∧
      (2 : ℚ) ^ (n + 1) ≤ 10 ^ (n * 30103 / 100000 + 2) := by
  rcases le_or_gt 0 n with hn | hn
  · obtain ⟨k, rfl⟩ := Int.eq_ofNat_of_zero_le hn
    obtain ⟨h₁, h₂⟩ := log_estimate (n := k) (by omega)
    have h₁' : (10 : ℚ) ^ (k * 30103 / 100000) ≤ 2 ^ k := by exact_mod_cast h₁
    rw [show (k : ℤ) * 30103 / 100000 = ((k * 30103 / 100000 : ℕ) : ℤ) by push_cast; rfl]
    constructor
    · rw [zpow_sub₀ (by norm_num), zpow_sub₀ (by norm_num), zpow_natCast, zpow_natCast]
      have := pow_pos (show (0 : ℚ) < 2 by norm_num) k
      norm_num
      linarith
    · exact_mod_cast h₂
  · obtain ⟨k, rfl⟩ : ∃ k : ℕ, n = -(k : ℤ) := ⟨(-n).toNat, by omega⟩
    obtain ⟨h₁, h₂⟩ := log_estimate (n := k) (by omega)
    -- Division of a negative number rounds away from zero, by at most one.
    obtain ⟨m, hm, hle, hge⟩ : ∃ m : ℕ, -(k : ℤ) * 30103 / 100000 = -(m : ℤ) ∧
        m ≤ k * 30103 / 100000 + 1 ∧ k * 30103 / 100000 ≤ m :=
      ⟨(-(-(k : ℤ) * 30103 / 100000)).toNat, by omega, by omega, by omega⟩
    have hten : (10 : ℚ) ^ m ≤ 10 * 2 ^ k := by
      have : 10 ^ m ≤ 10 * 2 ^ k := by
        calc 10 ^ m ≤ 10 ^ (k * 30103 / 100000 + 1) := Nat.pow_le_pow_right (by decide) hle
          _ = 10 * 10 ^ (k * 30103 / 100000) := by rw [pow_succ, mul_comm]
          _ ≤ 10 * 2 ^ k := by gcongr
      exact_mod_cast this
    have htwo : (2 : ℚ) ^ (k + 1) ≤ 10 ^ (m + 2) := by
      have : 2 ^ (k + 1) ≤ 10 ^ (m + 2) :=
        h₂.trans (Nat.pow_le_pow_right (by decide) (by omega))
      exact_mod_cast this
    rw [hm]
    constructor
    · rw [show -(m : ℤ) - 2 = -((m + 2 : ℕ) : ℤ) by push_cast; ring,
        show -(k : ℤ) - 1 = -((k + 1 : ℕ) : ℤ) by push_cast; ring, zpow_neg, zpow_neg,
        zpow_natCast, zpow_natCast]
      exact inv_anti₀ (by positivity) htwo
    · rw [zpow_add₀ (by norm_num), zpow_add₀ (by norm_num), zpow_neg, zpow_neg, zpow_natCast,
        zpow_natCast, inv_mul_le_iff₀ (by positivity), ← mul_assoc, mul_comm _ (10 ^ m)⁻¹,
        mul_assoc, le_inv_mul_iff₀ (by positivity)]
      have := pow_pos (show (0 : ℚ) < 2 by norm_num) k
      norm_num
      linarith

/-- The point stands at most one place above the first digit of the fraction, and not so far below
it that the digits run long. -/
theorem pointOf_bounds {num den : ℕ} (hnum : 0 < num) (hden : 0 < den)
    (hlow : -1100 < (num.log2 : ℤ) - den.log2) (hhigh : (num.log2 : ℤ) - den.log2 < 1100) :
    (10 : ℚ) ^ (pointOf num den - 1) ≤ num / den ∧
      (num : ℚ) / den < 10 ^ (pointOf num den + 3) := by
  obtain ⟨hratioLow, hratioHigh⟩ := ratio_bounds hnum hden
  obtain ⟨hestLow, hestHigh⟩ := point_estimate hlow hhigh
  have habove (k : ℤ) (h : ¬below num den k = true) : (10 : ℚ) ^ k ≤ num / den := by
    rwa [below_iff num hden, not_lt] at h
  have hbelow (p : ℤ) (h : ((num.log2 : ℤ) - den.log2) * 30103 / 100000 - 1 ≤ p) :
      (num : ℚ) / den < 10 ^ (p + 3) :=
    hratioHigh.trans_le (hestHigh.trans (zpow_le_zpow_right₀ (by norm_num) (by omega)))
  unfold pointOf
  dsimp only
  split
  next =>
    refine ⟨?_, hbelow _ le_rfl⟩
    rw [show ∀ k : ℤ, k - 1 - 1 = k - 2 by intro k; ring]
    exact hestLow.trans hratioLow.le
  next h₁ =>
    split
    next => exact ⟨by rw [add_sub_cancel_right]; exact habove _ h₁, hbelow _ (by omega)⟩
    next h₂ =>
      split
      next =>
        exact ⟨by rw [show ∀ k : ℤ, k + 2 - 1 = k + 1 by intro k; ring]; exact habove _ h₂,
          hbelow _ (by omega)⟩
      next h₃ =>
        exact ⟨by rw [show ∀ k : ℤ, k + 3 - 1 = k + 2 by intro k; ring]; exact habove _ h₃,
          hbelow _ (by omega)⟩

/-! ## The shortest decimal -/

theorem readUnits_eq_nearest (units : ℕ) (exponent : ℤ) :
    readUnits units exponent = nearest false (units * 10 ^ exponent) := by
  have hratio := ratio_scale units 1 (-exponent)
  rw [Nat.cast_one, div_one, zpow_neg, div_inv_eq_mul] at hratio
  rw [← hratio]
  exact round_eq_nearest false _ (den_scale_pos units Nat.one_pos _)

theorem le_of_mem_order {near low units : ℕ}
    (h : units ∈ if near = low then [low, low + 1] else [low + 1, low]) : units ≤ low + 1 := by
  split at h <;> simp only [List.mem_cons, List.not_mem_nil, or_false] at h <;> omega

/-- A decimal that is found reads back, and is one of the two next to the fraction. -/
theorem readBack?_eq_some {x : Binary64} {num den count : ℕ} {d : Decimal}
    (h : readBack? x num den count = some d) :
    ∃ units : ℕ, d = ofUnits units (pointOf num den - count) ∧
      nearest false (units * 10 ^ (pointOf num den - count)) = x ∧
      (units : ℚ) ≤ num / den / 10 ^ (pointOf num den - count) + 1 := by
  obtain ⟨units, hfind, rfl⟩ := Option.map_eq_some_iff.mp h
  have hread := List.find?_some hfind
  have hmem := List.mem_of_find?_eq_some hfind
  refine ⟨units, rfl, ?_, ?_⟩
  · rw [← readUnits_eq_nearest]
    exact beq_iff_eq.mp hread
  · have hle : units ≤ (scale num den (pointOf num den - count)).1 /
        (scale num den (pointOf num den - count)).2 + 1 := le_of_mem_order hmem
    rw [← ratio_scale]
    have hfloor := Nat.cast_div_le (α := ℚ) (m := (scale num den (pointOf num den - count)).1)
      (n := (scale num den (pointOf num den - count)).2)
    have hcast : (units : ℚ) ≤ (((scale num den (pointOf num den - count)).1 /
        (scale num den (pointOf num den - count)).2 : ℕ) : ℚ) + 1 := by exact_mod_cast hle
    linarith

theorem roundDiv_mem_order (num den : ℕ) :
    roundDiv num den ∈ if roundDiv num den = num / den then [num / den, num / den + 1]
      else [num / den + 1, num / den] := by
  have hcases : roundDiv num den = num / den ∨ roundDiv num den = num / den + 1 := by
    unfold roundDiv
    dsimp only
    split
    · exact Or.inl rfl
    · exact Or.inr rfl
  split
  next h => rw [h]; exact List.mem_cons_self
  next h => rw [hcases.resolve_left h]; exact List.mem_cons_self

/-- If the nearer of the two decimals next to the fraction reads back, one is found. -/
theorem exists_readBack? {x : Binary64} {num den count : ℕ} (hden : 0 < den)
    (h : nearest false (nearestNat (num / den / 10 ^ (pointOf num den - count)) *
      10 ^ (pointOf num den - count)) = x) : ∃ d, readBack? x num den count = some d := by
  have hunits : roundDiv (scale num den (pointOf num den - count)).1
      (scale num den (pointOf num den - count)).2 =
        nearestNat (num / den / 10 ^ (pointOf num den - count)) := by
    rw [roundDiv_eq_nearestNat _ (den_scale_pos num hden _), ratio_scale]
  have hread : (readUnits (roundDiv (scale num den (pointOf num den - count)).1
      (scale num den (pointOf num den - count)).2) (pointOf num den - count) == x) = true := by
    rw [beq_iff_eq, readUnits_eq_nearest, hunits]
    exact h
  rw [← Option.isSome_iff_exists, readBack?, Option.isSome_map, List.find?_isSome]
  refine ⟨_, ?_, hread⟩
  apply roundDiv_mem_order

end Decimal

namespace Binary64

theorem nearestNat_close {q : ℚ} (hq : 0 ≤ q) : |(nearestNat q : ℚ) - q| ≤ 1 / 2 := by
  have hle := Nat.floor_le hq
  have hlt := Nat.lt_floor_add_one q
  rw [abs_le, nearestNat]
  split
  next h => rcases h with h | ⟨h, -⟩ <;> constructor <;> linarith
  next h =>
    rw [not_or, not_lt] at h
    push_cast
    constructor <;> linarith [h.1]

theorem ratio_fraction (mantissa : ℕ) (exponent : ℤ) :
    ((fraction mantissa exponent).1 : ℚ) / (fraction mantissa exponent).2 =
      mantissa * 2 ^ exponent := by
  unfold fraction
  split
  next h =>
    obtain ⟨n, rfl⟩ := Int.eq_ofNat_of_zero_le h
    simp [twoPow]
  next h =>
    obtain ⟨n, rfl⟩ : ∃ n : ℕ, exponent = -(n : ℤ) := ⟨(-exponent).toNat, by omega⟩
    simp [twoPow, zpow_neg, div_eq_mul_inv]

theorem fraction_pos {mantissa : ℕ} (h : 0 < mantissa) (exponent : ℤ) :
    0 < (fraction mantissa exponent).1 ∧ 0 < (fraction mantissa exponent).2 := by
  unfold fraction
  split
  · exact ⟨Nat.mul_pos h (Nat.pow_pos (by decide)), Nat.one_pos⟩
  · exact ⟨h, Nat.pow_pos (by decide)⟩

/-- The lengths of the two parts of a canonical number differ by no more than the exponents of the
format. -/
theorem log_fraction {mantissa : ℕ} {exponent : ℤ} (hmantissa : 0 < mantissa)
    (h : IsCanonical mantissa exponent) :
    -1100 < ((fraction mantissa exponent).1.log2 : ℤ) - (fraction mantissa exponent).2.log2 ∧
      ((fraction mantissa exponent).1.log2 : ℤ) - (fraction mantissa exponent).2.log2 < 1100 := by
  obtain ⟨hnum, hden⟩ := fraction_pos hmantissa exponent
  obtain ⟨hlow, hhigh⟩ := ratio_bounds hnum hden
  rw [ratio_fraction] at hlow hhigh
  have hunit := two_zpow_pos exponent
  have hone : (1 : ℚ) ≤ mantissa := by exact_mod_cast hmantissa
  have hlt : (mantissa : ℚ) < 2 ^ (53 : ℤ) := by exact_mod_cast h.mantissa_lt
  have hleast := h.least_le
  have hgreatest := h.le_greatest
  have hup : (2 : ℚ) ^ (((fraction mantissa exponent).1.log2 : ℤ) -
      (fraction mantissa exponent).2.log2 - 1) < 2 ^ (53 + exponent) := by
    rw [zpow_add₀ two_ne_zero]
    exact hlow.trans (by gcongr)
  have hdown : (2 : ℚ) ^ exponent < 2 ^ (((fraction mantissa exponent).1.log2 : ℤ) -
      (fraction mantissa exponent).2.log2 + 1) :=
    lt_of_le_of_lt (le_mul_of_one_le_left hunit.le hone) hhigh
  rw [zpow_lt_zpow_iff_right₀ one_lt_two] at hup hdown
  omega

/-- Seventeen digits are enough for every number. -/
theorem seventeen_digits {mantissa : ℕ} {exponent : ℤ} (hmantissa : 0 < mantissa)
    (h : IsCanonical mantissa exponent) :
    ∃ d, Decimal.readBack? (.finite false mantissa exponent) (fraction mantissa exponent).1
      (fraction mantissa exponent).2 17 = some d := by
  obtain ⟨hnum, hden⟩ := fraction_pos hmantissa exponent
  obtain ⟨hlogLow, hlogHigh⟩ := log_fraction hmantissa h
  have hpoint := (Decimal.pointOf_bounds hnum hden hlogLow hlogHigh).1
  apply Decimal.exists_readBack? hden
  set point := Decimal.pointOf (fraction mantissa exponent).1 (fraction mantissa exponent).2
  rw [ratio_fraction] at hpoint ⊢
  have hunit := ten_zpow_pos (point - (17 : ℕ))
  set unit : ℚ := 10 ^ (point - (17 : ℕ)) with hunitEq
  set x : ℚ := mantissa * 2 ^ exponent
  have hx : 0 < x := mul_pos (by exact_mod_cast hmantissa) (two_zpow_pos exponent)
  -- The step between two decimals of seventeen digits is small beside the number.
  have hstep : unit * 10 ^ 16 ≤ x := by
    calc unit * 10 ^ 16 = 10 ^ (point - 1) := by
          rw [hunitEq, ← zpow_natCast, ← zpow_add₀ (by norm_num)]
          congr 1
          push_cast
          ring
      _ ≤ x := hpoint
  have hclose : |(nearestNat (x / unit) : ℚ) * unit - x| ≤ 1 / 2 * unit := by
    have hnear := nearestNat_close (q := x / unit) (div_pos hx hunit).le
    calc |(nearestNat (x / unit) : ℚ) * unit - x|
        = |(nearestNat (x / unit) : ℚ) - x / unit| * unit := by
          rw [← abs_of_pos hunit, ← abs_mul, abs_of_pos hunit, sub_mul, div_mul_cancel₀ _ hunit.ne']
      _ ≤ 1 / 2 * unit := by gcongr
  apply nearest_of_close false hmantissa h
  calc |(nearestNat (x / unit) : ℚ) * unit - x| * 2 ^ 54 ≤ 1 / 2 * unit * 2 ^ 54 := by gcongr
    _ < unit * 10 ^ 16 := by nlinarith
    _ ≤ x := hstep

end Binary64

namespace Decimal

/-- What is known of the shortest decimal of a number: it reads back, and its digits are few and
start with none that could be left out. -/
structure IsShortest (d : Decimal) (x : Binary64) : Prop where
  nearest_value : nearest false d.value = x
  isDigit : ∀ c ∈ d.digits, isDigit c = true
  ne_nil : d.digits ≠ []
  ne_zero_cons : ∀ rest, d.digits ≠ '0' :: rest
  length_le : d.digits.length ≤ 21

theorem dropZeros_toDigits_ne_cons {n : ℕ} (hn : 0 < n) (rest : List Char) :
    dropZeros (Nat.toDigits 10 n) ≠ '0' :: rest := by
  obtain ⟨zeros, hzeros⟩ := exists_dropZeros (Nat.toDigits 10 n)
  intro heq
  rw [heq] at hzeros
  exact toDigits_ne_zero_cons hn _ hzeros

theorem dropZeros_toDigits_ne_nil {n : ℕ} (hn : 0 < n) : dropZeros (Nat.toDigits 10 n) ≠ [] := by
  obtain ⟨zeros, hzeros⟩ := exists_dropZeros (Nat.toDigits 10 n)
  intro heq
  rw [heq, List.nil_append] at hzeros
  cases zeros with
  | zero => exact Nat.toDigits_ne_nil hzeros
  | succ n => exact toDigits_ne_zero_cons hn _ hzeros

theorem length_dropZeros_toDigits {n k : ℕ} (hk : 0 < k) (h : n < 10 ^ k) :
    (dropZeros (Nat.toDigits 10 n)).length ≤ k := by
  obtain ⟨zeros, hzeros⟩ := exists_dropZeros (Nat.toDigits 10 n)
  have hlen := (Nat.length_toDigits_le_iff (b := 10) (by decide) hk).mpr h
  rw [hzeros, List.length_append] at hlen
  exact (Nat.le_add_right _ _).trans hlen

/-- The search ends with units of a power of ten that read back and are not too many. -/
theorem exists_shortest {mantissa : ℕ} {exponent : ℤ} (hmantissa : 0 < mantissa)
    (h : IsCanonical mantissa exponent) :
    ∃ (units : ℕ) (power : ℤ),
      shortest (.finite false mantissa exponent) (fraction mantissa exponent).1
        (fraction mantissa exponent).2 =
          ⟨dropZeros (Nat.toDigits 10 units), (ofUnits units power).point⟩ ∧
      nearest false (units * 10 ^ power) = .finite false mantissa exponent ∧
      units < 10 ^ 21 := by
  obtain ⟨hnum, hden⟩ := fraction_pos hmantissa exponent
  obtain ⟨hlogLow, hlogHigh⟩ := log_fraction hmantissa h
  have hpoint := (pointOf_bounds hnum hden hlogLow hlogHigh).2
  obtain ⟨last, hlast⟩ := seventeen_digits hmantissa h
  set num := (fraction mantissa exponent).1
  set den := (fraction mantissa exponent).2
  obtain ⟨d, hd⟩ : ∃ d, ((List.range 17).findSome? fun k =>
      readBack? (.finite false mantissa exponent) num den (k + 1)) = some d := by
    rw [← Option.isSome_iff_exists, List.findSome?_isSome_iff]
    exact ⟨16, by simp, by rw [hlast]; rfl⟩
  obtain ⟨k, hk, hread⟩ := List.exists_of_findSome?_eq_some hd
  obtain ⟨units, rfl, hnearest, hle⟩ := readBack?_eq_some hread
  refine ⟨units, pointOf num den - (k + 1 : ℕ), by rw [shortest, hd]; rfl, hnearest, ?_⟩
  have hquot : (num : ℚ) / den / 10 ^ (pointOf num den - (k + 1 : ℕ)) < 10 ^ 20 := by
    rw [div_lt_iff₀ (ten_zpow_pos _), ← zpow_natCast, ← zpow_add₀ (by norm_num)]
    refine hpoint.trans_le (zpow_le_zpow_right₀ (by norm_num) ?_)
    have := List.mem_range.mp hk
    push_cast
    omega
  have hlt : (units : ℚ) < 10 ^ 21 := by linarith
  exact_mod_cast hlt

theorem isShortest_shortest {mantissa : ℕ} {exponent : ℤ} (hmantissa : 0 < mantissa)
    (h : IsCanonical mantissa exponent) :
    (shortest (.finite false mantissa exponent) (fraction mantissa exponent).1
      (fraction mantissa exponent).2).IsShortest (.finite false mantissa exponent) := by
  obtain ⟨units, power, hshortest, hnearest, hbound⟩ := exists_shortest hmantissa h
  have hunits : 0 < units := by
    rcases Nat.eq_zero_or_pos units with rfl | hpos
    · rw [Nat.cast_zero, zero_mul, nearest, if_pos rfl, zero, Binary64.finite.injEq] at hnearest
      omega
    · exact hpos
  rw [hshortest]
  constructor
  · have hdrop := value_dropZeros (ofUnits units power)
    rw [value_ofUnits] at hdrop
    exact (congrArg (nearest false) hdrop).trans hnearest
  · exact fun c hc => isDigit_of_mem_toDigits (mem_dropZeros hc)
  · exact dropZeros_toDigits_ne_nil hunits
  · exact dropZeros_toDigits_ne_cons hunits
  · exact length_dropZeros_toDigits (by decide) hbound

end Decimal

end HubScript
