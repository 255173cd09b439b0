import HubScript.Number.Power

/-!
# Numbers of the binary64 format

A finite number is a sign, a mantissa below `2 ^ 53` and a power of two. Every operation computes
the exact result as a fraction of naturals and rounds it once, to the nearest number and from a
tie to the even mantissa, so the whole arithmetic is ordinary arithmetic of naturals.
-/
namespace HubScript

inductive Binary64 where
  | nan
  | infinite (negative : Bool)
  /-- The number `± mantissa * 2 ^ exponent`. In numbers built by `Binary64.round` the mantissa has
  53 bits unless the exponent is the least one. -/
  | finite (negative : Bool) (mantissa : Nat) (exponent : Int)
  deriving DecidableEq, Repr

namespace Binary64

/-- The least exponent, that of the subnormal numbers. -/
def leastExponent : Int := -1074

/-- The greatest exponent of a finite number. -/
def greatestExponent : Int := 971

def zero (negative : Bool) : Binary64 := .finite negative 0 leastExponent

instance : Inhabited Binary64 := ⟨zero false⟩

/-- The quotient of two naturals, to the nearest and from a tie to the even one. -/
def roundDiv (num den : Nat) : Nat :=
  let quotient := num / den
  let twice := 2 * (num % den)
  if twice < den || (twice == den && quotient % 2 == 0) then quotient else quotient + 1

/-- `num / den * 2 ^ (-exponent)` as a fraction of naturals. -/
def scale (num den : Nat) (exponent : Int) : Nat × Nat :=
  if 0 ≤ exponent then (num, den * twoPow exponent.toNat) else (num * twoPow (-exponent).toNat, den)

/-- The exponent at which a positive fraction has a mantissa of 53 bits, or the least one. -/
def exponentOf (num den : Nat) : Int :=
  let guess : Int := (num.log2 : Int) - den.log2 - 52
  let (n, d) := scale num den guess
  max leastExponent (if n / d < twoPow 52 then guess - 1 else guess)

/-- The number nearest to `± num / den`; fractions too large for the format give infinity. -/
def round (negative : Bool) (num den : Nat) : Binary64 :=
  if num = 0 then zero negative
  else
    let exponent := exponentOf num den
    let (n, d) := scale num den exponent
    let mantissa := roundDiv n d
    let (mantissa, exponent) :=
      if mantissa = twoPow 53 then (twoPow 52, exponent + 1) else (mantissa, exponent)
    if exponent > greatestExponent then .infinite negative
    else .finite negative mantissa exponent

/-- The exact value of `mantissa * 2 ^ exponent` as a fraction of naturals. -/
def fraction (mantissa : Nat) (exponent : Int) : Nat × Nat :=
  if 0 ≤ exponent then (mantissa * twoPow exponent.toNat, 1)
  else (mantissa, twoPow (-exponent).toNat)

/-- The exact value of a finite number as a numerator and a denominator. -/
def ratio? : Binary64 → Option (Int × Nat)
  | .finite negative mantissa exponent =>
    let (n, d) := fraction mantissa exponent
    some (if negative then -(n : Int) else n, d)
  | _ => none

/-- The number nearest to a signed fraction; an exact zero takes the given sign. -/
def roundSigned (num : Int) (den : Nat) (zeroNegative : Bool) : Binary64 :=
  if num = 0 then zero zeroNegative else round (num < 0) num.natAbs den

def isNegative : Binary64 → Bool
  | .nan => false
  | .infinite negative => negative
  | .finite negative _ _ => negative

def isZero : Binary64 → Bool
  | .finite _ 0 _ => true
  | _ => false

def isNan : Binary64 → Bool
  | .nan => true
  | _ => false

def isFinite : Binary64 → Bool
  | .finite .. => true
  | _ => false

def neg : Binary64 → Binary64
  | .nan => .nan
  | .infinite negative => .infinite !negative
  | .finite negative mantissa exponent => .finite (!negative) mantissa exponent

def abs : Binary64 → Binary64
  | .nan => .nan
  | .infinite _ => .infinite false
  | .finite _ mantissa exponent => .finite false mantissa exponent

/-- The number with the sign of another. -/
def withSign (x : Binary64) (negative : Bool) : Binary64 :=
  if negative then x.abs.neg else x.abs

/-- An exact zero as a sum is negative only when both terms are. -/
def add (x y : Binary64) : Binary64 :=
  match x, y with
  | .nan, _ => .nan
  | _, .nan => .nan
  | .infinite a, .infinite b => if a == b then .infinite a else .nan
  | .infinite a, _ => .infinite a
  | _, .infinite b => .infinite b
  | .finite a m e, .finite b k f =>
    let (n, d) := fraction m e
    let (p, q) := fraction k f
    let left : Int := if a then -(n * q : Nat) else (n * q : Nat)
    let right : Int := if b then -(p * d : Nat) else (p * d : Nat)
    roundSigned (left + right) (d * q) (a && b)

def sub (x y : Binary64) : Binary64 := x.add y.neg

def mul (x y : Binary64) : Binary64 :=
  match x, y with
  | .nan, _ => .nan
  | _, .nan => .nan
  | .infinite a, y => if y.isZero then .nan else .infinite (a != y.isNegative)
  | x, .infinite b => if x.isZero then .nan else .infinite (x.isNegative != b)
  | .finite a m e, .finite b k f =>
    let (n, d) := fraction m e
    let (p, q) := fraction k f
    round (a != b) (n * p) (d * q)

/-- The quotient; a zero divisor gives infinity, or no number for zero by zero. -/
def div (x y : Binary64) : Binary64 :=
  match x, y with
  | .nan, _ => .nan
  | _, .nan => .nan
  | .infinite _, .infinite _ => .nan
  | .infinite a, y => .infinite (a != y.isNegative)
  | x, .infinite b => zero (x.isNegative != b)
  | .finite a m e, .finite b k f =>
    if k = 0 then if m = 0 then .nan else .infinite (a != b)
    else
      let (n, d) := fraction m e
      let (p, q) := fraction k f
      round (a != b) (n * q) (d * p)

/-- The number nearest to a whole number, unless the format is too small for it. -/
def ofInt? (n : Int) : Option Binary64 :=
  match roundSigned n 1 false with
  | .infinite _ => none
  | x => some x

/-- The quotient of two whole numbers, rounded once, unless the format is too small for it. -/
def ofRatio? (num den : Int) : Option Binary64 :=
  match round ((num < 0) != (den < 0)) num.natAbs den.natAbs with
  | .infinite _ => none
  | x => some x

/-- The whole part, towards zero, of a finite number. -/
def truncate? : Binary64 → Option Int
  | .finite negative mantissa exponent =>
    let (n, d) := fraction mantissa exponent
    some (if negative then -((n / d : Nat) : Int) else (n / d : Nat))
  | _ => none

def floor (x : Binary64) : Binary64 :=
  match x.ratio? with
  | some (n, d) => roundSigned (n.fdiv d) 1 x.isNegative
  | none => x

/-- Comparison by value; nothing compares with `nan`. -/
def compare? (x y : Binary64) : Option Ordering :=
  match x, y with
  | .nan, _ => none
  | _, .nan => none
  | .infinite a, .infinite b => some (compare b a)
  | .infinite a, _ => some (if a then .lt else .gt)
  | _, .infinite b => some (if b then .gt else .lt)
  | x, y =>
    match x.ratio?, y.ratio? with
    | some (n, d), some (p, q) => some (compare (n * q) (p * d))
    | _, _ => none

/-- Comparison of a whole number with a number of the format, by exact value. -/
def compareInt? (n : Int) (x : Binary64) : Option Ordering :=
  match x with
  | .nan => none
  | .infinite negative => some (if negative then .gt else .lt)
  | x => x.ratio?.map fun (p, q) => compare (n * q) p

def lt (x y : Binary64) : Bool := x.compare? y == some .lt

def le (x y : Binary64) : Bool := x.compare? y == some .lt || x.compare? y == some .eq

/-- Equality by value: the two zeros are equal and `nan` equals nothing. -/
def same (x y : Binary64) : Bool := x.compare? y == some .eq

/-- The remainder with the sign of the dividend, which is exact. -/
def remainder (x y : Binary64) : Binary64 :=
  match x, y with
  | .nan, _ => .nan
  | _, .nan => .nan
  | .infinite _, _ => .nan
  | x, .infinite _ => x
  | .finite a m e, .finite _ k f =>
    if k = 0 then .nan
    else
      let (n, d) := fraction m e
      let (p, q) := fraction k f
      round a ((n * q) % (p * d)) (d * q)

/-- The remainder with the sign of the divisor. -/
def modulo (x y : Binary64) : Binary64 :=
  let rest := x.remainder y
  if rest.isZero then (zero false).withSign y.isNegative
  else if rest.isNan then rest
  else if y.isNegative != rest.isNegative then rest.add y
  else rest

/-- The quotient rounded down, from the rounded difference of dividend and remainder. -/
def floorDiv (x y : Binary64) : Binary64 :=
  let rest := x.remainder y
  let quotient := (x.sub rest).div y
  let one := round false 1 1
  let quotient :=
    if !rest.isZero && !rest.isNan && y.isNegative != rest.isNegative then quotient.sub one
    else quotient
  if quotient.isZero then (zero false).withSign (x.div y).isNegative
  else
    let down := quotient.floor
    if (round false 1 2).lt (quotient.sub down) then down.add one else down

/-- The bits of the interchange format. -/
def toBits : Binary64 → UInt64
  | .nan => 0x7FF8000000000000
  | .infinite negative => if negative then 0xFFF0000000000000 else 0x7FF0000000000000
  | .finite negative mantissa exponent =>
    let body :=
      if mantissa < twoPow 52 then mantissa
      else (exponent - leastExponent + 1).toNat * twoPow 52 + (mantissa - twoPow 52)
    ((if negative then twoPow 63 else 0) + body).toUInt64

/-- The number that the bits of the interchange format stand for. -/
def ofBits (bits : UInt64) : Binary64 :=
  let n := bits.toNat
  let negative := n ≥ twoPow 63
  let exponent := n / twoPow 52 % 2048
  let fractionBits := n % twoPow 52
  if exponent = 2047 then if fractionBits = 0 then .infinite negative else .nan
  else if exponent = 0 then .finite negative fractionBits leastExponent
  else .finite negative (twoPow 52 + fractionBits) (leastExponent + (exponent - 1 : Nat))

def toFloat (x : Binary64) : Float := Float.ofBits x.toBits

def ofFloat (x : Float) : Binary64 := ofBits x.toBits

/-- The power of two numbers, as the machine computes it. -/
def pow (x y : Binary64) : Binary64 := ofFloat (x.toFloat.pow y.toFloat)

/-- The number nearest to `digits * 10 ^ exponent`. Exponents far outside the format are settled
without computing the power. -/
def ofDecimal (negative : Bool) (digits : Nat) (exponent : Int) : Binary64 :=
  if digits = 0 then zero negative
  else
    let size : Int := exponent + (Nat.log2 digits : Int) * 30103 / 100000
    if size > 400 then .infinite negative
    else if size < -400 then zero negative
    else if 0 ≤ exponent then round negative (digits * tenPow exponent.toNat) 1
    else round negative digits (tenPow (-exponent).toNat)

end Binary64

end HubScript
