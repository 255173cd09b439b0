import HubScript.Number.Binary64

/-!
# Complex numbers

Pairs of numbers of the binary64 format. Products are computed by the textbook formula. Quotients
divide by the larger part of the divisor first. Small whole powers are repeated products, and other
powers go through polar coordinates, as the machine computes them.
-/
namespace HubScript

structure Complex64 where
  re : Binary64
  im : Binary64
  deriving DecidableEq, Repr

namespace Complex64

def ofReal (x : Binary64) : Complex64 := ⟨x, .zero false⟩

def one : Complex64 := ofReal (Binary64.round false 1 1)

def isZero (a : Complex64) : Bool := a.re.isZero && a.im.isZero

def add (a b : Complex64) : Complex64 := ⟨a.re.add b.re, a.im.add b.im⟩

def sub (a b : Complex64) : Complex64 := ⟨a.re.sub b.re, a.im.sub b.im⟩

def mul (a b : Complex64) : Complex64 :=
  ⟨(a.re.mul b.re).sub (a.im.mul b.im), (a.re.mul b.im).add (a.im.mul b.re)⟩

/-- The quotient, unless the divisor is zero. -/
def div? (a b : Complex64) : Option Complex64 :=
  if b.im.abs.le b.re.abs then
    if b.re.isZero then none
    else
      let ratio := b.im.div b.re
      let den := b.re.add (b.im.mul ratio)
      some ⟨(a.re.add (a.im.mul ratio)).div den, (a.im.sub (a.re.mul ratio)).div den⟩
  else if b.re.abs.le b.im.abs then
    let ratio := b.re.div b.im
    let den := (b.re.mul ratio).add b.im
    some ⟨((a.re.mul ratio).add a.im).div den, ((a.im.mul ratio).sub a.re).div den⟩
  else some ⟨.nan, .nan⟩

/-- A power with a natural exponent, by squaring; `done` is the product so far. -/
def powNat (done base : Complex64) : Nat → Nat → Complex64
  | 0, _ => done
  | fuel + 1, n =>
    if n = 0 then done
    else powNat (if n % 2 = 1 then done.mul base else done) (base.mul base) fuel (n / 2)

/-- The distance from zero. -/
def size (a : Complex64) : Binary64 :=
  if a.im.isZero then a.re.abs
  else if a.re.isZero then a.im.abs
  else .ofFloat ((a.re.mul a.re).add (a.im.mul a.im)).toFloat.sqrt

/-- A power through polar coordinates. -/
def powPolar (a b : Complex64) : Complex64 :=
  let distance := a.size
  let angle := Binary64.ofFloat (Float.atan2 a.im.toFloat a.re.toFloat)
  let length := distance.pow b.re
  let phase := angle.mul b.re
  let (length, phase) :=
    if b.im.isZero then (length, phase)
    else
      (length.div (.ofFloat (angle.mul b.im).toFloat.exp),
        phase.add (b.im.mul (.ofFloat distance.toFloat.log)))
  ⟨length.mul (.ofFloat phase.toFloat.cos), length.mul (.ofFloat phase.toFloat.sin)⟩

/-- The whole number of at most a hundred in size that an exponent is, if it is one. -/
def smallExponent? (b : Complex64) : Option Int :=
  if b.im.isZero && b.re.floor.same b.re then
    b.re.truncate?.filter fun n => n.natAbs ≤ 100
  else none

/-- The power, unless it is of zero to a negative exponent or too large. -/
def pow? (a b : Complex64) : Option Complex64 :=
  let power := match smallExponent? b with
    | some n =>
      let product := powNat one a 8 n.natAbs
      if 0 < n then some product else one.div? product
    | none =>
      if b.isZero then some one
      else if a.isZero then
        if !b.im.isZero || b.re.isNegative then none else some (ofReal (.zero false))
      else some (powPolar a b)
  power.filter fun p =>
    !(p.re.abs == .infinite false) && !(p.im.abs == .infinite false)

end Complex64

end HubScript
