import HubScript.Number.Complex64
import HubScript.Script.Syntax
import HubScript.Value.Negation

/-!
# Arithmetic on values

The operators on numbers. Truth values count as whole numbers, and a whole number meets a fraction
as the nearest number of its format. An operation that has no result, whether for the kinds of its
operands or for their sizes, gives none.
-/
namespace HubScript.Value

/-- Results of more bits are not computed. The bound stands for that of the memory, as that on the
length of sequences does; a number of so many bits has far more digits than can be written. -/
def bitLimit : Nat := twoPow 26

/-- A real number in the binary64 format. -/
def toReal? : Value → Option Binary64
  | .float x => some x
  | v => v.asInt?.bind Binary64.ofInt?

def toComplex? : Value → Option Complex64
  | .complex re im => some ⟨re, im⟩
  | v => v.toReal?.map Complex64.ofReal

def isComplex : Value → Bool
  | .complex _ _ => true
  | _ => false

def ofComplex (a : Complex64) : Value := .complex a.re a.im

/-- An operation on numbers, by the larger of the two kinds. -/
def numberOp (onInts : Int → Int → Option Value) (onReals : Binary64 → Binary64 → Option Value)
    (onComplex : Complex64 → Complex64 → Option Value) (v w : Value) : Option Value :=
  match v.asInt?, w.asInt? with
  | some m, some n => onInts m n
  | _, _ =>
    if v.isComplex || w.isComplex then do onComplex (← v.toComplex?) (← w.toComplex?)
    else do onReals (← v.toReal?) (← w.toReal?)

def addNumbers : Value → Value → Option Value :=
  numberOp (fun m n => some (.int (m + n))) (fun x y => some (.float (x.add y)))
    fun a b => some (ofComplex (a.add b))

def subNumbers : Value → Value → Option Value :=
  numberOp (fun m n => some (.int (m - n))) (fun x y => some (.float (x.sub y)))
    fun a b => some (ofComplex (a.sub b))

def mulNumbers : Value → Value → Option Value :=
  numberOp (fun m n => some (.int (m * n))) (fun x y => some (.float (x.mul y)))
    fun a b => some (ofComplex (a.mul b))

/-- The quotient of two whole numbers is rounded once. -/
def divNumbers : Value → Value → Option Value :=
  numberOp (fun m n => if n = 0 then Option.none else (Binary64.ofRatio? m n).map .float)
    (fun x y => if y.isZero then Option.none else some (.float (x.div y)))
    fun a b => (a.div? b).map ofComplex

/-- The quotient rounded down. -/
def floorDivNumbers : Value → Value → Option Value :=
  numberOp (fun m n => if n = 0 then Option.none else some (.int (m.fdiv n)))
    (fun x y => if y.isZero then Option.none else some (.float (x.floorDiv y)))
    fun _ _ => Option.none

/-- The remainder, with the sign of the divisor. -/
def modNumbers : Value → Value → Option Value :=
  numberOp (fun m n => if n = 0 then Option.none else some (.int (m.fmod n)))
    (fun x y => if y.isZero then Option.none else some (.float (x.modulo y)))
    fun _ _ => Option.none

def powComplex (a b : Complex64) : Option Value := (a.pow? b).map ofComplex

/-- A power of reals. A negative base with a fraction as exponent has a complex one. -/
def powReals (x y : Binary64) : Option Value :=
  if x.isZero && y.isNegative && !y.isZero then Option.none
  else if x.isFinite && y.isFinite && x.isNegative && !x.isZero && !y.floor.same y then
    powComplex (.ofReal x) (.ofReal y)
  else
    let power := x.pow y
    if x.isFinite && y.isFinite && !power.isFinite then Option.none else some (.float power)

/-- A power of whole numbers, which is whole unless the exponent is negative. -/
def powInts (m n : Int) : Option Value :=
  if n < 0 then
    if m = 0 then Option.none else do powReals (← Binary64.ofInt? m) (← Binary64.ofInt? n)
  else if m.natAbs ≤ 1 then
    some (.int (if m = 0 then (if n = 0 then 1 else 0) else if n % 2 = 0 then 1 else m))
  else if bitLimit < m.natAbs.log2 * n.toNat then Option.none
  else
    let size : Int := (Nat.pow m.natAbs n.toNat : Nat)
    some (.int (if m < 0 && n % 2 != 0 then -size else size))

def powNumbers : Value → Value → Option Value := numberOp powInts powReals powComplex

/-- An operation on whole numbers only. -/
def intOp (op : Int → Int → Option Int) (v w : Value) : Option Value := do
  return .int (← op (← v.asInt?) (← w.asInt?))

def shiftLeft (m n : Int) : Option Int :=
  if n < 0 then Option.none
  else if m = 0 then some 0
  else if bitLimit < n.toNat then Option.none
  else some (m * twoPow n.toNat)

/-- Shifts right, rounding down. -/
def shiftRight (m n : Int) : Option Int :=
  if n < 0 then Option.none
  else if m.natAbs.log2 + 1 < n.toNat then some (if m < 0 then -1 else 0)
  else some (m.fdiv (twoPow n.toNat))

/-- The bits of a whole number turned over. -/
def bitNot (n : Int) : Int := -n - 1

/-- The common bits of two whole numbers. Negative ones have endless leading bits. -/
def bitAnd (m n : Int) : Int :=
  match decide (m < 0), decide (n < 0) with
  | false, false => (m.toNat &&& n.toNat : Nat)
  | false, true => (m.toNat - (m.toNat &&& (bitNot n).toNat) : Nat)
  | true, false => (n.toNat - (n.toNat &&& (bitNot m).toNat) : Nat)
  | true, true => bitNot ((bitNot m).toNat ||| (bitNot n).toNat : Nat)

def bitOr (m n : Int) : Int := bitNot (bitAnd (bitNot m) (bitNot n))

/-- The bits in which two whole numbers differ. -/
def bitXor (m n : Int) : Int := bitAnd (bitOr m n) (bitNot (bitAnd m n))

/-- A bitwise operation, which keeps truth values. -/
def bitwise (onInts : Int → Int → Int) (onBools : Bool → Bool → Bool) :
    Value → Value → Option Value
  | .bool a, .bool b => some (.bool (onBools a b))
  | v, w => intOp (fun m n => some (onInts m n)) v w

/-- A unary operator. -/
def unary (op : UnaryOp) (v : Value) : Option Value :=
  match op, v with
  | .not, v => some (.bool !v.truth)
  | .invert, v => v.asInt?.map fun n => .int (bitNot n)
  | .plus, .float x => some (.float x)
  | .plus, .complex re im => some (.complex re im)
  | .plus, v => v.asInt?.map .int
  | .minus, v => v.negate.toOption

end HubScript.Value
