import HubScript.Number.Decimal

/-!
# Numbers in a style

A number can be written with a fixed count of places, with an exponent, or in whichever of the two
is shorter. A style gives the digits before and after the point; signs and padding are added
elsewhere.
-/
namespace HubScript

/-- The way a number is written. -/
inductive NumberStyle where
  /-- The fewest digits that read back; `pointed` keeps a point and a digit after it. -/
  | shortest (pointed : Bool)
  | fixed (places : Nat)
  | exponent (places : Nat)
  /-- A count of significant digits; `pointed` is as for `shortest`. -/
  | general (digits : Nat) (pointed : Bool)
  deriving DecidableEq, Repr

/-- A number without its sign: the digits before the point, and everything after them. -/
structure NumberText where
  whole : List Char
  tail : List Char
  deriving DecidableEq, Repr

namespace NumberText

/-- The point with the digits after it. Without any, it is kept on request only. -/
def point (alternate : Bool) (digits : List Char) : List Char :=
  if digits.isEmpty && !alternate then [] else '.' :: digits

/-- Digits in positional notation. -/
def positional (alternate pointed : Bool) (d : Decimal) : NumberText :=
  let (whole, part) :=
    if d.point ≤ 0 then (['0'], List.replicate (-d.point).toNat '0' ++ d.digits)
    else
      let n := d.point.toNat
      (d.digits.take n ++ List.replicate (n - d.digits.length) '0', d.digits.drop n)
  let part := if pointed && part.isEmpty then ['0'] else part
  ⟨whole, point alternate part⟩

/-- Digits with an exponent. -/
def scientific (alternate : Bool) (d : Decimal) : NumberText :=
  ⟨d.digits.take 1, point alternate (d.digits.drop 1) ++ 'e' :: Decimal.exponentText (d.point - 1)⟩

/-- A count of digits of a fraction. Zero counts as one digit before the point. -/
def digitsOf (num den count : Nat) : Decimal :=
  if num = 0 then ⟨List.replicate count '0', 1⟩ else Decimal.significant num den count

def fixed (alternate : Bool) (num den places : Nat) : NumberText :=
  let units := Decimal.digitsOf (Binary64.roundDiv (num * tenPow places) den)
  let digits := List.replicate (places + 1 - units.length) '0' ++ units
  let n := digits.length - places
  ⟨digits.take n, point alternate (digits.drop n)⟩

/-- Positional notation unless the exponent is below minus four or reaches the count of digits. -/
def general (alternate pointed : Bool) (num den count : Nat) : NumberText :=
  let count := max count 1
  let d := digitsOf num den count
  let stripped := Decimal.dropZeros d.digits
  let digits := if alternate then d.digits else if stripped.isEmpty then ['0'] else stripped
  let limit : Int := if pointed then (count : Int) - 1 else count
  if d.point ≤ -4 || limit < d.point then scientific alternate ⟨digits, d.point⟩
  else positional alternate pointed ⟨digits, d.point⟩

def shortest (alternate pointed : Bool) (x : Binary64) (num den : Nat) : NumberText :=
  let d := if num = 0 then ⟨['0'], 1⟩ else Decimal.shortest x num den
  if Binary64.usesExponent d.point then scientific alternate d else positional alternate pointed d

end NumberText

/-- A number without its sign in a style. -/
def Binary64.styled (style : NumberStyle) (alternate : Bool) (x : Binary64) : NumberText :=
  match x with
  | .nan => ⟨[], ['n', 'a', 'n']⟩
  | .infinite _ => ⟨[], ['i', 'n', 'f']⟩
  | .finite _ mantissa exponent =>
    let (n, d) := Binary64.fraction mantissa exponent
    match style with
    | .shortest pointed => .shortest alternate pointed (.finite false mantissa exponent) n d
    | .fixed places => .fixed alternate n d places
    | .exponent places => .scientific alternate (NumberText.digitsOf n d (places + 1))
    | .general count pointed => .general alternate pointed n d count

end HubScript
