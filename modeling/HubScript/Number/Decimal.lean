import HubScript.Number.Binary64
import HubScript.Text.CodeRange

/-!
# Numbers in decimal notation

`shortest?` finds the fewest decimal digits that read back as a given number, and of several such
digit strings the one nearest to it. `significant` rounds to a given count of digits. The text of a
number is then a matter of where the point stands: `Binary64.text` writes positional notation for
moderate sizes and an exponent otherwise.
-/
namespace HubScript

/-- A positive decimal `0.digits * 10 ^ point`: the point stands after that many digits. -/
structure Decimal where
  digits : List Char
  point : Int
  deriving DecidableEq, Repr

namespace Decimal

open Text

/-- The decimal digits of a natural. -/
def digitsOf (n : Nat) : List Char := Nat.toDigits 10 n

/-- Digits without the zeros at the end. -/
def dropZeros (cs : List Char) : List Char := (cs.reverse.dropWhile (· == '0')).reverse

/-- `num / den * 10 ^ (-exponent)` as a fraction of naturals. -/
def scale (num den : Nat) (exponent : Int) : Nat × Nat :=
  if 0 ≤ exponent then (num, den * tenPow exponent.toNat) else (num * tenPow (-exponent).toNat, den)

/-- Whether a positive fraction is below a power of ten. -/
def below (num den : Nat) (exponent : Int) : Bool :=
  let (n, d) := scale num den exponent
  n < d

/-- The least power of ten above a positive fraction: its point. -/
def pointOf (num den : Nat) : Int :=
  let guess : Int := ((num.log2 : Int) - den.log2) * 30103 / 100000 - 1
  if below num den guess then guess
  else if below num den (guess + 1) then guess + 1
  else if below num den (guess + 2) then guess + 2
  else guess + 3

/-- A whole number of units of a power of ten. -/
def ofUnits (units : Nat) (exponent : Int) : Decimal :=
  let ds := digitsOf units
  ⟨ds, exponent + ds.length⟩

/-- A positive fraction rounded to a count of significant digits, ties to even. -/
def significant (num den : Nat) (count : Nat) : Decimal :=
  let exponent := pointOf num den - count
  let (n, d) := scale num den exponent
  let units := Binary64.roundDiv n d
  let whole := ofUnits units exponent
  ⟨whole.digits.take count, whole.point⟩

/-- The number that a whole number of units of a power of ten reads as. -/
def readUnits (units : Nat) (exponent : Int) : Binary64 :=
  let (n, d) := scale units 1 (-exponent)
  Binary64.round false n d

/-- The decimals of `count` digits next to a fraction that read back as `x`, the nearer first. -/
def readBack? (x : Binary64) (num den count : Nat) : Option Decimal :=
  let exponent := pointOf num den - count
  let (n, d) := scale num den exponent
  let low := n / d
  let order := if Binary64.roundDiv n d = low then [low, low + 1] else [low + 1, low]
  (order.find? fun units => readUnits units exponent == x).map fun units => ofUnits units exponent

/-- The fewest digits that read back as the positive number `num / den`. -/
def shortest (x : Binary64) (num den : Nat) : Decimal :=
  let found := (List.range 17).findSome? fun k => readBack? x num den (k + 1)
  let decimal := found.getD (significant num den 17)
  ⟨dropZeros decimal.digits, decimal.point⟩

/-- An exponent has a sign and at least two digits. -/
def exponentText (n : Int) : List Char :=
  let ds := digitsOf n.natAbs
  (if n < 0 then '-' else '+') :: (if ds.length < 2 then '0' :: ds else ds)

/-- Digits with the point after the first of them, and an exponent. -/
def scientific (d : Decimal) (mark : Char) : List Char :=
  match d.digits with
  | [] => ['0', mark, '+', '0', '0']
  | [c] => c :: mark :: exponentText (d.point - 1)
  | c :: rest => c :: '.' :: rest ++ mark :: exponentText (d.point - 1)

/-- Digits in positional notation, with at least one digit on each side of the point. -/
def positional (d : Decimal) : List Char :=
  if d.point ≤ 0 then '0' :: '.' :: List.replicate (-d.point).toNat '0' ++ d.digits
  else if d.digits.length ≤ d.point.toNat then
    d.digits ++ List.replicate (d.point.toNat - d.digits.length) '0' ++ ['.', '0']
  else d.digits.take d.point.toNat ++ '.' :: d.digits.drop d.point.toNat

/-- Reads digits, a point with digits, and an exponent: the digits as one natural, and the power
of ten it is multiplied by. -/
def read? (cs : List Char) : Option (Nat × Int) :=
  let (whole, rest) := cs.span isDigit
  let (part, rest) := match rest with
    | '.' :: rest => rest.span isDigit
    | rest => ([], rest)
  let digits := (whole ++ part).foldl (fun n c => 10 * n + (c.toNat - '0'.toNat)) 0
  let exponent? : Option Int := match rest with
    | [] => some 0
    | e :: rest =>
      if e == 'e' || e == 'E' then
        let (negative, ds) := match rest with
          | '-' :: ds => (true, ds)
          | '+' :: ds => (false, ds)
          | ds => (false, ds)
        if ds.isEmpty || !ds.all isDigit then none
        else
          let n : Int := (ds.foldl (fun n c => 10 * n + (c.toNat - '0'.toNat)) 0 : Nat)
          some (if negative then -n else n)
      else none
  if whole.isEmpty && part.isEmpty then none
  else exponent?.map fun n => (digits, n - part.length)

end Decimal

namespace Binary64

/-- Positional notation is used while the point stands within the first sixteen places or at most
three zeros behind it. -/
def usesExponent (point : Int) : Bool := point ≤ -4 || 16 < point

/-- The shortest text that reads back as the number. -/
def text (x : Binary64) : String :=
  match x with
  | .nan => "nan"
  | .infinite negative => if negative then "-inf" else "inf"
  | .finite negative mantissa exponent =>
    let body :=
      if mantissa = 0 then ['0', '.', '0']
      else
        let (n, d) := fraction mantissa exponent
        let decimal := Decimal.shortest (.finite false mantissa exponent) n d
        if usesExponent decimal.point then decimal.scientific 'e' else decimal.positional
    String.ofList (if negative then '-' :: body else body)

/-- Reads a decimal, `inf` or `nan`, with an optional sign. -/
def read? (s : String) : Option Binary64 :=
  let (negative, cs) := match s.toList with
    | '-' :: cs => (true, cs)
    | '+' :: cs => (false, cs)
    | cs => (false, cs)
  if cs == ['i', 'n', 'f'] then some (.infinite negative)
  else if cs == ['n', 'a', 'n'] then some .nan
  else (Decimal.read? cs).map fun (digits, exponent) => ofDecimal negative digits exponent

end Binary64

end HubScript
