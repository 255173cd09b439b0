import HubScript.Number.Style
import HubScript.Value.Arithmetic
import HubScript.Value.Text

/-!
# Layouts

A value in a text can come with a layout: how wide it is, on which side it is filled up, and how a
number is written. A layout that is not well formed, or does not fit the kind of the value, has no
result.
-/
namespace HubScript

/-- Where the filling of a value goes. -/
inductive Align where
  | left
  | right
  | center
  | afterSign
  deriving DecidableEq, Repr

structure Layout where
  fill : Char
  align : Align
  /-- What stands before a number that is not negative. -/
  sign : Option Char
  /-- Whether a number that rounds to zero loses its sign. -/
  plainZero : Bool
  alternate : Bool
  width : Nat
  separator : Option Char
  precision : Option Nat
  type : Option Char
  deriving DecidableEq, Repr

namespace Layout

def align? : Char → Option Align
  | '<' => some .left
  | '>' => some .right
  | '^' => some .center
  | '=' => some .afterSign
  | _ => none

/-- A filling character and a side, or only a side. -/
def readFill (cs : List Char) : Option Char × Option Align × List Char :=
  match cs with
  | c :: d :: rest =>
    match align? d, align? c with
    | some a, _ => (some c, some a, rest)
    | none, some a => (none, some a, d :: rest)
    | none, none => (none, none, cs)
  | [c] =>
    match align? c with
    | some a => (none, some a, [])
    | none => (none, none, cs)
  | [] => (none, none, [])

/-- Takes a character if it is the next one. -/
def readFlag (c : Char) : List Char → Bool × List Char
  | d :: rest => if d == c then (true, rest) else (false, d :: rest)
  | [] => (false, [])

def readSign : List Char → Option Char × List Char
  | c :: rest => if c == '+' || c == '-' || c == ' ' then (some c, rest) else (none, c :: rest)
  | [] => (none, [])

def natOf (ds : List Char) : Nat := ds.foldl (fun n c => n * 10 + (c.toNat - 48)) 0

def readNat (cs : List Char) : Option Nat × List Char :=
  let ds := cs.takeWhile Char.isDigit
  (if ds.isEmpty then none else some (natOf ds), cs.drop ds.length)

/-- Wider layouts are not filled up: the bound is that on the length of a repeated text. -/
def widthLimit : Nat := twoPow 22

def readSeparator (cs : List Char) : Option (Option Char × List Char) :=
  let (comma, cs) := readFlag ',' cs
  let (line, cs) := readFlag '_' cs
  if comma && line then none
  else if (line || comma) && cs.head? == some ',' then none
  else some (if comma then some ',' else if line then some '_' else none, cs)

def readPrecision : List Char → Option (Option Nat × List Char)
  | '.' :: rest =>
    match readNat rest with
    | (some n, rest) => some (some n, rest)
    | (none, _) => none
  | cs => some (none, cs)

/-- Which separators a type of number may have. -/
def separatorFits (separator : Option Char) (type : Char) : Bool :=
  match separator with
  | none => true
  | some c =>
    ['d', 'e', 'f', 'g', 'E', 'G', '%', 'F'].contains type ||
      (c == '_' && ['b', 'o', 'x', 'X'].contains type)

/-- Reads a layout; values of a kind have a usual side and a usual type. -/
def read (usual : Align) (usualType : Char) (cs : List Char) : Option Layout := do
  let (fill, align, cs) := readFill cs
  let (sign, cs) := readSign cs
  let (plainZero, cs) := readFlag 'z' cs
  let (alternate, cs) := readFlag '#' cs
  let (zero, cs) := if fill.isNone then readFlag '0' cs else (false, cs)
  let (width, cs) := readNat cs
  let (separator, cs) ← readSeparator cs
  let (precision, cs) ← readPrecision cs
  let type ← match cs with
    | [] => some none
    | [c] => some (some c)
    | _ => none
  if !separatorFits separator (type.getD usualType) then failure
  let zeroAlign := if zero && usual == .right then .afterSign else usual
  if widthLimit < width.getD 0 || widthLimit < precision.getD 0 then failure
  return { fill := fill.getD (if zero then '0' else ' '), align := align.getD zeroAlign
           sign, plainZero, alternate, width := width.getD 0, separator, precision, type }

/-- Fills a text up to the width. `sign` stands before the filling where that is asked for. -/
def pad (layout : Layout) (sign body : List Char) : List Char :=
  let missing := layout.width - (sign.length + body.length)
  let filling (n : Nat) : List Char := List.replicate n layout.fill
  match layout.align with
  | .left => sign ++ body ++ filling missing
  | .right => filling missing ++ sign ++ body
  | .center => filling (missing / 2) ++ sign ++ body ++ filling (missing - missing / 2)
  | .afterSign => sign ++ filling missing ++ body

/-- Digits in groups, filled up with zeros to a width. Both lists are written backwards, and a
separator goes before every group but the first. -/
def groupFrom (separator : Char) (size : Nat) :
    Nat → Bool → Int → List Char → List Char → List Char
  | 0, _, _, _, done => done
  | fuel + 1, first, width, digits, done =>
    let count := min (size : Int) (max (max (digits.length : Int) width) 1)
    let taken := digits.take count.toNat
    let zeros := List.replicate (count.toNat - taken.length) '0'
    let group := (taken ++ zeros).reverse
    let done := group ++ (if first then done else separator :: done)
    let digits := digits.drop count.toNat
    let width := width - count
    if digits.isEmpty && width ≤ 0 then done
    else groupFrom separator size fuel false (width - 1) digits done

/-- The digits of a whole part with separators. -/
def grouped (layout : Layout) (size : Nat) (around : Nat) (digits : List Char) : List Char :=
  match layout.separator, digits with
  | none, _ => digits
  | some _, [] => []
  | some separator, _ =>
    let filled := layout.fill == '0' && layout.align == .afterSign
    let width : Int := if filled then (layout.width : Int) - around else 0
    groupFrom separator size (digits.length + layout.width + 1) true width digits.reverse []

/-- A number: its sign and mark, its digits and what follows them. -/
def number (layout : Layout) (negative : Bool) (mark : List Char) (size : Nat)
    (digits tail : List Char) : List Char :=
  let sign :=
    if negative then ['-']
    else
      match layout.sign with
      | some '+' => ['+']
      | some ' ' => [' ']
      | _ => []
  let sign := sign ++ mark
  let digits := layout.grouped size (sign.length + tail.length) digits
  layout.pad sign (digits ++ tail)

/-- The style of a type of number, and whether it is written in capitals. -/
def style? (layout : Layout) : Option (NumberStyle × Bool) :=
  let places := layout.precision.getD 6
  match layout.type with
  | some 'e' => some (.exponent places, false)
  | some 'E' => some (.exponent places, true)
  | some 'f' => some (.fixed places, false)
  | some 'F' => some (.fixed places, true)
  | some '%' => some (.fixed places, false)
  | some 'g' => some (.general places false, false)
  | some 'n' => some (.general places false, false)
  | some 'G' => some (.general places false, true)
  | none =>
    match layout.precision with
    | none => some (.shortest true, false)
    | some places => some (.general places true, false)
  | _ => none

def capitalize (capitals : Bool) (cs : List Char) : List Char :=
  if capitals then cs.map Char.toUpper else cs

/-- A number with a fraction in a style, and what follows it. -/
def realIn (layout : Layout) (style : NumberStyle) (capitals : Bool) (unit : List Char)
    (x : Binary64) : List Char :=
  let text := x.styled style layout.alternate
  let isDigitZero (c : Char) : Bool := c == '0' || c == '.'
  let zero := x.isFinite && (text.whole ++ text.tail.takeWhile (· != 'e')).all isDigitZero
  let negative := x.isNegative && !(layout.plainZero && zero)
  layout.number negative [] 3 text.whole (capitalize capitals text.tail ++ unit)

/-- A number with a fraction. -/
def real (layout : Layout) (x : Binary64) : Option (List Char) := do
  let (style, capitals) ← layout.style?
  if layout.type == some '%' then
    return layout.realIn style capitals ['%'] (x.mul (Binary64.round false 100 1))
  else return layout.realIn style capitals [] x

/-- The style of both parts of a complex number. The usual one has no fraction of zero. -/
def partStyle? (layout : Layout) : Option (NumberStyle × Bool) :=
  match layout.type, layout.precision with
  | none, none => some (.shortest false, false)
  | none, some digits => some (.general digits false, false)
  | some '%', _ => none
  | _, _ => layout.style?

/-- A complex number. Only the whole of it is filled up, and never with zeros. The usual style
leaves a real part of zero out, and puts any other in brackets with the imaginary part. -/
def complex (layout : Layout) (re im : Binary64) : Option (List Char) := do
  let (style, capitals) ← layout.partStyle?
  if layout.fill == '0' || layout.align == .afterSign then failure
  let unfilled := { layout with width := 0 }
  if layout.type.isNone && re.isZero && !re.isNegative then
    return layout.pad [] (unfilled.realIn style capitals ['j'] im)
  else
    let first := unfilled.realIn style capitals [] re
    let second := { unfilled with sign := some '+' }.realIn style capitals ['j'] im
    let both := first ++ second
    return layout.pad [] (if layout.type.isNone then '(' :: both ++ [')'] else both)

/-- A whole number in a base. -/
def inBase (layout : Layout) (n : Int) (base : Nat) (mark : Char) (capitals : Bool) : List Char :=
  let mark := if layout.alternate then ['0', mark] else []
  layout.number (n < 0) mark 4 (capitalize capitals (Nat.toDigits base n.natAbs)) []

/-- A character by its code. -/
def character (layout : Layout) (n : Int) : Option (List Char) :=
  if layout.sign.isSome || layout.alternate then none
  else if n < 0 || 0x10FFFF < n then none
  else some (layout.pad [] [Char.ofNat n.toNat])

/-- A whole number. Its type can be one for numbers with a fraction. -/
def whole (layout : Layout) (n : Int) : Option (List Char) :=
  let type := layout.type.getD 'd'
  if ['e', 'E', 'f', 'F', 'g', 'G', '%'].contains type then do
    layout.real (← Binary64.ofInt? n)
  else if layout.precision.isSome || layout.plainZero then none
  else
    match type with
    | 'd' | 'n' => do
      let digits ← decimalText? n.natAbs
      return layout.number (n < 0) [] 3 digits.toList []
    | 'b' => some (layout.inBase n 2 'b' false)
    | 'o' => some (layout.inBase n 8 'o' false)
    | 'x' => some (layout.inBase n 16 'x' false)
    | 'X' => some (layout.inBase n 16 'X' true)
    | 'c' => layout.character n
    | _ => none

/-- A text, cut to the precision. -/
def text (layout : Layout) (s : String) : Option (List Char) :=
  if layout.sign.isSome || layout.plainZero || layout.alternate || layout.align == .afterSign ||
      (layout.type.getD 's') != 's' then none
  else
    let cs := match layout.precision with
      | some n => s.toList.take n
      | none => s.toList
    some (layout.pad [] cs)

end Layout

/-- A value in a layout. The empty layout shows it as it is. -/
def Value.laidOut (layout : String) (v : Value) : Option String :=
  if layout.isEmpty then v.display.toOption
  else
    let cs := layout.toList
    let chars := match v with
      | .str s => (Layout.read .left 's' cs).bind fun l => l.text s
      | .float x => (Layout.read .right 'd' cs).bind fun l => l.real x
      | .complex re im => (Layout.read .right 'd' cs).bind fun l => l.complex re im
      | v => v.asInt?.bind fun n => (Layout.read .right 'd' cs).bind fun l => l.whole n
    chars.map String.ofList

end HubScript
