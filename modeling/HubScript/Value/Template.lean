import HubScript.Value.Collection
import HubScript.Value.Layout
import HubScript.Value.Whole

/-!
# Templates

A text with places marked by a percent sign is filled with values: with those of a tuple in turn,
with the entries of a dictionary by name, or with one value alone. Every value has to be used. Bytes
are a template as well, with each byte as the character of its number.
-/
namespace HubScript

/-- What a template is made of. -/
inductive Medium where
  | text
  | bytes
  deriving DecidableEq, Repr

/-- The highest number of a character. -/
def Medium.lastCode : Medium → Int
  | .text => 0x10FFFF
  | .bytes => 255

/-- A number of characters that a template gives, or takes from the values. -/
inductive Count where
  | given (n : Nat)
  | taken
  deriving DecidableEq, Repr

/-- A place of a template. -/
structure Place where
  key : Option String
  left : Bool
  plus : Bool
  blank : Bool
  alternate : Bool
  zero : Bool
  width : Option Count
  precision : Option Count
  type : Char
  deriving DecidableEq, Repr

inductive TemplatePart where
  | text (chars : List Char)
  | place (place : Place)

namespace Template

/-- The characters up to the bracket that closes, and the rest. -/
def keyChars : Nat → List Char → Option (List Char × List Char)
  | _, [] => none
  | depth, c :: rest =>
    if c == ')' then
      match depth with
      | 0 => some ([], rest)
      | depth + 1 => (keyChars depth rest).map fun (key, rest) => (c :: key, rest)
    else
      let depth := if c == '(' then depth + 1 else depth
      (keyChars depth rest).map fun (key, rest) => (c :: key, rest)

def readKey : List Char → Option (Option String × List Char)
  | '(' :: rest => (keyChars 0 rest).map fun (key, rest) => (some (String.ofList key), rest)
  | cs => some (none, cs)

def isFlag (c : Char) : Bool := c == '-' || c == '+' || c == ' ' || c == '#' || c == '0'

def readCount : List Char → Option Count × List Char
  | '*' :: rest => (some .taken, rest)
  | cs =>
    let (n, rest) := Layout.readNat cs
    (n.map .given, rest)

/-- A precision without a number is zero. -/
def readPrecision : List Char → Option Count × List Char
  | '.' :: rest =>
    let (count, rest) := readCount rest
    (some (count.getD (.given 0)), rest)
  | cs => (none, cs)

/-- One letter for the size of a number is passed over. -/
def dropSize : List Char → List Char
  | c :: rest => if c == 'h' || c == 'l' || c == 'L' then rest else c :: rest
  | [] => []

/-- Reads a place after its percent sign. -/
def readPlace (cs : List Char) : Option (Place × List Char) := do
  let (key, cs) ← readKey cs
  let flags := cs.takeWhile isFlag
  let (width, cs) := readCount (cs.drop flags.length)
  let (precision, cs) := readPrecision cs
  match dropSize cs with
  | [] => none
  | type :: rest =>
    return ({ key, left := flags.contains '-', plus := flags.contains '+',
              blank := flags.contains ' ', alternate := flags.contains '#',
              zero := flags.contains '0', width, precision, type }, rest)

/-- The texts and places of a template. Every round takes at least one character, and two percent
signs are a text. -/
def parts : Nat → List Char → Option (List TemplatePart)
  | 0, _ => some []
  | _, [] => some []
  | fuel + 1, '%' :: '%' :: rest => do return .text ['%'] :: (← parts fuel rest)
  | fuel + 1, '%' :: rest => do
    let (place, rest) ← readPlace rest
    return .place place :: (← parts fuel rest)
  | fuel + 1, c :: rest => do
    let chars := (c :: rest).takeWhile (· != '%')
    return .text chars :: (← parts fuel ((c :: rest).drop chars.length))

/-- The values that are left for the places. -/
structure Supply where
  /-- The value that names are looked up in. -/
  named : Option Value
  waiting : List Value

/-- A value that is no text and no tuple can be asked for its members. Bytes can be asked by a text
only. -/
def supplyOf (medium : Medium) : Value → Supply
  | .tuple items => ⟨none, items⟩
  | .dict entries => ⟨some (.dict entries), [.dict entries]⟩
  | .list items => ⟨some (.list items), [.list items]⟩
  | .bytes bs => ⟨if medium == .text then some (.bytes bs) else none, [.bytes bs]⟩
  | v => ⟨none, [v]⟩

def next (supply : Supply) : Option (Value × Supply) :=
  match supply.waiting with
  | [] => none
  | v :: rest => some (v, { supply with waiting := rest })

def bytesOf (cs : List Char) : List UInt8 := cs.map fun c => c.toNat.toUInt8

def charsOf (bs : List UInt8) : List Char := bs.map fun b => Char.ofNat b.toNat

/-- The value that characters of a template are. -/
def valueOf (cs : List Char) : Medium → Value
  | .text => .str (String.ofList cs)
  | .bytes => .bytes (bytesOf cs)

/-- Looks a name up; its value is then the only one that waits. -/
def choose (medium : Medium) (supply : Supply) : Option String → Option Supply
  | none => some supply
  | some key => do
    let v ← supply.named
    return { supply with waiting := [← v.index (valueOf key.toList medium)] }

/-- A count that is taken from the values has to be a whole number. -/
def count (supply : Supply) : Option Count → Option (Option Int × Supply)
  | none => some (none, supply)
  | some (.given n) => some (some n, supply)
  | some .taken => do
    let (v, supply) ← next supply
    return (some (← v.asInt?), supply)

/-- Fills a value up to a width: `sign` stands before zeros and after blanks. -/
def fill (left zero : Bool) (width : Nat) (sign body : List Char) : List Char :=
  let missing := width - (sign.length + body.length)
  if left then sign ++ body ++ List.replicate missing ' '
  else if zero then sign ++ List.replicate missing '0' ++ body
  else List.replicate missing ' ' ++ sign ++ body

def signOf (place : Place) (negative : Bool) : List Char :=
  if negative then ['-'] else if place.plus then ['+'] else if place.blank then [' '] else []

/-- The whole number that a place of a type shows. -/
def wholeFor (type : Char) : Value → Option Int
  | .float x => if ['d', 'i', 'u'].contains type then x.truncate? else none
  | v => v.asInt?

def wholeDigits (type : Char) (n : Nat) : Option (List Char) :=
  match type with
  | 'x' => some (Nat.toDigits 16 n)
  | 'X' => some ((Nat.toDigits 16 n).map Char.toUpper)
  | 'o' => some (Nat.toDigits 8 n)
  | _ => (decimalText? n).map String.toList

/-- What stands before digits of another base. -/
def baseMark (place : Place) : List Char :=
  if place.alternate && ['x', 'X', 'o'].contains place.type then ['0', place.type] else []

/-- The style of a number with a fraction, and whether it is in capitals. -/
def styleFor (type : Char) (places : Nat) : Option (NumberStyle × Bool) :=
  match type with
  | 'e' => some (.exponent places, false)
  | 'E' => some (.exponent places, true)
  | 'f' => some (.fixed places, false)
  | 'F' => some (.fixed places, true)
  | 'g' => some (.general places false, false)
  | 'G' => some (.general places false, true)
  | _ => none

/-- The characters of a value of the template's own kind. -/
def ownChars : Medium → Value → Option (List Char)
  | .text, .str s => some s.toList
  | .bytes, .bytes bs => some (charsOf bs)
  | _, _ => none

/-- A single character, or the one with a number. -/
def characterOf (medium : Medium) (v : Value) : Option (List Char) :=
  match ownChars medium v with
  | some cs => if cs.length == 1 then some cs else none
  | none => do
    let n ← v.asInt?
    if n < 0 || medium.lastCode < n then none
    return [Char.ofNat n.toNat]

/-- A text with every character beyond ASCII as an escape. -/
def plainAscii (s : String) : List Char :=
  s.toList.flatMap fun c => if c.toNat < 128 then [c] else Text.codeEscape c

/-- The characters of a value that is shown as it is. -/
def shown (medium : Medium) (v : Value) : Option (List Char) :=
  match medium with
  | .text => do return (← v.display.toOption).toList
  | .bytes => ownChars .bytes v

/-- The characters of a value that is written as a script would write it. -/
def written (medium : Medium) (v : Value) : Option (List Char) := do
  let text ← v.write.toOption
  return match medium with
    | .text => text.toList
    | .bytes => plainAscii text

/-- The text of a value at a place. -/
def placed (medium : Medium) (place : Place) (left : Bool) (width : Nat) (precision : Option Nat)
    (v : Value) : Option (List Char) :=
  let cut (cs : List Char) : List Char :=
    fill left false width [] (match precision with
      | some n => cs.take n
      | none => cs)
  match place.type with
  | 's' => (shown medium v).map cut
  | 'b' => if medium == .bytes then (shown medium v).map cut else none
  | 'r' => (written medium v).map cut
  | 'a' => do return cut (plainAscii (← v.write.toOption))
  | 'c' => do return fill left false width [] (← characterOf medium v)
  | type =>
    if ['d', 'i', 'u', 'x', 'X', 'o'].contains type then do
      let n ← wholeFor type v
      let digits ← wholeDigits type n.natAbs
      let digits := List.replicate (precision.getD 0 - digits.length) '0' ++ digits
      return fill left place.zero width (signOf place (n < 0) ++ baseMark place) digits
    else do
      let (style, capitals) ← styleFor type (precision.getD 6)
      let x ← v.toReal?
      let text := x.styled style place.alternate
      let body := Layout.capitalize capitals (text.whole ++ text.tail)
      return fill left place.zero width (signOf place x.isNegative) body

/-- Fills a place and says which values are left. A percent sign is a place of a text only. -/
def fillPlace (medium : Medium) (supply : Supply) (place : Place) :
    Option (List Char × Supply) := do
  let supply ← choose medium supply place.key
  let (width, supply) ← count supply place.width
  let (precision, supply) ← count supply place.precision
  if place.type == '%' && medium == .text then return (['%'], supply)
  let (v, supply) ← next supply
  let width := width.getD 0
  let left := place.left || width < 0
  if Layout.widthLimit < width.natAbs || precision.any (Layout.widthLimit < ·.natAbs) then none
  let text ← placed medium place left width.natAbs (precision.map Int.toNat) v
  return (text, supply)

/-- Fills the places of a template in turn. -/
def fillParts (medium : Medium) (supply : Supply) : List TemplatePart → Option (List Char × Supply)
  | [] => some ([], supply)
  | .text chars :: rest => do
    let (others, supply) ← fillParts medium supply rest
    return (chars ++ others, supply)
  | .place place :: rest => do
    let (own, supply) ← fillPlace medium supply place
    let (others, supply) ← fillParts medium supply rest
    return (own ++ others, supply)

/-- A template that is filled with a value. -/
def filled (medium : Medium) (template : List Char) (v : Value) : Option Value := do
  let parts ← parts template.length template
  let (chars, supply) ← fillParts medium (supplyOf medium v) parts
  if supply.named.isNone && !supply.waiting.isEmpty then none
  return valueOf chars medium

end Template

/-- Fills a text as a template. -/
def Value.fillText (template : String) (v : Value) : Option Value :=
  Template.filled .text template.toList v

/-- Fills bytes as a template. -/
def Value.fillBytes (template : List UInt8) (v : Value) : Option Value :=
  Template.filled .bytes (Template.charsOf template) v

end HubScript
