import HubScript.Script.Syntax
import HubScript.Script.Token
import HubScript.Script.Escape
import HubScript.Number.Decimal

/-!
# Constants in a script

The number a numeral stands for, and the pieces of a text literal. A text literal is taken apart
into its mark and what stands between its quotes; escapes are decoded unless the text is raw.
-/
namespace HubScript

open Text

namespace Literal

def ofBase (base : Nat) (digits : List Char) : Literal :=
  .int (digits.foldl (fun n c => n * base + (hexValue? c).getD 0) 0)

/-- The number that a numeral stands for. A whole number in decimal digits may not be too long. -/
def ofNumeral (text : String) : Except Cause Literal :=
  let cs := text.toList.filter (· != '_')
  match cs with
  | '0' :: 'x' :: ds => .ok (ofBase 16 ds)
  | '0' :: 'X' :: ds => .ok (ofBase 16 ds)
  | '0' :: 'o' :: ds => .ok (ofBase 8 ds)
  | '0' :: 'O' :: ds => .ok (ofBase 8 ds)
  | '0' :: 'b' :: ds => .ok (ofBase 2 ds)
  | '0' :: 'B' :: ds => .ok (ofBase 2 ds)
  | _ =>
    if cs.all isDigit then
      if cs.length > digitLimit && cs.any (· != '0') then .error (.tooManyDigits cs.length)
      else .ok (ofBase 10 cs)
    else
      let imaginary := cs.getLast? == some 'j' || cs.getLast? == some 'J'
      let real := if imaginary then cs.dropLast else cs
      let value := match Decimal.read? real with
        | some (digits, exponent) => Binary64.ofDecimal false digits exponent
        | _ => .nan
      .ok (if imaginary then .imaginary value else .float value)

end Literal

/-- A text literal without its quotes. -/
structure TextToken where
  isBytes : Bool
  isRaw : Bool
  hasFields : Bool
  body : List Char
  /-- The line on which the body starts. -/
  line : Nat

/-- Takes the quotes off: three of them when they are tripled. -/
def unquote (quoted : List Char) : List Char :=
  match quoted with
  | q :: a :: b :: rest =>
    if a == q && b == q && rest.length ≥ 3 then (rest.take (rest.length - 3))
    else (a :: b :: rest).dropLast
  | _ :: rest => rest.dropLast
  | [] => []

def TextToken.ofToken (token : Token) : TextToken :=
  let cs := token.text.toList
  let marks := (cs.takeWhile isAsciiLetter).map Char.toLower
  { isBytes := marks.contains 'b'
    isRaw := marks.contains 'r'
    hasFields := marks.contains 'f'
    body := unquote (cs.dropWhile isAsciiLetter)
    line := token.line }

/-- Decodes the escapes of a text, if it is not raw. -/
def unescape (raw : Bool) (cs : List Char) : Except Cause (List Char) :=
  if raw || !cs.contains '\\' then .ok cs else Escape.decodeText cs

def unescapeBytes (raw : Bool) (cs : List Char) : Except Cause (List UInt8) :=
  if raw || !cs.contains '\\' then .ok (cs.map Escape.byteOf) else Escape.decodeBytes cs

end HubScript
