import HubScript.Value.Basic
import HubScript.Value.Failure

/-!
# The text of a value

A value is written as a script would write it. A text on its own can also be shown without quotes.
Writing fails on whole numbers with too many digits.
-/
namespace HubScript.Value

open Text

abbrev Written := Except Failure String

def writeInt (n : Int) : Written :=
  match decimalText? n with
  | some text => .ok text
  | Option.none => .error (.print .longNumber)

/-- A part of a complex number, which has no fraction of zero. -/
def writePart (x : Binary64) : String :=
  let text := x.text
  if text.endsWith ".0" then String.ofList (text.toList.dropLast.dropLast) else text

def writeComplex (re im : Binary64) : String :=
  if re.isZero && !re.isNegative then writePart im ++ "j"
  else
    let part := writePart im
    let joined := if part.startsWith "-" then part else "+" ++ part
    "(" ++ writePart re ++ joined ++ "j)"

mutual

def write : Value → Written
  | .none => .ok "None"
  | .bool true => .ok "True"
  | .bool false => .ok "False"
  | .int n => writeInt n
  | .float x => .ok x.text
  | .complex re im => .ok (writeComplex re im)
  | .str s => .ok (quoted s)
  | .bytes bs => .ok (quotedBytes bs)
  | .ellipsis => .ok "Ellipsis"
  | .list items => do return "[" ++ Printer.commas (← writeAll items) ++ "]"
  | .tuple items => do return "(" ++ Printer.tupleItems (← writeAll items) ++ ")"
  | .dict entries => do return "\x7b" ++ Printer.commas (← writeEntries entries) ++ "\x7d"
  | .set [] => .ok "set()"
  | .set (item :: items) => do
    let first ← write item
    let rest ← writeAll items
    return "\x7b" ++ Printer.commas (first :: rest) ++ "\x7d"
  | .object name => .ok ("<" ++ name ++ ">")

def writeAll : List Value → Except Failure (List String)
  | [] => .ok []
  | v :: rest => do
    let text ← write v
    return text :: (← writeAll rest)

def writeEntries : List (Value × Value) → Except Failure (List String)
  | [] => .ok []
  | (key, value) :: rest => do
    let key ← write key
    let value ← write value
    return (key ++ ": " ++ value) :: (← writeEntries rest)

end

/-- The text of a value for reading: a text stands for itself. -/
def display : Value → Written
  | .str s => .ok s
  | v => write v

end HubScript.Value
