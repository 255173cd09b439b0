import HubScript.Text.Blank
import HubScript.Text.DigitValue
import HubScript.Value.Text

/-!
# Whole numbers from values

A value is turned into a whole number by cutting a fraction off or by reading a text. A text holds
decimal digits of any script, single underscores between them, a sign before them and blanks
around them. Texts with too many digits are refused before anything after the digits is looked at.
-/
namespace HubScript.Value

open Text

/-- The digits and underscores at the start of a text, with the digits as numbers. -/
def digitRun : List (Option (Option Nat)) → List (Option Nat)
  | some d :: rest => d :: digitRun rest
  | _ => []

/-- Whether underscores stand only between digits. -/
def wellSpaced : List (Option Nat) → Bool
  | [] => false
  | run =>
    let pairs := run.zip (run.drop 1)
    run.head?.join.isSome && run.getLast?.join.isSome &&
      pairs.all fun (a, b) => a.isSome || b.isSome

/-- A character of a numeral: `some` of a digit or of an underscore. -/
def numeralChar (digit? : Char → Option Nat) (c : Char) : Option (Option Nat) :=
  if c == '_' then some Option.none else (digit? c).map some

/-- Reads a whole number. `bad` is the failure of a text that holds none. -/
def readWhole (digit? : Char → Option Nat) (blank : Char → Bool) (bad : Failure)
    (cs : List Char) : Except Failure Int :=
  let cs := cs.dropWhile blank
  let (negative, cs) := match cs with
    | '+' :: rest => (false, rest)
    | '-' :: rest => (true, rest)
    | _ => (false, cs)
  let run := digitRun (cs.map (numeralChar digit?))
  let digits := run.filterMap id
  if !wellSpaced run then .error bad
  else if digitLimit < digits.length then .error (.longNumeral digits.length)
  else if !(cs.drop run.length).all blank then .error bad
  else
    let n : Nat := digits.foldl (fun n d => n * 10 + d) 0
    .ok (if negative then -n else n)

/-- The blanks of plain texts. -/
def isPlainBlank (c : Char) : Bool := c == ' ' || (9 ≤ c.toNat && c.toNat ≤ 13)

/-- The blanks around a numeral: beyond plain texts, every blank. -/
def isNumeralBlank (c : Char) : Bool := isPlainBlank c || (127 < c.toNat && isBlank c)

def plainDigit? (c : Char) : Option Nat := if c.isDigit then some (c.toNat - 48) else Option.none

/-- The failure of a text that is no numeral, which shows the start of the text. -/
def badNumeral (written : String) : Failure :=
  .badNumeral (String.ofList (written.toList.take 200))

def wholeOfText (s : String) : Except Failure Int :=
  readWhole digitValue? isNumeralBlank (badNumeral (quoted s)) s.toList

def wholeOfBytes (bs : List UInt8) : Except Failure Int :=
  readWhole plainDigit? isPlainBlank (badNumeral (quotedBytes bs))
    (bs.map fun b => Char.ofNat b.toNat)

/-- A number without its fraction. -/
def wholeOfFloat (x : Binary64) : Except Failure Int :=
  match x.truncate? with
  | some n => .ok n
  | Option.none => .error (if x.isNan then .nanInt else .infiniteInt)

/-- Repeats a list. -/
def repeated (count : Nat) (items : List α) : List α := (List.replicate count items).flatten

/-- A thousand times a value, as a whole number. A text is repeated and then read. -/
def thousandfold : Value → Except Failure Int
  | .bool b => .ok (boolInt b * 1000)
  | .int n => .ok (n * 1000)
  | .float x => wholeOfFloat (x.mul (Binary64.round false 1000 1))
  | .str s => wholeOfText (String.ofList (repeated 1000 s.toList))
  | .bytes bs => wholeOfBytes (repeated 1000 bs)
  | .complex _ _ => .error (.notNumber "complex")
  | .list _ => .error (.notNumber "list")
  | .tuple _ => .error (.notNumber "tuple")
  | v => .error (.badBinary "*" v.typeName "int")

end HubScript.Value
