import HubScript.Script.Fault

/-!
# The shape of numbers

Each scanner is given the characters from some point of a number on and returns those after it.
Underscores may stand between digits, one at a time.
-/
namespace HubScript.Numeral

open Text

abbrev Scan := Except Cause (List Char)

/-- Whether a character would continue a name. -/
def isWordPart (c : Char) : Bool :=
  !isAscii c || isAsciiLetter c || isDigit c || c == '_'

/-- A number may run into one of a few keywords, but not into any other name. -/
def ended (form : NumberForm) : List Char → Scan
  | cs@('a' :: 'n' :: 'd' :: _) => .ok cs
  | cs@('e' :: 'l' :: 's' :: 'e' :: _) => .ok cs
  | cs@('f' :: 'o' :: 'r' :: _) => .ok cs
  | cs@('i' :: 'f' :: _) => .ok cs
  | cs@('i' :: 'n' :: _) => .ok cs
  | cs@('i' :: 's' :: _) => .ok cs
  | cs@('n' :: 'o' :: 't' :: _) => .ok cs
  | cs@('o' :: 'r' :: _) => .ok cs
  | [] => .ok []
  | c :: rest => if isWordPart c then .error (.badNumber form) else .ok (c :: rest)

/-- The digits after a first digit. -/
def digitsTail : List Char → Scan
  | '_' :: d :: rest => if isDigit d then digitsTail rest else .error (.badNumber .decimal)
  | ['_'] => .error (.badNumber .decimal)
  | c :: rest => if isDigit c then digitsTail rest else .ok (c :: rest)
  | [] => .ok []

/-- The end of a number that may be imaginary. -/
def imaginaryTail : List Char → Scan
  | 'j' :: rest => ended .imaginary rest
  | 'J' :: rest => ended .imaginary rest
  | cs => ended .decimal cs

/-- What follows the letter of an exponent; without digits the number ends before the letter. -/
def exponentTail (letter : Char) : List Char → Scan
  | [] => ended .decimal [letter]
  | c :: rest =>
    if c == '+' || c == '-' then
      match rest with
      | d :: rest => if isDigit d then digitsTail rest >>= imaginaryTail
          else .error (.badNumber .decimal)
      | [] => .error (.badNumber .decimal)
    else if isDigit c then digitsTail rest >>= imaginaryTail
    else ended .decimal (letter :: c :: rest)

/-- The end of a number after its digits and its fraction. -/
def scaleTail : List Char → Scan
  | 'e' :: rest => exponentTail 'e' rest
  | 'E' :: rest => exponentTail 'E' rest
  | cs => imaginaryTail cs

/-- What follows the point. -/
def fractionTail : List Char → Scan
  | [] => scaleTail []
  | c :: rest => if isDigit c then digitsTail rest >>= scaleTail else scaleTail (c :: rest)

/-- The end of a number after its whole digits. -/
def wholeTail : List Char → Scan
  | '.' :: rest => fractionTail rest
  | cs => scaleTail cs

/-- Digits of a base other than ten, after a first digit. -/
def baseTail (valid : Char → Bool) (bad : Char → Cause) (none : Cause) : List Char → Scan
  | ['_'] => .error none
  | '_' :: d :: rest => if valid d then baseTail valid bad none rest else .error (bad d)
  | c :: rest => if valid c then baseTail valid bad none rest else .ok (c :: rest)
  | [] => .ok []

/-- The number after its base mark. -/
def based (form : NumberForm) (valid : Char → Bool) (cs : List Char) : Scan := do
  let none := Cause.badNumber form
  let bad := fun c => if isDigit c then Cause.badDigit c form else none
  let rest ← match cs with
    | [] => .error none
    | ['_'] => .error none
    | '_' :: d :: rest => if valid d then baseTail valid bad none rest else .error (bad d)
    | c :: rest => if valid c then baseTail valid bad none rest else .error (bad c)
  match rest with
  | c :: _ => if isDigit c then .error (bad c) else ended form rest
  | [] => .ok []

/-- The zeros after a leading zero. -/
def zerosTail : List Char → Scan
  | '0' :: rest => zerosTail rest
  | '_' :: '0' :: rest => zerosTail rest
  | '_' :: d :: rest => if isDigit d then .ok (d :: rest) else .error (.badNumber .decimal)
  | ['_'] => .error (.badNumber .decimal)
  | cs => .ok cs

/-- A number that starts with a zero and no base mark. A whole number has no leading zeros. -/
def leadingZero (cs : List Char) : Scan := do
  let rest ← zerosTail cs
  match rest with
  | c :: tail =>
    if isDigit c then
      let rest ← digitsTail tail
      match rest with
      | d :: _ =>
        if d == '.' || d == 'e' || d == 'E' || d == 'j' || d == 'J' then wholeTail rest
        else .error .leadingZeros
      | [] => .error .leadingZeros
    else wholeTail rest
  | [] => .ok []

/-- A number from its first digit on. -/
def scan : List Char → Scan
  | '0' :: 'x' :: rest => based .hexadecimal isHexDigit rest
  | '0' :: 'X' :: rest => based .hexadecimal isHexDigit rest
  | '0' :: 'o' :: rest => based .octal isOctDigit rest
  | '0' :: 'O' :: rest => based .octal isOctDigit rest
  | '0' :: 'b' :: rest => based .binary (fun c => c == '0' || c == '1') rest
  | '0' :: 'B' :: rest => based .binary (fun c => c == '0' || c == '1') rest
  | '0' :: rest => leadingZero rest
  | _ :: rest => digitsTail rest >>= wholeTail
  | [] => .ok []

end HubScript.Numeral
