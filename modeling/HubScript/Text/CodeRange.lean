/-!
# Ranges of character codes

A character property that reaches beyond ASCII is a table of closed code ranges, in increasing
order. The ASCII part of each property is decided by comparisons, so the tables are consulted for
other characters only.
-/
namespace HubScript.Text

/-- Whether a code lies in one of the ranges of a table. -/
def inRanges (table : Array (Nat × Nat)) (code : Nat) : Bool :=
  table.any fun r => r.1 ≤ code && code ≤ r.2

def isAscii (c : Char) : Bool := c.toNat < 128

def isDigit (c : Char) : Bool := '0' ≤ c && c ≤ '9'

def isAsciiLetter (c : Char) : Bool := ('a' ≤ c && c ≤ 'z') || ('A' ≤ c && c ≤ 'Z')

/-- The value of a hexadecimal digit. -/
def hexValue? (c : Char) : Option Nat :=
  if isDigit c then some (c.toNat - '0'.toNat)
  else if 'a' ≤ c && c ≤ 'f' then some (c.toNat - 'a'.toNat + 10)
  else if 'A' ≤ c && c ≤ 'F' then some (c.toNat - 'A'.toNat + 10)
  else none

def isHexDigit (c : Char) : Bool := (hexValue? c).isSome

def isOctDigit (c : Char) : Bool := '0' ≤ c && c ≤ '7'

/-- The character of a code. A code that is no character gives the replacement character: beyond the
range of characters, or one half of a surrogate pair, which a text here cannot hold on its own. -/
def charOf (code : Nat) : Char :=
  if h : code.isValidChar then Char.ofNatAux code h else '�'

end HubScript.Text
