import HubScript.Text.Visible

/-!
# Quoted texts

A text in quotes escapes the backslash, its quote, and every character that cannot be shown. It
stands in single quotes, or in double quotes if it holds single quotes and no double ones.
-/
namespace HubScript.Text

def hexDigits (width n : Nat) : List Char :=
  let digits := Nat.toDigits 16 n
  List.replicate (width - digits.length) '0' ++ digits

/-- The escape of a character by its code. -/
def codeEscape (c : Char) : List Char :=
  let n := c.toNat
  if n < 0x100 then '\\' :: 'x' :: hexDigits 2 n
  else if n < 0x10000 then '\\' :: 'u' :: hexDigits 4 n
  else '\\' :: 'U' :: hexDigits 8 n

/-- A character as an escape, if it is a backslash or cannot be shown. -/
def escaped (c : Char) : List Char :=
  if c == '\\' then ['\\', '\\']
  else if c == '\n' then ['\\', 'n']
  else if c == '\r' then ['\\', 'r']
  else if c == '\t' then ['\\', 't']
  else if isVisible c then [c]
  else codeEscape c

def quoteFor (cs : List Char) : Char :=
  if cs.contains '\'' && !cs.contains '"' then '"' else '\''

/-- The inside of a text in quotes. -/
def quotedBody (quote : Char) (cs : List Char) : List Char :=
  cs.flatMap fun c => if c == quote then ['\\', c] else escaped c

def quotedChars (cs : List Char) : List Char :=
  let quote := quoteFor cs
  quote :: quotedBody quote cs ++ [quote]

def quoted (s : String) : String := String.ofList (quotedChars s.toList)

/-- Bytes in quotes; beyond ASCII they are all escapes. -/
def quotedBytes (bytes : List UInt8) : String :=
  let cs := bytes.map fun b => Char.ofNat b.toNat
  let quote := quoteFor cs
  let body := cs.flatMap fun c =>
    if c == quote then ['\\', c] else if isAscii c then escaped c else codeEscape c
  String.ofList ('b' :: quote :: body ++ [quote])

end HubScript.Text
