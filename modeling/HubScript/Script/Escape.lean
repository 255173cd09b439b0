import HubScript.Script.Fault
import HubScript.Text.CharName

/-!
# Escapes in texts

A backslash in a text starts an escape. Escapes are decoded in the ASCII form of the text, in which
every other character is itself an escape; the positions in messages count characters of that form.
An escape that has no meaning stands for itself.
-/
namespace HubScript.Escape

open Text

/-- A number with a fixed count of hexadecimal digits. -/
def hexText (width code : Nat) : List Char :=
  let digits := Nat.toDigits 16 code
  List.replicate (width - digits.length) '0' ++ digits

def wideEscape (c : Char) : List Char := '\\' :: 'U' :: hexText 8 c.toNat

/-- The ASCII form. A backslash that no ASCII character follows is an escape of itself. -/
def asciiForm : List Char → List Char
  | [] => []
  | ['\\'] => "\\u005c".toList
  | '\\' :: c :: rest =>
    if isAscii c then '\\' :: c :: asciiForm rest
    else "\\u005c".toList ++ wideEscape c ++ asciiForm rest
  | c :: rest => if isAscii c then c :: asciiForm rest else wideEscape c ++ asciiForm rest

/-- What a single character after a backslash stands for. -/
def simple? (c : Char) : Option Char :=
  match c with
  | '\\' => some '\\'
  | '\'' => some '\''
  | '"' => some '"'
  | 'b' => some '\x08'
  | 'f' => some '\x0c'
  | 't' => some '\t'
  | 'n' => some '\n'
  | 'r' => some '\r'
  | 'v' => some '\x0b'
  | 'a' => some '\x07'
  | _ => none

/-- How far the current escape has been read. `start` is the position of its backslash. -/
inductive Progress where
  | plain
  | opened (start : Nat)
  | octal (count value : Nat)
  | hex (start left value : Nat) (short : EscapeFault)
  | named (start : Nat)
  | name (start : Nat) (reversed : List Char)

structure Failure where
  first : Nat
  last : Nat
  why : EscapeFault

/-- The characters a step yields and where it leaves the decoder. -/
abbrev Advance := Except Failure (List Char × Progress)

def afterPlain (pos : Nat) (c : Char) : Advance :=
  if c == '\\' then .ok ([], .opened pos) else .ok ([c], .plain)

def afterBackslash (start : Nat) (c : Char) : Advance :=
  match simple? c with
  | some d => .ok ([d], .plain)
  | none =>
    if c == '\n' then .ok ([], .plain)
    else if isOctDigit c then .ok ([], .octal 1 (c.toNat - '0'.toNat))
    else if c == 'x' then .ok ([], .hex start 2 0 .shortHex)
    else if c == 'u' then .ok ([], .hex start 4 0 .shortUnicode)
    else if c == 'U' then .ok ([], .hex start 8 0 .longUnicode)
    else if c == 'N' then .ok ([], .named start)
    else .ok (['\\', c], .plain)

def advance (progress : Progress) (pos : Nat) (c : Char) : Advance :=
  match progress with
  | .plain => afterPlain pos c
  | .opened start => afterBackslash start c
  | .octal count value =>
    if isOctDigit c && count < 3 then
      .ok ([], .octal (count + 1) (value * 8 + (c.toNat - '0'.toNat)))
    else do
      let (cs, next) ← afterPlain pos c
      .ok (charOf value :: cs, next)
  | .hex start left value short =>
    match hexValue? c with
    | none => .error ⟨start, pos - 1, short⟩
    | some digit =>
      let value := value * 16 + digit
      if left ≤ 1 then
        if value > 0x10FFFF then .error ⟨start, pos, .outOfRange⟩
        else .ok ([charOf value], .plain)
      else .ok ([], .hex start (left - 1) value short)
  | .named start =>
    if c == '\x7b' then .ok ([], .name start []) else .error ⟨start, pos - 1, .malformedName⟩
  | .name start reversed =>
    if c != '\x7d' then .ok ([], .name start (c :: reversed))
    else if reversed.isEmpty then .error ⟨start, pos - 1, .malformedName⟩
    else
      match charNamed? reversed.reverse with
      | some d => .ok ([d], .plain)
      | none => .error ⟨start, pos, .unknownName⟩

/-- What an escape yields that the end of the text cuts off. -/
def finish (pos : Nat) : Progress → Except Failure (List Char)
  | .plain => .ok []
  | .opened _ => .ok ['\\']
  | .octal _ value => .ok [charOf value]
  | .hex start _ _ short => .error ⟨start, pos - 1, short⟩
  | .named start => .error ⟨start, pos - 1, .malformedName⟩
  | .name start _ => .error ⟨start, pos - 1, .malformedName⟩

def decodeFrom (progress : Progress) (pos : Nat) : List Char → Except Failure (List Char)
  | [] => finish pos progress
  | c :: rest => do
    let (cs, next) ← advance progress pos c
    let tail ← decodeFrom next (pos + 1) rest
    .ok (cs ++ tail)

/-- The characters that a text with escapes stands for. -/
def decodeText (cs : List Char) : Except Cause (List Char) :=
  match decodeFrom .plain 0 (asciiForm cs) with
  | .ok cs => .ok cs
  | .error failure => .error (.badEscape failure.first failure.last failure.why)

def byteOf (c : Char) : UInt8 := UInt8.ofNat c.toNat

/-- The octal digits of a byte, at most three; a value above a byte loses its high bits. -/
def takeOctal : Nat → Nat → List Char → Nat × List Char
  | left + 1, value, c :: rest =>
    if isOctDigit c then takeOctal left (value * 8 + (c.toNat - '0'.toNat)) rest
    else (value, c :: rest)
  | _, value, rest => (value, rest)

def decodeBytesFrom : Nat → Nat → List Char → Except Cause (List UInt8)
  | 0, _, _ => .ok []
  | _, _, [] => .ok []
  | fuel + 1, pos, '\\' :: c :: rest =>
    match simple? c with
    | some d => do .ok (byteOf d :: (← decodeBytesFrom fuel (pos + 2) rest))
    | none =>
      if c == '\n' then decodeBytesFrom fuel (pos + 2) rest
      else if isOctDigit c then
        let (value, rest') := takeOctal 2 (c.toNat - '0'.toNat) rest
        do .ok (UInt8.ofNat value ::
          (← decodeBytesFrom fuel (pos + 2 + (rest.length - rest'.length)) rest'))
      else if c == 'x' then
        match rest with
        | h :: l :: rest =>
          match hexValue? h, hexValue? l with
          | some h, some l =>
            do .ok (UInt8.ofNat (h * 16 + l) :: (← decodeBytesFrom fuel (pos + 4) rest))
          | _, _ => .error (.badByteEscape pos)
        | _ => .error (.badByteEscape pos)
      else do .ok (byteOf '\\' :: (← decodeBytesFrom fuel (pos + 1) (c :: rest)))
  | fuel + 1, pos, c :: rest => do .ok (byteOf c :: (← decodeBytesFrom fuel (pos + 1) rest))

/-- The bytes that an ASCII text with escapes stands for. -/
def decodeBytes (cs : List Char) : Except Cause (List UInt8) :=
  decodeBytesFrom (cs.length + 1) 0 cs

end HubScript.Escape
