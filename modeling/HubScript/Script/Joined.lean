import HubScript.Script.Constant
import HubScript.Script.Word

/-!
# Texts with replacement fields

A replacement field stands between braces: an expression, perhaps `=`, a conversion, and a format
that may hold fields again, one level deep. Doubled braces stand for themselves outside a format.
The reader of expressions is a parameter, given the characters of the expression and its line.
-/
namespace HubScript

open Text

/-- A fault in a literal. -/
inductive LiteralFault where
  /-- Reported at the token read last. -/
  | here (cause : Cause)
  | onLine (cause : Cause) (line : Nat)
  /-- Found by the reader of expressions. -/
  | inner (fault : Fault)

namespace Joined

abbrev Read := List Char → Nat → Except LiteralFault Expr

/-- Characters with the line of the first of them. -/
structure Cursor where
  rest : List Char
  line : Nat

def Cursor.after (line : Nat) (c : Char) : Nat := if c == '\n' then line + 1 else line

/-- How a run of plain characters ends. -/
inductive RunEnd where
  /-- At a brace or at the end. -/
  | here
  /-- After a doubled brace, which yields one. -/
  | doubled
  | loneBrace

/-- The plain characters up to a brace, in reverse. The braces of a named character are no braces
of a field. -/
def plainRun (raw top : Bool) (inName : Bool) (taken : List Char) (line : Nat) :
    List Char → List Char × Cursor × RunEnd
  | [] => (taken, ⟨[], line⟩, .here)
  | c :: rest =>
    if inName then plainRun raw top (c != '\x7d') (c :: taken) (Cursor.after line c) rest
    else if !raw && c == '\\' then
      match rest with
      | 'N' :: d :: rest =>
        plainRun raw top (d == '\x7b') (d :: 'N' :: c :: taken) (Cursor.after line d) rest
      | d :: rest' =>
        if d == '\x7b' || d == '\x7d' then brace d rest' (c :: taken)
        else plainRun raw top false (d :: c :: taken) (Cursor.after line d) rest'
      | [] => (c :: taken, ⟨[], line⟩, .here)
    else if c == '\x7b' || c == '\x7d' then brace c rest taken
    else plainRun raw top false (c :: taken) (Cursor.after line c) rest
where
  /-- At a brace that is not part of a name. -/
  brace (c : Char) (rest taken : List Char) : List Char × Cursor × RunEnd :=
    if top && rest.head? == some c then (c :: taken, ⟨rest.drop 1, line⟩, .doubled)
    else if top && c == '\x7d' then (taken, ⟨c :: rest, line⟩, .loneBrace)
    else (taken, ⟨c :: rest, line⟩, .here)

/-- Whether a character closes an expression when no bracket is open. -/
def endsField (c : Char) : Bool := c == '!' || c == ':' || c == '\x7d' || c == '='

/-- The expression of a field up to the character that ends it, in reverse. `skip` counts the
characters that belong to the mark before them, `quote` is the open quote and whether it is
tripled, and `opened` holds the open brackets. -/
def fieldRun (skip : Nat) (quote : Option (Char × Bool)) (opened taken : List Char) (line : Nat) :
    List Char → Except Cause (List Char × Cursor)
  | [] =>
    match quote, opened with
    | some _, _ => .error .fieldUnterminatedText
    | none, opening :: _ => .error (.fieldUnmatched opening)
    | none, [] => .error .fieldExpectsBrace
  | c :: rest =>
    let next := Cursor.after line c
    let tripled := rest.take 2 == [c, c]
    if skip > 0 then fieldRun (skip - 1) quote opened (c :: taken) next rest
    else if c == '\\' then .error .fieldBackslash
    else
      match quote with
      | some (q, three) =>
        if c != q || (three && !tripled) then fieldRun 0 quote opened (c :: taken) next rest
        else fieldRun (if three then 2 else 0) none opened (c :: taken) next rest
      | none =>
        if c == '\'' || c == '"' then
          fieldRun (if tripled then 2 else 0) (some (c, tripled)) opened (c :: taken) next rest
        else if c == '\x7b' || c == '[' || c == '(' then
          if opened.length ≥ 200 then .error .fieldTooManyBrackets
          else fieldRun 0 none (c :: opened) (c :: taken) next rest
        else if c == '#' then .error .fieldComment
        else if opened.isEmpty && (endsField c || c == '<' || c == '>') then
          if rest.head? == some '=' && c != ':' && c != '\x7d' then
            fieldRun 1 none opened (c :: taken) next rest
          else if c == '<' || c == '>' then fieldRun 0 none opened (c :: taken) next rest
          else .ok (taken, ⟨c :: rest, line⟩)
        else if c == ']' || c == '\x7d' || c == ')' then
          match opened with
          | [] => .error (.fieldUnmatched c)
          | opening :: outer =>
            let fits := (opening == '(' && c == ')') || (opening == '[' && c == ']') ||
              (opening == '\x7b' && c == '\x7d')
            if fits then fieldRun 0 none outer (c :: taken) next rest
            else .error (.fieldMismatched c opening)
        else fieldRun 0 none opened (c :: taken) next rest

/-- Whether an expression is empty for the reader of expressions. -/
def isGap (c : Char) : Bool := c == ' ' || c == '\t' || c == '\n' || c == '\x0c'

/-- ASCII blanks. -/
def isSpace (c : Char) : Bool := isAscii c && (c == ' ' || (9 ≤ c.toNat && c.toNat ≤ 13))

/-- Reads the expression between a brace and the character that ends it. -/
def readField (read : Read) (chars : List Char) (line : Nat) (ender : Char) :
    Except LiteralFault Expr :=
  if chars.all isGap then
    if ender == '!' || ender == ':' || ender == '=' then
      .error (.here (.fieldExpressionBefore ender))
    else .error (.here .fieldEmpty)
  else read chars line

/-- The conversion of a field, if it has one. -/
def conversion (cursor : Cursor) : Except LiteralFault (Option Char × Cursor) :=
  match cursor.rest with
  | '!' :: c :: rest =>
    if c == 's' || c == 'r' || c == 'a' then .ok (some c, ⟨rest, cursor.line⟩)
    else .error (.here .fieldConversion)
  | ['!'] => .error (.here .fieldExpectsBrace)
  | _ => .ok (none, cursor)

/-- The parts of a text from a cursor on, in reverse, and what is left. `level` counts the formats
around it. Each round takes at least one character. -/
def parts (read : Read) (raw : Bool) : Nat → Nat → List Part → Cursor →
    Except LiteralFault (List Part × Cursor)
  | 0, _, found, cursor => .ok (found, cursor)
  | fuel + 1, level, found, cursor => do
    let (taken, next, ending) := plainRun raw (level == 0) false [] cursor.line cursor.rest
    if let .loneBrace := ending then throw (.here .fieldLoneBrace)
    let text ← match unescape raw taken.reverse with
      | .ok cs => pure (String.ofList cs)
      | .error cause => throw (.here cause)
    let found := if text.isEmpty then found else .text text :: found
    if let .doubled := ending then parts read raw fuel level found next
    else
      match next.rest with
      | '\x7b' :: rest =>
        if level ≥ 2 then throw (.here .fieldTooDeep)
        let (taken, ended) ← match fieldRun 0 none [] [] next.line rest with
          | .ok r => pure r
          | .error cause => throw (.here cause)
        let value ← readField read taken.reverse next.line (ended.rest.headD '\x7d')
        let (shown, ended) ← match ended.rest with
          | '=' :: rest =>
            let blanks := rest.takeWhile isSpace
            let after := rest.dropWhile isSpace
            if after.isEmpty then throw (.here .fieldExpectsBrace)
            let line := blanks.foldl Cursor.after ended.line
            pure (some (String.ofList (taken.reverse ++ '=' :: blanks)), ⟨after, line⟩)
          | _ => pure (none, ended)
        let (convert, ended) ← conversion ended
        let (format, ended) ← match ended.rest with
          | [':'] => throw (.here .fieldExpectsBrace)
          | ':' :: rest => do
            let (inner, after) ← parts read raw fuel (level + 1) [] ⟨rest, ended.line⟩
            if after.rest.head? != some '\x7d' then throw (.here .fieldExpectsBrace)
            pure (some inner.reverse, after)
          | _ => pure (none, ended)
        match ended.rest with
        | '\x7d' :: rest =>
          let convert := if shown.isSome && format.isNone && convert.isNone then some 'r'
            else convert
          let found := match shown with
            | some text => .text text :: found
            | none => found
          parts read raw fuel level (.field value convert format :: found) ⟨rest, ended.line⟩
        | _ => throw (.here .fieldExpectsBrace)
      | _ => pure (found, next)

/-- Puts neighbouring texts together. -/
def merge : List Part → List Part
  | .text a :: rest =>
    match merge rest with
    | .text b :: rest => .text (a ++ b) :: rest
    | rest => .text a :: rest
  | part :: rest => part :: merge rest
  | [] => []

/-- Puts neighbouring texts together, in formats too. -/
def mergeFormat : Part → Part
  | .field value convert (some format) => .field value convert (some (merge format))
  | part => part

/-- The parts of a whole text with fields. -/
def read (read : Read) (token : TextToken) : Except LiteralFault (List Part) := do
  let (found, _) ← parts read token.isRaw (2 * token.body.length + 2) 0 []
    ⟨token.body, token.line⟩
  return found.reverse.map mergeFormat

end Joined

/-- What neighbouring text literals have come to. -/
structure Texts where
  /-- Whether the first has the mark `u` before its quotes. -/
  marked : Bool
  /-- Whether they are bytes, once there is one. -/
  isBytes : Option Bool
  /-- Whether one of them can have fields. -/
  joined : Bool
  bytes : List UInt8
  parts : List Part

namespace Texts

def start (tokens : List Token) : Texts where
  marked := match tokens with
    | first :: _ => first.text.startsWith "u"
    | [] => false
  isBytes := none
  joined := false
  bytes := []
  parts := []

/-- Adds a literal. Bytes and texts do not mix. -/
def add (read : Joined.Read) (texts : Texts) (token : Token) : Except LiteralFault Texts := do
  let t := TextToken.ofToken token
  if t.isBytes then
    if !t.body.all isAscii then throw (.onLine .bytesBeyondAscii token.line)
    let new ← match unescapeBytes t.isRaw t.body with
      | .ok bs => pure bs
      | .error cause => throw (.here cause)
    if texts.isBytes == some false then throw (.here .mixedBytes)
    return { texts with isBytes := some true, bytes := texts.bytes ++ new }
  else if t.hasFields then
    if texts.isBytes == some true then throw (.here .mixedBytes)
    let new ← Joined.read read t
    return { texts with isBytes := some false, joined := true, parts := texts.parts ++ new }
  else
    let new ← match unescape t.isRaw t.body with
      | .ok cs => pure (String.ofList cs)
      | .error cause => throw (.here cause)
    if texts.isBytes == some true then throw (.here .mixedBytes)
    return { texts with
      isBytes := some false
      parts := if new.isEmpty then texts.parts else texts.parts ++ [.text new] }

/-- The expression that text literals stand for. A text with a field anywhere makes the whole one
with fields. -/
def expr (texts : Texts) : Expr :=
  if texts.isBytes == some true then .literal (.bytes texts.bytes)
  else if texts.joined then .joined (Joined.merge texts.parts)
  else
    match Joined.merge texts.parts with
    | [.text s] => .literal (.text s texts.marked)
    | _ => .literal (.text "" texts.marked)

theorem isWorded_expr (texts : Texts) : texts.expr.isWorded = true := by
  unfold expr
  split
  · rfl
  · split
    · rfl
    · split <;> rfl

end Texts

/-- Puts neighbouring text literals together. -/
def readTexts (read : Joined.Read) (tokens : List Token) : Except LiteralFault Texts :=
  tokens.foldlM (Texts.add read) (Texts.start tokens)

end HubScript
