import HubScript.Script.Token
import HubScript.Script.Numeral
import HubScript.Text.NameChar
import HubScript.Text.Visible

/-!
# Cutting a script into tokens

The lexer walks over the characters with a stack of open indentations and a stack of open brackets.
Inside brackets the layout of lines does not count. A line that holds a comment only, or nothing,
does not count either.
-/
namespace HubScript.Lexer

open Text

/-- What is read: a whole script, whose last line is closed if need be, or a single expression. -/
inductive Mode where
  | script
  | expression
  deriving DecidableEq, Repr

/-- Line ends of every style become line feeds; the flag says that a carriage return came before. -/
def unifyEnds : Bool → List Char → List Char
  | _, [] => []
  | returned, c :: rest =>
    if c == '\r' then '\n' :: unifyEnds true rest
    else if returned && c == '\n' then unifyEnds false rest
    else c :: unifyEnds false rest

/-- Whether the last line is closed by a single character. -/
def isClosed (cs : List Char) : Bool :=
  match cs.reverse with
  | '\n' :: '\r' :: _ => false
  | '\n' :: _ => true
  | '\r' :: _ => true
  | _ => false

def prepare (mode : Mode) (cs : List Char) : List Char :=
  let unified := unifyEnds false cs
  if mode == .script && !isClosed cs then unified ++ ['\n'] else unified

/-- The number of lines, where a last line need not be closed. -/
def lineCount (cs : List Char) : Nat :=
  let feeds := cs.countP (· == '\n')
  match cs.getLast? with
  | none => 0
  | some c => if c == '\n' then feeds else feeds + 1

structure State where
  rest : List Char
  /-- The line of the next character. -/
  line : Nat
  atLineStart : Bool
  /-- The open indentations, innermost first, each as measured with wide and with narrow tabs. -/
  indents : List (Nat × Nat)
  /-- The open brackets, innermost first, with their lines. -/
  brackets : List (Char × Nat)

inductive Step where
  | go (tokens : List Token) (next : State)
  | done (token : Token)
  | stop (stop : Stop)

namespace State

def fault (s : State) (cause : Cause) (line : Nat) (direct : Bool) : Step :=
  .stop ⟨cause, line, direct, s.brackets.head?⟩

/-- The script ends where it may not. -/
def ending (s : State) (total : Nat) : Step :=
  match s.brackets with
  | (opening, line) :: _ => s.fault (.neverClosed opening) line false
  | [] => s.fault .endOfScript total false

/-- A token on the current line that leaves the given rest. -/
def token (s : State) (kind : TokenKind) (rest : List Char) : Step :=
  let text := String.ofList (s.rest.take (s.rest.length - rest.length))
  .go [⟨kind, text, s.line, s.line, s.brackets.length⟩] { s with rest }

end State

/-- The width of the blanks at a line start, by wide and by narrow tabs. A line continued within
its indentation keeps the width before the first backslash. -/
structure Margin where
  wide : Nat
  narrow : Nat
  kept : Nat

inductive MarginResult where
  | ok (margin : Margin) (rest : List Char) (line : Nat)
  | afterContinuation (line : Nat)
  | ending

def measure : Margin → Nat → List Char → MarginResult
  | m, line, ' ' :: rest => measure { m with wide := m.wide + 1, narrow := m.narrow + 1 } line rest
  | m, line, '\t' :: rest =>
    measure { m with wide := (m.wide / 8 + 1) * 8, narrow := m.narrow + 1 } line rest
  | m, line, '\x0c' :: rest => measure { m with wide := 0, narrow := 0 } line rest
  | _, _, ['\\', '\n'] => .ending
  | m, line, '\\' :: '\n' :: rest =>
    measure { m with kept := if m.kept == 0 then m.wide else m.kept } (line + 1) rest
  | _, line, '\\' :: _ => .afterContinuation line
  | m, line, rest => .ok m rest line

/-- The indentations that stay open at a smaller width. -/
def closeTo (wide : Nat) (indents : List (Nat × Nat)) : List (Nat × Nat) :=
  indents.dropWhile fun i => wide < i.1

/-- Compares the width of a line with the open indentations. -/
def indentation (s : State) (wide narrow here : Nat) : Step :=
  let (top, topNarrow) := s.indents.headD (0, 0)
  let layout := fun kind => (⟨kind, "", here, here, 0⟩ : Token)
  if wide == top then
    if narrow == topNarrow then .go [] s else s.fault .mixedTabs here false
  else if top < wide then
    if s.indents.length ≥ 99 then s.fault .tooDeep here false
    else if narrow ≤ topNarrow then s.fault .mixedTabs here false
    else .go [layout .indent] { s with indents := (wide, narrow) :: s.indents }
  else
    let indents := closeTo wide s.indents
    let (top, topNarrow) := indents.headD (0, 0)
    if wide ≠ top then s.fault .unindent here false
    else if narrow ≠ topNarrow then s.fault .mixedTabs here false
    else .go (List.replicate (s.indents.length - indents.length) (layout .dedent))
      { s with indents }

/-- The end of a text between single quotes, with its line; else the line where it breaks off. -/
def closeText (quote : Char) (total : Nat) : Nat → List Char → Except Nat (Nat × List Char)
  | _, [] => .error total
  | _, ['\\'] => .error total
  | line, '\\' :: c :: rest => closeText quote total (if c == '\n' then line + 1 else line) rest
  | line, c :: rest =>
    if c == quote then .ok (line, rest)
    else if c == '\n' then .error line
    else closeText quote total line rest

/-- The end of a text between triple quotes. -/
def closeBlock (quote : Char) (total : Nat) : Nat → List Char → Except Nat (Nat × List Char)
  | _, [] => .error total
  | _, ['\\'] => .error total
  | line, '\\' :: c :: rest => closeBlock quote total (if c == '\n' then line + 1 else line) rest
  | line, c :: rest =>
    if c == quote && rest.take 2 == [quote, quote] then .ok (line, rest.drop 2)
    else closeBlock quote total (if c == '\n' then line + 1 else line) rest

/-- A text literal, given the characters from its first quote on. -/
def text (s : State) (total : Nat) (quote : Char) (rest : List Char) : Step :=
  let emit := fun (r : Nat × List Char) =>
    let written := String.ofList (s.rest.take (s.rest.length - r.2.length))
    Step.go [⟨.text, written, s.line, r.1, s.brackets.length⟩] { s with rest := r.2, line := r.1 }
  if rest.take 2 == [quote, quote] then
    match closeBlock quote total s.line (rest.drop 2) with
    | .ok r => emit r
    | .error detected => s.fault (.unterminatedBlock detected) s.line true
  else
    match closeText quote total s.line rest with
    | .ok r => emit r
    | .error detected => s.fault (.unterminatedText detected) s.line true

def isQuote (c : Char) : Bool := c == '"' || c == '\''

/-- Whether letters may stand before the quotes of a text. -/
def isTextMark (letters : List Char) : Bool :=
  match letters.map Char.toLower with
  | ['b'] | ['r'] | ['u'] | ['f'] => true
  | ['b', 'r'] | ['r', 'b'] | ['f', 'r'] | ['r', 'f'] => true
  | _ => false

def startsWord (c : Char) : Bool := !isAscii c || isAsciiLetter c || c == '_'

/-- A name or a keyword. -/
def plainWord (s : State) : Step :=
  let name := s.rest.takeWhile Numeral.isWordPart
  match if name.all isAscii then none else firstForeign? name with
  | none => s.token .word (s.rest.drop name.length)
  | some c =>
    s.fault (if isVisible c then .strangeCharacter c else .hiddenCharacter c) s.line true

/-- A name, a keyword, or a text with letters before its quotes. -/
def word (s : State) (total : Nat) : Step :=
  match s.rest with
  | c :: q :: rest =>
    if isQuote q && isTextMark [c] then text s total q rest
    else
      match rest with
      | r :: rest => if isQuote r && isTextMark [c, q] then text s total r rest else plainWord s
      | [] => plainWord s
  | _ => plainWord s

/-- The marks of three and of two characters. -/
def longMarks : List String :=
  ["**=", "//=", "<<=", ">>=", "...", "!=", "%=", "&=", "**", "*=", "+=", "-=", "->", "//", "/=",
    ":=", "<<", "<=", "<>", "==", ">=", ">>", "@=", "^=", "|="]

def closingOf? (opening : Char) : Option Char :=
  if opening == '(' then some ')'
  else if opening == '[' then some ']'
  else if opening == '\x7b' then some '\x7d'
  else none

def isClosing (c : Char) : Bool := c == ')' || c == ']' || c == '\x7d'

/-- The deepest nesting of brackets. -/
def bracketLimit : Nat := 200

def mark (s : State) (c : Char) (rest : List Char) : Step :=
  match longMarks.find? fun m => m.toList.isPrefixOf s.rest with
  | some m => s.token .mark (s.rest.drop m.length)
  | none =>
    if (closingOf? c).isSome then
      if s.brackets.length ≥ bracketLimit then s.fault .tooManyBrackets s.line true
      else { s with brackets := (c, s.line) :: s.brackets }.token .mark rest
    else if isClosing c then
      match s.brackets with
      | [] => s.fault (.unmatched c) s.line true
      | (opening, line) :: outer =>
        if closingOf? opening == some c then { s with brackets := outer }.token .mark rest
        else
          let where? := if line == s.line then none else some line
          { s with brackets := outer }.fault (.mismatched c opening where?) s.line true
    else if !isVisible c then s.fault (.hiddenCharacter c) s.line true
    else s.token .mark rest

def isGap (c : Char) : Bool := c == ' ' || c == '\t' || c == '\x0c'

/-- The characters after blanks and a comment. -/
def skipGap (cs : List Char) : List Char :=
  let cs := cs.dropWhile isGap
  match cs with
  | '#' :: _ => cs.dropWhile (· != '\n')
  | _ => cs

/-- The next token within a line; a blank line yields none. -/
def within (total : Nat) (blank : Bool) (s : State) : Step :=
  let s := { s with rest := skipGap s.rest, atLineStart := false }
  match s.rest with
  | [] =>
    if s.brackets.isEmpty then .done ⟨.scriptEnd, "", total, total, 0⟩ else s.ending total
  | '\n' :: rest =>
    let next := { s with rest, line := s.line + 1, atLineStart := true }
    if blank || !s.brackets.isEmpty then .go [] next
    else .go [⟨.lineEnd, "", s.line, s.line, 0⟩] next
  | '\\' :: rest =>
    match rest with
    | ['\n'] => s.ending total
    | '\n' :: rest => .go [] { s with rest, line := s.line + 1 }
    | _ => s.fault .afterContinuation s.line false
  | '.' :: d :: rest =>
    if isDigit d then
      match Numeral.fractionTail (d :: rest) with
      | .ok rest => s.token .number rest
      | .error cause => s.fault cause s.line true
    else mark s '.' (d :: rest)
  | c :: rest =>
    if startsWord c then word s total
    else if isDigit c then
      match Numeral.scan (c :: rest) with
      | .ok rest => s.token .number rest
      | .error cause => s.fault cause s.line true
    else if isQuote c then text s total c rest
    else mark s c rest

def step (total : Nat) (s : State) : Step :=
  if !s.atLineStart then within total false s
  else
    match measure ⟨0, 0, 0⟩ s.line s.rest with
    | .ending => s.ending total
    | .afterContinuation line => s.fault .afterContinuation line false
    | .ok m rest line =>
      let s := { s with rest, line, atLineStart := false }
      let blank := rest.head? == some '#' || rest.head? == some '\n'
      if blank || !s.brackets.isEmpty then within total blank s
      else
        let here := if rest.isEmpty then total else line
        let (wide, narrow) := if m.kept == 0 then (m.wide, m.narrow) else (m.kept, m.kept)
        match indentation s wide narrow here with
        | .go [] s => within total false s
        | other => other

/-- Every step takes a character, opens or closes indentations before a character or before the
end, or is the last. -/
def run (total : Nat) : Nat → State → Array Token → TokenStream
  | 0, _, tokens => ⟨tokens, some ⟨.invalid, total, true, none⟩⟩
  | fuel + 1, s, tokens =>
    match step total s with
    | .go new next => run total fuel next (tokens ++ new.toArray)
    | .done token => ⟨tokens.push token, none⟩
    | .stop stop => ⟨tokens, some stop⟩

end Lexer

/-- The tokens of a text, with lines counted from a given first line. -/
def TokenStream.ofChars (mode : Lexer.Mode) (firstLine : Nat) (cs : List Char) : TokenStream :=
  let cs := Lexer.prepare mode cs
  let total := Lexer.lineCount cs + firstLine - 1
  Lexer.run total (2 * cs.length + 4) ⟨cs, firstLine, true, [], []⟩ #[]

end HubScript
