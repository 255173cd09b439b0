import HubScript.Script.Grammar.Rule
import HubScript.Script.Joined
import HubScript.Text.CanonicalName

/-!
# Parsers

A parser reads tokens from a place on. It succeeds, fails so that another alternative may be tried,
or raises a fault that ends the reading. Alternatives are ordered: the first that succeeds counts.

Tokens are fetched one after another, and a stop of the token stream shows only when a parser asks
for the token it prevents. The state therefore remembers how many tokens have been fetched; a fault
without a place of its own is reported at the last of them.
-/
namespace HubScript.Grammar

/-- A rule and its outcome at some place. -/
structure Kept where
  rule : Rule
  found : Option (rule.Result × Nat)

structure State where
  pos : Nat
  /-- How many tokens have been fetched. -/
  fetched : Nat
  /-- The outcomes kept at each place. -/
  memo : Array (List Kept)

structure Raised where
  fault : Fault
  fetched : Nat
  /-- Whether the token stream itself came to a stop. -/
  atStop : Bool

inductive Reply (α : Type) where
  | ok (value : α) (state : State)
  | fail (state : State)
  | raise (raised : Raised)

structure Context where
  stream : TokenStream
  /-- Whether the tokens are those of a replacement field. -/
  embedded : Bool
  /-- Whether the alternatives that explain mistakes are tried. -/
  explain : Bool
  call : Bool → (rule : Rule) → State → Reply rule.Result
  /-- Reads the expression of a replacement field. -/
  embed : List Char → Nat → Except Fault Expr

def Parser (α : Type) := Context → State → Reply α

namespace Parser

def fail {α : Type} : Parser α := fun _ s => .fail s

instance : Monad Parser where
  pure a := fun _ s => .ok a s
  bind p f := fun ctx s =>
    match p ctx s with
    | .ok a s => f a ctx s
    | .fail s => .fail s
    | .raise r => .raise r

/-- Tries a second parser from the same place when the first fails. -/
def orElse {α : Type} (p : Parser α) (q : Unit → Parser α) : Parser α := fun ctx s =>
  let start := s.pos
  match p ctx s with
  | .fail s => q () ctx { s with pos := start }
  | reply => reply

instance {α : Type} : OrElse (Parser α) := ⟨orElse⟩

def getContext : Parser Context := fun ctx s => .ok ctx s

def position : Parser Nat := fun _ s => .ok s.pos s

end Parser

open HubScript.Grammar.Parser

/-- The cause of a fault as it shows outside a replacement field. -/
def Context.shown (ctx : Context) (cause : Cause) : Cause :=
  if ctx.embedded then .embedded cause else cause

/-- The line of a token by its index. -/
def Context.lineOf (ctx : Context) (index : Nat) : Nat :=
  match ctx.stream.tokens[index]? with
  | some token => token.line
  | none => 0

/-- Raises a fault on a line. -/
def raiseOn {α : Type} (line : Nat) (cause : Cause) : Parser α := fun ctx s =>
  .raise ⟨⟨ctx.shown cause, some line⟩, s.fetched, false⟩

/-- Raises a fault at the token fetched last. -/
def raiseHere {α : Type} (cause : Cause) : Parser α := fun ctx s =>
  raiseOn (ctx.lineOf (s.fetched - 1)) cause ctx s

/-- The next token, without passing it. -/
def peek : Parser Token := fun ctx s =>
  match ctx.stream.tokens[s.pos]? with
  | some token => .ok token { s with fetched := max s.fetched (s.pos + 1) }
  | none =>
    match ctx.stream.stop, ctx.stream.tokens.back? with
    | some stop, _ =>
      let cause := if stop.direct then stop.cause else ctx.shown stop.cause
      .raise ⟨⟨cause, some stop.line⟩, s.fetched, true⟩
    | none, some token => .ok token s
    | none, none => .fail s

def skip : Parser Unit := fun _ s => .ok () { s with pos := s.pos + 1 }

/-- Passes a token of which the condition holds. -/
def satisfy (accept : Token → Bool) : Parser Token := do
  let token ← peek
  if accept token then
    skip
    return token
  else Parser.fail

def ofKind (kind : TokenKind) : Parser Token := satisfy fun t => t.kind == kind

def lineEnd : Parser Token := ofKind .lineEnd
def indent : Parser Token := ofKind .indent
def dedent : Parser Token := ofKind .dedent
def scriptEnd : Parser Token := ofKind .scriptEnd

def mark (text : String) : Parser Token := satisfy fun t => t.kind == .mark && t.text == text

/-- A word with a fixed spelling. -/
def word (text : String) : Parser Token := satisfy fun t => t.kind == .word && t.text == text

def keywords : List String :=
  ["False", "None", "True", "and", "as", "assert", "async", "await", "break", "class", "continue",
    "def", "del", "elif", "else", "except", "finally", "for", "from", "global", "if", "import",
    "in", "is", "lambda", "nonlocal", "not", "or", "pass", "raise", "return", "try", "while",
    "with", "yield"]

/-- Words that are keywords in some places only. -/
def softKeywords : List String := ["_", "case", "match"]

def nameToken : Parser Token := satisfy fun t => t.kind == .word && !keywords.contains t.text

def softKeyword : Parser Token := satisfy fun t => t.kind == .word && softKeywords.contains t.text

/-- A name in its canonical spelling, which is a word again, with its line. -/
def name : Parser (Word × Nat) := do
  let token ← nameToken
  let id := Text.canonicalName token.text
  if h : isWord id = true then return (⟨id, h⟩, token.line) else Parser.fail

/-- Passes a mark that must stand here. -/
def forced (text : String) : Parser Token := do
  let token ← peek
  if token.kind == .mark && token.text == text then
    skip
    return token
  else raiseOn token.line (.expected text)

/-- Goes on only if the parser would succeed here. -/
def ahead {α : Type} (p : Parser α) : Parser Unit := fun ctx s =>
  let start := s.pos
  match p ctx s with
  | .ok _ s => .ok () { s with pos := start }
  | .fail s => .fail { s with pos := start }
  | .raise r => .raise r

/-- Goes on only if the parser would fail here. -/
def notAhead {α : Type} (p : Parser α) : Parser Unit := fun ctx s =>
  let start := s.pos
  match p ctx s with
  | .ok _ s => .fail { s with pos := start }
  | .fail s => .ok () { s with pos := start }
  | .raise r => .raise r

def maybe {α : Type} (p : Parser α) : Parser (Option α) :=
  (do return some (← p)) <|> pure none

/-- Repeats a parser while it succeeds, at most a number of times. -/
def repeatUpTo {α : Type} (p : Parser α) : Nat → Parser (List α)
  | 0 => pure []
  | count + 1 => do
    match ← maybe p with
    | none => return []
    | some a => return a :: (← repeatUpTo p count)

/-- How often a parser that passes tokens can succeed from here. -/
def tokensLeft : Parser Nat := fun ctx s => .ok (ctx.stream.tokens.size + 1 - s.pos) s

def many {α : Type} (p : Parser α) : Parser (List α) := do repeatUpTo p (← tokensLeft)

def many1 {α : Type} (p : Parser α) : Parser (List α) := do
  let a ← p
  return a :: (← many p)

/-- One or more, with a mark between them. -/
def separated {α : Type} (separator : String) (p : Parser α) : Parser (List α) := do
  let a ← p
  return a :: (← many do
    discard (mark separator)
    p)

/-- A loop that extends a value as long as it can. -/
def extendUpTo {α : Type} (extend : α → Parser α) : Nat → α → Parser α
  | 0, a => pure a
  | count + 1, a => do
    match ← maybe (extend a) with
    | none => return a
    | some b => extendUpTo extend count b

def extended {α : Type} (first : Parser α) (extend : α → Parser α) : Parser α := do
  let a ← first
  extendUpTo extend (← tokensLeft) a

/-- Once the opening has succeeded, the other alternative is not tried any more. -/
def committed {α β : Type} (opening : Parser β) (rest : β → Parser α) (other : Parser α) :
    Parser α := fun ctx s =>
  let start := s.pos
  match opening ctx s with
  | .ok b s => rest b ctx s
  | .fail s => other ctx { s with pos := start }
  | .raise r => .raise r

def call (rule : Rule) : Parser rule.Result := fun ctx s => ctx.call ctx.explain rule s

/-- Runs a parser without the alternatives that explain mistakes. -/
def withoutExplaining {α : Type} (p : Parser α) : Parser α := fun ctx s =>
  p { ctx with explain := false } s

/-- A mistake found: its cause, and its line unless it is reported at the token fetched last. -/
structure Complaint where
  cause : Cause
  line : Option Nat

def complainOn (line : Nat) (cause : Cause) : Parser (Option Complaint) :=
  pure (some ⟨cause, some line⟩)

def complainHere (cause : Cause) : Parser (Option Complaint) := pure (some ⟨cause, none⟩)

/-- Alternatives that recognise mistakes. The first that matches raises its complaint; if it has
none after all, the rest are not tried. -/
def mistake {α : Type} : List (Parser (Option Complaint)) → Parser α
  | [] => Parser.fail
  | alternative :: rest =>
    committed alternative
      (fun
        | some ⟨cause, some line⟩ => raiseOn line cause
        | some ⟨cause, none⟩ => raiseHere cause
        | none => Parser.fail)
      (mistake rest)

/-- Tries a parser only when mistakes are to be explained. -/
def explaining {α : Type} (p : Parser α) : Parser α := do
  if (← getContext).explain then p else Parser.fail

/-- The line of the next token. -/
def here : Parser Nat := do return (← peek).line

/-- The token before the current place. -/
def lastToken : Parser Token := fun ctx s =>
  match ctx.stream.tokens[s.pos - 1]? with
  | some token => .ok token s
  | none => .fail s

def isLayout (token : Token) : Bool :=
  token.kind == .lineEnd || token.kind == .indent || token.kind == .dedent ||
    token.kind == .scriptEnd

/-- The last line of the tokens before an index, layout apart. -/
def lastLineBefore (tokens : Array Token) : Nat → Nat
  | 0 => 0
  | index + 1 =>
    match tokens[index]? with
    | some token => if isLayout token then lastLineBefore tokens index else token.lastLine
    | none => lastLineBefore tokens index

/-- The lines from a first line to the token before the current place. -/
def spanFrom (first : Nat) : Parser Span := fun ctx s =>
  .ok (.of first (lastLineBefore ctx.stream.tokens s.pos)) s

end HubScript.Grammar
