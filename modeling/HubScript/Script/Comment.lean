import HubScript.Text.Blank
import HubScript.Text.WordChar

/-!
# Comments of a script

Comments are found by a walk over the lines of a script that knows brackets, texts and continued
lines, and nothing else. It is forgiving: a quote that never closes is passed over, and only a
script that ends inside a block text or a bracket, or whose indentation does not fit, has no
comments at all. Lines end at line feeds here.
-/
namespace HubScript

open Text

/-- A comment with its line; it stands alone if nothing else is on the line. -/
structure Comment where
  line : Nat
  text : String
  alone : Bool
  deriving DecidableEq, Repr

/-- Why the comments of a script cannot be found. -/
inductive CommentFault where
  /-- The script ends in a text that starts at a line and column. -/
  | openText (line column : Nat)
  /-- The script ends in a bracket or a continued line. -/
  | openStatement (line : Nat)
  | unindent (line : Nat)
  deriving DecidableEq, Repr

namespace CommentFault

def message : CommentFault → String
  | .openText line column => s!"('EOF in multi-line string', ({line}, {column}))"
  | .openStatement line => s!"('EOF in multi-line statement', ({line}, 0))"
  | .unindent _ => "unindent does not match any outer indentation level"

end CommentFault

namespace Comment

/-- A text that goes on in the next line. -/
structure OpenText where
  quote : Char
  triple : Bool
  line : Nat
  column : Nat

structure State where
  /-- How many brackets are open; closing ones can outnumber them. -/
  depth : Int
  /-- Whether the last line ended in a backslash. -/
  continued : Bool
  openText : Option OpenText
  /-- Whether an open text needs a backslash at the end of each line. It is cleared only by a text
  that ends. -/
  needsBackslash : Bool
  /-- The open indentations, innermost first. -/
  indents : List Nat

def State.initial : State := ⟨0, false, none, false, [0]⟩

/-- The characters after a text that ends in this line. -/
def endOfText (quote : Char) (triple : Bool) : List Char → Option (List Char)
  | [] => none
  | ['\\'] => none
  | '\\' :: c :: rest => if c == '\n' then none else endOfText quote triple rest
  | c :: rest =>
    if c == quote && !triple then some rest
    else if c == quote && rest.take 2 == [quote, quote] then some (rest.drop 2)
    else endOfText quote triple rest

/-- Whether a line ends in a backslash. -/
def endsInBackslash (line : List Char) : Bool :=
  match line.reverse with
  | '\n' :: '\\' :: _ => true
  | '\n' :: '\r' :: '\\' :: _ => true
  | _ => false

/-- How a text between single quotes ends in its first line. -/
inductive FirstLine where
  | closed (rest : List Char)
  | goesOn
  | unclosed

def firstLine (quote : Char) : List Char → FirstLine
  | [] => .unclosed
  | ['\\'] => .unclosed
  | ['\\', '\n'] => .goesOn
  | ['\\', '\r', '\n'] => .goesOn
  | '\\' :: c :: rest => if c == '\n' then .unclosed else firstLine quote rest
  | c :: rest =>
    if c == quote then .closed rest
    else if c == '\n' then .unclosed
    else firstLine quote rest

def isQuote (c : Char) : Bool := c == '\'' || c == '"'

/-- The letters before the quotes of a text. -/
def markLength (cs : List Char) : Nat :=
  let isMark (letters : List Char) : Bool :=
    ["b", "r", "u", "f", "br", "rb", "fr", "rf"].contains
      (String.ofList (letters.map Char.toLower))
  match cs with
  | a :: b :: rest =>
    if isQuote b && isMark [a] then 1
    else if rest.head?.any isQuote && isMark [a, b] then 2
    else 0
  | _ => 0

def isGap (c : Char) : Bool := c == ' ' || c == '\t' || c == '\x0c'

/-- What one line contributes. -/
structure LineResult where
  comments : List Comment
  state : State

/-- A comment within a line. -/
def found (line : Nat) (whole text : List Char) : Comment :=
  let trimmed := trim whole
  ⟨line, String.ofList text, trimmed.head? == some '#' && trimmed == trim text⟩

/-- Walks over the tokens of a line. Every round takes at least one character. -/
def walk (line : Nat) (whole : List Char) : Nat → State → List Comment → List Char → LineResult
  | 0, s, done, _ => ⟨done.reverse, s⟩
  | fuel + 1, s, done, cs =>
    let cs := cs.dropWhile isGap
    match cs with
    | [] => ⟨done.reverse, s⟩
    | ['\\', '\n'] => ⟨done.reverse, { s with continued := true }⟩
    | ['\\', '\r', '\n'] => ⟨done.reverse, { s with continued := true }⟩
    | '#' :: _ =>
      let text := cs.takeWhile fun c => c != '\r' && c != '\n'
      walk line whole fuel s (found line whole text :: done) (cs.drop text.length)
    | c :: rest =>
      let marks := markLength cs
      match cs.drop marks with
      | q :: body =>
        if isQuote q then
          let start := whole.length - cs.length
          if body.take 2 == [q, q] then
            match endOfText q true (body.drop 2) with
            | some rest => walk line whole fuel s done rest
            | none => ⟨done.reverse, { s with openText := some ⟨q, true, line, start⟩ }⟩
          else
            match firstLine q body with
            | .closed rest => walk line whole fuel s done rest
            | .goesOn =>
              ⟨done.reverse,
                { s with openText := some ⟨q, false, line, start⟩, needsBackslash := true }⟩
            | .unclosed => walk line whole fuel s done body
        else if isWordChar c then walk line whole fuel s done (cs.dropWhile isWordChar)
        else if c == '(' || c == '[' || c == '\x7b' then
          walk line whole fuel { s with depth := s.depth + 1 } done rest
        else if c == ')' || c == ']' || c == '\x7d' then
          walk line whole fuel { s with depth := s.depth - 1 } done rest
        else walk line whole fuel s done rest
      | [] => ⟨done.reverse, s⟩

def walkFrom (line : Nat) (whole : List Char) (s : State) (cs : List Char) : LineResult :=
  walk line whole (cs.length + 1) s [] cs

/-- The width of the blanks at the start of a line. -/
def width : Nat → List Char → Nat
  | n, ' ' :: rest => width (n + 1) rest
  | n, '\t' :: rest => width ((n / 8 + 1) * 8) rest
  | _, '\x0c' :: rest => width 0 rest
  | n, _ => n

/-- Opens or closes indentations for a line. -/
def indentTo (column : Nat) (indents : List Nat) : Option (List Nat) :=
  if indents.headD 0 < column then some (column :: indents)
  else
    let left := indents.dropWhile fun i => column < i
    if left.headD 0 == column then some left else none

/-- A line that opens a statement. `none` says that nothing follows any more. -/
def openingLine (line : Nat) (cs : List Char) (s : State) :
    Except CommentFault (Option LineResult) :=
  let rest := cs.dropWhile isGap
  match rest with
  | [] => .ok none
  | '#' :: _ =>
    let text := (rest.reverse.dropWhile fun c => c == '\r' || c == '\n').reverse
    .ok (some ⟨[found line cs text], s⟩)
  | '\r' :: _ => .ok (some ⟨[], s⟩)
  | '\n' :: _ => .ok (some ⟨[], s⟩)
  | _ =>
    match indentTo (width 0 cs) s.indents with
    | none => .error (.unindent line)
    | some indents => .ok (some (walkFrom line cs { s with indents } rest))

/-- A line within a text that has been opened before. -/
def textLine (line : Nat) (cs : List Char) (s : State) (opened : OpenText) : LineResult :=
  match endOfText opened.quote opened.triple cs with
  | some rest => walkFrom line cs { s with openText := none, needsBackslash := false } rest
  | none =>
    if s.needsBackslash && !endsInBackslash cs then ⟨[], { s with openText := none }⟩
    else ⟨[], s⟩

/-- The comments from a line on. -/
def scan (line : Nat) (s : State) : List (List Char) → Except CommentFault (List Comment)
  | [] =>
    match s.openText with
    | some opened => .error (.openText opened.line opened.column)
    | none => if s.depth == 0 && !s.continued then .ok [] else .error (.openStatement line)
  | cs :: rest => do
    match s.openText with
    | some opened =>
      let r := textLine line cs s opened
      return r.comments ++ (← scan (line + 1) r.state rest)
    | none =>
      if s.depth == 0 && !s.continued then
        match ← openingLine line cs s with
        | none => return []
        | some r => return r.comments ++ (← scan (line + 1) r.state rest)
      else
        let r := walkFrom line cs { s with continued := false } cs
        return r.comments ++ (← scan (line + 1) r.state rest)

end Comment

/-- The comments of a script. -/
def commentsOf (script : String) : Except CommentFault (List Comment) :=
  Comment.scan 1 .initial (feedLines script.toList)

/-- The comments of a script by line, with the lines themselves. -/
structure CommentTable where
  /-- The lines that hold nothing but a comment, in order. -/
  alone : List Nat
  /-- The comments at the ends of other lines, in order. -/
  inline : List (Nat × List String)
  lines : List String
  deriving DecidableEq, Repr

namespace CommentTable

def empty : CommentTable := ⟨[], [], []⟩

/-- The comments at the end of a line. -/
def inline? (table : CommentTable) (line : Int) : Option (List String) :=
  (table.inline.find? fun entry => (entry.1 : Int) == line).map Prod.snd

/-- A line of the script. -/
def lineText (table : CommentTable) (line : Nat) : String := (table.lines[line - 1]?).getD ""

/-- Adds a comment to the list of its line. -/
def insert (comment : Comment) : List (Nat × List String) → List (Nat × List String)
  | [] => [(comment.line, [comment.text])]
  | (line, texts) :: rest =>
    if line == comment.line then (line, texts ++ [comment.text]) :: rest
    else (line, texts) :: insert comment rest

def ofComments (lines : List String) (comments : List Comment) : CommentTable where
  alone := (comments.filter (·.alone)).map (·.line)
  inline := (comments.filter (!·.alone)).foldl (fun table c => insert c table) []
  lines := lines

/-- The comments of a script by line. -/
def ofScript (script : String) : Except CommentFault CommentTable :=
  (commentsOf script).map (ofComments (splitLines script))

end CommentTable

end HubScript
