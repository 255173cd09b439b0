import HubScript.Number.Decimal
import HubScript.Script.Fault
import HubScript.Script.Syntax
import HubScript.Text.Occurrence
import HubScript.Text.Quoted

/-!
# Writing expressions

An expression is written with single blanks and with the fewest brackets: each place asks for a
level of precedence, and an expression of a lower level stands in round brackets there. Tuples
stand in brackets always, but for a subscript.

A replacement field cannot hold a backslash. The texts inside one are therefore written without
escapes as far as their quotes allow, and an expression for which this fails cannot be written.
-/
namespace HubScript

open Text

/-- Why an expression cannot be written. -/
inductive PrintFault where
  /-- A whole number has too many digits. -/
  | longNumber
  /-- A replacement field would hold a backslash. -/
  | backslash
  deriving DecidableEq, Repr

def PrintFault.message : PrintFault → String
  | .longNumber =>
    s!"Exceeds the limit ({digitLimit} digits) for integer string conversion; " ++
      "use sys.set_int_max_str_digits() to increase the limit"
  | .backslash => "Unable to avoid backslash in f-string expression part"

/-- A whole number in decimal digits, if they are not too many. -/
def decimalText? (n : Int) : Option String :=
  let digits := Nat.toDigits 10 n.natAbs
  if digits.length > digitLimit then none
  else some (String.ofList (if n < 0 then '-' :: digits else digits))

/-- A level of precedence; a higher level binds tighter. -/
abbrev Level := Nat

namespace Level

def named : Level := 1
def tuple : Level := 2
def yield : Level := 3
def test : Level := 4
def or : Level := 5
def and : Level := 6
def not : Level := 7
def comparison : Level := 8
def bitOr : Level := 9
def bitXor : Level := 10
def bitAnd : Level := 11
def shift : Level := 12
def arith : Level := 13
def term : Level := 14
def factor : Level := 15
def power : Level := 16
def await : Level := 17
def atom : Level := 18

/-- The next tighter level, up to the tightest. -/
def next (level : Level) : Level := min (level + 1) atom

end Level

def UnaryOp.text : UnaryOp → String
  | .invert => "~"
  | .not => "not "
  | .plus => "+"
  | .minus => "-"

def UnaryOp.level : UnaryOp → Level
  | .not => Level.not
  | _ => Level.factor

def BinaryOp.text : BinaryOp → String
  | .add => "+"
  | .sub => "-"
  | .mul => "*"
  | .matMul => "@"
  | .div => "/"
  | .mod => "%"
  | .floorDiv => "//"
  | .pow => "**"
  | .shiftLeft => "<<"
  | .shiftRight => ">>"
  | .bitOr => "|"
  | .bitXor => "^"
  | .bitAnd => "&"

def BinaryOp.level : BinaryOp → Level
  | .add | .sub => Level.arith
  | .mul | .matMul | .div | .mod | .floorDiv => Level.term
  | .pow => Level.power
  | .shiftLeft | .shiftRight => Level.shift
  | .bitOr => Level.bitOr
  | .bitXor => Level.bitXor
  | .bitAnd => Level.bitAnd

/-- The levels asked of the two operands. A power associates to the right. -/
def BinaryOp.operandLevels (op : BinaryOp) : Level × Level :=
  if op = .pow then (op.level.next, op.level) else (op.level, op.level.next)

def BoolOp.text : BoolOp → String
  | .and => "and"
  | .or => "or"

def BoolOp.level : BoolOp → Level
  | .and => Level.and
  | .or => Level.or

def Comparison.text : Comparison → String
  | .eq => "=="
  | .notEq => "!="
  | .lt => "<"
  | .ltEq => "<="
  | .gt => ">"
  | .gtEq => ">="
  | .same => "is"
  | .notSame => "is not"
  | .member => "in"
  | .notMember => "not in"

namespace Printer

abbrev Output := Except PrintFault String

/-- A text in round brackets if its own level is below the one asked for. -/
def bracketIf (asked own : Level) (text : String) : String :=
  if own < asked then "(" ++ text ++ ")" else text

/-- Infinity has no literal of its own; a number that is too large stands for it. -/
def floatText (x : Binary64) : String :=
  match x with
  | .infinite false => "1e309"
  | .infinite true => "-1e309"
  | .nan => "(1e309-1e309)"
  | x => x.text

/-- A number without a fraction of zero. -/
def wholeText (x : Binary64) : String :=
  let text := floatText x
  if text.endsWith ".0" then String.ofList (text.toList.dropLast.dropLast) else text

/-- The four ways to quote a text, in order of preference. -/
def allQuotes : List String := ["'", "\"", "\"\"\"", "'''"]

def isTriple (quote : String) : Bool := quote.length == 3

/-- A character inside a text that is written with few escapes. -/
def sparing (escapeBlanks : Bool) (c : Char) : List Char :=
  if !escapeBlanks && (c == '\n' || c == '\t') then [c] else escaped c

/-- The inside of a text with few escapes, and the quotes that can stand around it. If none can,
the text is written with escapes in the first fitting quote. -/
def sparingText (quotes : List String) (escapeBlanks : Bool) (s : String) : String × List String :=
  let body := s.toList.flatMap (sparing escapeBlanks)
  let fitting := if body.contains '\n' then quotes.filter isTriple else quotes
  let fitting := fitting.filter fun q => !occursIn q.toList body
  match fitting with
  | [] =>
    let written := quotedChars s.toList
    let quote := written.headD '\''
    let inside := String.ofList (written.drop 1).dropLast
    (inside, [(quotes.find? fun q => q.toList.contains quote).getD quote.toString])
  | _ =>
    match body.getLast? with
    | none => ("", fitting)
    | some last =>
      let touches := fun (q : String) => q.toList.head? == some last
      let sorted := fitting.filter (fun q => !touches q) ++ fitting.filter touches
      let body := if touches (sorted.headD "") then body.dropLast ++ ['\\', last] else body
      (String.ofList body, sorted)

/-- A text with few escapes, in its quotes. -/
def quoteSparingly (s : String) : String :=
  let (inside, quotes) := sparingText allQuotes false s
  let quote := quotes.headD "'"
  quote ++ inside ++ quote

/-- A constant. Inside a replacement field texts are written with few escapes. -/
def literal (inField : Bool) : Literal → Output
  | .none => .ok "None"
  | .bool true => .ok "True"
  | .bool false => .ok "False"
  | .int n =>
    match decimalText? n with
    | some text => .ok text
    | none => .error .longNumber
  | .float x => .ok (floatText x)
  | .imaginary x => .ok (wholeText x ++ "j")
  | .text s marked =>
    .ok ((if marked then "u" else "") ++ (if inField then quoteSparingly s else quoted s))
  | .bytes bytes => .ok (quotedBytes bytes)
  | .ellipsis => .ok "..."

def commas (items : List String) : String := ", ".intercalate items

/-- Items with commas; a single one has a comma after it. -/
def tupleItems : List String → String
  | [item] => item ++ ","
  | items => commas items

def doubleBraces (s : String) : String :=
  String.ofList (s.toList.flatMap fun c => if c == '\x7b' || c == '\x7d' then [c, c] else [c])

/-- A piece of a text with fields, with a mark for those that are plain text. -/
abbrev Piece := String × Bool

/-- Puts pieces in quotes that suit them all; failing that, in triple quotes with escapes. -/
def joinPieces (pieces : List Piece) : String :=
  let rec go : List Piece → List String → List String → Option (List String × List String)
    | [], quotes, done => some (quotes, done)
    | (text, isPlain) :: rest, quotes, done =>
      let (inside, fitting) := sparingText quotes isPlain text
      if fitting.any quotes.contains then go rest fitting (done ++ [inside]) else none
  match go pieces allQuotes [] with
  | some (quotes, parts) =>
    let quote := quotes.headD "'"
    quote ++ "".intercalate parts ++ quote
  | none =>
    let parts := pieces.map fun (text, _) => String.ofList (quotedBody '\'' text.toList)
    "'''" ++ "".intercalate parts ++ "'''"

/-- What follows the expression of a field. -/
def conversionText : Option Char → String
  | some c => "!" ++ c.toString
  | none => ""

/-- The parameters of a function in order, with the marks between their kinds. -/
def paramList (positionalOnly plain : List String) (rest : Option String) (named : List String)
    (mapping : Option String) : List String :=
  let first := if positionalOnly.isEmpty then [] else positionalOnly ++ ["/"]
  let star := match rest with
    | some text => ["*" ++ text]
    | none => if named.isEmpty then [] else ["*"]
  first ++ plain ++ star ++ named ++ (mapping.map ("**" ++ ·)).toList

/-- The level asked of a subscript's index: a tuple needs no brackets there. -/
def indexLevel : Expr → Level
  | .tuple _ => Level.tuple
  | _ => Level.test

mutual

/-- Writes an expression at a level. -/
def expr (inField : Bool) (asked : Level) : Expr → Output
  | .name id => .ok id
  | .literal value => literal inField value
  | .unary op operand => do
    return bracketIf asked op.level (op.text ++ (← expr inField op.level operand))
  | .binary op left right => do
    let left ← expr inField op.operandLevels.1 left
    let right ← expr inField op.operandLevels.2 right
    return bracketIf asked op.level (left ++ " " ++ op.text ++ " " ++ right)
  | .boolean op operands => do
    let texts ← rising inField op.level operands
    return bracketIf asked op.level ((" " ++ op.text ++ " ").intercalate texts)
  | .compare first chain => do
    let first ← expr inField Level.comparison.next first
    return bracketIf asked Level.comparison (first ++ (← links inField chain))
  | .conditional test body orelse => do
    let body ← expr inField Level.test.next body
    let test ← expr inField Level.test.next test
    let orelse ← expr inField Level.test orelse
    return bracketIf asked Level.test (body ++ " if " ++ test ++ " else " ++ orelse)
  | .lambda ps body => do
    let ps ← params inField ps
    let body ← expr inField Level.test body
    let ps := if ps.isEmpty then "" else " " ++ ps
    return bracketIf asked Level.test ("lambda" ++ ps ++ ": " ++ body)
  | .call function arguments named => do
    let function ← expr inField Level.atom function
    let arguments ← exprs inField arguments
    let named ← keywords inField named
    return function ++ "(" ++ commas (arguments ++ named) ++ ")"
  | .attribute object field => do
    let text ← expr inField Level.atom object
    let gap := match object with
      | .literal (.int _) => " "
      | .literal (.bool _) => " "
      | _ => ""
    return text ++ gap ++ "." ++ field
  | .subscript object index => do
    let object ← expr inField Level.atom object
    let index ← expr inField (indexLevel index) index
    return object ++ "[" ++ index ++ "]"
  | .slice lower upper step => do
    let lower ← optional inField lower
    let upper ← optional inField upper
    let step ← optional inField step
    return lower.getD "" ++ ":" ++ upper.getD "" ++ (step.map (":" ++ ·)).getD ""
  | .starred value => do return "*" ++ (← expr inField Level.bitOr value)
  | .list items => do return "[" ++ commas (← exprs inField items) ++ "]"
  | .tuple [] => .ok "()"
  | .tuple (item :: items) => do
    let first ← expr inField Level.test item
    let rest ← exprs inField items
    return bracketIf asked Level.tuple (tupleItems (first :: rest))
  | .set [] => .ok "\x7b*()\x7d"
  | .set (item :: items) => do
    let first ← expr inField Level.test item
    let rest ← exprs inField items
    return "\x7b" ++ commas (first :: rest) ++ "\x7d"
  | .dict items => do return "\x7b" ++ commas (← entries inField items) ++ "\x7d"
  | .comprehension into element sources => do
    let element ← expr inField Level.test element
    let sources ← clauses inField sources
    let inside := element ++ sources
    return match into with
      | .list => "[" ++ inside ++ "]"
      | .set => "\x7b" ++ inside ++ "\x7d"
      | .generator => "(" ++ inside ++ ")"
  | .dictComprehension key value sources => do
    let key ← expr inField Level.test key
    let value ← expr inField Level.test value
    let sources ← clauses inField sources
    return "\x7b" ++ key ++ ": " ++ value ++ sources ++ "\x7d"
  | .joined items => do
    let pieces ← parts items
    if inField then return "f" ++ quoteSparingly ("".intercalate (pieces.map Prod.fst))
    else return "f" ++ joinPieces pieces
  | .assigned target value => do
    let target ← expr inField Level.atom target
    let value ← expr inField Level.atom value
    return bracketIf asked Level.named (target ++ " := " ++ value)
  | .await value => do
    return bracketIf asked Level.await ("await " ++ (← expr inField Level.atom value))
  | .yield none => .ok (bracketIf asked Level.yield "yield")
  | .yield (some value) => do
    return bracketIf asked Level.yield ("yield " ++ (← expr inField Level.atom value))
  | .yieldFrom value => do
    return bracketIf asked Level.yield ("yield from " ++ (← expr inField Level.atom value))

def exprs (inField : Bool) : List Expr → Except PrintFault (List String)
  | [] => .ok []
  | e :: rest => do
    let text ← expr inField Level.test e
    return text :: (← exprs inField rest)

/-- Operands of one operator, each asked for a tighter level than the one before it. -/
def rising (inField : Bool) (level : Level) : List Expr → Except PrintFault (List String)
  | [] => .ok []
  | e :: rest => do
    let text ← expr inField level.next e
    return text :: (← rising inField level.next rest)

def optional (inField : Bool) : Option Expr → Except PrintFault (Option String)
  | none => .ok none
  | some e => do return some (← expr inField Level.test e)

def links (inField : Bool) : List Link → Output
  | [] => .ok ""
  | .mk op operand :: rest => do
    let text ← expr inField Level.comparison.next operand
    return " " ++ op.text ++ " " ++ text ++ (← links inField rest)

def keywords (inField : Bool) : List Keyword → Except PrintFault (List String)
  | [] => .ok []
  | .mk name value :: rest => do
    let text ← expr inField Level.test value
    let text := match name with
      | some name => name ++ "=" ++ text
      | none => "**" ++ text
    return text :: (← keywords inField rest)

def entries (inField : Bool) : List Entry → Except PrintFault (List String)
  | [] => .ok []
  | .mk (some key) value :: rest => do
    let key ← expr inField Level.test key
    let value ← expr inField Level.test value
    return (key ++ ": " ++ value) :: (← entries inField rest)
  | .mk none value :: rest => do
    let value ← expr inField Level.bitOr value
    return ("**" ++ value) :: (← entries inField rest)

def clauses (inField : Bool) : List Clause → Output
  | [] => .ok ""
  | .mk isAsync target source conditions :: rest => do
    let target ← expr inField Level.tuple target
    let source ← expr inField Level.test.next source
    let conditions ← guards inField conditions
    let opening := if isAsync then " async for " else " for "
    return opening ++ target ++ " in " ++ source ++ conditions ++ (← clauses inField rest)

def guards (inField : Bool) : List Expr → Output
  | [] => .ok ""
  | e :: rest => do
    let text ← expr inField Level.test.next e
    return " if " ++ text ++ (← guards inField rest)

/-- The pieces of a text with fields. The expression of a field is asked to be tighter than a
conditional, and one that starts with a brace is kept apart from the brace of the field. -/
def parts : List Part → Except PrintFault (List Piece)
  | [] => .ok []
  | .text s :: rest => do return (doubleBraces s, true) :: (← parts rest)
  | .field value conversion format :: rest => do
    let text ← expr true Level.test.next value
    if text.toList.contains '\\' then throw .backslash
    let gap := if text.startsWith "\x7b" then " " else ""
    let format ← formatOf format
    let field := "\x7b" ++ gap ++ text ++ conversionText conversion ++ format ++ "\x7d"
    return (field, false) :: (← parts rest)

def formatOf : Option (List Part) → Output
  | none => .ok ""
  | some items => do return ":" ++ "".intercalate ((← parts items).map Prod.fst)

def param (inField : Bool) : Param → Output
  | .mk name hint default => do
    let hint ← optional inField hint
    let default ← optional inField default
    return name ++ (hint.map (": " ++ ·)).getD "" ++ (default.map ("=" ++ ·)).getD ""

def paramTexts (inField : Bool) : List Param → Except PrintFault (List String)
  | [] => .ok []
  | p :: rest => do
    let text ← param inField p
    return text :: (← paramTexts inField rest)

def optionalParam (inField : Bool) : Option Param → Except PrintFault (Option String)
  | none => .ok none
  | some p => do return some (← param inField p)

def params (inField : Bool) : Params → Output
  | .mk positionalOnly plain rest named mapping => do
    let positionalOnly ← paramTexts inField positionalOnly
    let plain ← paramTexts inField plain
    let rest ← optionalParam inField rest
    let named ← paramTexts inField named
    let mapping ← optionalParam inField mapping
    return commas (paramList positionalOnly plain rest named mapping)

end

end Printer

/-- The text of an expression. -/
def Expr.print (e : Expr) : Except PrintFault String := Printer.expr false Level.test e

end HubScript
