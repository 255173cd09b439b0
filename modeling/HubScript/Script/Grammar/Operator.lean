import HubScript.Script.Grammar.Target

/-!
# Expressions with operators

Chains of operators that associate to the left are loops; each level of precedence is a rule of its
own. Assignment expressions, tuples without brackets and conditional expressions stand above them.
-/
namespace HubScript.Grammar

def expression : Parser Node := call .expression
def disjunction : Parser Node := call .disjunction
def bitwiseOr : Parser Node := call .bitwiseOr
def primary : Parser Node := call .primary

/-- A node that has no parts to be targets. -/
def leaf (expr : Expr) (line : Nat) (worded : expr.isWorded = true := by rfl) : Node :=
  .mk expr line [] worded

def exprs (nodes : List Node) : List Expr := nodes.map Node.expr

theorem allWorded_exprs (nodes : List Node) : Expr.allWorded (exprs nodes) = true := by
  rw [Expr.allWorded_eq_true_iff]
  intro e he
  obtain ⟨node, _, rfl⟩ := List.mem_map.mp he
  exact node.worded

def nameOf (id : Word) (line : Nat) : Node := leaf (.name id) line id.property

def unaryOf (op : UnaryOp) (operand : Node) (line : Nat) : Node :=
  leaf (.unary op operand.expr) line operand.worded

def binaryOf (op : BinaryOp) (left right : Node) (line : Nat) : Node :=
  leaf (.binary op left.expr right.expr) line (left.both_worded right)

def starredOf (inner : Node) (line : Nat) : Node := .mk (.starred inner.expr) line [inner] rfl

def listOf (line : Nat) (items : List Node) : Node := .mk (.list (exprs items)) line items rfl

def tupleOf (line : Nat) (items : List Node) : Node := .mk (.tuple (exprs items)) line items rfl

/-- Two or more operands joined by a word. -/
def joinedBy (op : BoolOp) (text : String) (operand : Parser Node) : Parser Node := do
  let line ← here
  let first ← operand
  let rest ← many do
    discard (word text)
    operand
  if rest.isEmpty then return first
  else return leaf (.boolean op (exprs (first :: rest))) line

def disjunctionBody : Parser Node := joinedBy .or "or" (call .conjunction)

def conjunctionBody : Parser Node := joinedBy .and "and" (call .inversion)

def comparisonOp : Parser Comparison :=
  (do discard (mark "=="); return .eq) <|>
  (do discard (mark "!="); return .notEq) <|>
  (do discard (mark "<="); return .ltEq) <|>
  (do discard (mark "<"); return .lt) <|>
  (do discard (mark ">="); return .gtEq) <|>
  (do discard (mark ">"); return .gt) <|>
  (do discard (word "not"); discard (word "in"); return .notMember) <|>
  (do discard (word "in"); return .member) <|>
  (do discard (word "is"); discard (word "not"); return .notSame) <|>
  (do discard (word "is"); return .same)

/-- An operator with its operand. -/
def comparisonLink : Parser Link := do return .mk (← comparisonOp) (← bitwiseOr).expr

def comparison : Parser Node := do
  let line ← here
  let first ← bitwiseOr
  let links ← many comparisonLink
  if links.isEmpty then return first
  else return .mk (.compare first.expr links) line [first] rfl

def inversionBody : Parser Node := do
  let line ← here
  (do discard (word "not")
      return unaryOf .not (← call .inversion) line) <|> comparison

/-- A chain of binary operators of one level, which associates to the left. -/
def chain (operand : Parser Node) (ops : List (String × BinaryOp)) : Parser Node := do
  let line ← here
  extended operand fun left => do
    let token ← peek
    match if token.kind == .mark then ops.lookup token.text else none with
    | none => Parser.fail
    | some op =>
      skip
      return binaryOf op left (← operand) line

def bitwiseOrBody : Parser Node := chain (call .bitwiseXor) [("|", .bitOr)]
def bitwiseXorBody : Parser Node := chain (call .bitwiseAnd) [("^", .bitXor)]
def bitwiseAndBody : Parser Node := chain (call .shiftExpr) [("&", .bitAnd)]

def shiftExprBody : Parser Node :=
  chain (call .sum) [("<<", .shiftLeft), (">>", .shiftRight)]

def sumBody : Parser Node := chain (call .term) [("+", .add), ("-", .sub)]

def termBody : Parser Node :=
  chain (call .factor)
    [("*", .mul), ("/", .div), ("//", .floorDiv), ("%", .mod), ("@", .matMul)]

def power : Parser Node := do
  let line ← here
  let base ← call .awaitPrimary
  match ← maybe (do discard (mark "**"); call .factor) with
  | some exponent => return binaryOf .pow base exponent line
  | none => return base

def factorBody : Parser Node := do
  let line ← here
  let signed (text : String) (op : UnaryOp) : Parser Node := do
    discard (mark text)
    return unaryOf op (← call .factor) line
  signed "+" .plus <|> signed "-" .minus <|> signed "~" .invert <|> power

def awaitPrimaryBody : Parser Node := do
  let line ← here
  (do discard (word "await")
      let value ← primary
      return leaf (.await value.expr) line value.worded) <|> primary

def starExpressionBody : Parser Node := do
  let line ← here
  (do discard (mark "*")
      return starredOf (← bitwiseOr) line) <|> expression

/-- Items with commas between them; one without a comma stands for itself. -/
def commaList (item : Parser Node) : Parser Node := do
  let line ← here
  let first ← item
  let rest ← many do
    discard (mark ",")
    item
  if rest.isEmpty then
    match ← maybe (mark ",") with
    | some _ => return tupleOf line [first]
    | none => return first
  else
    discard (maybe (mark ","))
    return tupleOf line (first :: rest)

def expressions : Parser Node := commaList expression

def starExpressions : Parser Node := commaList (call .starExpression)

/-- A name assigned within an expression. -/
def assignmentExpression : Parser Node := do
  let line ← here
  let (id, _) ← name
  discard (mark ":=")
  return leaf (.assigned (.name id) (← expression).expr) line

/-- An expression that no assignment mark follows. -/
def plainExpression : Parser Node := do
  let node ← expression
  notAhead (mark ":=")
  return node

def namedMistake {α : Type} : Parser α := explaining do
  discard (call .namedMistake)
  Parser.fail

def namedExpression : Parser Node := assignmentExpression <|> namedMistake <|> plainExpression

def starNamedExpression : Parser Node := do
  let line ← here
  (do discard (mark "*")
      return starredOf (← bitwiseOr) line) <|> namedExpression

def starNamedExpressions : Parser (List Node) := do
  let items ← separated "," starNamedExpression
  discard (maybe (mark ","))
  return items

def yieldExpr : Parser Node := do
  let line ← here
  (do discard (word "yield")
      discard (word "from")
      return leaf (.yieldFrom (← expression).expr) line) <|>
  (do discard (word "yield")
      return leaf (.yield ((← maybe starExpressions).map Node.expr)) line)

/-- An expression after a star, as arguments have it. -/
def starredExpression : Parser Node := do
  let line ← here
  discard (mark "*")
  return starredOf (← expression) line

/-- Statements of older dialects that look like a name before an expression. -/
def isLegacyName : Expr → Bool
  | .name id => id == "print" || id == "exec"
  | _ => false

end HubScript.Grammar
