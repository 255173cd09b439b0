import HubScript.Script.Grammar.Operator

/-!
# Literals, displays and comprehensions

Everything between brackets, and the literals. Each display has its own mistakes: an unpacking
inside a comprehension, a target list without brackets, a key without a value.
-/
namespace HubScript.Grammar

def starTarget : Parser Node := call .starTarget

def starTargets : Parser Node := do
  let line ← here
  (do let target ← starTarget
      notAhead (mark ",")
      return target) <|>
  (do let first ← starTarget
      let rest ← many do
        discard (mark ",")
        starTarget
      discard (maybe (mark ","))
      return tupleOf line (first :: rest))

/-- An expression in the place of a loop's target. -/
def loopTargetMistake {α : Type} : Parser α := mistake [do
  discard (maybe (word "async"))
  discard (word "for")
  return unfitTarget .loop (← starExpressions)]

/-- One clause of a comprehension. -/
def forIfClause : Parser Clause :=
  let finish (isAsync : Bool) (target : Node) : Parser Clause := do
    let source ← disjunction
    let conditions ← many do
      discard (word "if")
      disjunction
    return .mk isAsync target.expr source.expr (exprs conditions)
  let opening : Parser Node := do
    discard (word "for")
    let target ← starTargets
    discard (word "in")
    return target
  committed (do discard (word "async"); opening) (finish true)
    (committed opening (finish false) (explaining loopTargetMistake))

def forIfClauses : Parser (List Clause) := many1 forIfClause

def comprehensionMistake {α : Type} : Parser α :=
  let listOrSet := mark "[" <|> mark "\x7b"
  mistake
    [do discard (mark "[" <|> mark "(" <|> mark "\x7b")
        let item ← starredExpression
        discard forIfClauses
        complainOn item.line .unpackingInComprehension,
     do discard listOrSet
        let item ← starNamedExpression
        discard (mark ",")
        discard starNamedExpressions
        discard forIfClauses
        complainOn item.line .comprehensionTarget,
     do discard listOrSet
        let item ← starNamedExpression
        discard (mark ",")
        discard forIfClauses
        complainOn item.line .comprehensionTarget]

def list : Parser Node := do
  let line ← here
  discard (mark "[")
  let items := (← maybe starNamedExpressions).getD []
  discard (mark "]")
  return listOf line items

def listComprehension : Parser Node := do
  let line ← here
  (do discard (mark "[")
      let item ← namedExpression
      let clauses ← forIfClauses
      discard (mark "]")
      return leaf (.comprehension .list item.expr clauses) line) <|>
    explaining comprehensionMistake

def tuple : Parser Node := do
  let line ← here
  discard (mark "(")
  let items ← maybe do
    let first ← starNamedExpression
    discard (mark ",")
    return first :: (← maybe starNamedExpressions).getD []
  discard (mark ")")
  return tupleOf line (items.getD [])

def groupMistake {α : Type} : Parser α := mistake
  [do discard (mark "(")
      let inner ← starredExpression
      discard (mark ")")
      complainOn inner.line .starredHere,
   do discard (mark "(")
      let stars ← mark "**"
      discard expression
      discard (mark ")")
      complainOn stars.line .doubleStarredHere]

def group : Parser Node :=
  (do discard (mark "(")
      let inner ← yieldExpr <|> namedExpression
      discard (mark ")")
      return inner) <|> explaining groupMistake

def generator : Parser Node := do
  let line ← here
  (do discard (mark "(")
      let item ← assignmentExpression <|> plainExpression
      let clauses ← forIfClauses
      discard (mark ")")
      return leaf (.comprehension .generator item.expr clauses) line) <|>
    explaining comprehensionMistake

def set : Parser Node := do
  let line ← here
  discard (mark "\x7b")
  let items ← starNamedExpressions
  discard (mark "\x7d")
  return leaf (.set (exprs items)) line

def setComprehension : Parser Node := do
  let line ← here
  (do discard (mark "\x7b")
      let item ← namedExpression
      let clauses ← forIfClauses
      discard (mark "\x7d")
      return leaf (.comprehension .set item.expr clauses) line) <|>
    explaining comprehensionMistake

def keyValue : Parser (Expr × Expr) := do
  let key ← expression
  discard (mark ":")
  return (key.expr, (← expression).expr)

def entry : Parser Entry :=
  (do discard (mark "**")
      return .mk none (← bitwiseOr).expr) <|>
  (do let (key, value) ← keyValue
      return .mk (some key) value)

/-- Mistakes after a key. -/
def valueMistakes : List (Parser (Option Complaint)) :=
  [do discard expression
      discard (mark ":")
      let star ← mark "*"
      discard bitwiseOr
      complainOn star.line .starredValue,
   do discard expression
      let colon ← mark ":"
      ahead (mark "\x7d" <|> mark ",")
      complainOn colon.line .missingValue]

def keyMistake {α : Type} : Parser α := mistake
  ((do let key ← expression
       notAhead (mark ":")
       complainOn key.line .missingColon) :: valueMistakes)

/-- Mistakes in the entries of a dictionary, in the first one or in a later one. -/
def entryMistake : Parser Node :=
  (do discard (separated "," entry)
      discard (mark ",")
      keyMistake) <|> mistake valueMistakes

def dict : Parser Node := do
  let line ← here
  (do discard (mark "\x7b")
      let entries ← maybe do
        let entries ← separated "," entry
        discard (maybe (mark ","))
        return entries
      discard (mark "\x7d")
      return leaf (.dict (entries.getD [])) line) <|>
  (do discard (mark "\x7b")
      entryMistake)

def dictComprehension : Parser Node := do
  let line ← here
  (do discard (mark "\x7b")
      let (key, value) ← keyValue
      let clauses ← forIfClauses
      discard (mark "\x7d")
      return leaf (.dictComprehension key value clauses) line) <|>
    explaining (mistake [do
      discard (mark "\x7b")
      let stars ← mark "**"
      discard bitwiseOr
      discard forIfClauses
      discard (mark "\x7d")
      complainOn stars.line .mappingInComprehension])

/-- Raises a fault that an inner reader has found. -/
def raiseInner {α : Type} (fault : Fault) : Parser α := fun _ s => .raise ⟨fault, s.fetched, false⟩

/-- Text literals, one after another. -/
def stringsBody : Parser Node := do
  let line ← here
  let tokens ← many1 (ofKind .text)
  let ctx ← Parser.getContext
  let read : Joined.Read := fun cs line =>
    match ctx.embed cs line with
    | .ok expr => .ok expr
    | .error fault => .error (.inner fault)
  match readTexts read tokens with
  | .ok texts => return leaf texts.expr line texts.isWorded_expr
  | .error (.here cause) => raiseHere cause
  | .error (.onLine cause line) => raiseOn line cause
  | .error (.inner fault) => raiseInner fault

def number : Parser Node := do
  let token ← ofKind .number
  match Literal.ofNumeral token.text with
  | .ok value => return leaf (.literal value) token.line
  | .error cause => raiseOn token.line cause

def constant (text : String) (value : Literal) : Parser Node := do
  let token ← word text
  return leaf (.literal value) token.line

def atom : Parser Node :=
  (do let (id, line) ← name
      return nameOf id line) <|>
  constant "True" (.bool true) <|>
  constant "False" (.bool false) <|>
  constant "None" .none <|>
  (do ahead (ofKind .text)
      call .strings) <|>
  number <|>
  (do ahead (mark "(")
      tuple <|> group <|> generator) <|>
  (do ahead (mark "[")
      list <|> listComprehension) <|>
  (do ahead (mark "\x7b")
      dict <|> set <|> dictComprehension <|> setComprehension) <|>
  (do let token ← mark "..."
      return leaf (.literal .ellipsis) token.line)

end HubScript.Grammar
