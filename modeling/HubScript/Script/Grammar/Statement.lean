import HubScript.Script.Grammar.Parameter
import HubScript.Script.Grammar.Pattern

/-!
# Statements

All statements are recognised with their mistakes. Those that a robot can carry out are kept with
their parts, the others with their lines only.
-/
namespace HubScript.Grammar

/-- A statement of which only the lines are kept. -/
def other (p : Parser Unit) : Parser WordedStmt := do
  let line ← here
  p
  return ⟨.other (← spanFrom line), rfl⟩

def yieldOrExpressions : Parser Node := yieldExpr <|> starExpressions

def augmentMarks : List String :=
  ["+=", "-=", "*=", "@=", "/=", "%=", "&=", "|=", "^=", "<<=", ">>=", "**=", "//="]

def augment : Parser Token := satisfy fun t => t.kind == .mark && augmentMarks.contains t.text

def hintedTargetBody : Parser Node := list <|> tuple <|> bracketed (call .hintedTarget)

def assignmentMistake {α : Type} : Parser α :=
  let targets : Parser Unit := do
    discard (many do
      discard starTargets
      mark "=")
  mistake
    [do let node ← call .hintedTarget
        discard (mark ":")
        discard expression
        complainOn node.line (.singleTarget node.expr.phrase),
     do let node ← starNamedExpression
        discard (mark ",")
        discard (many starNamedExpressions)
        discard (mark ":")
        discard expression
        complainOn node.line (.singleTarget "tuple"),
     do let node ← expression
        discard (mark ":")
        discard expression
        complainOn node.line .hintTarget,
     do targets
        let node ← starExpressions
        discard (mark "=")
        return unfitTarget .assign node,
     do targets
        let node ← yieldExpr
        discard (mark "=")
        complainOn node.line .assignmentToYield,
     do let node ← starExpressions
        discard augment
        discard yieldOrExpressions
        complainOn node.line (.augmentedTarget node.expr.phrase)]

def hintedValue : Parser Unit := do
  discard (mark ":")
  discard expression
  discard (maybe do
    discard (mark "=")
    yieldOrExpressions)

def assignment : Parser WordedStmt := do
  let line ← here
  other (do
    discard nameToken
    hintedValue) <|>
  other (do
    discard (bracketed (call .singleTarget) <|> partTarget)
    hintedValue) <|>
  (do let targets ← many1 do
        let target ← starTargets
        discard (mark "=")
        return target
      let value ← yieldOrExpressions
      notAhead (mark "=")
      return ⟨.assign (← spanFrom line) (exprs targets) value.expr,
        Bool.and_eq_true_iff.mpr ⟨allWorded_exprs targets, value.worded⟩⟩) <|>
  committed
    (do discard (call .singleTarget)
        augment)
    (fun _ => do
      discard yieldOrExpressions
      return ⟨.other (← spanFrom line), rfl⟩)
    (explaining assignmentMistake)

def dottedName : Parser Unit := nameOrAttribute

def aliased (p : Parser Unit) : Parser Unit := do
  p
  discard (maybe do
    discard (word "as")
    nameToken)

def importedNames : Parser Unit := do discard (separated "," (aliased do discard nameToken))

def importTargets : Parser Unit :=
  (bracketed do
    importedNames
    discard (maybe (mark ","))) <|>
  (do importedNames
      notAhead (mark ",")) <|>
  (do discard (mark "*")) <|>
  explaining (mistake [do
    importedNames
    discard (mark ",")
    discard lineEnd
    complainHere .trailingComma])

def importStmt : Parser Unit :=
  let dots := mark "." <|> mark "..."
  (do discard (word "import")
      discard (separated "," (aliased dottedName))) <|>
  (do discard (word "from")
      discard (many dots)
      dottedName
      discard (word "import")
      importTargets) <|>
  (do discard (word "from")
      discard (many1 dots)
      discard (word "import")
      importTargets)

def raiseStmt : Parser Unit :=
  (do discard (word "raise")
      discard expression
      discard (maybe do
        discard (word "from")
        expression)) <|>
  (do discard (word "raise"))

def delStmt : Parser Unit :=
  (do discard (word "del")
      delTargets
      ahead (mark ";" <|> lineEnd)) <|>
  explaining (mistake [do
    discard (word "del")
    return unfitTarget .delete (← starExpressions)])

def assertStmt : Parser Unit := do
  discard (word "assert")
  discard expression
  discard (maybe do
    discard (mark ",")
    expression)

/-- A keyword with names after it. -/
def declaration (keyword : String) : Parser Unit := do
  discard (word keyword)
  discard (separated "," nameToken)

def returnStmt : Parser WordedStmt := do
  let line ← here
  discard (word "return")
  let value ← maybe starExpressions
  return ⟨.returns (← spanFrom line) (value.map Node.expr), rfl⟩

def expressionStmt (p : Parser Node) : Parser WordedStmt := do
  let line ← here
  let value ← p
  return ⟨.expr (← spanFrom line) value.expr, value.worded⟩

def breakStmt : Parser WordedStmt := do
  let line ← here
  discard (word "break")
  return ⟨.stop (← spanFrom line), rfl⟩

def simpleStmtBody : Parser WordedStmt :=
  assignment <|>
  expressionStmt starExpressions <|>
  (do ahead (word "return")
      returnStmt) <|>
  (do ahead (word "import" <|> word "from")
      other importStmt) <|>
  (do ahead (word "raise")
      other raiseStmt) <|>
  other (do discard (word "pass")) <|>
  (do ahead (word "del")
      other delStmt) <|>
  (do ahead (word "yield")
      expressionStmt yieldExpr) <|>
  (do ahead (word "assert")
      other assertStmt) <|>
  breakStmt <|>
  other (do discard (word "continue")) <|>
  (do ahead (word "global")
      other (declaration "global")) <|>
  (do ahead (word "nonlocal")
      other (declaration "nonlocal"))

def simpleStmts : Parser (List WordedStmt) :=
  (do let stmt ← call .simpleStmt
      notAhead (mark ";")
      discard lineEnd
      return [stmt]) <|>
  (do let stmts ← separated ";" (call .simpleStmt)
      discard (maybe (mark ";"))
      discard lineEnd
      return stmts)

def block : Parser (List WordedStmt) := call .block

/-- The end of a header whose block is missing. -/
def missingBlock (token : Token) (owner : BlockOwner) : Parser (Option Complaint) := do
  discard lineEnd
  notAhead indent
  complainHere (.expectedBlockAfter owner token.line)

def missingBody (token : Token) : Parser (Option Complaint) :=
  missingBlock token (.statement token.text)

/-- The end of a header that lacks its colon. -/
def missingMark : Parser (Option Complaint) := do
  discard lineEnd
  complainHere (.expected ":")

/-- A keyword, a test and the colon: mistakes. -/
def testMistake {α : Type} (keyword : String) : Parser α := mistake
  [do discard (word keyword)
      discard namedExpression
      missingMark,
   do let token ← word keyword
      discard namedExpression
      discard (mark ":")
      missingBody token]

def elseBlock : Parser (List WordedStmt) :=
  explaining (mistake [do
    let token ← word "else"
    discard (mark ":")
    missingBody token]) <|>
  (do discard (word "else")
      discard (forced ":")
      block)

def branching (span : Span) (test : Node) (body orelse : List WordedStmt) : WordedStmt :=
  ⟨.branch span test.expr (WordedStmt.plain body) (WordedStmt.plain orelse),
    Bool.and_eq_true_iff.mpr
      ⟨WordedStmt.allWorded_plain body, WordedStmt.allWorded_plain orelse⟩⟩

/-- A branch from its keyword on; the branches after it are its other part. -/
def branch (keyword : String) : Parser WordedStmt := do
  let line ← here
  let head : Parser (Node × List WordedStmt) := do
    discard (word keyword)
    let test ← namedExpression
    discard (mark ":")
    return (test, ← block)
  explaining (testMistake keyword) <|>
  (do let (test, body) ← head
      let next ← call .elifStmt
      return branching (← spanFrom line) test body [next]) <|>
  (do let (test, body) ← head
      let orelse ← maybe elseBlock
      return branching (← spanFrom line) test body (orelse.getD []))

def elifStmtBody : Parser WordedStmt := branch "elif"

def whileStmt : Parser WordedStmt := do
  let line ← here
  explaining (testMistake "while") <|>
  (do discard (word "while")
      let test ← namedExpression
      discard (mark ":")
      let body ← block
      discard (maybe elseBlock)
      return ⟨.whileLoop (← spanFrom line) test.expr (WordedStmt.plain body),
        WordedStmt.allWorded_plain body⟩)

def loopOpening : Parser Node := do
  discard (word "for")
  let target ← starTargets
  discard (word "in")
  return target

def forMistake {α : Type} : Parser α := mistake
  [do discard (maybe (word "async"))
      discard loopOpening
      discard starExpressions
      missingMark,
   do discard (maybe (word "async"))
      let token ← peek
      discard loopOpening
      discard starExpressions
      discard (mark ":")
      missingBody token]

def forStmt : Parser WordedStmt := do
  let line ← here
  let finish : Parser (Node × List WordedStmt) := do
    let source ← starExpressions
    discard (mark ":")
    let body ← block
    discard (maybe elseBlock)
    return (source, body)
  explaining forMistake <|>
  committed loopOpening
    (fun target => do
      let (source, body) ← finish
      return ⟨.forEach (← spanFrom line) target.expr source.expr (WordedStmt.plain body),
        WordedStmt.allWorded_plain body⟩)
    (committed
      (do discard (word "async")
          loopOpening)
      (fun _ => do
        discard finish
        return ⟨.other (← spanFrom line), rfl⟩)
      (explaining loopTargetMistake))

def withItem : Parser Unit :=
  let closing := mark "," <|> mark ")" <|> mark ":"
  (do discard expression
      discard (word "as")
      discard starTarget
      ahead closing) <|>
  explaining (mistake [do
    discard expression
    discard (word "as")
    let node ← expression
    ahead closing
    return unfitTarget .assign node]) <|>
  (do discard expression)

/-- The items of a faulty `with`, without and with brackets. -/
def looseItems (item : Parser Node) : Parser Unit := do
  discard (separated "," do
    discard item
    maybe do
      discard (word "as")
      starTarget)

def bracketedItems : Parser Unit := bracketed do
  looseItems expressions
  discard (maybe (mark ","))

def withMistake {α : Type} (ending : Token → Parser (Option Complaint)) : Parser α :=
  let alternative (items : Parser Unit) : Parser (Option Complaint) := do
    discard (maybe (word "async"))
    let token ← word "with"
    items
    ending token
  mistake [alternative (looseItems expression), alternative bracketedItems]

def withStmt : Parser Unit :=
  let finish : Parser Unit := do
    discard (mark ":")
    discard block
  let items : Parser Unit := do discard (separated "," withItem)
  let inBrackets : Parser Unit := do
    discard (word "with")
    bracketed do
      items
      discard (maybe (mark ","))
    finish
  let plain : Parser Unit := do
    discard (word "with")
    items
    finish
  explaining (withMistake fun token => do
    discard (mark ":")
    missingBody token) <|>
  inBrackets <|> plain <|>
  (do discard (word "async")
      inBrackets) <|>
  (do discard (word "async")
      plain) <|>
  explaining (withMistake fun _ => missingMark)

def boundName : Parser Unit := do
  discard (maybe do
    discard (word "as")
    nameToken)

def exceptMistake {α : Type} : Parser α := mistake
  [do discard (word "except")
      discard (maybe (mark "*"))
      let node ← expression
      discard (mark ",")
      discard expressions
      boundName
      discard (mark ":")
      complainOn node.line .bareExceptionTypes,
   do discard (word "except")
      discard (maybe (mark "*"))
      discard expression
      boundName
      missingMark,
   do discard (word "except")
      missingMark,
   do discard (word "except")
      discard (mark "*")
      (do discard lineEnd) <|> (do discard (mark ":"))
      complainHere .missingExceptionTypes]

def exceptBlock : Parser Unit :=
  explaining (mistake
    [do let token ← word "except"
        discard expression
        boundName
        discard (mark ":")
        missingBody token,
     do let token ← word "except"
        discard (mark ":")
        missingBody token]) <|>
  (do discard (word "except")
      discard expression
      boundName
      discard (mark ":")
      discard block) <|>
  (do discard (word "except")
      discard (mark ":")
      discard block) <|>
  explaining exceptMistake

def exceptStarBlock : Parser Unit :=
  explaining (mistake [do
    let token ← word "except"
    discard (mark "*")
    discard expression
    boundName
    discard (mark ":")
    missingBlock token (.statement "except*")]) <|>
  (do discard (word "except")
      discard (mark "*")
      discard expression
      boundName
      discard (mark ":")
      discard block) <|>
  explaining exceptMistake

def finallyBlock : Parser Unit :=
  explaining (mistake [do
    let token ← word "finally"
    discard (mark ":")
    missingBody token]) <|>
  (do discard (word "finally")
      discard (forced ":")
      discard block)

def tryMistake {α : Type} : Parser α := mistake
  [do let token ← word "try"
      discard (mark ":")
      missingBody token,
   do discard (word "try")
      discard (mark ":")
      discard block
      notAhead (word "except" <|> word "finally")
      complainHere .expectedHandler,
   do discard (word "try")
      discard (mark ":")
      discard (many block)
      discard (many1 exceptBlock)
      let token ← word "except"
      discard (mark "*")
      discard expression
      boundName
      discard (mark ":")
      complainOn token.line .mixedHandlers,
   do discard (word "try")
      discard (mark ":")
      discard (many block)
      discard (many1 exceptStarBlock)
      let token ← word "except"
      discard (maybe do
        discard expression
        boundName)
      discard (mark ":")
      complainOn token.line .mixedHandlers]

def tryStmt : Parser Unit :=
  let opening : Parser Unit := do
    discard (word "try")
    discard (forced ":")
    discard block
  let finish : Parser Unit := do
    discard (maybe elseBlock)
    discard (maybe finallyBlock)
  explaining tryMistake <|>
  (do opening
      finallyBlock) <|>
  (do opening
      discard (many1 exceptBlock)
      finish) <|>
  (do opening
      discard (many1 exceptStarBlock)
      finish)

def subject : Parser Unit :=
  (do discard starNamedExpression
      discard (mark ",")
      discard (maybe starNamedExpressions)) <|>
  (do discard namedExpression)

def caseHead : Parser Token := do
  let token ← word "case"
  patterns
  discard (maybe do
    discard (word "if")
    namedExpression)
  return token

def caseBlock : Parser Unit :=
  explaining (mistake
    [do discard caseHead
        missingMark,
     do let token ← caseHead
        discard (mark ":")
        missingBody token]) <|>
  (do discard caseHead
      discard (mark ":")
      discard block)

def matchStmt : Parser Unit :=
  (do discard (word "match")
      subject
      discard (mark ":")
      discard lineEnd
      discard indent
      discard (many1 caseBlock)
      discard dedent) <|>
  explaining (mistake
    [do discard (word "match")
        subject
        missingMark,
     do let token ← word "match"
        subject
        discard (mark ":")
        missingBody token])

def decorators : Parser Unit := do
  discard (many1 do
    discard (mark "@")
    discard namedExpression
    lineEnd)

def classBases : Parser Unit := do
  discard (maybe (bracketed (maybe (call .arguments))))

def classDef : Parser Unit :=
  let raw : Parser Unit :=
    explaining (mistake
      [do discard (word "class")
          discard nameToken
          classBases
          missingMark,
       do let token ← word "class"
          discard nameToken
          classBases
          discard (mark ":")
          missingBlock token .classBody]) <|>
    (do discard (word "class")
        discard nameToken
        classBases
        discard (mark ":")
        discard block)
  (do decorators
      raw) <|> raw

def functionMistake {α : Type} : Parser α := mistake [do
  discard (maybe (word "async"))
  let token ← word "def"
  discard nameToken
  discard (bracketed (maybe (params .function)))
  discard (maybe do
    discard (mark "->")
    expression)
  discard (mark ":")
  missingBlock token .function]

/-- A function from the keyword on. -/
def functionFrom : Parser (Word × Params × List WordedStmt) := do
  discard (word "def")
  let (id, _) ← name
  discard (forced "(")
  let ps ← maybe (params .function)
  discard (mark ")")
  discard (maybe do
    discard (mark "->")
    expression)
  discard (forced ":")
  return (id, ps.getD Params.empty, ← block)

def functionRaw : Parser WordedStmt := do
  let line ← here
  explaining functionMistake <|>
  (do let (id, ps, body) ← functionFrom
      return ⟨.define (← spanFrom line) id ps (WordedStmt.plain body),
        WordedStmt.allWorded_plain body⟩) <|>
  other (do
    discard (word "async")
    discard functionFrom)

def functionDef : Parser WordedStmt :=
  (do decorators
      functionRaw) <|> functionRaw

def compoundStmt : Parser WordedStmt :=
  let asyncWord := word "async"
  (do ahead (word "def" <|> mark "@" <|> asyncWord)
      functionDef) <|>
  (do ahead (word "if")
      branch "if") <|>
  (do ahead (word "class" <|> mark "@")
      other classDef) <|>
  (do ahead (word "with" <|> asyncWord)
      other withStmt) <|>
  (do ahead (word "for" <|> asyncWord)
      forStmt) <|>
  (do ahead (word "try")
      other tryStmt) <|>
  (do ahead (word "while")
      whileStmt) <|>
  other matchStmt

def statement : Parser (List WordedStmt) :=
  (do return [← compoundStmt]) <|> simpleStmts

def statements : Parser (List WordedStmt) := do return (← many1 statement).flatten

def blockBody : Parser (List WordedStmt) :=
  (do discard lineEnd
      discard indent
      let stmts ← statements
      discard dedent
      return stmts) <|>
  simpleStmts <|>
  explaining (mistake [do
    discard lineEnd
    notAhead indent
    complainHere .expectedBlock])

/-- A whole script. -/
def script : Parser (List WordedStmt) := do
  let stmts ← maybe statements
  discard scriptEnd
  return stmts.getD []

/-- A single expression up to the end. -/
def onlyExpression : Parser Node := do
  let node ← expressions
  discard (many lineEnd)
  discard scriptEnd
  return node

end HubScript.Grammar
