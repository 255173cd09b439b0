import HubScript.Script.Grammar.Call

/-!
# Parameters

Functions and lambda expressions declare parameters in the same order: plain ones, a slash, more
plain ones, a star, and named ones. They differ in the mark that closes the list and in whether a
parameter can have a type hint.
-/
namespace HubScript.Grammar

structure ParamStyle where
  /-- The mark after the last parameter. -/
  closing : String
  hasHints : Bool
  inLambda : Bool

def ParamStyle.function : ParamStyle := ⟨")", true, false⟩
def ParamStyle.lambda : ParamStyle := ⟨":", false, true⟩

/-- A parameter without its default. -/
structure BareParam where
  name : String
  hint : Option Expr
  line : Nat

def BareParam.withDefault (p : BareParam) (value : Option Expr) : Param := .mk p.name p.hint value

def param (style : ParamStyle) : Parser BareParam := do
  let (id, line) ← name
  if style.hasHints then
    let hint ← maybe do
      discard (mark ":")
      expression
    return ⟨id, hint.map Node.expr, line⟩
  else return ⟨id, none, line⟩

/-- A parameter whose hint is unpacked. -/
def starHintedParam : Parser BareParam := do
  let (id, line) ← name
  discard (mark ":")
  return ⟨id, some (← call .starExpression).expr, line⟩

/-- A comma, or the closing mark ahead. -/
def paramEnd (style : ParamStyle) : Parser Unit :=
  (do discard (mark ",")) <|> ahead (mark style.closing)

def default : Parser Expr :=
  (do discard (mark "=")
      return (← expression).expr) <|>
  explaining (mistake [do
    let token ← mark "="
    ahead (mark ")" <|> mark ",")
    complainOn token.line .missingDefault])

def plainParam (style : ParamStyle) : Parser BareParam := do
  let p ← param style
  paramEnd style
  return p

def defaultParam (style : ParamStyle) : Parser Param := do
  let p ← param style
  let value ← default
  paramEnd style
  return p.withDefault (some value)

def maybeDefaultParam (style : ParamStyle) : Parser Param := do
  let p ← param style
  let value ← maybe default
  paramEnd style
  return p.withDefault value

def slash (style : ParamStyle) : Parser Unit := do
  discard (mark "/")
  paramEnd style

def withoutDefaults (ps : List BareParam) : List Param := ps.map (·.withDefault none)

def slashPlain (style : ParamStyle) : Parser (List Param) := do
  let ps ← many1 (plainParam style)
  slash style
  return withoutDefaults ps

def slashDefault (style : ParamStyle) : Parser (List Param) := do
  let ps ← many (plainParam style)
  let qs ← many1 (defaultParam style)
  slash style
  return withoutDefaults ps ++ qs

/-- The parameters from the star on. -/
structure StarPart where
  rest : Option Param
  named : List Param
  mapping : Option Param

def mappingMistake {α : Type} (style : ParamStyle) : Parser α := mistake
  [do discard (mark "**")
      discard (param style)
      let token ← mark "="
      complainOn token.line .keywordRestDefault,
   do discard (mark "**")
      discard (param style)
      discard (mark ",")
      let p ← param style
      complainOn p.line .afterKeywordRest,
   do discard (mark "**")
      discard (param style)
      discard (mark ",")
      let token ← mark "*" <|> mark "**" <|> mark "/"
      complainOn token.line .afterKeywordRest]

def mappingParam (style : ParamStyle) : Parser Param :=
  explaining (mappingMistake style) <|>
  (do discard (mark "**")
      return (← plainParam style).withDefault none)

def bareStarMistake (style : ParamStyle) : Parser (Option Complaint) := do
  let star ← mark "*"
  (do discard (mark style.closing)) <|> (do
    discard (mark ",")
    discard (mark style.closing <|> mark "**"))
  if style.inLambda then complainHere .bareStar else complainOn star.line .bareStar

def starMistake {α : Type} (style : ParamStyle) : Parser α :=
  let plainOrComma : Parser Unit := (do discard (plainParam style)) <|> (do discard (mark ","))
  let commaOrPlain : Parser Unit := plainOrComma
  mistake
    [bareStarMistake style,
     do discard (mark "*")
        discard (param style)
        let token ← mark "="
        complainOn token.line .restDefault,
     do discard (mark "*")
        plainOrComma
        discard (many (maybeDefaultParam style))
        let star ← mark "*"
        commaOrPlain
        complainOn star.line .starTwice]

def starPart (style : ParamStyle) : Parser StarPart :=
  let after (rest : BareParam) : Parser StarPart := do
    let named ← many (maybeDefaultParam style)
    return ⟨some (rest.withDefault none), named, ← maybe (mappingParam style)⟩
  let starHinted : Parser StarPart := do
    if !style.hasHints then Parser.fail
    discard (mark "*")
    let rest ← starHintedParam
    paramEnd style
    after rest
  explaining (starMistake style) <|>
  (do discard (mark "*")
      after (← plainParam style)) <|>
  starHinted <|>
  (do discard (mark "*")
      discard (mark ",")
      let named ← many1 (maybeDefaultParam style)
      return ⟨none, named, ← maybe (mappingParam style)⟩) <|>
  (do return ⟨none, [], some (← mappingParam style)⟩)

def paramsOf (positionalOnly plain : List Param) (star : Option StarPart) : Params :=
  match star with
  | none => .mk positionalOnly plain none [] none
  | some part => .mk positionalOnly plain part.rest part.named part.mapping

def parameters (style : ParamStyle) : Parser Params :=
  (do let first ← slashPlain style
      let ps ← many (plainParam style)
      let qs ← many (defaultParam style)
      return paramsOf first (withoutDefaults ps ++ qs) (← maybe (starPart style))) <|>
  (do let first ← slashDefault style
      let qs ← many (defaultParam style)
      return paramsOf first qs (← maybe (starPart style))) <|>
  (do let ps ← many1 (plainParam style)
      let qs ← many (defaultParam style)
      return paramsOf [] (withoutDefaults ps ++ qs) (← maybe (starPart style))) <|>
  (do let qs ← many1 (defaultParam style)
      return paramsOf [] qs (← maybe (starPart style))) <|>
  (do return paramsOf [] [] (some (← starPart style)))

/-- Parameters in brackets of their own. -/
def bracketedMistake (style : ParamStyle) : Parser (Option Complaint) := do
  discard (many (plainParam style))
  let opening ← mark "("
  if style.inLambda then discard (separated "," (param style))
  else discard (many1 (plainParam style))
  discard (maybe (mark ","))
  discard (mark ")")
  complainOn opening.line (.bracketedParameters style.inLambda)

def parameterMistake {α : Type} (style : ParamStyle) : Parser α :=
  let slashed : Parser Unit :=
    (do discard (slashPlain style)) <|> (do discard (slashDefault style))
  mistake
    [do discard (many (plainParam style))
        (do discard (slashDefault style)) <|> (do discard (many1 (defaultParam style)))
        let p ← plainParam style
        complainOn p.line .plainAfterDefault,
     bracketedMistake style,
     do let token ← mark "/"
        discard (mark ",")
        complainOn token.line .slashFirst,
     do slashed
        discard (many (maybeDefaultParam style))
        let token ← mark "/"
        complainOn token.line .slashTwice,
     do discard (maybe slashed)
        discard (many (maybeDefaultParam style))
        discard (mark "*")
        (do discard (mark ",")) <|> (do discard (plainParam style))
        discard (many (maybeDefaultParam style))
        let token ← mark "/"
        complainOn token.line .slashAfterStar,
     do discard (many1 (maybeDefaultParam style))
        discard (mark "/")
        let token ← mark "*"
        complainOn token.line .slashThenStar]

def params (style : ParamStyle) : Parser Params :=
  explaining (parameterMistake style) <|> parameters style

def lambda : Parser Node := do
  let line ← here
  discard (word "lambda")
  let ps ← maybe (params .lambda)
  discard (mark ":")
  return leaf (.lambda (ps.getD Params.empty) (← expression).expr) line

/-- An expression, mistakes apart. -/
def expressionAlternatives : Parser Node := do
  let line ← here
  (do let body ← disjunction
      discard (word "if")
      let test ← disjunction
      discard (word "else")
      return leaf (.conditional test.expr body.expr (← expression).expr) line) <|>
  disjunction <|> lambda

def expressionMistake {α : Type} : Parser α := mistake
  [do notAhead ((do
        discard nameToken
        discard (ofKind .text)) <|> (do discard softKeyword))
      let node ← disjunction
      discard (withoutExplaining expressionAlternatives)
      let token ← lastToken
      if isLegacyName node.expr || token.depth == 0 then return none
      else complainOn node.line .forgottenComma,
   do let node ← disjunction
      discard (word "if")
      discard disjunction
      notAhead ((do discard (word "else")) <|> (do discard (mark ":")))
      complainOn node.line .expectedElse]

def legacyMistake {α : Type} : Parser α := mistake
  [do let (id, line) ← name
      notAhead (mark "(")
      discard starExpressions
      if isLegacyName (.name id) then complainOn line (.missingParentheses id) else return none]

def expressionBody : Parser Node :=
  explaining expressionMistake <|> explaining legacyMistake <|> expressionAlternatives

/-- Assignment where an expression is expected. -/
def namedMistakeBody : Parser Unit :=
  let noAssignment : Parser Unit := notAhead (mark "=" <|> mark ":=")
  mistake
    [do let node ← expression
        discard (mark ":=")
        discard expression
        complainOn node.line (.assignmentWith node.expr.phrase),
     do let (_, line) ← name
        discard (mark "=")
        discard bitwiseOr
        noAssignment
        complainOn line .maybeComparison,
     do notAhead (list <|> tuple <|> generator <|> constant "True" .none <|>
          constant "None" .none <|> constant "False" .none)
        let node ← bitwiseOr
        discard (mark "=")
        discard bitwiseOr
        noAssignment
        complainOn node.line (.cannotAssignHere node.expr.phrase)]

end HubScript.Grammar
