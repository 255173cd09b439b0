import HubScript.Script.Grammar.Call

/-!
# Patterns

The patterns of a `match` statement. Robots have no use for them, so they are recognised and not
kept.
-/
namespace HubScript.Grammar

/-- A number with or without a sign. -/
def signed (p : Parser Node) : Parser Node := p <|> (do
  discard (mark "-")
  p)

def isImaginary : Expr → Bool
  | .literal (.imaginary _) => true
  | _ => false

def realNumber : Parser Node := do
  let node ← number
  if isImaginary node.expr then raiseOn node.line .realNumber else return node

def imaginaryNumber : Parser Node := do
  let node ← number
  if isImaginary node.expr then return node else raiseOn node.line .imaginaryNumber

def complexNumber : Parser Unit := do
  let part (text : String) : Parser Unit := do
    discard (signed realNumber)
    discard (mark text)
    discard imaginaryNumber
  part "+" <|> part "-"

/-- A literal, as a pattern or as the key of a mapping pattern. -/
def literalPattern : Parser Unit :=
  (do discard (signed number)
      notAhead (mark "+" <|> mark "-")) <|>
  complexNumber <|>
  (do discard (call .strings)) <|>
  (do discard (word "None" <|> word "True" <|> word "False"))

/-- Marks that make a name more than a name. -/
def notFollowed : Parser Unit := notAhead (mark "." <|> mark "(" <|> mark "=")

def captureTarget : Parser Unit := do
  notAhead (word "_")
  discard nameToken
  notFollowed

def wildcardPattern : Parser Unit := do discard (word "_")

def dotted (least : Nat) : Parser Unit := do
  discard nameToken
  let fields ← many do
    discard (mark ".")
    nameToken
  if fields.length < least then Parser.fail

def attributePattern : Parser Unit := dotted 1

def nameOrAttribute : Parser Unit := dotted 0

def orPattern : Parser Unit := do discard (separated "|" (call .closedPattern))

def asMistake {α : Type} : Parser α := mistake
  [do orPattern
      discard (word "as")
      let token ← word "_"
      complainOn token.line .wildcardTarget,
   do orPattern
      discard (word "as")
      notAhead nameToken
      let node ← expression
      complainOn node.line .patternTarget]

def pattern : Parser Unit :=
  (do orPattern
      discard (word "as")
      captureTarget) <|> explaining asMistake <|> orPattern

def starPatternBody : Parser Unit := do
  discard (mark "*")
  captureTarget <|> wildcardPattern

def maybeStarPattern : Parser Unit := call .starPattern <|> pattern

def sequenceItems : Parser Unit := do
  discard (separated "," maybeStarPattern)
  discard (maybe (mark ","))

def openSequence : Parser Unit := do
  maybeStarPattern
  discard (mark ",")
  discard (maybe sequenceItems)

def sequencePattern : Parser Unit :=
  (do discard (mark "[")
      discard (maybe sequenceItems)
      discard (mark "]")) <|>
  (do discard (bracketed (maybe openSequence)))

def mappingItem : Parser Unit := do
  literalPattern <|> attributePattern
  discard (mark ":")
  pattern

def mappingRest : Parser Unit := do
  discard (mark "**")
  captureTarget

def mappingPattern : Parser Unit :=
  let close : Parser Unit := do
    discard (maybe (mark ","))
    discard (mark "\x7d")
  (do discard (mark "\x7b")
      discard (mark "\x7d")) <|>
  (do discard (mark "\x7b")
      mappingRest
      close) <|>
  (do discard (mark "\x7b")
      discard (separated "," mappingItem)
      discard (mark ",")
      mappingRest
      close) <|>
  (do discard (mark "\x7b")
      discard (separated "," mappingItem)
      close)

def positionalPatterns : Parser Unit := do discard (separated "," pattern)

def keywordPatterns : Parser Unit := do
  discard (separated "," do
    discard nameToken
    discard (mark "=")
    pattern)

def classMistake {α : Type} : Parser α := mistake [do
  nameOrAttribute
  discard (mark "(")
  discard (maybe do
    positionalPatterns
    mark ",")
  keywordPatterns
  discard (mark ",")
  let line ← here
  positionalPatterns
  complainOn line .positionalPattern]

def classPattern : Parser Unit :=
  let opening : Parser Unit := do
    nameOrAttribute
    discard (mark "(")
  let close : Parser Unit := do
    discard (maybe (mark ","))
    discard (mark ")")
  (do opening
      discard (mark ")")) <|>
  (do opening
      positionalPatterns
      close) <|>
  (do opening
      keywordPatterns
      close) <|>
  (do opening
      positionalPatterns
      discard (mark ",")
      keywordPatterns
      close) <|> explaining classMistake

def closedPatternBody : Parser Unit :=
  literalPattern <|> captureTarget <|> wildcardPattern <|>
  (do attributePattern
      notFollowed) <|>
  bracketed pattern <|> sequencePattern <|> mappingPattern <|> classPattern

def patterns : Parser Unit := openSequence <|> pattern

end HubScript.Grammar
