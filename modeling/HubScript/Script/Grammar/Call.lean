import HubScript.Script.Grammar.Display

/-!
# Calls, subscripts and attributes

The arguments of a call come in order: those by position, those by name with starred ones among
them, and from the first unpacked mapping on no starred ones any more.
-/
namespace HubScript.Grammar

/-- An argument after the first named one. -/
inductive LateArgument where
  | keyword (keyword : WordedKeyword)
  | starred (node : Node)

def keywordMistake {α : Type} : Parser α := mistake
  [do let token ← word "True" <|> word "False" <|> word "None"
      discard (mark "=")
      complainOn token.line (.cannotAssign token.text),
   do let (_, line) ← name
      discard (mark "=")
      discard expression
      discard forIfClauses
      complainOn line .maybeComparison,
   do notAhead do
        discard nameToken
        mark "="
      let node ← expression
      discard (mark "=")
      complainOn node.line .assignmentInArgument]

def keywordArgument : Parser LateArgument := do
  let (id, _) ← name
  discard (mark "=")
  let value ← expression
  return .keyword ⟨.mk (some id) value.expr, Keyword.isWorded_mk id value.expr⟩

def keywordOrStarred : Parser LateArgument :=
  explaining keywordMistake <|> keywordArgument <|>
    (do return .starred (← starredExpression))

def keywordOrMapping : Parser LateArgument :=
  explaining keywordMistake <|> keywordArgument <|>
  (do discard (mark "**")
      return .keyword ⟨.mk none (← expression).expr, rfl⟩)

def lateArguments : Parser (List LateArgument) :=
  (do let first ← separated "," keywordOrStarred
      discard (mark ",")
      return first ++ (← separated "," keywordOrMapping)) <|>
  separated "," keywordOrStarred <|>
  separated "," keywordOrMapping

def collect (early : List Node) (late : List LateArgument) : CallArguments where
  positional := early ++ late.filterMap fun
    | .starred node => some node
    | .keyword _ => none
  named := late.filterMap fun
    | .keyword keyword => some keyword
    | .starred _ => none

def positionalArgument : Parser Node :=
  starredExpression <|>
  (do let node ← assignmentExpression <|> plainExpression
      notAhead (mark "=")
      return node)

def args : Parser CallArguments :=
  (do let early ← separated "," positionalArgument
      let late ← maybe do
        discard (mark ",")
        lateArguments
      return collect early (late.getD [])) <|>
  (do return collect [] (← lateArguments))

/-- A comprehension as the last of several arguments needs brackets. -/
def bareComprehension (arguments : CallArguments) : Option Complaint :=
  if arguments.positional.length ≤ 1 then none
  else arguments.positional.getLast?.map fun node => ⟨.bareGenerator, some node.line⟩

def isMapping (keyword : WordedKeyword) : Bool := keyword.val.name.isNone

def argumentMistake {α : Type} : Parser α := mistake
  [do let line ← here
      discard args
      discard (mark ",")
      discard (mark "*")
      complainOn line .unpackingAfterMapping,
   do let node ← expression
      discard forIfClauses
      discard (mark ",")
      discard (maybe ((do discard args) <|> do
        discard expression
        discard forIfClauses))
      complainOn node.line .bareGenerator,
   do let (_, line) ← name
      discard (mark "=")
      discard expression
      discard forIfClauses
      complainOn line .maybeComparison,
   do let arguments ← args
      discard forIfClauses
      return bareComprehension arguments,
   do discard args
      discard (mark ",")
      let node ← expression
      discard forIfClauses
      complainOn node.line .bareGenerator,
   do let arguments ← args
      discard (mark ",")
      discard args
      complainHere (.positionalAfterKeyword (arguments.named.any isMapping))]

def argumentsBody : Parser CallArguments :=
  (do let arguments ← args
      discard (maybe (mark ","))
      ahead (mark ")")
      return arguments) <|> explaining argumentMistake

def slice : Parser Node := do
  let line ← here
  (do let lower ← maybe expression
      discard (mark ":")
      let upper ← maybe expression
      let step ← maybe do
        discard (mark ":")
        maybe expression
      let exprOf := Option.map Node.expr
      return leaf (.slice (exprOf lower) (exprOf upper) (exprOf (step.getD none))) line) <|>
    namedExpression

def slices : Parser Node := do
  let line ← here
  (do let node ← slice
      notAhead (mark ",")
      return node) <|>
  (do let items ← separated "," (slice <|> starredExpression)
      discard (maybe (mark ","))
      return tupleOf line items)

def attributeOf (line : Nat) (object : Node) : Parser Node := do
  discard (mark ".")
  let (id, _) ← name
  return leaf (.attribute object.expr id) line

def subscriptOf (line : Nat) (object : Node) : Parser Node := do
  discard (mark "[")
  let index ← slices
  discard (mark "]")
  return leaf (.subscript object.expr index.expr) line (object.both_worded index)

theorem all_isWorded (keywords : List WordedKeyword) :
    (keywords.map Subtype.val).all Keyword.isWorded = true := by
  simp only [List.all_map, List.all_eq_true]
  exact fun keyword _ => keyword.property

def calling (function : Node) (arguments : CallArguments) (line : Nat) : Node :=
  leaf (.call function.expr (exprs arguments.positional) (arguments.named.map Subtype.val)) line
    (Bool.and_eq_true_iff.mpr
      ⟨Bool.and_eq_true_iff.mpr ⟨function.worded, allWorded_exprs _⟩, all_isWorded _⟩)

def generatorCallOf (line : Nat) (function : Node) : Parser Node := do
  return calling function ⟨[← generator], []⟩ line

def callOf (line : Nat) (function : Node) : Parser Node := do
  discard (mark "(")
  let arguments := (← maybe (call .arguments)).getD ⟨[], []⟩
  discard (mark ")")
  return calling function arguments line

def primaryBody : Parser Node := do
  let line ← here
  extended atom fun node =>
    attributeOf line node <|> generatorCallOf line node <|> callOf line node <|>
      subscriptOf line node

/-- A mark that would continue a target. -/
def continues : Parser Token := mark "(" <|> mark "[" <|> mark "."

/-- The part of a target before its last attribute or subscript. -/
def targetPrimaryBody : Parser Node := do
  let line ← here
  let continued (p : Parser Node) : Parser Node := do
    let node ← p
    ahead continues
    return node
  extended (continued atom) fun node =>
    continued (attributeOf line node) <|> continued (subscriptOf line node) <|>
      continued (generatorCallOf line node) <|> continued (callOf line node)

/-- An attribute or a subscript as a target. -/
def partTarget : Parser Node := do
  let line ← here
  let ended (p : Node → Parser Node) : Parser Node := do
    let object ← call .targetPrimary
    let node ← p object
    notAhead continues
    return node
  ended (attributeOf line) <|> ended (subscriptOf line)

def nameTarget : Parser Node := do
  let (id, line) ← name
  return nameOf id line

/-- A parser between round brackets. -/
def bracketed {α : Type} (p : Parser α) : Parser α := do
  discard (mark "(")
  let a ← p
  discard (mark ")")
  return a

def starTargetBody : Parser Node := do
  let line ← here
  (do discard (mark "*")
      notAhead (mark "*")
      return starredOf (← starTarget) line) <|> call .targetWithStarAtom

def starTargetsSeparated : Parser (List Node) := do
  let targets ← separated "," starTarget
  discard (maybe (mark ","))
  return targets

/-- Targets in round brackets: two or more, or one with a comma. -/
def starTargetsInTuple : Parser (List Node) := do
  let first ← starTarget
  let rest ← many do
    discard (mark ",")
    starTarget
  if rest.isEmpty then discard (mark ",") else discard (maybe (mark ","))
  return first :: rest

def targetWithStarAtomBody : Parser Node := do
  let line ← here
  partTarget <|> nameTarget <|> bracketed (call .targetWithStarAtom) <|>
  (do let items ← bracketed (maybe starTargetsInTuple)
      return tupleOf line (items.getD [])) <|>
  (do discard (mark "[")
      let items := (← maybe starTargetsSeparated).getD []
      discard (mark "]")
      return listOf line items)

def singleTargetBody : Parser Node :=
  partTarget <|> nameTarget <|> bracketed (call .singleTarget)

def delTargets : Parser Unit := do
  discard (separated "," (call .delTarget))
  discard (maybe (mark ","))

def delTargetBody : Parser Unit :=
  (do discard partTarget) <|> (do discard nameTarget) <|> bracketed (call .delTarget) <|>
  (do discard (bracketed (maybe delTargets))) <|>
  (do discard (mark "[")
      discard (maybe delTargets)
      discard (mark "]"))

end HubScript.Grammar
