import HubScript.Value.Operator

/-!
# Constant expressions

An expression without names, calls and members has a value that does not depend on the run of the
script. `Expr.constant?` computes it. Expressions that are not allowed where they stand, such as a
`yield` outside a function, and operations without a result have no value.

Three things here are up to the machine, and one choice is made for each. A result too large for the
memory is one beyond a fixed bound. Equal values are one and the same if both are constants of the
script or exist only once. Whole numbers in a set stand in the order of their places, and the items
of any other set in the order in which they came.
-/
namespace HubScript

mutual

/-- Whether nothing in an expression depends on the run of the script. -/
def Expr.isSafe : Expr → Bool
  | .name _ => false
  | .literal _ => true
  | .unary _ operand => operand.isSafe
  | .binary _ left right => left.isSafe && right.isSafe
  | .boolean _ operands => allSafe operands
  | .compare first links => first.isSafe && linksSafe links
  | .conditional test body orelse => test.isSafe && body.isSafe && orelse.isSafe
  | .lambda params body => params.isSafe && body.isSafe
  | .call .. => false
  | .attribute .. => false
  | .subscript object index => object.isSafe && index.isSafe
  | .slice lower upper step => optionalSafe lower && optionalSafe upper && optionalSafe step
  | .starred value => value.isSafe
  | .list items => allSafe items
  | .tuple items => allSafe items
  | .set items => allSafe items
  | .dict entries => entriesSafe entries
  | .comprehension _ element clauses => element.isSafe && clausesSafe clauses
  | .dictComprehension key value clauses => key.isSafe && value.isSafe && clausesSafe clauses
  | .joined parts => partsSafe parts
  | .assigned target value => target.isSafe && value.isSafe
  | .await value => value.isSafe
  | .yield value => optionalSafe value
  | .yieldFrom value => value.isSafe

def allSafe : List Expr → Bool
  | [] => true
  | e :: rest => e.isSafe && allSafe rest

def optionalSafe : Option Expr → Bool
  | none => true
  | some e => e.isSafe

def linksSafe : List Link → Bool
  | [] => true
  | .mk _ operand :: rest => operand.isSafe && linksSafe rest

def entriesSafe : List Entry → Bool
  | [] => true
  | .mk key value :: rest => optionalSafe key && value.isSafe && entriesSafe rest

def clausesSafe : List Clause → Bool
  | [] => true
  | .mk _ target source conditions :: rest =>
    target.isSafe && source.isSafe && allSafe conditions && clausesSafe rest

def partsSafe : List Part → Bool
  | [] => true
  | .text _ :: rest => partsSafe rest
  | .field value _ format :: rest => value.isSafe && formatSafe format && partsSafe rest

def formatSafe : Option (List Part) → Bool
  | none => true
  | some parts => partsSafe parts

def Param.isSafe : Param → Bool
  | .mk _ typeHint default => optionalSafe typeHint && optionalSafe default

def paramsSafe : List Param → Bool
  | [] => true
  | p :: rest => p.isSafe && paramsSafe rest

def optionalParamSafe : Option Param → Bool
  | none => true
  | some p => p.isSafe

def Params.isSafe : Params → Bool
  | .mk positionalOnly plain rest keywordOnly keywordRest =>
    paramsSafe positionalOnly && paramsSafe plain && optionalParamSafe rest &&
      paramsSafe keywordOnly && optionalParamSafe keywordRest

end

/-- Whether an expression has the form of a constant. Displays count whatever they hold. -/
def Expr.isConstant : Expr → Bool
  | .literal _ => true
  | .list _ => true
  | .tuple _ => true
  | .dict _ => true
  | .unary _ operand => operand.isConstant
  | .binary _ left right => left.isConstant && right.isConstant
  | _ => false

namespace Evaluation

/-- The names of all parameters. -/
def paramNames (params : Params) : List String :=
  (params.positionalOnly ++ params.plain ++ params.rest.toList ++ params.keywordOnly ++
    params.keywordRest.toList).map Param.name

/-- Whether the parameters of a function have different names, which must not be reserved. -/
def namesAllowed (params : Params) : Bool :=
  let names := paramNames params
  names.eraseDups.length == names.length && !names.contains "__debug__"

mutual

/-- Whether an expression may stand where it does; `inFunction` allows it to yield. -/
def allowed (inFunction : Bool) : Expr → Bool
  | .name _ => true
  | .literal _ => true
  | .unary _ operand => allowed inFunction operand
  | .binary _ left right => allowed inFunction left && allowed inFunction right
  | .boolean _ operands => allAllowed inFunction operands
  | .compare first links => allowed inFunction first && linksAllowed inFunction links
  | .conditional test body orelse =>
    allowed inFunction test && allowed inFunction body && allowed inFunction orelse
  | .lambda params body =>
    namesAllowed params && paramsAllowed inFunction params && allowed true body
  | .call .. => true
  | .attribute .. => true
  | .subscript object index => allowed inFunction object && allowed inFunction index
  | .slice lower upper step =>
    optionalAllowed inFunction lower && optionalAllowed inFunction upper &&
      optionalAllowed inFunction step
  | .starred _ => false
  | .list items => itemsAllowed inFunction items
  | .tuple items => itemsAllowed inFunction items
  | .set items => itemsAllowed inFunction items
  | .dict entries => entriesAllowed inFunction entries
  | .comprehension _ element clauses => allowed false element && clausesAllowed clauses
  | .dictComprehension key value clauses =>
    allowed false key && allowed false value && clausesAllowed clauses
  | .joined parts => partsAllowed inFunction parts
  | .assigned _ value => allowed inFunction value
  | .await _ => false
  | .yield value => inFunction && optionalAllowed inFunction value
  | .yieldFrom value => inFunction && allowed inFunction value

def allAllowed (inFunction : Bool) : List Expr → Bool
  | [] => true
  | e :: rest => allowed inFunction e && allAllowed inFunction rest

/-- The items of a display, which can be unpacked ones. -/
def itemsAllowed (inFunction : Bool) : List Expr → Bool
  | [] => true
  | .starred value :: rest => allowed inFunction value && itemsAllowed inFunction rest
  | e :: rest => allowed inFunction e && itemsAllowed inFunction rest

def optionalAllowed (inFunction : Bool) : Option Expr → Bool
  | none => true
  | some e => allowed inFunction e

def linksAllowed (inFunction : Bool) : List Link → Bool
  | [] => true
  | .mk _ operand :: rest => allowed inFunction operand && linksAllowed inFunction rest

def entriesAllowed (inFunction : Bool) : List Entry → Bool
  | [] => true
  | .mk key value :: rest =>
    optionalAllowed inFunction key && allowed inFunction value && entriesAllowed inFunction rest

def clausesAllowed : List Clause → Bool
  | [] => true
  | .mk isAsync target source conditions :: rest =>
    !isAsync && allowed false target && allowed false source &&
      allAllowed false conditions && clausesAllowed rest

def partsAllowed (inFunction : Bool) : List Part → Bool
  | [] => true
  | .text _ :: rest => partsAllowed inFunction rest
  | .field value _ format :: rest =>
    allowed inFunction value && formatAllowed inFunction format && partsAllowed inFunction rest

def formatAllowed (inFunction : Bool) : Option (List Part) → Bool
  | none => true
  | some parts => partsAllowed inFunction parts

def paramAllowed (inFunction : Bool) : Param → Bool
  | .mk _ typeHint default =>
    optionalAllowed inFunction typeHint && optionalAllowed inFunction default

def paramListAllowed (inFunction : Bool) : List Param → Bool
  | [] => true
  | p :: rest => paramAllowed inFunction p && paramListAllowed inFunction rest

def paramsAllowed (inFunction : Bool) : Params → Bool
  | .mk positionalOnly plain _ keywordOnly _ =>
    paramListAllowed inFunction positionalOnly && paramListAllowed inFunction plain &&
      paramListAllowed inFunction keywordOnly

end

/-- Whether the value of an expression is a constant of the script. -/
def isFixed : Expr → Bool
  | .literal _ => true
  | .unary _ operand => isFixed operand
  | .binary _ left right => isFixed left && isFixed right
  | .subscript object index => isFixed object && isFixed index
  | .tuple items => allFixed items
  | _ => false
where
  allFixed : List Expr → Bool
    | [] => true
    | e :: rest => isFixed e && allFixed rest

/-- A whole number that bounds a cut; nothing stands for a missing one. -/
def boundOf : Option Value → Option (Option Int)
  | none => some none
  | some .none => some none
  | some v => v.asInt?.map some

/-- The value that a conversion makes of another one before it is laid out. -/
def converted (conversion : Option Char) (v : Value) : Option Value :=
  match conversion with
  | none => some v
  | some 'r' => v.write.toOption.map .str
  | some 'a' => v.write.toOption.map fun s => .str (String.ofList (Template.plainAscii s))
  | some _ => v.display.toOption.map .str

/-- Adds a value to a set. -/
def addMember (items : List Value) (v : Value) : Option (List Value) :=
  (Value.addTo items v).toOption

def setOfAll (items : List Value) : Option Value :=
  (items.foldlM addMember []).map Value.setOf

/-- The values of a comprehension, which are all the same, in one. -/
def collected (into : Collector) (items : List Value) : Value :=
  if into == .set then .set (items.take 1) else .list items

mutual

/-- Whether a target without names takes a value: a list of targets takes as many items. -/
def takes : Expr → Value → Bool
  | .tuple targets, v => takesAll targets (v.items?.getD [.none, .none])
  | .list targets, v => takesAll targets (v.items?.getD [.none, .none])
  | _, _ => false

def takesAll : List Expr → List Value → Bool
  | [], [] => true
  | target :: rest, v :: vs => takes target v && takesAll rest vs
  | _, _ => false

end

mutual

/-- The value of an expression without names, calls and members. -/
def evaluate : Expr → Option Value
  | .literal value => some (.ofLiteral value)
  | .unary op operand => do Value.unary op (← evaluate operand)
  | .binary op left right => do
    let left ← evaluate left
    Value.binary op left (← evaluate right)
  | .boolean op operands => evaluateUntil op operands
  | .compare first links => do evaluateLinks (isFixed first) (← evaluate first) links
  | .conditional test body orelse => do
    if (← evaluate test).truth then evaluate body else evaluate orelse
  | .lambda params _ => do
    evaluateDefaults params
    return .object "function"
  | .subscript object (.slice lower upper step) => do
    let object ← evaluate object
    let lower ← boundOf (← evaluateOptional lower)
    let upper ← boundOf (← evaluateOptional upper)
    let step ← boundOf (← evaluateOptional step)
    object.slice ⟨lower, upper, step.getD 1⟩
  | .subscript object index => do
    let object ← evaluate object
    object.index (← evaluate index)
  | .list items => do return .list (← evaluateItems items)
  | .tuple items => do return .tuple (← evaluateItems items)
  | .set items => do setOfAll (← evaluateItems items)
  | .dict entries => do return .dict (← evaluateEntries [] entries)
  | .comprehension into element clauses => do
    if into == .generator then
      evaluateSource clauses
      return .object "generator"
    let count ← rounds clauses
    if count = 0 then return collected into []
    let v ← evaluate element
    if into == .set then discard (addMember [] v)
    return collected into (List.replicate count v)
  | .dictComprehension key value clauses => do
    if (← rounds clauses) = 0 then return .dict []
    let key ← evaluate key
    let value ← evaluate value
    return .dict (← Value.setEntry [] key value)
  | .joined parts => do return .str (← evaluateParts parts)
  | _ => none

/-- The first operand that decides, or the last one. -/
def evaluateUntil (op : BoolOp) : List Expr → Option Value
  | [] => none
  | [e] => evaluate e
  | e :: rest => do
    let v ← evaluate e
    if v.truth == (op == .or) then return v
    evaluateUntil op rest

/-- A chain of comparisons, which ends at the first one that fails. -/
def evaluateLinks (fixed : Bool) (left : Value) : List Link → Option Value
  | [] => some (.bool true)
  | .mk op operand :: rest => do
    let right ← evaluate operand
    if ← Value.comparison (fixed && isFixed operand) op left right then
      evaluateLinks (isFixed operand) right rest
    else return .bool false

def evaluateOptional : Option Expr → Option (Option Value)
  | none => some none
  | some e => (evaluate e).map some

/-- The items of a display, with those that are unpacked. -/
def evaluateItems : List Expr → Option (List Value)
  | [] => some []
  | .starred e :: rest => do
    let items ← (← evaluate e).items?
    return items ++ (← evaluateItems rest)
  | e :: rest => do
    let v ← evaluate e
    return v :: (← evaluateItems rest)

/-- The entries of a display on top of others, with those that are unpacked. -/
def evaluateEntries (done : List (Value × Value)) : List Entry → Option (List (Value × Value))
  | [] => some done
  | .mk (some key) value :: rest => do
    let key ← evaluate key
    let value ← evaluate value
    evaluateEntries (← Value.setEntry done key value) rest
  | .mk none value :: rest => do
    match ← evaluate value with
    | .dict entries => evaluateEntries (Value.merge done entries) rest
    | _ => none

def evaluateParts : List Part → Option String
  | [] => some ""
  | .text value :: rest => do return value ++ (← evaluateParts rest)
  | .field value conversion format :: rest => do
    let v ← converted conversion (← evaluate value)
    let layout ← evaluateFormat format
    let text ← v.laidOut layout
    return text ++ (← evaluateParts rest)

def evaluateFormat : Option (List Part) → Option String
  | none => some ""
  | some parts => evaluateParts parts

/-- How often the element of a comprehension is computed. Without names, every round is the
same. -/
def rounds : List Clause → Option Nat
  | [] => some 1
  | .mk _ target source conditions :: rest => do
    let items ← (← evaluate source).items?
    if items.isEmpty then return 0
    if !items.all (takes target) then none
    if ← holdAll conditions then return items.length * (← rounds rest) else return 0

/-- The source of the first clause, which has to have items. -/
def evaluateSource : List Clause → Option Unit
  | [] => some ()
  | .mk _ _ source _ :: _ => do
    let _ ← (← evaluate source).items?
    return ()

def holdAll : List Expr → Option Bool
  | [] => some true
  | e :: rest => do if (← evaluate e).truth then holdAll rest else return false

def evaluateDefaults : Params → Option Unit
  | .mk positionalOnly plain _ keywordOnly _ => do
    evaluateParams positionalOnly
    evaluateParams plain
    evaluateParams keywordOnly

def evaluateParams : List Param → Option Unit
  | [] => some ()
  | .mk _ _ default :: rest => do
    let _ ← evaluateOptional default
    evaluateParams rest

end

end Evaluation

/-- The value of a constant expression. -/
def Expr.constant? (e : Expr) : Option Value :=
  if e.isSafe && Evaluation.allowed false e then Evaluation.evaluate e else none

end HubScript
