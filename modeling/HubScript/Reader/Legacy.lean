import HubScript.Reader.Current

/-!
# The legacy dialect

Two motors are known, by the last letters of their names. Operands that are no constants count as
zero, but for a minus sign before something, which must be a constant. Nothing is checked, and
neither comments nor lines are kept.
-/
namespace HubScript.Legacy

/-- The name of the kind of an expression, as failures give it. -/
def kindName : Expr → String
  | .name _ => "Name"
  | .literal _ => "Constant"
  | .unary .. => "UnaryOp"
  | .binary .. => "BinOp"
  | .boolean .. => "BoolOp"
  | .compare .. => "Compare"
  | .conditional .. => "IfExp"
  | .lambda .. => "Lambda"
  | .call .. => "Call"
  | .attribute .. => "Attribute"
  | .subscript .. => "Subscript"
  | .slice .. => "Slice"
  | .starred _ => "Starred"
  | .list _ => "List"
  | .tuple _ => "Tuple"
  | .set _ => "Set"
  | .dict _ => "Dict"
  | .comprehension .list _ _ => "ListComp"
  | .comprehension .set _ _ => "SetComp"
  | .comprehension .generator _ _ => "GeneratorExp"
  | .dictComprehension .. => "DictComp"
  | .joined _ => "JoinedStr"
  | .assigned .. => "NamedExpr"
  | .await _ => "Await"
  | .yield _ => "Yield"
  | .yieldFrom _ => "YieldFrom"

/-- The expression inside another one that is called its value. -/
def inner? : Expr → Option Expr
  | .attribute object _ => some object
  | .subscript object _ => some object
  | .starred value => some value
  | .dictComprehension _ value _ => some value
  | .assigned _ value => some value
  | .await value => some value
  | .yield (some value) => some value
  | .yieldFrom value => some value
  | _ => none

/-- The negative of the constant after a minus sign. -/
def negated (operand : Expr) : Except Failure Value :=
  match operand with
  | .literal value => (Value.ofLiteral value).negate
  | .yield none => Value.none.negate
  | e =>
    match inner? e with
    | some inner => .error (.badUnary "-" (kindName inner))
    | none => .error (.noAttribute (kindName e) "value")

def speed : Expr → Reading Operand
  | .literal value => return .known (.ofLiteral value)
  | .unary .minus operand =>
    match negated operand with
    | .ok value => return .known value
    | .error failure => throw (.failed failure)
  | _ => return .known (.int 0)

def seconds : Expr → Reading Operand
  | .literal value => return .known (.ofLiteral value)
  | _ => return .known (.int 0)

/-- The two motors by their letters. -/
def motor? : String → Option String
  | "motor_a" => some "a"
  | "motor_b" => some "b"
  | _ => none

def dialect : Dialect where
  motor? := motor?
  speed := speed
  seconds := seconds
  content := Current.operand
  argument := Current.operand
  assigned e := do return .text (← e.text)
  returned := Current.operand
  checkWhile _ := return ()
  checkBranch _ := return ()
  keepsComments := false
  keepsLines := false

end HubScript.Legacy
