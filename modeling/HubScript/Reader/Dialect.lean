import HubScript.Instruction.Basic
import HubScript.Value.Failure

/-!
# Dialects

How a script becomes instructions. The dialects share the walk over the statements; they differ in
the motors they know, in how they take operands, in which tests they accept, and in what they keep
of the script's layout. A statement that no instruction stands for is passed over.
-/
namespace HubScript

/-- Why a script that is well formed is not accepted. -/
inductive Refusal where
  | motorSpeed
  | waitTime
  | whileTest (text : String)
  | branchTest (text : String)
  /-- An operation on the values of the script fails. -/
  | failed (failure : Failure)
  deriving DecidableEq, Repr

namespace Refusal

def message : Refusal → String
  | .motorSpeed => "motor.start() expects a numeric expression (e.g., 50, speeds[i], x+5)."
  | .waitTime => "wait() expects a numeric expression in seconds."
  | .whileTest text => s!"while condition must be a boolean expression, got: {text}"
  | .branchTest text => s!"if condition must be a boolean expression, got: {text}"
  | .failed failure => failure.message

end Refusal

abbrev Reading := Except Refusal

/-- The text of an expression. -/
def Expr.text (e : Expr) : Reading String :=
  match e.print with
  | .ok text => .ok text
  | .error fault => .error (.failed (.print fault))

structure Dialect where
  /-- The name a motor goes by in instructions, if it is a motor. -/
  motor? : String → Option String
  speed : Expr → Reading Operand
  seconds : Expr → Reading Operand
  /-- The only argument of a print. -/
  content : Expr → Reading Operand
  argument : Expr → Reading Operand
  assigned : Expr → Reading Operand
  returned : Expr → Reading Operand
  checkWhile : Expr → Reading Unit
  checkBranch : Expr → Reading Unit
  keepsComments : Bool
  keepsLines : Bool

namespace Dialect

/-- A method called on a motor. A start without a speed is passed over. -/
def motorCall (d : Dialect) (motor method : String) (arguments : List Expr) :
    Reading (Option Step) :=
  match method, arguments with
  | "start", argument :: _ => do return some (.startMotor motor (← d.speed argument))
  | "stop", _ => return some (.stopMotor motor)
  | _, _ => return none

def sensorCall (method : String) : Option Step :=
  match method with
  | "get_direction" => some .irDirection
  | "get_strength" => some .irStrength
  | _ => none

/-- Several arguments of a print are joined by blanks. -/
def joinedContent (arguments : List Expr) : Reading String := do
  return " + ' ' + ".intercalate (← arguments.mapM Expr.text)

def functionCall (d : Dialect) (name : String) (arguments : List Expr) : Reading Step :=
  match name, arguments with
  | "wait", argument :: _ => do return .wait (← d.seconds argument)
  | "print", [] => return .print (.known (.str ""))
  | "print", [argument] => do return .print (← d.content argument)
  | "print", arguments => do return .print (.text (← joinedContent arguments))
  | name, arguments => do return .call name (← arguments.mapM d.argument)

/-- The instruction of a call, if it has one. -/
def call (d : Dialect) (function : Expr) (arguments : List Expr) : Reading (Option Step) :=
  match function with
  | .attribute (.name object) method =>
    match d.motor? object with
    | some motor => d.motorCall motor method arguments
    | none => return if object == "ir_sensor" then sensorCall method else none
  | .name name => do return some (← d.functionCall name arguments)
  | _ => return none

def info (d : Dialect) (awaited : Bool) (span : Span) : Info :=
  ⟨awaited, if d.keepsLines then some span else none⟩

/-- The instruction of an expression that stands alone. -/
def expressionStmt (d : Dialect) (span : Span) (value : Expr) : Reading (Option Instruction) :=
  let step (awaited : Bool) (act : Option Step) : Option Instruction :=
    act.map fun act => .step act (d.info awaited span)
  match value with
  | .literal (.text text _) =>
    return if d.keepsComments then step false (some (.comment text)) else none
  | .call function arguments _ => do return step false (← d.call function arguments)
  | .await (.call function arguments _) => do return step true (← d.call function arguments)
  | _ => return none

/-- A value given back; without one it is the value of nothing. -/
def resultOf (d : Dialect) : Option Expr → Reading Operand
  | none => return .known .none
  | some e => d.returned e

mutual

/-- The instruction of a statement, if it has one. A test is checked before the body is read and
written after it. -/
def statement (d : Dialect) : Stmt → Reading (Option Instruction)
  | .expr span value => d.expressionStmt span value
  | .assign span [.name target] value => do
    return some (.step (.assign target (← d.assigned value)) (d.info false span))
  | .assign _ _ _ => return none
  | .forEach span target source body => do
    let body ← d.statements body
    let target ← target.text
    let source ← source.text
    return some (.block (.forEach target source) body (d.info false span))
  | .whileLoop span test body => do
    d.checkWhile test
    let body ← d.statements body
    return some (.block (.whileLoop (← test.text)) body (d.info false span))
  | .branch span test body orelse => do
    d.checkBranch test
    let body ← d.statements body
    let orelse ← d.statements orelse
    return some (.branch (← test.text) body orelse (d.info false span))
  | .stop span => return some (.step .leaveLoop (d.info false span))
  | .define span name params body => do
    let body ← d.statements body
    return some (.block (.define name (params.plain.map Param.name)) body (d.info false span))
  | .returns span value => do
    return some (.step (.giveBack (← d.resultOf value)) (d.info false span))
  | .other _ => return none

def statements (d : Dialect) : List Stmt → Reading (List Instruction)
  | [] => return []
  | stmt :: rest => do
    let found ← d.statement stmt
    let others ← d.statements rest
    return found.toList ++ others

end

end Dialect

end HubScript
