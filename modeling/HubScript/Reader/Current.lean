import HubScript.Reader.Dialect
import HubScript.Reader.Validation
import HubScript.Value.Negation

/-!
# The current dialect

All ten motors are known and keep their names. Constants are taken as they are; any other operand of
a motor or of a wait must be a number as far as one can tell, and the tests of loops and branches
must be truth values. Texts that stand alone are comments, and every instruction keeps its lines.
-/
namespace HubScript.Current

def motors : List String :=
  ["motor_a", "motor_b", "motor_c", "motor_d", "motor_left", "motor_right", "motor_fl", "motor_fr",
    "motor_bl", "motor_br"]

/-- A constant as a value, anything else as a text. -/
def operand : Expr → Reading Operand
  | .literal value => return .known (.ofLiteral value)
  | e => do return .text (← e.text)

def speed : Expr → Reading Operand
  | .literal value => return .known (.ofLiteral value)
  | .unary .minus (.literal value) =>
    match (Value.ofLiteral value).negate with
    | .ok value => return .known value
    | .error failure => throw (.failed failure)
  | e => if e.isNumeric then do return .text (← e.text) else throw .motorSpeed

def seconds : Expr → Reading Operand
  | .literal value => return .known (.ofLiteral value)
  | e => if e.isNumeric then do return .text (← e.text) else throw .waitTime

def checkTest (refusal : String → Refusal) (test : Expr) : Reading Unit :=
  if test.isBoolean then return ()
  else do throw (refusal (← test.text))

def dialect : Dialect where
  motor? name := if motors.contains name then some name else none
  speed := speed
  seconds := seconds
  content := operand
  argument := operand
  assigned e := do return .text (← e.text)
  returned := operand
  checkWhile := checkTest .whileTest
  checkBranch := checkTest .branchTest
  keepsComments := true
  keepsLines := true

end HubScript.Current
