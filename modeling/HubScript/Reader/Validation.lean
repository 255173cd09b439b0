import HubScript.Script.Syntax

/-!
# Validation of expressions

Which expressions can be worked out on the robot: numbers, truth values and texts, as far as this
shows from the expression alone. A name may stand for anything.
-/
namespace HubScript

/-- The sensor methods that give numbers. -/
def sensorMethods : List String :=
  ["distance_sensor.get_distance",
    "distance_sensor.get_distance_cm",
    "color_sensor.get_reflected_light",
    "ir_sensor.get_direction",
    "ir_sensor.get_strength",
    "gyro_sensor.get_angle",
    "gyro_sensor.get_rate"]

def Literal.isNumber : Literal → Bool
  | .bool _ => true
  | .int _ => true
  | .float _ => true
  | _ => false

def UnaryOp.isSign : UnaryOp → Bool
  | .plus => true
  | .minus => true
  | _ => false

/-- The four operations that a robot can carry out on numbers. -/
def BinaryOp.isBasic : BinaryOp → Bool
  | .add => true
  | .sub => true
  | .mul => true
  | .div => true
  | _ => false

namespace Expr

/-- The names of a chain of attributes on a name, from the outside in. -/
def dotted? : Expr → Option (List String)
  | .name id => some [id]
  | .attribute object field => (dotted? object).map (· ++ [field])
  | _ => none

/-- Whether an expression is one of the sensor methods. -/
def isSensorMethod (e : Expr) : Bool :=
  match e.dotted? with
  | some names => sensorMethods.contains (".".intercalate names)
  | none => false

def isAttribute : Expr → Bool
  | .attribute .. => true
  | _ => false

mutual

/-- Whether an expression is a number as far as one can tell. -/
def isNumeric : Expr → Bool
  | .literal value => value.isNumber
  | .name _ => true
  | .unary op operand => op.isSign && isNumeric operand
  | .binary op left right => op.isBasic && isNumeric left && isNumeric right
  | .subscript object index => isNumeric object && isNumeric index
  | .call function arguments _ =>
    function.isAttribute && function.isSensorMethod && allNumeric arguments
  | _ => false

def allNumeric : List Expr → Bool
  | [] => true
  | e :: rest => isNumeric e && allNumeric rest

end

mutual

/-- Whether an expression is a truth value as far as one can tell. -/
def isBoolean : Expr → Bool
  | .literal (.bool _) => true
  | .name _ => true
  | .compare .. => true
  | .boolean _ operands => allBoolean operands
  | .unary .not operand => isBoolean operand
  | _ => false

def allBoolean : List Expr → Bool
  | [] => true
  | e :: rest => isBoolean e && allBoolean rest

end

/-- Whether an expression is a text as far as one can tell. -/
def isTextual : Expr → Bool
  | .literal (.text _ _) => true
  | .name _ => true
  | .call (.attribute (.name "color_sensor") "get_color") _ _ => true
  | _ => false

/-- Whether the function of a call, or else the expression itself, is a sensor method. -/
def callsSensor : Expr → Bool
  | .call function _ _ => function.isSensorMethod
  | e => e.isSensorMethod

end Expr

end HubScript
