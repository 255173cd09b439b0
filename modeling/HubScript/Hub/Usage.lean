import HubScript.Hub.Phrase
import HubScript.Instruction.Form
import HubScript.Value.Compare
import HubScript.Value.Text

/-!
# What instructions use

Which motors and sensors a forest of instructions needs, and whether it has to be awaited. The
questions are asked of forms, so that an ill-formed one is a failure where it is met.
-/
namespace HubScript.Hub

/-- The fields of a record. -/
abbrev Fields := List (String × Value)

namespace Fields

/-- The type of an instruction, if it is a text. -/
def type? (fields : Fields) : Option String :=
  match fields.lookup "type" with
  | some (.str s) => some s
  | _ => none

def hasType (fields : Fields) (types : List String) : Bool := fields.type?.any types.contains

/-- Whether an instruction holds others. -/
def isCompound (fields : Fields) : Bool := fields.hasType ["for", "while", "if", "function_def"]

end Fields

/-- The failure of something that is taken for a record. -/
def notRecord (v : Value) : Failure := .noAttribute v.typeName "get"

/-- The motor of an instruction, if it names one. -/
def motorOf (fields : Fields) : Option Value :=
  if fields.hasType ["motor_start", "motor_stop"] then
    (fields.lookup "motor").filter Value.truth
  else none

/-- Adds different values to others. -/
def addAll (items : List Value) : List Value → Except Failure (List Value)
  | [] => .ok items
  | v :: rest => do addAll (← Value.addTo items v) rest

mutual

/-- The motors that a form uses, each once. -/
def formMotors : Form → Except Failure (List Value)
  | .other v => .error (notRecord v)
  | .record fields body orelse => do
    let own ← addAll [] (motorOf fields).toList
    if Fields.isCompound fields then
      let inBody ← suiteMotors body
      let inElse ← suiteMotors orelse
      addAll own (inBody ++ inElse)
    else return own

def suiteMotors : Suite → Except Failure (List Value)
  | .absent => .ok []
  | .forms items => usedMotors items
  | .other v => .error (.notIterable v.typeName)

/-- The motors that forms use, each once. -/
def usedMotors : List Form → Except Failure (List Value)
  | [] => .ok []
  | form :: rest => do
    let own ← formMotors form
    addAll own (← usedMotors rest)

end

/-- The fields whose text can mention a sensor. -/
def sensorFields : List String := ["expression", "speed_expr", "seconds_expr", "condition", "iter"]

/-- Whether one of some fields mentions a sensor. -/
def fieldsMention (fields : Fields) (sensor : String) : List String → Except Failure Bool
  | [] => .ok false
  | name :: rest =>
    match fields.lookup name with
    | some v => do
      if mentions (← v.display) sensor then return true
      fieldsMention fields sensor rest
    | none => fieldsMention fields sensor rest

mutual

def formUses (sensor : String) : Form → Except Failure Bool
  | .other v => .error (notRecord v)
  | .record fields body orelse => do
    if Fields.hasType fields ["ir_direction", "ir_strength"] && sensor == "ir_sensor" then
      return true
    if ← fieldsMention fields sensor sensorFields then return true
    if Fields.isCompound fields then
      if ← suiteUses sensor body then return true
      suiteUses sensor orelse
    else return false

def suiteUses (sensor : String) : Suite → Except Failure Bool
  | .absent => .ok false
  | .forms items => usesSensor sensor items
  | .other v => .error (.notIterable v.typeName)

/-- Whether forms use a sensor. -/
def usesSensor (sensor : String) : List Form → Except Failure Bool
  | [] => .ok false
  | form :: rest => do
    if ← formUses sensor form then return true
    usesSensor sensor rest

end

mutual

def formAwaits : Form → Except Failure Bool
  | .other v => .error (notRecord v)
  | .record fields body orelse => do
    if Fields.hasType fields ["wait", "motor_start"] then return true
    if Fields.isCompound fields then
      if ← suiteAwaits body then return true
      if ← suiteAwaits orelse then return true
    return Fields.hasType fields ["function_call"]

def suiteAwaits : Suite → Except Failure Bool
  | .absent => .ok false
  | .forms items => hasAwait items
  | .other v => .error (.notIterable v.typeName)

/-- Whether forms have something to wait for. A call of a function counts. -/
def hasAwait : List Form → Except Failure Bool
  | [] => .ok false
  | form :: rest => do
    if ← formAwaits form then return true
    hasAwait rest

end

end HubScript.Hub
