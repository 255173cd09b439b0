import HubScript.Hub.Body
import HubScript.Hub.Order
import HubScript.Hub.Setup

/-!
# Hub programs

A program opens with what it imports and the helpers it needs, goes on with the ports of its motors
and sensors, and ends with one function that holds the instructions. Only what the instructions use
is set up.
-/
namespace HubScript.Hub

/-- What the instructions of a program use. -/
structure Needs where
  motors : List Value
  color : Bool
  distance : Bool
  ir : Bool
  gyro : Bool

/-- Finds out what instructions use. -/
def needsOf (forms : List Form) : Except Failure Needs := do
  let motors ← usedMotors forms
  let color ← usesSensor Sensor.color.name forms
  let distance ← usesSensor Sensor.distance.name forms
  let ir ← usesSensor Sensor.ir.name forms
  let gyro ← usesSensor Sensor.gyro.name forms
  return ⟨motors, color, distance, ir, gyro⟩

/-- Lines that are there only if a condition holds. -/
def linesIf (condition : Bool) (lines : List String) : List String :=
  if condition then lines else []

/-- What a program imports. -/
def importLines (needs : Needs) : List String :=
  ["from hub import light_matrix, port", "import runloop", "import motor"] ++
    linesIf needs.color [Sensor.color.importLine] ++
    linesIf needs.distance [Sensor.distance.importLine] ++
    linesIf needs.gyro [Sensor.gyro.importLine] ++
    linesIf needs.ir [Sensor.ir.importLine]

/-- The notes and helpers of a program, each after an empty line. -/
def helperLines (settings : Settings) (needs : Needs) : List String :=
  linesIf needs.ir ("" :: irNotes) ++
    linesIf (!needs.motors.isEmpty && settings.percentSpeeds) ("" :: speedHelper) ++
    linesIf (needs.distance && settings.distanceHelper) ("" :: distanceHelper)

/-- The port and the direction of a motor. -/
def motorLines (motor : Value) : Except Failure (List String) := do
  let name ← capitals motor
  let (port, reversed) := match motor with
    | .str s => (motorPort s, motorReversed s)
    | _ => (motorPort "", motorReversed "")
  let flag := if reversed then "True" else "False"
  return [s!"{name} = {port}", s!"{name}_REVERSED = {flag}"]

def sensorLines (needs : Needs) : List String :=
  let color := sensorPort "color_sensor"
  let distance := sensorPort "distance_sensor"
  let ir := sensorPort "ir_seeker"
  linesIf (needs.color || needs.distance || needs.ir) ["", "# Sensor configuration"] ++
    linesIf needs.color [s!"COLOR_SENSOR = {color}"] ++
    linesIf needs.distance [s!"DISTANCE_SENSOR = {distance}"] ++
    linesIf needs.ir [s!"IR_SEEKER_PORT = {ir}"]

/-- Everything before the main function. -/
def prelude (settings : Settings) (forms : List Form) : Except Failure (List String) := do
  let needs ← needsOf forms
  let motors ← Value.sort needs.motors
  let ports ← motors.mapM motorLines
  return importLines needs ++ helperLines settings needs ++ [""] ++
    linesIf settings.portNote (portNotes ++ [""]) ++
    ["# Motor configuration"] ++ ports.flatten ++ sensorLines needs ++ [""]

/-- Writes the comments before a line, from another one on, with the line after them. -/
def writeCommentsUpTo (indentation : String) (line stop : Value) :
    Work (List String × Value) := do
  let table ← Work.ask Workbench.comments
  let (comments, next) ← Work.take (table.upTo line stop)
  return (comments.map (indentation ++ ·), next)

/-- Writes the instructions of the main function and the comments around them, from a line of the
script on. The line never goes back. -/
def writeMain (inner : String) (line : Value) : List Form → Work (List String)
  | [] => do
    let table ← Work.ask Workbench.comments
    return (← writeCommentsUpTo inner line (.int (table.lines.length + 1))).1
  | form :: rest => do
    let fields ← Work.take (recordFields form)
    let start := fields.startOr line
    let (before, line) ← writeCommentsUpTo inner line start
    let own ← addRemarksOf start (← writeForm form)
    let next ← Work.take (fields.endOr start).successor
    let next ← Work.take (Value.larger line next)
    return before ++ own ++ (← writeMain inner next rest)

/-- The text of a program from the lines before and in its main function. -/
def assembled (opening body : List String) : String :=
  "\n".intercalate (opening ++ ["async def main():"] ++ body ++ ["", "runloop.run(main())"])

/-- Makes a program. The comments of the script are at hand from then on, and the level is that of
the main function once everything before it is known. -/
def writeProgram (forms : List Form) (script : String) : Work String := do
  Work.load script
  let opening ← Work.take (prelude (← Work.ask Workbench.settings) forms)
  Work.setLevel 1
  let inner ← Work.indent
  let body ← writeMain inner (.int 1) (← Work.take (arranged forms))
  return assembled opening body

end HubScript.Hub
