import HubScript.Hub.Settings
import HubScript.Hub.Usage
import HubScript.Text.Capital
import HubScript.Value.Whole

/-!
# Statements of a hub program

The text of one instruction: a statement for a step, a header for an instruction with others inside
it. Fields are looked up where they are needed, and the first one that is missing or of the wrong
kind is the failure.
-/
namespace HubScript.Hub

open Text

namespace Fields

/-- A field that has to be there. -/
def need (fields : Fields) (name : String) : Except Failure Value :=
  match fields.lookup name with
  | some v => .ok v
  | none => .error (.missingKey (quoted name))

/-- A field that has to be a text, in the words of the hub. -/
def expression (fields : Fields) (name : String) : Except Failure String := do
  valueToHub (← fields.need name)

end Fields

/-- The name of a motor in capitals. -/
def capitals : Value → Except Failure String
  | .str s => .ok (upper s)
  | .bytes bs =>
    .ok (quotedBytes (bs.map fun b => if 97 ≤ b && b ≤ 122 then b - 32 else b))
  | v => .error (.noAttribute v.typeName "upper")

/-- Starts a motor. Without a speed there is nothing to do. -/
def startMotor (settings : Settings) (fields : Fields) : Except Failure (List String) := do
  let name ← capitals (← fields.need "motor")
  let run (helper speed : String) : List String :=
    [s!"motor.run({name}, {helper}({speed}, {name}_REVERSED))"]
  match fields.lookup "speed", fields.lookup "speed_expr" with
  | some speed, _ =>
    let speed ← speed.display
    return run (if settings.percentSpeeds then "percent_to_dps" else "apply_direction") speed
  | none, some expression =>
    let text ← valueToHub expression
    if settings.percentSpeeds then return run "percent_to_dps" text
    else return run "apply_direction" s!"int({text})"
  | none, none => return []

/-- Waits, in milliseconds. -/
def waitFor (fields : Fields) : Except Failure (List String) := do
  match fields.lookup "seconds", fields.lookup "seconds_expr" with
  | some seconds, _ =>
    let ms ← Value.writeInt (← seconds.thousandfold)
    return [s!"await runloop.sleep_ms({ms})"]
  | none, some expression =>
    let text ← valueToHub expression
    return [s!"await runloop.sleep_ms(int({text} * 1000))"]
  | none, none => return []

def printed (fields : Fields) : Except Failure (List String) := do
  match fields.lookup "message", fields.lookup "expression" with
  | some message, _ =>
    let text ← message.write
    return [s!"print({text})"]
  | none, some expression =>
    let text ← valueToHub expression
    return [s!"print({text})"]
  | none, none => return []

/-- Words that mark an expression as one without a call of a function of the script. -/
def plainCalls : List String :=
  ["get_distance", "get_color", "get_reflected_light", "get_angle", "get_rate", "range"]

/-- Whether an expression looks like a call of a function of the script. -/
def looksAwaited (expression : String) : Bool :=
  mentions expression "(" && !plainCalls.any (mentions expression)

def assigned (fields : Fields) : Except Failure (List String) := do
  let target ← fields.need "variable"
  let text ← fields.expression "expression"
  let target ← target.display
  if looksAwaited text then return [s!"{target} = await {text}"]
  return [s!"{target} = {text}"]

def givenBack (fields : Fields) : Except Failure (List String) := do
  match fields.lookup "value", fields.lookup "expression" with
  | none, some expression | some .none, some expression =>
    let text ← valueToHub expression
    return [s!"return {text}"]
  | none, none | some .none, none => return ["return"]
  | some value, _ =>
    let text ← value.write
    return [s!"return {text}"]

/-- A member of a value by its name, which only records have. -/
def member (name : String) : Value → Except Failure Value
  | .dict entries =>
    match entries.find? fun entry => entry.1.equal (.str name) with
    | some entry => .ok entry.2
    | none => .error (.missingKey (quoted name))
  | .str _ => .error (.textIndex "str")
  | .list _ => .error (.sequenceIndex "list" "str")
  | .tuple _ => .error (.sequenceIndex "tuple" "str")
  | .bytes _ => .error (.sequenceIndex "byte" "str")
  | v => .error (.notIndexable v.typeName)

/-- The text of an argument: a constant as it is written, or an expression. -/
def argument (v : Value) : Except Failure String := do
  if (← member "type" v).equal (.str "constant") then (← member "value" v).write
  else valueToHub (← member "value" v)

def called (fields : Fields) : Except Failure (List String) := do
  let name ← fields.need "name"
  let arguments := (fields.lookup "args").getD (.list [])
  match arguments.items? with
  | some items =>
    let texts ← items.mapM argument
    let name ← name.display
    return [s!"await {name}({Printer.commas texts})"]
  | none => .error (.notIterable arguments.typeName)

/-- The statements of an instruction that holds no others. Unknown ones have none. -/
def statements (settings : Settings) (fields : Fields) : Except Failure (List String) :=
  match fields.type? with
  | some "motor_start" => startMotor settings fields
  | some "motor_stop" => do
    let name ← capitals (← fields.need "motor")
    return [s!"motor.stop({name})"]
  | some "wait" => waitFor fields
  | some "print" => printed fields
  | some "assign" => assigned fields
  | some "break" => .ok ["break"]
  | some "return" => givenBack fields
  | some "function_call" => called fields
  | _ => .ok []

/-- Texts with commas between them. `position` is that of the first one. -/
def joinTexts (position : Nat) : List Value → Except Failure (List String)
  | [] => .ok []
  | .str s :: rest => do return s :: (← joinTexts (position + 1) rest)
  | v :: _ => .error (.joinItem position v.typeName)

def parameters (v : Value) : Except Failure String :=
  match v.items? with
  | some items => do return Printer.commas (← joinTexts 0 items)
  | none => .error .cannotJoin

/-- The header of an instruction that holds others. -/
inductive Header where
  | loop (text : String)
  | branch (text : String)
  | function (text : String)

namespace Header

def text : Header → String
  | .loop text => text
  | .branch text => text
  | .function text => text

end Header

/-- The header of an instruction, if it is one that holds others. -/
def header? (fields : Fields) : Except Failure (Option Header) :=
  match fields.type? with
  | some "for" => do
    let target ← fields.need "target"
    let source ← fields.expression "iter"
    let target ← target.display
    return some (.loop s!"for {target} in {source}:")
  | some "while" => do
    let condition ← fields.expression "condition"
    return some (.loop s!"while {condition}:")
  | some "if" => do
    let condition ← fields.expression "condition"
    return some (.branch s!"if {condition}:")
  | some "function_def" => do
    let name ← fields.need "name"
    let params ← parameters (← fields.need "params")
    let name ← name.display
    return some (.function s!"async def {name}({params}):")
  | _ => .ok none

end HubScript.Hub
