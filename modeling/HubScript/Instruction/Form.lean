import HubScript.Instruction.Basic

/-!
# Forms

An instruction as a record of named fields, which is how it travels. The parts `body` and `orelse`
hold forms again; every other field holds a value. A form that arrives from elsewhere need not be
an instruction, nor even a record.
-/
namespace HubScript

mutual

inductive Form where
  | record (fields : List (String × Value)) (body orelse : Suite)
  /-- Something that is not a record. -/
  | other (value : Value)

/-- A part of a record that holds further forms. -/
inductive Suite where
  | absent
  | forms (items : List Form)
  /-- A value in the place of the forms that has no items. -/
  | other (value : Value)

end

instance : Inhabited Form := ⟨.other .none⟩

namespace Form

/-- Sets a field in front of the others; `suite` is its value as a suite. -/
def set (form : Form) (name : String) (value : Value) (suite : Suite) : Form :=
  match form with
  | .other v => .other v
  | .record fields body orelse =>
    if name == "body" then .record fields suite orelse
    else if name == "orelse" then .record fields body suite
    else .record ((name, value) :: fields) body orelse

end Form

mutual

/-- A value as a form: a record if its keys are names. -/
def Form.ofValue : Value → Form
  | .dict entries => formOfEntries entries
  | v => .other v

def formOfEntries : List (Value × Value) → Form
  | [] => .record [] .absent .absent
  | (.str name, value) :: rest => (formOfEntries rest).set name value (Suite.ofValue value)
  | _ :: rest => formOfEntries rest

/-- A value as a suite: its items, if it has any. -/
def Suite.ofValue : Value → Suite
  | .list items => .forms (formsOfValues items)
  | .tuple items => .forms (formsOfValues items)
  | v =>
    match v.items? with
    | some items => .forms (items.map Form.other)
    | none => .other v

def formsOfValues : List Value → List Form
  | [] => []
  | v :: rest => Form.ofValue v :: formsOfValues rest

end

/-- The field of an operand has one name for a value and another for a text. -/
def Operand.field (known text : String) : Operand → String × Value
  | .known value => (known, value)
  | .text expression => (text, .str expression)

/-- An argument of a call as a record of its own. -/
def Operand.argument (operand : Operand) : Value :=
  let entry (kind : String) (value : Value) : Value :=
    .dict [(.str "type", .str kind), (.str "value", value)]
  match operand with
  | .known value => entry "constant" value
  | .text expression => entry "expression" (.str expression)

def Step.fields : Step → List (String × Value)
  | .comment text => [("type", .str "comment_block"), ("text", .str text)]
  | .startMotor motor speed =>
    [("type", .str "motor_start"), ("motor", .str motor), speed.field "speed" "speed_expr"]
  | .stopMotor motor => [("type", .str "motor_stop"), ("motor", .str motor)]
  | .irDirection => [("type", .str "ir_direction")]
  | .irStrength => [("type", .str "ir_strength")]
  | .wait seconds => [("type", .str "wait"), seconds.field "seconds" "seconds_expr"]
  | .print content => [("type", .str "print"), content.field "message" "expression"]
  | .assign target value =>
    [("type", .str "assign"), ("variable", .str target), value.field "value" "expression"]
  | .leaveLoop => [("type", .str "break")]
  | .giveBack value => [("type", .str "return"), value.field "value" "expression"]
  | .call function arguments =>
    [("type", .str "function_call"), ("name", .str function),
      ("args", .list (arguments.map Operand.argument))]

def Head.fields : Head → List (String × Value)
  | .forEach target source =>
    [("type", .str "for"), ("target", .str target), ("iter", .str source)]
  | .whileLoop condition => [("type", .str "while"), ("condition", .str condition)]
  | .define name params =>
    [("type", .str "function_def"), ("name", .str name),
      ("params", .list (params.map Value.str))]

def Info.fields (info : Info) : List (String × Value) :=
  (if info.awaited then [("await", .bool true)] else []) ++
    match info.span with
    | some span => [("lineno", .int span.first), ("end_lineno", .int span.last)]
    | none => []

mutual

/-- The record of an instruction. A branch without another part has no field for it. -/
def Instruction.form : Instruction → Form
  | .step act info => .record (act.fields ++ info.fields) .absent .absent
  | .block head body info =>
    .record (head.fields ++ info.fields) (.forms (formsOf body)) .absent
  | .branch condition body orelse info =>
    let fields := [("type", .str "if"), ("condition", .str condition)] ++ info.fields
    let other := match orelse with
      | [] => Suite.absent
      | _ => .forms (formsOf orelse)
    .record fields (.forms (formsOf body)) other

def formsOf : List Instruction → List Form
  | [] => []
  | i :: rest => i.form :: formsOf rest

end

end HubScript
