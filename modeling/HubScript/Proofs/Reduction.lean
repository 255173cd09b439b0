import HubScript.Proofs.InstructionRecord

/-!
# What the older dialects keep

The older dialects keep neither lines nor comments and call the two motors they know by letters.
Reducing leaves this much of instructions, and of the records in which they travel: comments go at
every depth, with the other part of a branch that held nothing else. The record of what is left of
an instruction is what is left of its record.
-/
namespace HubScript

/-- The name of a motor in the older dialects. -/
def motorLetter : String → String
  | "motor_a" => "a"
  | "motor_b" => "b"
  | name => name

namespace Legacy

theorem motor?_of_known {motor : String} (h : motor = "motor_a" ∨ motor = "motor_b") :
    motor? motor = some (motorLetter motor) := by
  rcases h with rfl | rfl <;> rfl

theorem motor?_of_not_mem {object : String} (h : object ∉ Current.motors) :
    motor? object = none := by
  unfold motor?
  split
  · exact absurd (by decide) h
  · exact absurd (by decide) h
  · rfl

end Legacy

/-- What is left of a step: nothing of a comment, and of a motor its letter. -/
def Step.reduced? : Step → Option Step
  | .comment _ => none
  | .startMotor motor speed => some (.startMotor (motorLetter motor) speed)
  | .stopMotor motor => some (.stopMotor (motorLetter motor))
  | act => some act

def Info.reduced (info : Info) : Info := ⟨info.awaited, none⟩

mutual

/-- What is left of an instruction: nothing of a comment. -/
def Instruction.reduced? : Instruction → Option Instruction
  | .step act info => act.reduced?.map fun act => .step act info.reduced
  | .block head body info => some (.block head (reducedAll body) info.reduced)
  | .branch condition body orelse info =>
    some (.branch condition (reducedAll body) (reducedAll orelse) info.reduced)

def reducedAll : List Instruction → List Instruction
  | [] => []
  | i :: rest => i.reduced?.toList ++ reducedAll rest

end

namespace Hub.Fields

def isComment (fields : Fields) : Bool := fields.hasType ["comment_block"]

/-- The fields but for the lines, with a motor by its letter. -/
def reduced (fields : Fields) : Fields :=
  fields.filterMap fun (name, value) =>
    if name = "lineno" ∨ name = "end_lineno" then none
    else match name, value with
      | "motor", .str motor => some ("motor", .str (motorLetter motor))
      | _, _ => some (name, value)

end Hub.Fields

namespace Form

def isComment : Form → Bool
  | .record fields _ _ => Hub.Fields.isComment fields
  | .other _ => false

end Form

/-- A part that holds no forms any more is not there. -/
def Suite.pruned : Suite → Suite
  | .forms [] => .absent
  | suite => suite

mutual

/-- What is left of a record. -/
def Form.reduced : Form → Form
  | .record fields body orelse =>
    .record (Hub.Fields.reduced fields) body.reduced orelse.reduced.pruned
  | .other value => .other value

def Suite.reduced : Suite → Suite
  | .absent => .absent
  | .forms items => .forms (reducedForms items)
  | .other value => .other value

/-- What is left of records, comments apart. -/
def reducedForms : List Form → List Form
  | [] => []
  | form :: rest =>
    if form.isComment then reducedForms rest else form.reduced :: reducedForms rest

end

namespace Hub.Fields

theorem reduced_append (fields others : Fields) :
    reduced (fields ++ others) = reduced fields ++ reduced others :=
  List.filterMap_append

theorem reduced_info (info : Info) : reduced info.fields = info.reduced.fields := by
  obtain ⟨awaited, span⟩ := info
  cases awaited <;> cases span <;> rfl

theorem reduced_head (head : Head) : reduced head.fields = head.fields := by
  cases head <;> rfl

theorem reduced_step {act act' : Step} (h : act.reduced? = some act') :
    reduced act.fields = act'.fields := by
  cases act with
  | comment => cases h
  | startMotor _ operand | wait operand | print operand | assign _ operand
  | giveBack operand => obtain rfl := Option.some.inj h; cases operand <;> rfl
  | _ => obtain rfl := Option.some.inj h; rfl

end Hub.Fields

theorem Suite.reduced_pruned (suite : Suite) :
    suite.pruned.reduced.pruned = suite.reduced.pruned := by
  cases suite with
  | forms items => cases items <;> rfl
  | _ => rfl

namespace Instruction

theorem elseSuite_eq (i : Instruction) :
    i.elseSuite = (Suite.forms (formsOf i.orelse)).pruned := by
  rw [elseSuite]
  cases i.orelse <;> simp only [formsOf, Suite.pruned]

/-- Just the comments are recorded as comments. -/
theorem isComment_form (i : Instruction) : i.form.isComment = i.reduced?.isNone := by
  cases i with
  | step act info => cases act <;> rfl
  | block head body info => cases head <;> rfl
  | branch => rfl

section Reduced

variable {i left : Instruction}

theorem fields_reduced (h : i.reduced? = some left) :
    Hub.Fields.reduced i.fields = left.fields := by
  have hfields : Hub.Fields.reduced i.ownFields = left.ownFields ∧ left.info = i.info.reduced := by
    cases i with
    | step act info =>
      obtain ⟨act', hact, rfl⟩ := Option.map_eq_some_iff.mp h
      exact ⟨Hub.Fields.reduced_step hact, rfl⟩
    | block head body info =>
      obtain rfl := Option.some.inj h
      exact ⟨Hub.Fields.reduced_head head, rfl⟩
    | branch condition body orelse info =>
      obtain rfl := Option.some.inj h
      exact ⟨rfl, rfl⟩
  rw [fields, Hub.Fields.reduced_append, hfields.1, Hub.Fields.reduced_info, ← hfields.2, fields]

/-- The parts of what is left are what is left of the parts. -/
theorem parts_reduced (h : i.reduced? = some left) :
    left.isCompound = i.isCompound ∧ left.body = reducedAll i.body ∧
      left.orelse = reducedAll i.orelse := by
  cases i with
  | step act info =>
    obtain ⟨act', _, rfl⟩ := Option.map_eq_some_iff.mp h
    exact ⟨rfl, rfl, rfl⟩
  | block | branch =>
    obtain rfl := Option.some.inj h
    exact ⟨rfl, rfl, rfl⟩

theorem form_reduced (h : i.reduced? = some left)
    (hbody : reducedForms (formsOf i.body) = formsOf (reducedAll i.body))
    (horelse : reducedForms (formsOf i.orelse) = formsOf (reducedAll i.orelse)) :
    i.form.reduced = left.form := by
  obtain ⟨hcompound, hleftBody, hleftElse⟩ := parts_reduced h
  have hbodySuite : i.bodySuite.reduced = left.bodySuite := by
    rw [bodySuite, bodySuite, hcompound, hleftBody, ← hbody]
    split <;> rfl
  have helseSuite : i.elseSuite.reduced.pruned = left.elseSuite := by
    rw [elseSuite_eq, elseSuite_eq, Suite.reduced_pruned, Suite.reduced, horelse, hleftElse]
  rw [form_eq, form_eq, Form.reduced, fields_reduced h, hbodySuite, helseSuite]

end Reduced

end Instruction

/-- Nothing is lost of what a sensor is asked. -/
theorem Dialect.sensor_reduced (object method : String) :
    (if object == "ir_sensor" then sensorCall method else none).bind Step.reduced? =
      if object == "ir_sensor" then sensorCall method else none := by
  unfold sensorCall
  split
  · split <;> rfl
  · rfl

/-- The records of what is left of instructions are what is left of their records. -/
theorem reducedForms_formsOf (instrs : List Instruction) :
    reducedForms (formsOf instrs) = formsOf (reducedAll instrs) := by
  induction instrs using Instruction.forest_induction
    (P := fun i => ∀ left, i.reduced? = some left → i.form.reduced = left.form) with
  | step act info left h => exact Instruction.form_reduced h rfl rfl
  | compound i _ ihbody ihorelse left h => exact Instruction.form_reduced h ihbody ihorelse
  | nil => rfl
  | cons i rest ihi ihrest =>
    simp only [formsOf, reducedForms, reducedAll, Instruction.isComment_form]
    cases h : i.reduced? with
    | none => exact ihrest
    | some left => simp [ihi left h, ihrest, formsOf]

end HubScript
