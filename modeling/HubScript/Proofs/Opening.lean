import HubScript.Proofs.Wording
import Mathlib.Data.List.Sort
import Mathlib.Data.String.Basic

/-!
# The opening of a program

What stands before the main function can be made for every forest of instructions: motors are named
by texts, which can be told apart, put in order and written in capitals. A sensor is set up if an
expression that is kept mentions it, arguments of calls apart, or if the infrared seeker is read.
-/
namespace HubScript

open Hub (Sensor mentions)

/-- The motor that an instruction starts or stops. -/
def Instruction.motor? : Instruction → Option String
  | .step (.startMotor motor _) _ => some motor
  | .step (.stopMotor motor) _ => some motor
  | _ => none

namespace Hub

/-- The names of the motors that some instructions start or stop, each once. A motor without a name
is left out. -/
structure NamesMotors (instrs : List Instruction) (names : List String) : Prop where
  nodup : names.Nodup
  mem_iff : ∀ name, name ∈ names ↔ name ≠ "" ∧ ∃ i ∈ instrs, i.motor? = some name

theorem addAll_names (first others : List String) :
    ∃ all : List String, addAll (first.map Value.str) (others.map Value.str) =
        .ok (all.map Value.str) ∧
      (first.Nodup → all.Nodup) ∧ ∀ name, name ∈ all ↔ name ∈ first ∨ name ∈ others := by
  induction others generalizing first with
  | nil => exact ⟨first, rfl, id, by simp⟩
  | cons name rest ih =>
    have hany : (first.map Value.str).any ((Value.str name).equal ·) = true ↔ name ∈ first := by
      simp [List.any_map, Value.equal]
    have hadded : Value.addTo (first.map Value.str) (.str name) =
        .ok ((if name ∈ first then first else first ++ [name]).map Value.str) := by
      change Except.ok (if _ then _ else _) = _
      simp only [hany]
      split <;> simp
    obtain ⟨all, hall, hnodup, hmem⟩ := ih (if name ∈ first then first else first ++ [name])
    refine ⟨all, by rw [List.map_cons, addAll, hadded]; exact hall, fun hfirst => hnodup ?_, ?_⟩
    · split
      · exact hfirst
      · rename_i hnew
        exact List.nodup_append.mpr ⟨hfirst, by simp, by rintro a ha b hb rfl; simp_all⟩
    · intro other
      rw [hmem]
      split <;> grind

namespace NamesMotors

variable {instrs others : List Instruction} {names moreNames : List String}

theorem addAll (h : NamesMotors instrs names) (hothers : NamesMotors others moreNames) :
    ∃ all : List String, Hub.addAll (names.map Value.str) (moreNames.map Value.str) =
        .ok (all.map Value.str) ∧ NamesMotors (instrs ++ others) all := by
  obtain ⟨all, hall, hnodup, hmem⟩ := addAll_names names moreNames
  refine ⟨all, hall, hnodup h.nodup, fun name => ?_⟩
  rw [hmem, h.mem_iff, hothers.mem_iff]
  simp only [List.mem_append, or_and_right, exists_or, and_or_left]

end NamesMotors

theorem motorOf_eq (i : Instruction) :
    motorOf i.fields = (i.motor?.filter (· ≠ "")).map Value.str := by
  have htruth (name : String) : (some (Value.str name)).filter Value.truth =
      ((some name).filter (· ≠ "")).map Value.str := by
    by_cases hname : name = ""
    · subst hname
      rfl
    · simp [Option.filter, Value.truth, hname]
  cases i with
  | step act info =>
    cases act with
    | startMotor motor speed => exact htruth motor
    | stopMotor motor => exact htruth motor
    | _ => rfl
  | block head body info => cases head <;> rfl
  | branch => rfl

theorem ownMotors (i : Instruction) :
    ∃ names : List String, addAll [] (motorOf i.fields).toList = .ok (names.map Value.str) ∧
      NamesMotors [i] names := by
  refine ⟨(i.motor?.filter (· ≠ "")).toList, ?_, ?_, fun name => ?_⟩
  · rw [motorOf_eq]
    cases i.motor?.filter (· ≠ "") <;> rfl
  · cases i.motor?.filter (· ≠ "") <;> simp
  · simp [Option.mem_toList, Option.filter_eq_some_iff, and_comm]

/-- The motors that are found in a forest are named, each once. -/
theorem usedMotors_names (instrs : List Instruction) :
    ∃ names : List String, usedMotors (formsOf instrs) = .ok (names.map Value.str) ∧
      NamesMotors (nestedAll instrs) names := by
  refine Instruction.forest_induction
    (P := fun i => ∃ names : List String, formMotors i.form = .ok (names.map Value.str) ∧
      NamesMotors i.nested names)
    (Q := fun instrs => ∃ names : List String,
      usedMotors (formsOf instrs) = .ok (names.map Value.str) ∧
        NamesMotors (nestedAll instrs) names)
    ?step ?compound ?nil ?cons instrs
  case step =>
    intro act info
    obtain ⟨own, hown, hnames⟩ := ownMotors (.step act info)
    refine ⟨own, ?_, by simpa [Instruction.nested] using hnames⟩
    rw [Instruction.form_eq, formMotors, hown, ok_bind, Instruction.isCompound_fields]
    rfl
  case compound =>
    rintro i hcompound ⟨inBody, hbody, hbodyNames⟩ ⟨inElse, helse, helseNames⟩
    obtain ⟨own, hown, hownNames⟩ := ownMotors i
    have hsuite : suiteMotors i.elseSuite = .ok (inElse.map Value.str) := by
      rw [← helse]
      exact i.apply_elseSuite rfl fun _ => rfl
    obtain ⟨all, hall, hnodup, hmem⟩ := addAll_names own (inBody ++ inElse)
    refine ⟨all, ?_, hnodup hownNames.nodup, fun name => ?_⟩
    · rw [Instruction.form_eq, formMotors, hown, ok_bind, Instruction.isCompound_fields, hcompound,
        Instruction.bodySuite_of_compound hcompound, suiteMotors, hbody, hsuite]
      simpa using hall
    · rw [hmem, List.mem_append, hownNames.mem_iff, hbodyNames.mem_iff, helseNames.mem_iff,
        Instruction.nested_eq]
      simp only [List.mem_cons, List.mem_append, List.not_mem_nil, or_false, or_and_right,
        exists_or, and_or_left]
  case nil => exact ⟨[], rfl, by simp, by simp [nestedAll]⟩
  case cons =>
    rintro i rest ⟨own, hown, hownNames⟩ ⟨others, hothers, hrest⟩
    obtain ⟨all, hall, hnames⟩ := hownNames.addAll hrest
    refine ⟨all, ?_, by simpa [nestedAll] using hnames⟩
    rw [formsOf, usedMotors, hown, hothers]
    exact hall

end Hub

/-- The sensor is mentioned where it is looked for. The arguments of calls are not looked at. -/
def KeptText.shows (sensor : Sensor) (k : KeptText) : Bool :=
  k.position != .argument && mentions k.text sensor.name

/-- Whether an instruction has no other use than to read the infrared seeker. -/
def Instruction.readsSeeker : Instruction → Bool
  | .step .irDirection _ | .step .irStrength _ => true
  | _ => false

/-- Whether an instruction itself is found to use a sensor. -/
def Instruction.reads (sensor : Sensor) (i : Instruction) : Bool :=
  i.readsSeeker && sensor == .ir || i.kept.any (KeptText.shows sensor)

namespace Hub

theorem fieldsMention_append_info (fields : Fields) (info : Info) (sensor : String)
    {names : List String} (h : ∀ name ∈ names, name ∉ infoFields) :
    fieldsMention (fields ++ info.fields) sensor names = fieldsMention fields sensor names := by
  induction names with
  | nil => rfl
  | cons name rest ih =>
    rw [fieldsMention, fieldsMention, lookup_append_info fields info (h name List.mem_cons_self),
      ih fun other hother => h other (List.mem_cons_of_mem name hother)]

/-- The fields that can mention a sensor are those in which expressions are kept, arguments
apart. -/
theorem fieldsMention_eq (i : Instruction) (sensor : Sensor) :
    fieldsMention i.fields sensor.name sensorFields = .ok (i.kept.any (KeptText.shows sensor)) := by
  have hfound (expression : String) :
      (if mentions expression sensor.name then .ok true else .ok false : Except Failure Bool) =
        .ok (mentions expression sensor.name || false) := by
    cases mentions expression sensor.name <;> rfl
  rw [Instruction.fields, fieldsMention_append_info _ _ _ (by decide)]
  cases i with
  | step act info =>
    cases act with
    | startMotor _ operand | wait operand | print operand | assign _ operand
    | giveBack operand =>
      cases operand with
      | known => rfl
      | text expression => exact hfound expression
    | call function arguments =>
      have hnone : (Step.call function arguments).kept.any (KeptText.shows sensor) = false := by
        rw [List.any_eq_false]
        intro k hk
        obtain ⟨operand, -, hk⟩ := List.mem_flatMap.mp hk
        cases operand with
        | known => cases hk
        | text expression =>
          obtain rfl := List.mem_singleton.mp hk
          simp [KeptText.shows]
      rw [Instruction.kept, hnone]
      rfl
    | _ => rfl
  | block head body info =>
    cases head with
    | forEach target source => exact hfound source
    | whileLoop condition => exact hfound condition
    | define => rfl
  | branch condition body orelse info => exact hfound condition

theorem formUses_eq {i : Instruction} {sensor : Sensor} {inBody inElse : Bool}
    (hbody : suiteUses sensor.name i.bodySuite = .ok inBody)
    (helse : suiteUses sensor.name i.elseSuite = .ok inElse) :
    formUses sensor.name i.form = .ok (i.reads sensor || i.isCompound && (inBody || inElse)) := by
  have htype : Fields.hasType i.fields ["ir_direction", "ir_strength"] = i.readsSeeker := by
    cases i with
    | step act info => cases act <;> rfl
    | block head body info => cases head <;> rfl
    | branch => rfl
  have hname : (sensor.name == "ir_sensor") = (sensor == .ir) := by cases sensor <;> rfl
  rw [Instruction.form_eq, formUses, htype, hname, fieldsMention_eq, Instruction.isCompound_fields,
    hbody, helse, Instruction.reads]
  cases i.readsSeeker && sensor == .ir <;> cases i.kept.any (KeptText.shows sensor) <;>
    cases i.isCompound <;> cases inBody <;> rfl

/-- A sensor is used by forms if one of their instructions, at any depth, is found to use it. -/
theorem usesSensor_eq (sensor : Sensor) (instrs : List Instruction) :
    usesSensor sensor.name (formsOf instrs) =
      .ok ((nestedAll instrs).any (Instruction.reads sensor)) := by
  refine Instruction.forest_induction
    (P := fun i => formUses sensor.name i.form = .ok (i.nested.any (Instruction.reads sensor)))
    (Q := fun instrs => usesSensor sensor.name (formsOf instrs) =
      .ok ((nestedAll instrs).any (Instruction.reads sensor)))
    ?step ?compound ?nil ?cons instrs
  case step =>
    intro act info
    have huses : formUses sensor.name (Instruction.step act info).form =
        .ok ((Instruction.step act info).reads sensor || false && (false || false)) :=
      formUses_eq rfl rfl
    simpa [Instruction.nested, Instruction.isCompound] using huses
  case compound =>
    intro i hcompound hbody helse
    have hother : suiteUses sensor.name i.elseSuite =
        .ok ((nestedAll i.orelse).any (Instruction.reads sensor)) := by
      rw [← helse]
      exact i.apply_elseSuite rfl fun _ => rfl
    have hmain : suiteUses sensor.name i.bodySuite =
        .ok ((nestedAll i.body).any (Instruction.reads sensor)) := by
      rw [Instruction.bodySuite_of_compound hcompound, suiteUses, hbody]
    rw [formUses_eq hmain hother, hcompound, Bool.true_and, Instruction.nested_eq, List.any_cons,
      List.any_append]
  case nil => rfl
  case cons =>
    intro i rest hi hrest
    rw [formsOf, usesSensor, hi, hrest, nestedAll, List.any_append]
    cases i.nested.any (Instruction.reads sensor) <;> rfl

theorem textOrder_eq_lt_iff (s t : List Char) :
    Value.textOrder (s.map Char.toNat) (t.map Char.toNat) = .lt ↔ s < t := by
  induction s generalizing t with
  | nil =>
    cases t with
    | nil => simp [Value.textOrder]
    | cons => simp [Value.textOrder]
  | cons c s ih =>
    cases t with
    | nil => simp [Value.textOrder]
    | cons d t =>
      have hchars : c < d ↔ c.toNat < d.toNat := Iff.rfl
      rw [List.map_cons, List.map_cons, Value.textOrder, List.cons_lt_cons_iff, ← ih, hchars,
        Ordering.then_eq_lt, Nat.compare_eq_lt, Nat.compare_eq_eq, Char.toNat_inj]

/-- Names are put in their order, which is that of the codes of their characters. -/
theorem insertSorted_names {name : String} {names : List String} (h : name ∉ names) :
    Value.insertSorted (.str name) (names.map Value.str) =
      .ok ((names.orderedInsert (· ≤ ·) name).map Value.str) := by
  induction names with
  | nil => rfl
  | cons first rest ih =>
    obtain ⟨hne, hrest⟩ := not_or.mp (mt List.mem_cons.mpr h)
    have hless : SizeTest.less.holds (Value.textOrder (Value.codes name) (Value.codes first)) =
        decide (name ≤ first) := by
      rw [Bool.eq_iff_iff, decide_eq_true_iff, le_iff_lt_or_eq, or_iff_left hne,
        String.lt_iff_toList_lt, ← textOrder_eq_lt_iff]
      exact beq_iff_eq
    rw [List.map_cons, Value.insertSorted, Value.sizeHolds, ok_bind, hless, ih hrest,
      List.orderedInsert_cons]
    by_cases hle : name ≤ first <;> simp [hle]

theorem sort_names {names : List String} (h : names.Nodup) :
    Value.sort (names.map Value.str) = .ok ((names.insertionSort (· ≤ ·)).map Value.str) := by
  induction names with
  | nil => rfl
  | cons name rest ih =>
    obtain ⟨hnew, hrest⟩ := List.nodup_cons.mp h
    rw [List.map_cons, Value.sort, ih hrest, ok_bind,
      insertSorted_names (by rwa [List.mem_insertionSort]), List.insertionSort_cons]

/-- The lines for a motor that is named by a text. -/
def motorSetup (motor : String) : List String :=
  [Text.upper motor ++ " = " ++ motorPort motor, Text.upper motor ++ "_REVERSED = " ++ "False"]

/-- No motor is known to turn backwards. -/
theorem motorReversed_eq (name : String) : motorReversed name = false := by
  have hnone : ∀ entry ∈ motorDirections, entry.2 = false := by decide
  rw [motorReversed]
  cases hlookup : motorDirections.lookup name with
  | none => rfl
  | some reversed =>
    obtain ⟨before, after, hsplit, -⟩ := List.lookup_eq_some_iff.mp hlookup
    exact hnone (name, reversed) (by rw [hsplit]; simp)

theorem mapM_motorLines (names : List String) :
    (names.map Value.str).mapM motorLines = .ok (names.map motorSetup) := by
  induction names with
  | nil => rfl
  | cons name rest ih =>
    have hfirst : motorLines (.str name) = .ok (motorSetup name) := by
      simp only [motorLines, motorReversed_eq]
      rfl
    rw [List.map_cons, List.mapM_cons, hfirst, ok_bind, ih, ok_bind, List.map_cons]
    rfl

@[simp] theorem mem_linesIf {condition : Bool} {lines : List String} {line : String} :
    line ∈ linesIf condition lines ↔ condition = true ∧ line ∈ lines := by
  cases condition <;> simp [linesIf]

theorem sensorLines_eq {needs : Needs} : sensorLines needs =
    linesIf (needs.color || needs.distance || needs.ir) ["", "# Sensor configuration"] ++
      linesIf needs.color ["COLOR_SENSOR = port.E"] ++
      linesIf needs.distance ["DISTANCE_SENSOR = port.F"] ++
      linesIf needs.ir ["IR_SEEKER_PORT = port.C"] :=
  rfl

/-- Whether a sensor is needed. -/
def Needs.sensor (needs : Needs) : Sensor → Bool
  | .color => needs.color
  | .distance => needs.distance
  | .gyro => needs.gyro
  | .ir => needs.ir

/-- Everything before the main function, by what is needed and the names of the motors. -/
def openingOf (settings : Settings) (needs : Needs) (motors : List String) : List String :=
  importLines needs ++ helperLines settings needs ++ [""] ++
    linesIf settings.portNote (portNotes ++ [""]) ++
    ["# Motor configuration"] ++ (motors.map motorSetup).flatten ++ sensorLines needs ++ [""]

/-- What the opening of a forest is made from: the sensors that its instructions are found to use,
and its motors in the order of their names. -/
structure SetsUp (instrs : List Instruction) (needs : Needs) (motors : List String) : Prop where
  sensors : ∀ sensor, needs.sensor sensor = (nestedAll instrs).any (Instruction.reads sensor)
  used : usedMotors (formsOf instrs) = .ok needs.motors
  each : needs.motors.Perm (motors.map Value.str)
  sorted : motors.Pairwise (· < ·)
  named : NamesMotors (nestedAll instrs) motors

theorem SetsUp.motors_isEmpty {instrs : List Instruction} {needs : Needs} {motors : List String}
    (h : SetsUp instrs needs motors) : needs.motors.isEmpty = motors.isEmpty := by
  rw [h.each.isEmpty_eq, List.isEmpty_map]

theorem prelude_sets_up (settings : Settings) (instrs : List Instruction) :
    ∃ needs motors, SetsUp instrs needs motors ∧
      prelude settings (formsOf instrs) = .ok (openingOf settings needs motors) := by
  obtain ⟨names, hused, hnames⟩ := usedMotors_names instrs
  let used (sensor : Sensor) : Bool := (nestedAll instrs).any (Instruction.reads sensor)
  let needs : Needs :=
    ⟨names.map Value.str, used .color, used .distance, used .ir, used .gyro⟩
  have hneeds : needsOf (formsOf instrs) = .ok needs := by
    rw [needsOf, hused, usesSensor_eq, usesSensor_eq, usesSensor_eq, usesSensor_eq]
    rfl
  have hperm := List.perm_insertionSort (· ≤ ·) names
  have hnodup : (names.insertionSort (· ≤ ·)).Nodup := hperm.nodup_iff.mpr hnames.nodup
  refine ⟨needs, names.insertionSort (· ≤ ·), ⟨?_, hused, hperm.symm.map _, ?_, hnodup, ?_⟩, ?_⟩
  · intro sensor
    cases sensor <;> rfl
  · exact (List.pairwise_insertionSort (· ≤ ·) names).imp₂ (fun _ _ hle hne => hle.lt_of_ne hne)
      hnodup
  · intro name
    rw [List.mem_insertionSort, hnames.mem_iff]
  · rw [prelude, hneeds, ok_bind, sort_names hnames.nodup, ok_bind, mapM_motorLines]
    rfl

/-- The opening of a forest sets up the sensors that its instructions are found to use. -/
theorem prelude_eq (settings : Settings) (instrs : List Instruction) :
    ∃ needs motors, (∀ sensor, needs.sensor sensor =
        (nestedAll instrs).any (Instruction.reads sensor)) ∧
      prelude settings (formsOf instrs) = .ok (openingOf settings needs motors) := by
  obtain ⟨needs, motors, hsets, hopening⟩ := prelude_sets_up settings instrs
  exact ⟨needs, motors, hsets.sensors, hopening⟩

/-- The opening can be made for every forest of instructions. -/
theorem prelude_ok (settings : Settings) (instrs : List Instruction) :
    ∃ opening, prelude settings (formsOf instrs) = .ok opening := by
  obtain ⟨needs, motors, -, hopening⟩ := prelude_eq settings instrs
  exact ⟨_, hopening⟩

end Hub

end HubScript
