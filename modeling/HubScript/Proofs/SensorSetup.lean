import HubScript.Proofs.Opening
import HubScript.Proofs.Outline
import HubScript.Proofs.PhraseReplacement

/-!
# Sensors and their setup

The words of the hub for a sensor need an import, and all but those for the gyro need a port; the
distance needs a helper. An expression in which a phrase of a sensor is replaced mentions the
sensor, so wherever sensors are looked for, those that are used are set up. They are not looked for
in the arguments of calls.
-/
namespace HubScript

open Text (occursIn)

namespace Hub

/-- The lines without which the words for a sensor mean nothing on the hub. -/
def Sensor.setup : Sensor → List String
  | .color => ["import color_sensor", "COLOR_SENSOR = port.E"]
  | .distance => ["import distance_sensor", "DISTANCE_SENSOR = port.F", "def get_distance():"]
  | .gyro => ["from hub import motion_sensor"]
  | .ir => ["import color_sensor", "IR_SEEKER_PORT = port.C"]

/-- A line of the setup of a sensor that no other one has. -/
def Sensor.mark : Sensor → String
  | .color => "COLOR_SENSOR = port.E"
  | .distance => "import distance_sensor"
  | .gyro => "from hub import motion_sensor"
  | .ir => "IR_SEEKER_PORT = port.C"

/-- A phrase of a sensor is replaced in an expression, when its turn comes. -/
def Sensor.ReplacedIn (sensor : Sensor) (expression : String) : Prop :=
  ∃ before p after, phrases = before ++ p :: after ∧ mentions p.1 sensor.name = true ∧
    occursIn p.1.toList (translate before expression.toList) = true

/-- An expression in which a phrase of a sensor is replaced mentions the sensor: no replacement
before brings its name into the text. -/
theorem Sensor.ReplacedIn.mentions {sensor : Sensor} {expression : String}
    (h : sensor.ReplacedIn expression) : mentions expression sensor.name = true := by
  obtain ⟨before, p, after, hsplit, hname, hphrase⟩ := h
  have hforeign : phrases.Pairwise fun q p => Hub.mentions p.1 sensor.name = true →
      occursIn sensor.name.toList q.1.toList = true ∨ Foreign sensor.name.toList q.2.toList := by
    cases sensor <;> decide
  rw [hsplit, List.pairwise_append] at hforeign
  refine occursIn_iff.mpr (infix_of_translate (fun q hq => ?_)
    ((occursIn_iff.mp hname).trans (occursIn_iff.mp hphrase)))
  exact hforeign.2.2 q hq p List.mem_cons_self hname

section Opening

variable {settings : Settings} {needs : Needs} {motors : List String}

theorem setup_subset_opening {sensor : Sensor} (hneeds : needs.sensor sensor = true) :
    sensor.setup ⊆ openingOf .standard needs motors := by
  have himport : sensor.importLine ∈ importLines needs := by
    cases sensor <;> simp_all [importLines, Needs.sensor]
  have hport {line : String} (hline : line ∈ sensorLines needs) :
      line ∈ openingOf .standard needs motors := by
    simp [openingOf, hline]
  have hfirst : sensor.importLine ∈ openingOf .standard needs motors := by
    simp [openingOf, himport]
  cases sensor with
  | color =>
    have hcolor : needs.color = true := hneeds
    exact List.cons_subset.mpr ⟨hfirst, by simpa using hport (by simp [sensorLines_eq, hcolor])⟩
  | distance =>
    have hdistance : needs.distance = true := hneeds
    have hhelper : "def get_distance():" ∈ openingOf .standard needs motors := by
      simp [openingOf, helperLines, Settings.standard, distanceHelper, hdistance]
    exact List.cons_subset.mpr ⟨hfirst, List.cons_subset.mpr
      ⟨hport (by simp [sensorLines_eq, hdistance]), by simpa using hhelper⟩⟩
  | gyro => exact List.cons_subset.mpr ⟨hfirst, List.nil_subset _⟩
  | ir =>
    have hir : needs.ir = true := hneeds
    exact List.cons_subset.mpr ⟨hfirst, by simpa using hport (by simp [sensorLines_eq, hir])⟩

theorem mark_ne_of_last (sensor : Sensor) {front back : String}
    (hback : back.toList.getLast? = some 'A' ∨ back.toList.getLast? = some 'e') :
    sensor.mark ≠ front ++ back := by
  intro heq
  have hlast := congrArg (fun text => text.toList.getLast?) heq
  simp only [String.toList_append, List.getLast?_append] at hlast
  rcases hback with hback | hback
  all_goals
    rw [hback] at hlast
    cases sensor <;> simp [Sensor.mark] at hlast

/-- The lines for a motor are not those for a sensor: of the motors on the port of the infrared
seeker, none is named like it. -/
theorem mark_not_mem_motorSetup (sensor : Sensor) (motor : String) :
    sensor.mark ∉ motorSetup motor := by
  have hknown : ∀ entry ∈ motorPorts,
      sensor.mark ≠ Text.upper entry.1 ++ " = " ++ entry.2 := by
    cases sensor <;> decide +kernel
  have hport : sensor.mark ≠ Text.upper motor ++ " = " ++ motorPort motor := by
    rw [motorPort]
    cases hlookup : motorPorts.lookup motor with
    | none => exact mark_ne_of_last sensor (.inl rfl)
    | some port =>
      obtain ⟨before, after, hsplit, -⟩ := List.lookup_eq_some_iff.mp hlookup
      exact hknown (motor, port) (by simp [hsplit])
  have hdirection : sensor.mark ≠ Text.upper motor ++ "_REVERSED = " ++ "False" :=
    mark_ne_of_last sensor (.inr rfl)
  simp [motorSetup, hport, hdirection]

theorem mark_mem_opening {sensor : Sensor} (h : sensor.mark ∈ openingOf settings needs motors) :
    needs.sensor sensor = true := by
  have hmotors : sensor.mark ∉ (motors.map motorSetup).flatten := by
    simpa using fun motor _ => mark_not_mem_motorSetup sensor motor
  have hhelpers : sensor.mark ∉ irNotes ∧ sensor.mark ∉ speedHelper ∧
      sensor.mark ∉ distanceHelper ∧ sensor.mark ∉ portNotes := by
    cases sensor <;> decide
  simp only [openingOf, importLines, helperLines, sensorLines_eq, List.mem_append, mem_linesIf,
    List.mem_cons, List.not_mem_nil, hmotors, hhelpers, or_false] at h
  cases sensor <;> simpa [Sensor.mark, Sensor.importLine, Needs.sensor] using h

/-- A sensor is set up exactly if it is needed. -/
theorem setup_subset_iff {sensor : Sensor} :
    sensor.setup ⊆ openingOf .standard needs motors ↔ needs.sensor sensor = true := by
  refine ⟨fun h => mark_mem_opening (h ?_), setup_subset_opening⟩
  cases sensor <;> decide

/-- The opening of a program sets up a sensor exactly if an instruction is found to use it. -/
theorem setup_iff_reads {instrs : List Instruction} {opening : List String}
    (h : prelude .standard (formsOf instrs) = .ok opening) (sensor : Sensor) :
    sensor.setup ⊆ opening ↔ ∃ i ∈ nestedAll instrs, i.reads sensor = true := by
  obtain ⟨needs, motors, hneeds, hopening⟩ := prelude_eq .standard instrs
  obtain rfl := Except.ok.inj (h.symm.trans hopening)
  rw [setup_subset_iff, hneeds sensor, List.any_eq_true]

end Opening

theorem reads_of_replaced {sensor : Sensor} {i : Instruction} {k : KeptText} (hk : k ∈ i.kept)
    (hposition : k.position ≠ .argument) (h : sensor.ReplacedIn k.text) :
    i.reads sensor = true := by
  have hshows : k.shows sensor = true := by
    simp [KeptText.shows, hposition, h.mentions]
  rw [Instruction.reads, List.any_eq_true.mpr ⟨k, hk, hshows⟩, Bool.or_true]

end Hub

open Hub (Sensor setup_iff_reads reads_of_replaced)

/-- A program sets up the sensors that are read in it wherever an expression is kept, except that
one which is read in arguments of calls alone is not set up. -/
theorem sensors_set_up_iff {script program : String} {instrs : List Instruction}
    (h : answerGenerate script = .accepted instrs program) :
    ∃ opening body, Assembled instrs program opening body ∧
      (∀ i ∈ nestedAll instrs, ∀ k ∈ i.kept, ∃ depth text, i.texts .standard = [text] ∧
        (depth, text) ∈ Hub.codeOf 0 (Hub.wholeLines body) ∧ k.ShownIn text) ∧
      ∀ sensor : Sensor,
        (sensor.setup ⊆ opening ↔ ∃ i ∈ nestedAll instrs, i.reads sensor = true) ∧
        (∀ i ∈ nestedAll instrs, ∀ k ∈ i.kept, k.position ≠ .argument →
          sensor.ReplacedIn k.text → sensor.setup ⊆ opening) ∧
        ((∀ i ∈ nestedAll instrs, ∀ k ∈ i.kept, sensor.ReplacedIn k.text →
            sensor.setup ⊆ opening) ↔
          ((∃ i ∈ nestedAll instrs, ∃ k ∈ i.kept,
              k.position = .argument ∧ sensor.ReplacedIn k.text) →
            ∃ i ∈ nestedAll instrs, i.reads sensor = true)) := by
  obtain ⟨opening, body, hprogram⟩ := assembled_of_accepted h
  refine ⟨opening, body, hprogram, fun i hi k hk => hprogram.shows hi hk, fun sensor => ?_⟩
  have hsetup := setup_iff_reads hprogram.opened sensor
  have helsewhere : ∀ i ∈ nestedAll instrs, ∀ k ∈ i.kept, k.position ≠ .argument →
      sensor.ReplacedIn k.text → sensor.setup ⊆ opening := by
    intro i hi k hk hposition hreplaced
    exact hsetup.mpr ⟨i, hi, reads_of_replaced hk hposition hreplaced⟩
  refine ⟨hsetup, helsewhere, ?_, ?_⟩
  · rintro hall ⟨i, hi, k, hk, -, hreplaced⟩
    exact hsetup.mp (hall i hi k hk hreplaced)
  · intro harguments i hi k hk hreplaced
    by_cases hposition : k.position = .argument
    · exact hsetup.mpr (harguments ⟨i, hi, k, hk, hposition, hreplaced⟩)
    · exact helsewhere i hi k hk hposition hreplaced

/-- The gyro is read in a condition and in an argument. -/
def turningScript : String :=
  "while gyro_sensor.get_angle() < 90:\n    turn(gyro_sensor.get_rate())\n"

theorem sensors_set_up_turningScript :
    ∃ instrs program, answerGenerate turningScript = .accepted instrs program ∧
      ∃ opening body, Assembled instrs program opening body ∧
        (∃ i ∈ nestedAll instrs, ∃ k ∈ i.kept, k.position = .argument ∧
          Sensor.gyro.ReplacedIn k.text ∧ ∃ depth text, i.texts .standard = [text] ∧
            (depth, text) ∈ Hub.codeOf 0 (Hub.wholeLines body) ∧ k.ShownIn text) ∧
        Sensor.gyro.setup ⊆ opening := by
  have hanswer : (answerGenerate turningScript).any (fun instrs _ =>
      (nestedAll instrs).any (fun i => i.kept.contains ⟨.argument, "gyro_sensor.get_rate()"⟩) &&
        (nestedAll instrs).any (Instruction.reads .gyro)) = true := by
    decide +kernel
  obtain ⟨instrs, program, haccepted, htests⟩ := accepted_of_any hanswer
  obtain ⟨hargument, hreads⟩ := Bool.and_eq_true_iff.mp htests
  obtain ⟨i, hi, hk⟩ := List.any_eq_true.mp hargument
  have hreplaced : Sensor.gyro.ReplacedIn "gyro_sensor.get_rate()" :=
    ⟨Hub.phrases.take 7, ("gyro_sensor.get_rate()",
      "motion_sensor.angular_velocity(motion_sensor.YAW)"), [], rfl, by decide, by decide⟩
  obtain ⟨opening, body, hprogram, hshown, hsensors⟩ := sensors_set_up_iff haccepted
  have hk := List.contains_iff_mem.mp hk
  exact ⟨instrs, program, haccepted, opening, body, hprogram,
    ⟨i, hi, _, hk, rfl, hreplaced, hshown i hi _ hk⟩,
    (hsensors .gyro).1.mpr (List.any_eq_true.mp hreads)⟩

/-- The distance is read in an argument alone. -/
def reportScript : String := "report(distance_sensor.get_distance())\n"

/-- The distance is not set up, though the program asks for it. -/
theorem setup_missing_reportScript :
    ∃ instrs program, answerGenerate reportScript = .accepted instrs program ∧
      ∃ opening body, Assembled instrs program opening body ∧
        Hub.codeOf 0 (Hub.wholeLines body) = [(0, "async def main():"),
          (1, "await report(get_distance())"), (0, "runloop.run(main())")] ∧
        Sensor.distance.ReplacedIn "distance_sensor.get_distance()" ∧
        ∀ line ∈ Sensor.distance.setup, line ∉ opening := by
  have hanswer : (answerGenerate reportScript).any (fun instrs _ =>
      (programOutline .standard instrs).map CodeLine.seen == [(0, "async def main():"),
          (1, "await report(get_distance())"), (0, "runloop.run(main())")] &&
        (Hub.prelude .standard (formsOf instrs)).toOption.any fun opening =>
          Sensor.distance.setup.all (!opening.contains ·)) = true := by
    decide +kernel
  obtain ⟨instrs, program, haccepted, htests⟩ := accepted_of_any hanswer
  obtain ⟨hcode, hmissing⟩ := Bool.and_eq_true_iff.mp htests
  obtain ⟨opening, body, hprogram⟩ := assembled_of_accepted haccepted
  rw [hprogram.opened] at hmissing
  refine ⟨instrs, program, haccepted, opening, body, hprogram,
    hprogram.code.trans (eq_of_beq hcode), ⟨[], _, _, rfl, by decide, by decide⟩, ?_⟩
  intro line hline
  simpa using List.all_eq_true.mp hmissing line hline

end HubScript
