import HubScript.Proofs.MotorSetup
import HubScript.Proofs.SensorSetup

/-!
# Helper functions

A program brings the functions along that its main function calls: one that turns percentages into
speeds, and one that measures the distance. The settings are asked at two places for each, where a
line is worded and where the program is opened. The function for the distance can be switched off
in the opening alone.
-/
namespace HubScript.Hub

open Text (occursIn)

section Speeds

/-- The function that is called on the speed in a line that runs a motor. -/
def calledOnSpeed? (line : String) : Option String :=
  (firstArgument? "motor.run" line).map fun constant => String.ofList
    ((line.toList.drop ("motor.run" ++ "(" ++ constant ++ ", ").toList.length).takeWhile
      Numeral.isWordPart)

theorem percentSpeeds_of_speedFunction {settings : Settings}
    (h : settings.speedFunction = "percent_to_dps") : settings.percentSpeeds = true := by
  unfold Settings.speedFunction at h
  split at h
  · assumption
  · exact absurd h (by decide)

theorem speedFunction_parts (settings : Settings) :
    ∀ c ∈ settings.speedFunction.toList, Numeral.isWordPart c = true := by
  rw [← List.all_eq_true]
  unfold Settings.speedFunction
  split <;> decide

theorem calledOnSpeed?_runLine (settings : Settings) {motor : String}
    (h : motor ∈ Current.motors) (speed : String) :
    calledOnSpeed? (runLine settings motor speed) = some settings.speedFunction := by
  obtain ⟨rest, hline⟩ := runLine_eq settings motor speed
  have hchars : (runLine settings motor speed).toList =
      ("motor.run" ++ "(" ++ Text.upper motor ++ ", ").toList ++
        (settings.speedFunction.toList ++ '(' :: rest.toList) := by
    simp [hline]
  have hargument : firstArgument? "motor.run" (runLine settings motor speed) =
      some (Text.upper motor) := by
    rw [hline]
    exact firstArgument?_eq _ _ (capitals_shape h).2.1 (by decide)
  rw [calledOnSpeed?, hargument, Option.map_some, hchars, List.drop_left,
    List.takeWhile_append_of_pos (speedFunction_parts settings),
    List.takeWhile_cons_of_neg (by decide), List.append_nil, String.ofList_toList]

variable {settings : Settings} {script : String} {instrs : List Instruction} {i : Instruction}
  {line : String}

/-- A function is called on a speed only in the line of a motor, and it is that of the settings. -/
theorem calledOnSpeed?_line (hread : readInstructions Current.dialect script = .ok instrs)
    (hi : i ∈ nestedAll instrs) (hline : line ∈ i.texts settings) {function : String}
    (hcalled : calledOnSpeed? line = some function) :
    (∃ motor, i.motor? = some motor) ∧ function = settings.speedFunction := by
  obtain ⟨constant, hconstant, -⟩ := Option.map_eq_some_iff.mp hcalled
  have hmoves : motorConstant? line = some constant := by
    rw [motorConstant?, hconstant, Option.some_or]
  rw [motorConstant?_line hread hi hline] at hmoves
  obtain ⟨motor, hmotor, -⟩ := Option.map_eq_some_iff.mp hmoves
  refine ⟨⟨motor, hmotor⟩, ?_⟩
  cases lineOf_texts hline with
  | start motor speed info text =>
    rw [calledOnSpeed?_runLine settings (motor_known hread hi rfl)] at hcalled
    exact (Option.some.inj hcalled).symm
  | stop motor info =>
    have hstop : firstArgument? "motor.run" (stopLine motor) = none :=
      firstArgument?_eq_none (by simp [stopLine])
    rw [hstop] at hconstant
    cases hconstant
  | assign => cases hmotor
  | other still =>
    rw [still] at hmotor
    cases hmotor

end Speeds

section Distance

/-- Where the distance is asked for, its function is called, whatever stands around it. -/
theorem mentions_distanceCall {text : String} (h : mentions text distancePhrase = true) :
    mentions (toHub text) distanceCall = true := by
  obtain ⟨front, rest, htext⟩ := occursIn_iff.mp h
  have hwhole : reaches distancePhrase.toList distancePhrase.toList.tail = false := by
    decide
  have hne : distancePhrase.toList ≠ [] := by decide
  have hfirst : distanceCall.toList <:+:
      replaceAll distancePhrase.toList distanceCall.toList text.toList := by
    rw [← htext, List.append_assoc, replaceAll_split hwhole, replaceAll_phrase hne,
      ← List.append_assoc]
    exact List.infix_append _ _ _
  have hlater : ∀ p ∈ phrases.tail, Outside p.1 distanceCall := by decide
  have hphrases : phrases = (distancePhrase, distanceCall) :: phrases.tail := rfl
  have hstep := congrArg (translate · text.toList) hphrases
  rw [mentions, occursIn_iff, toHub_eq, String.toList_ofList, hstep, translate_cons]
  exact infix_translate hlater hfirst

/-- A line that shows an expression which asks for the distance calls the function for it. -/
theorem mentions_distanceCall_of_shown {k : KeptText} {line : String} (hshown : k.ShownIn line)
    (h : mentions k.text distancePhrase = true) : mentions line distanceCall = true := by
  obtain ⟨before, after, rfl, -⟩ := hshown
  have hcall := occursIn_iff.mp (mentions_distanceCall h)
  rw [mentions, occursIn_iff, String.toList_append, String.toList_append]
  exact hcall.trans (List.infix_append _ _ _)

theorem distanceDefinition_mem_iff {settings : Settings} {needs : Needs} {motors : List String}
    (hknown : ∀ motor ∈ motors, motor ∈ Current.motors) :
    distanceDefinition ∈ openingOf settings needs motors ↔
      needs.distance = true ∧ settings.distanceHelper = true := by
  have hfixed : distanceDefinition ∉ irNotes ∧ distanceDefinition ∉ speedHelper ∧
      distanceDefinition ∈ distanceHelper ∧ distanceDefinition ≠ "" := by
    decide
  rw [definition_mem_iff hknown (by simp)]
  simp [helperLines, hfixed]

end Distance

section Program

variable {script source program : String} {instrs : List Instruction}

/-- An opening defines the functions that a main function calls. -/
structure HelpersDefined (settings : Settings) (instrs : List Instruction) (opening : List String)
    (body : List Line) : Prop where
  /-- A line that calls the function on percentages finds it. -/
  speeds : ∀ line ∈ codeTexts body, calledOnSpeed? line = some "percent_to_dps" →
    speedDefinition ∈ opening
  /-- Where an instruction asks for the distance, other than in the arguments of a call, its line
  calls the function for the distance. -/
  asked : ∀ i ∈ nestedAll instrs, ∀ k ∈ i.kept, k.position ≠ .argument →
    mentions k.text distancePhrase = true →
      ∃ line ∈ codeTexts body, k.ShownIn line ∧ mentions line distanceCall = true
  /-- The line finds the function for the distance unless the settings leave it out. -/
  distances : ∀ i ∈ nestedAll instrs, ∀ k ∈ i.kept, k.position ≠ .argument →
    mentions k.text distancePhrase = true →
      (distanceDefinition ∈ opening ↔ settings.distanceHelper = true)

/-- Whatever settings are overridden, a program defines the function on percentages if its main
function calls it, and the function for the distance if that is asked for and not switched off. -/
theorem helpers_defined {overrides : List (String × Value)}
    (hread : readInstructions Current.dialect script = .ok instrs)
    (hmade : generate (.ofOverrides overrides) (formsOf instrs) source = .ok program) :
    ∃ opening body, Composed (.ofOverrides overrides) instrs source program opening body ∧
      HelpersDefined (.ofOverrides overrides) instrs opening body := by
  obtain ⟨opening, body, hcomposed⟩ := composed_of_generate hmade
  obtain ⟨needs, motors, hsets, hopening⟩ := prelude_sets_up (.ofOverrides overrides) instrs
  obtain rfl := Except.ok.inj (hcomposed.opened.symm.trans hopening)
  have hknown := hsets.known hread
  refine ⟨_, body, hcomposed, ?speeds, ?asked, ?distances⟩
  case speeds =>
    intro line hline hcalled
    rcases hcomposed.mem_codeTexts hline with rfl | ⟨i, hi, htext⟩
    · exact absurd hcalled (by decide)
    · obtain ⟨⟨motor, hmoves⟩, hfunction⟩ := calledOnSpeed?_line hread hi htext hcalled
      have hused := List.ne_nil_of_mem (hsets.named.mem_of_moves hread hi hmoves)
      exact (speedDefinition_mem_iff hknown).mpr
        ⟨hsets.needs_ne_nil_iff.mpr hused, percentSpeeds_of_speedFunction hfunction.symm⟩
  case asked =>
    intro i hi k hk _ hasked
    obtain ⟨line, htexts, hshown⟩ := Instruction.texts_show (hcomposed.written i hi) hk
    have hline : line ∈ i.texts (.ofOverrides overrides) := by
      rw [htexts]
      exact List.mem_singleton_self line
    exact ⟨line, hcomposed.texts_mem hi hline, hshown,
      mentions_distanceCall_of_shown hshown hasked⟩
  case distances =>
    intro i hi k hk hposition hasked
    have hreplaced : Sensor.distance.ReplacedIn k.text := ⟨[], _, _, rfl, by decide, hasked⟩
    have hneeds : needs.distance = true := by
      have hsensor := hsets.sensors .distance
      rw [List.any_eq_true.mpr ⟨i, hi, reads_of_replaced hk hposition hreplaced⟩] at hsensor
      exact hsensor
    rw [distanceDefinition_mem_iff hknown, and_iff_right hneeds]

theorem made_of_any {settings : Settings} {p : List Instruction → Bool}
    (h : (readInstructions Current.dialect script).toOption.any (fun instrs =>
      (generate settings (formsOf instrs) script).toOption.any fun _ => p instrs) = true) :
    ∃ instrs program, readInstructions Current.dialect script = .ok instrs ∧
      generate settings (formsOf instrs) script = .ok program ∧ p instrs = true := by
  obtain ⟨instrs, hread, h⟩ := exists_of_any h
  obtain ⟨program, hmade, hp⟩ := exists_of_any h
  exact ⟨instrs, program, hread, hmade, hp⟩

end Program

/-- A motor runs while the way is free. -/
def roamScript : String :=
  "while distance_sensor.get_distance() > 10:\n    motor_a.start(50)\n"

/-- The note on ports is left out. -/
def withoutNote : List (String × Value) := [("include_port_config_note", .bool false)]

theorem helpers_defined_roamScript :
    ∃ instrs program, readInstructions Current.dialect roamScript = .ok instrs ∧
      generate (.ofOverrides withoutNote) (formsOf instrs) roamScript = .ok program ∧
      ∃ opening body,
        Composed (.ofOverrides withoutNote) instrs roamScript program opening body ∧
        "motor.run(MOTOR_A, percent_to_dps(50, MOTOR_A_REVERSED))" ∈ codeTexts body ∧
        speedDefinition ∈ opening ∧
        (∃ line ∈ codeTexts body, mentions line distanceCall = true) ∧
        distanceDefinition ∈ opening := by
  have htests : (readInstructions Current.dialect roamScript).toOption.any (fun instrs =>
      (generate (.ofOverrides withoutNote) (formsOf instrs) roamScript).toOption.any fun _ =>
        ((outlineAll (.ofOverrides withoutNote) 0 (inProgramOrder instrs)).map
            CodeLine.text).contains "motor.run(MOTOR_A, percent_to_dps(50, MOTOR_A_REVERSED))" &&
          (nestedAll instrs).any
            (·.kept.contains ⟨.condition, "distance_sensor.get_distance() > 10"⟩)) = true := by
    decide +kernel
  obtain ⟨instrs, program, hread, hmade, htests⟩ := made_of_any htests
  obtain ⟨hruns, hkept⟩ := Bool.and_eq_true_iff.mp htests
  obtain ⟨i, hi, hk⟩ := List.any_eq_true.mp hkept
  obtain ⟨opening, body, hcomposed, hdefined⟩ := helpers_defined hread hmade
  have hline : "motor.run(MOTOR_A, percent_to_dps(50, MOTOR_A_REVERSED))" ∈ codeTexts body := by
    rw [hcomposed.codeTexts_eq]
    exact List.contains_iff_mem.mp hruns
  have hasked : mentions "distance_sensor.get_distance() > 10" distancePhrase = true := by decide
  have hkept := List.contains_iff_mem.mp hk
  obtain ⟨line, hmem, -, hcall⟩ := hdefined.asked i hi _ hkept (by decide) hasked
  exact ⟨instrs, program, hread, hmade, opening, body, hcomposed, hline,
    hdefined.speeds _ hline (by decide +kernel), ⟨line, hmem, hcall⟩,
    (hdefined.distances i hi _ hkept (by decide) hasked).mpr rfl⟩

/-- The distance is asked for once. -/
def measureScript : String := "x = distance_sensor.get_distance()\n"

/-- The function for the distance is left out. -/
def withoutDistance : List (String × Value) := [("include_distance_helper", .bool false)]

/-- The function for the distance is called and not defined if the settings leave it out. -/
theorem distance_undefined_measureScript :
    ∃ instrs program, readInstructions Current.dialect measureScript = .ok instrs ∧
      generate (.ofOverrides withoutDistance) (formsOf instrs) measureScript = .ok program ∧
      ∃ opening body,
        Composed (.ofOverrides withoutDistance) instrs measureScript program opening body ∧
        codeTexts body = ["x = get_distance()"] ∧ distanceDefinition ∉ opening := by
  have htests : (readInstructions Current.dialect measureScript).toOption.any (fun instrs =>
      (generate (.ofOverrides withoutDistance) (formsOf instrs) measureScript).toOption.any fun _ =>
        (outlineAll (.ofOverrides withoutDistance) 0 (inProgramOrder instrs)).map CodeLine.text ==
            ["x = get_distance()"] &&
          (prelude (.ofOverrides withoutDistance) (formsOf instrs)).toOption.any
            (!·.contains distanceDefinition)) = true := by
    decide +kernel
  obtain ⟨instrs, program, hread, hmade, htests⟩ := made_of_any htests
  obtain ⟨hbody, hmissing⟩ := Bool.and_eq_true_iff.mp htests
  obtain ⟨opening, body, hcomposed⟩ := composed_of_generate hmade
  obtain ⟨found, hfound, hnot⟩ := exists_of_any hmissing
  obtain rfl := Except.ok.inj (hcomposed.opened.symm.trans hfound)
  exact ⟨instrs, program, hread, hmade, opening, body, hcomposed,
    hcomposed.codeTexts_eq.trans (eq_of_beq hbody), by simpa using hnot⟩

end HubScript.Hub
