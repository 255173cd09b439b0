import HubScript.Proofs.Opening
import HubScript.Proofs.Provenance

/-!
# Motors and their setup

Motors are collected from the instructions before a program is opened, and named again in the lines
that start and stop them. Both go through the whole forest, so the constants that the main function
uses are those that are set up, each by one line for its port and one for its direction, in the
order of the names.
-/
namespace HubScript

namespace Hub

/-- The function that is called on the speed of a motor. -/
def Settings.speedFunction (settings : Settings) : String :=
  if settings.percentSpeeds then "percent_to_dps" else "apply_direction"

/-- The speed of a motor as it is written. -/
def speedText (settings : Settings) : Operand → Except Failure String
  | .known v => v.display
  | .text expression =>
    .ok (if settings.percentSpeeds then toHub expression else "int(" ++ toHub expression ++ ")")

/-- The line that runs a motor. -/
def runLine (settings : Settings) (motor speed : String) : String :=
  "motor.run(" ++ Text.upper motor ++ ", " ++ settings.speedFunction ++ "(" ++ speed ++ ", " ++
    Text.upper motor ++ "_REVERSED))"

def stopLine (motor : String) : String := "motor.stop(" ++ Text.upper motor ++ ")"

theorem startMotor_eq (settings : Settings) (motor : String) (speed : Operand) :
    statements settings (Step.startMotor motor speed).fields =
      speedText settings speed >>= fun text => .ok [runLine settings motor text] := by
  rcases settings with ⟨percent, _, _⟩
  cases speed with
  | known v => cases percent <;> rfl
  | text expression => cases percent <;> rfl

theorem assign_eq (settings : Settings) (target expression : String) :
    statements settings (Step.assign target (.text expression)).fields =
      .ok [target ++ (if looksAwaited (toHub expression) then " = await " else " = ") ++
        toHub expression] := by
  have htarget : Fields.need (Step.assign target (.text expression)).fields "variable" =
      .ok (.str target) := rfl
  have hvalue : Fields.expression (Step.assign target (.text expression)).fields "expression" =
      .ok (toHub expression) := rfl
  change assigned _ = _
  rw [assigned, htarget, hvalue]
  simp only [ok_bind, Value.display]
  split <;> rfl

/-- The words with which lines begin that neither move a motor nor assign a name. -/
def lineOpenings : List String :=
  ["await ", "await runloop.sleep_ms(", "await runloop.sleep_ms(int(", "print(", "return",
    "return ", "break", "for ", "while ", "if ", "async def ", "else:"]

/-- What the line of an instruction looks like. -/
inductive LineOf (settings : Settings) : Instruction → String → Prop
  | start (motor : String) (speed : Operand) (info : Info) (text : String) :
      LineOf settings (.step (.startMotor motor speed) info) (runLine settings motor text)
  | stop (motor : String) (info : Info) :
      LineOf settings (.step (.stopMotor motor) info) (stopLine motor)
  | assign (target : String) (value : Operand) (info : Info) (rest : String) :
      LineOf settings (.step (.assign target value) info) (target ++ (" = " ++ rest))
  | other {i : Instruction} {word : String} (still : i.motor? = none) (known : word ∈ lineOpenings)
      (rest : String) : LineOf settings i (word ++ rest)

section Lines

variable {settings : Settings} {line : String}

theorem lineOf_statements {act : Step} (info : Info) {texts : List String}
    (h : statements settings act.fields = .ok texts) (hline : line ∈ texts) :
    LineOf settings (.step act info) line := by
  have hother (word rest : String) (hknown : word ∈ lineOpenings)
      (hstill : (Instruction.step act info).motor? = none) (hsame : texts = [word ++ rest]) :
      LineOf settings (.step act info) line := by
    obtain rfl := List.mem_singleton.mp (hsame ▸ hline)
    exact .other hstill hknown rest
  cases act with
  | startMotor motor speed =>
    rw [startMotor_eq] at h
    obtain ⟨text, -, h⟩ := bind_eq_ok.mp h
    obtain rfl := Except.ok.inj h
    obtain rfl := List.mem_singleton.mp hline
    exact .start motor speed info text
  | stopMotor motor =>
    obtain rfl := Except.ok.inj h
    obtain rfl := List.mem_singleton.mp hline
    exact .stop motor info
  | assign target value =>
    cases value with
    | known v => cases h
    | text expression =>
      rw [assign_eq] at h
      obtain rfl := Except.ok.inj h
      obtain rfl := List.mem_singleton.mp hline
      rw [String.append_assoc]
      split
      · exact .assign target _ info ("await " ++ toHub expression)
      · exact .assign target _ info (toHub expression)
  | wait seconds =>
    cases seconds with
    | known v =>
      obtain ⟨n, -, h⟩ := bind_eq_ok.mp h
      obtain ⟨ms, -, h⟩ := bind_eq_ok.mp h
      exact hother "await runloop.sleep_ms(" (ms ++ ")") (by decide) rfl
        ((Except.ok.inj h).symm.trans (by rw [← String.append_assoc]; rfl))
    | text expression =>
      exact hother "await runloop.sleep_ms(int(" (toHub expression ++ " * 1000))") (by decide) rfl
        ((Except.ok.inj h).symm.trans (by rw [← String.append_assoc]; rfl))
  | print content =>
    cases content with
    | known v =>
      obtain ⟨text, -, h⟩ := bind_eq_ok.mp h
      exact hother "print(" (text ++ ")") (by decide) rfl
        ((Except.ok.inj h).symm.trans (by rw [← String.append_assoc]; rfl))
    | text expression =>
      exact hother "print(" (toHub expression ++ ")") (by decide) rfl
        ((Except.ok.inj h).symm.trans (by rw [← String.append_assoc]; rfl))
  | giveBack value =>
    cases value with
    | known v =>
      cases v with
      | none => exact hother "return" "" (by decide) rfl (Except.ok.inj h).symm
      | _ =>
        obtain ⟨text, -, h⟩ := bind_eq_ok.mp h
        exact hother "return " text (by decide) rfl (Except.ok.inj h).symm
    | text expression =>
      exact hother "return " (toHub expression) (by decide) rfl (Except.ok.inj h).symm
  | call function arguments =>
    obtain ⟨items, -, rfl⟩ := call_eq_ok h
    refine hother "await " (function ++ "(" ++ Printer.commas items ++ ")") (by decide) rfl ?_
    simp only [String.append_assoc]
  | leaveLoop => exact hother "break" "" (by decide) rfl (Except.ok.inj h).symm
  | comment | irDirection | irStrength =>
    obtain rfl := Except.ok.inj h
    cases hline

theorem lineOf_texts {i : Instruction} (h : line ∈ i.texts settings) : LineOf settings i line := by
  cases i with
  | step act info =>
    rw [Instruction.texts] at h
    cases hstatements : statements settings act.fields with
    | error failure =>
      rw [hstatements] at h
      cases h
    | ok texts =>
      rw [hstatements] at h
      exact lineOf_statements info hstatements h
  | block head body info =>
    obtain rfl := List.mem_singleton.mp h
    cases head with
    | forEach target source =>
      simp only [Head.text, String.append_assoc]
      exact .other rfl (by decide) _
    | whileLoop condition =>
      simp only [Head.text, String.append_assoc]
      exact .other rfl (by decide) _
    | define name params =>
      simp only [Head.text, String.append_assoc]
      exact .other rfl (by decide) _
  | branch condition body orelse info =>
    obtain rfl := List.mem_singleton.mp h
    rw [String.append_assoc]
    exact .other rfl (by decide) _

end Lines

section Constants

/-- Whether a character can be part of an argument that is a name. -/
def isNamePart (c : Char) : Bool := c != ',' && c != ')' && c != ' '

/-- The first argument of a call with which a line begins, if it is a name. -/
def firstArgument? (function line : String) : Option String :=
  let opening := (function ++ "(").toList
  if opening.isPrefixOf line.toList then
    some (String.ofList ((line.toList.drop opening.length).takeWhile isNamePart))
  else none

/-- The constant of the motor that a line runs or stops. -/
def motorConstant? (line : String) : Option String :=
  (firstArgument? "motor.run" line).or (firstArgument? "motor.stop" line)

/-- Whether a line gives a value to a name. -/
def assigns (name line : String) : Bool := (name ++ " = ").toList.isPrefixOf line.toList

theorem takeWhile_isNamePart {name : List Char} (hname : name.all isNamePart = true)
    {c : Char} (hc : isNamePart c = false) (rest : List Char) :
    (name ++ c :: rest).takeWhile isNamePart = name := by
  rw [List.takeWhile_append_of_pos (List.all_eq_true.mp hname),
    List.takeWhile_cons_of_neg (by simp [hc]), List.append_nil]

theorem firstArgument?_eq (function : String) {name : String} {c : Char} (rest : String)
    (hname : name.toList.all isNamePart = true) (hc : isNamePart c = false) :
    firstArgument? function (function ++ "(" ++ (name ++ (String.singleton c ++ rest))) =
      some name := by
  have hline : (function ++ "(" ++ (name ++ (String.singleton c ++ rest))).toList =
      (function ++ "(").toList ++ (name.toList ++ c :: rest.toList) := by
    simp only [String.toList_append, String.toList_singleton, List.singleton_append]
  rw [firstArgument?, hline, if_pos (by simp), List.drop_left, takeWhile_isNamePart hname hc,
    String.ofList_toList]

theorem firstArgument?_eq_none {function line : String}
    (h : ¬(function ++ "(").toList <+: line.toList) : firstArgument? function line = none := by
  rw [firstArgument?, if_neg (by simpa using h)]

theorem assigns_iff {name word : String} (hname : name.toList.all isNamePart = true)
    (hword : word.toList.all isNamePart = true) (value : String) :
    assigns name (word ++ " = " ++ value) = true ↔ name = word := by
  have hblank : isNamePart ' ' = false := by decide
  rw [assigns, List.isPrefixOf_iff_prefix]
  constructor
  · rintro ⟨rest, hrest⟩
    have hsame : name.toList ++ ' ' :: ("= ".toList ++ rest) =
        word.toList ++ ' ' :: ("= ".toList ++ value.toList) := by
      simpa using hrest
    have htaken := congrArg (List.takeWhile isNamePart) hsame
    rw [takeWhile_isNamePart hname hblank, takeWhile_isNamePart hword hblank] at htaken
    exact String.toList_inj.mp htaken
  · rintro rfl
    simp only [String.toList_append]
    exact List.prefix_append _ _

/-- The names of motors in capitals: how they begin, which characters they have, that they are
short, and that they are words. -/
theorem capitals_shape {motor : String} (h : motor ∈ Current.motors) :
    "MOTOR_".toList <+: (Text.upper motor).toList ∧
      (Text.upper motor).toList.all isNamePart = true ∧ (Text.upper motor).toList.length ≤ 11 ∧
      isWord (Text.upper motor) = true := by
  have hall : Current.motors.all (fun motor =>
      "MOTOR_".toList.isPrefixOf (Text.upper motor).toList &&
        ((Text.upper motor).toList.all isNamePart && ((Text.upper motor).toList.length ≤ 11 &&
          isWord (Text.upper motor)))) = true := by
    decide +kernel
  simpa using List.all_eq_true.mp hall motor h

theorem capitals_inj {motor other : String} (h : motor ∈ Current.motors)
    (hother : other ∈ Current.motors) (heq : Text.upper motor = Text.upper other) :
    motor = other := by
  have hnodup : (Current.motors.map Text.upper).Nodup := by decide +kernel
  exact List.inj_on_of_nodup_map hnodup h hother heq

end Constants

section Body

variable {settings : Settings} {line : String}

/-- The line that runs a motor, up to the function on its speed. -/
theorem runLine_eq (settings : Settings) (motor speed : String) :
    ∃ rest, runLine settings motor speed = "motor.run" ++ "(" ++ (Text.upper motor ++
      (String.singleton ',' ++ (" " ++ (settings.speedFunction ++
        (String.singleton '(' ++ rest))))) := by
  refine ⟨speed ++ (", " ++ (Text.upper motor ++ "_REVERSED))")), ?_⟩
  unfold runLine
  simp only [String.append_assoc]
  rfl

theorem motorConstant?_runLine (settings : Settings) {motor : String} (h : motor ∈ Current.motors)
    (speed : String) : motorConstant? (runLine settings motor speed) = some (Text.upper motor) := by
  obtain ⟨rest, hline⟩ := runLine_eq settings motor speed
  rw [motorConstant?, hline, firstArgument?_eq _ _ (capitals_shape h).2.1 (by decide),
    Option.some_or]

theorem motorConstant?_stopLine {motor : String} (h : motor ∈ Current.motors) :
    motorConstant? (stopLine motor) = some (Text.upper motor) := by
  have hline : stopLine motor =
      "motor.stop" ++ "(" ++ (Text.upper motor ++ (String.singleton ')' ++ "")) := by
    unfold stopLine
    rw [String.append_assoc]
    rfl
  have hrun : firstArgument? "motor.run" (stopLine motor) = none := by
    refine firstArgument?_eq_none ?_
    simp [stopLine]
  rw [motorConstant?, hrun, Option.none_or, hline,
    firstArgument?_eq _ _ (capitals_shape h).2.1 (by decide)]

theorem motorConstant?_eq_none (h : ¬"motor.".toList <+: line.toList) :
    motorConstant? line = none := by
  have hrun : "motor.".toList <+: ("motor.run" ++ "(").toList := by decide
  have hstop : "motor.".toList <+: ("motor.stop" ++ "(").toList := by decide
  rw [motorConstant?, firstArgument?_eq_none fun hline => h (hrun.trans hline),
    firstArgument?_eq_none fun hline => h (hstop.trans hline)]
  rfl

/-- An assignment to a word does not begin like a line that moves a motor. -/
theorem motorConstant?_assign {target : String} (h : isWord target = true) (rest : String) :
    motorConstant? (target ++ (" = " ++ rest)) = none := by
  refine motorConstant?_eq_none fun hprefix => ?_
  have hfront : target.toList ++ [' '] <+: (target ++ (" = " ++ rest)).toList :=
    ⟨"= ".toList ++ rest.toList, by simp⟩
  -- either the dot stands in the word, or the blank after it in `motor.`
  rcases List.prefix_or_prefix_of_prefix hprefix hfront with hlong | hshort
  · have hdot : '.' ∈ target.toList ++ [' '] := hlong.subset (by decide)
    rcases List.mem_append.mp hdot with hdot | hdot
    · cases List.all_eq_true.mp (Bool.and_eq_true_iff.mp h).2 '.' hdot
    · simp at hdot
  · have hblank : ' ' ∈ "motor.".toList := hshort.subset (by simp)
    simp at hblank

theorem motorConstant?_opening {word : String} (h : word ∈ lineOpenings) (rest : String) :
    motorConstant? (word ++ rest) = none := by
  have hfirst : lineOpenings.all (fun word => word.toList.head?.any (· != 'm')) = true := by
    decide +kernel
  have hhead := List.all_eq_true.mp hfirst word h
  refine motorConstant?_eq_none fun hprefix => ?_
  cases hlist : word.toList with
  | nil =>
    rw [hlist] at hhead
    cases hhead
  | cons c cs =>
    rw [String.toList_append, hlist] at hprefix
    rw [hlist] at hhead
    obtain ⟨tail, htail⟩ := hprefix
    have hc : 'm' = c := (List.cons.inj htail).1
    subst hc
    cases hhead

variable {script : String} {instrs : List Instruction} {i : Instruction}

/-- The motors of a script are those that the dialect knows. -/
theorem motor_known (hread : readInstructions Current.dialect script = .ok instrs)
    (hi : i ∈ nestedAll instrs) {motor : String} (hmotor : i.motor? = some motor) :
    motor ∈ Current.motors := by
  cases i with
  | step act info =>
    obtain ⟨-, -, s, -, -, horders⟩ := orders_of_read hread hi
    cases horders with
    | start called | stop called =>
      obtain rfl := Option.some.inj hmotor
      exact (Stmt.motorCall?_eq_some.mp called).2
    | _ => cases hmotor
  | block | branch => cases hmotor

theorem target_isWord (hread : readInstructions Current.dialect script = .ok instrs)
    {target : String} {value : Operand} {info : Info}
    (hi : .step (.assign target value) info ∈ nestedAll instrs) : isWord target = true := by
  obtain ⟨-, -, s, -, hworded, horders⟩ := orders_of_read hread hi
  cases horders with
  | assign operand assigned =>
    subst assigned
    exact (Bool.and_eq_true_iff.mp (Bool.and_eq_true_iff.mp hworded).1).1

/-- A line has the constant of the motor that its instruction moves. -/
theorem motorConstant?_line (hread : readInstructions Current.dialect script = .ok instrs)
    (hi : i ∈ nestedAll instrs) (hline : line ∈ i.texts settings) :
    motorConstant? line = i.motor?.map Text.upper := by
  cases lineOf_texts hline with
  | start motor speed info text =>
    exact motorConstant?_runLine settings (motor_known hread hi rfl) text
  | stop motor info => exact motorConstant?_stopLine (motor_known hread hi rfl)
  | assign target value info rest => exact motorConstant?_assign (target_isWord hread hi) rest
  | other still known rest => rw [motorConstant?_opening known, still, Option.map_none]

end Body

section Setup

variable {settings : Settings} {needs : Needs} {motors : List String}

/-- All the lines that can stand in an opening, those for motors apart. -/
def fixedLines : List String := openingOf .standard ⟨[.none], true, true, true, true⟩ []

/-- An opening has the lines for its motors in their order, between lines that are fixed. -/
theorem openingOf_split (settings : Settings) (needs : Needs) (motors : List String) :
    ∃ before after, openingOf settings needs motors =
        before ++ (motors.map motorSetup).flatten ++ after ∧
      ∀ line ∈ before ++ after, line ∈ fixedLines := by
  refine ⟨importLines needs ++ helperLines settings needs ++ [""] ++
    linesIf settings.portNote (portNotes ++ [""]) ++ ["# Motor configuration"],
    sensorLines needs ++ [""], by simp [openingOf], fun line hline => ?_⟩
  simp only [importLines, helperLines, sensorLines, List.mem_append, mem_linesIf] at hline
  simp only [fixedLines, openingOf, importLines, helperLines, sensorLines, Settings.standard,
    List.mem_append, mem_linesIf, List.isEmpty_cons, Bool.not_false, Bool.and_true, Bool.or_true,
    true_and]
  grind

theorem filter_fixed {name : String} (hname : "MOTOR_".toList <+: name.toList)
    {lines : List String} (hlines : ∀ line ∈ lines, line ∈ fixedLines) :
    lines.filter (assigns name) = [] := by
  have hfixed : fixedLines.all (fun line => !"MOTOR_".toList.isPrefixOf line.toList) = true := by
    decide +kernel
  rw [List.filter_eq_nil_iff]
  intro line hline hassigns
  have hfront : "MOTOR_".toList <+: line.toList := by
    rw [assigns, List.isPrefixOf_iff_prefix, String.toList_append] at hassigns
    exact hname.trans ((List.prefix_append _ _).trans hassigns)
  have hnot := List.all_eq_true.mp hfixed line (hlines line hline)
  rw [List.isPrefixOf_iff_prefix.mpr hfront] at hnot
  cases hnot

/-- Only the lines for motors give a value to a name that begins like that of a motor. -/
theorem filter_openingOf {name : String} (hname : "MOTOR_".toList <+: name.toList)
    (settings : Settings) (needs : Needs) (motors : List String) :
    (openingOf settings needs motors).filter (assigns name) =
      (motors.map fun motor => (motorSetup motor).filter (assigns name)).flatten := by
  obtain ⟨before, after, hopening, hfixed⟩ := openingOf_split settings needs motors
  rw [hopening, List.filter_append, List.filter_append,
    filter_fixed hname fun line hline => hfixed line (List.mem_append_left _ hline),
    filter_fixed hname fun line hline => hfixed line (List.mem_append_right _ hline),
    List.nil_append, List.append_nil, List.filter_flatten, List.map_map]
  rfl

theorem flatten_single {motor line : String} {motors : List String} (hnodup : motors.Nodup)
    (hmotor : motor ∈ motors) {lines : String → List String}
    (hlines : ∀ other ∈ motors, lines other = if other = motor then [line] else []) :
    (motors.map lines).flatten = [line] := by
  have hnone {others : List String} (hin : others ⊆ motors) (hnot : motor ∉ others) :
      (others.map lines).flatten = [] := by
    rw [List.flatten_eq_nil_iff]
    rintro found hfound
    obtain ⟨other, hother, rfl⟩ := List.mem_map.mp hfound
    rw [hlines other (hin hother), if_neg (by rintro rfl; exact hnot hother)]
  obtain ⟨before, after, rfl⟩ := List.append_of_mem hmotor
  obtain ⟨-, hafter, hapart⟩ := List.nodup_append.mp hnodup
  rw [List.map_append, List.flatten_append,
    hnone (List.subset_append_left _ _) fun h => hapart motor h motor List.mem_cons_self rfl,
    List.nil_append, List.map_cons, List.flatten_cons, hlines motor hmotor, if_pos rfl,
    hnone (fun x hx => List.mem_append_right _ (List.mem_cons_of_mem _ hx))
      (List.nodup_cons.mp hafter).1, List.append_nil]

variable {motor other : String}

theorem reversed_isName (h : motor ∈ Current.motors) :
    (Text.upper motor ++ "_REVERSED").toList.all isNamePart = true := by
  rw [String.toList_append, List.all_append, (capitals_shape h).2.1]
  rfl

/-- No name of a motor is as long as one with the mark of a direction. -/
theorem reversed_ne (h : motor ∈ Current.motors) (hother : other ∈ Current.motors) :
    Text.upper motor ≠ Text.upper other ++ "_REVERSED" := by
  intro heq
  have hlength := congrArg (fun name => name.toList.length) heq
  have hshort := (capitals_shape h).2.2.1
  have hlong := (capitals_shape hother).1.length_le
  have hmark : "_REVERSED".toList.length = 9 ∧ "MOTOR_".toList.length = 6 := by decide
  simp only [String.toList_append, List.length_append] at hlength
  omega

theorem motorSetup_filter (hother : other ∈ Current.motors) {name : String}
    (hname : name.toList.all isNamePart = true) :
    (motorSetup other).filter (assigns name) =
      (if name = Text.upper other then [Text.upper other ++ " = " ++ motorPort other] else []) ++
        if name = Text.upper other ++ "_REVERSED" then
          [Text.upper other ++ "_REVERSED" ++ " = " ++ "False"]
        else [] := by
  have hsetup : motorSetup other = [Text.upper other ++ " = " ++ motorPort other,
      Text.upper other ++ "_REVERSED" ++ " = " ++ "False"] := by
    unfold motorSetup
    simp only [String.append_assoc]
    rfl
  have hport := assigns_iff hname (capitals_shape hother).2.1 (motorPort other)
  have hdirection := assigns_iff hname (reversed_isName hother) "False"
  rw [hsetup]
  simp only [List.filter_cons, List.filter_nil, hport, hdirection]
  split <;> split <;> rfl

/-- A motor of a program has one line for its port. -/
theorem port_line (hknown : ∀ motor ∈ motors, motor ∈ Current.motors) (hnodup : motors.Nodup)
    (h : motor ∈ motors) : (openingOf settings needs motors).filter (assigns (Text.upper motor)) =
      [Text.upper motor ++ " = " ++ motorPort motor] := by
  have hshape := capitals_shape (hknown motor h)
  rw [filter_openingOf hshape.1]
  refine flatten_single hnodup h fun other hother => ?_
  rw [motorSetup_filter (hknown other hother) hshape.2.1,
    if_neg (reversed_ne (hknown motor h) (hknown other hother)), List.append_nil]
  by_cases hsame : other = motor
  · rw [if_pos (congrArg Text.upper hsame.symm), if_pos hsame, hsame]
  · rw [if_neg hsame, if_neg]
    exact fun heq => hsame (capitals_inj (hknown motor h) (hknown other hother) heq).symm

/-- A motor of a program has one line for its direction. -/
theorem direction_line (hknown : ∀ motor ∈ motors, motor ∈ Current.motors) (hnodup : motors.Nodup)
    (h : motor ∈ motors) :
    (openingOf settings needs motors).filter (assigns (Text.upper motor ++ "_REVERSED")) =
      [Text.upper motor ++ "_REVERSED" ++ " = " ++ "False"] := by
  have hfront : "MOTOR_".toList <+: (Text.upper motor ++ "_REVERSED").toList := by
    rw [String.toList_append]
    exact (capitals_shape (hknown motor h)).1.trans (List.prefix_append _ _)
  rw [filter_openingOf hfront]
  refine flatten_single hnodup h fun other hother => ?_
  rw [motorSetup_filter (hknown other hother) (reversed_isName (hknown motor h)),
    if_neg (reversed_ne (hknown other hother) (hknown motor h)).symm, List.nil_append]
  by_cases hsame : other = motor
  · rw [if_pos (by rw [hsame]), if_pos hsame, hsame]
  · rw [if_neg hsame, if_neg]
    intro heq
    have hcapitals : Text.upper motor = Text.upper other := by
      simpa [String.append_left_inj] using heq
    exact hsame (capitals_inj (hknown motor h) (hknown other hother) hcapitals).symm

/-- The line that defines the function on percentages. -/
def speedDefinition : String := "def percent_to_dps(percent, reversed=False):"

/-- The line that defines the function for the distance. -/
def distanceDefinition : String := "def get_distance():"

theorem definition_not_mem_motorSetup (h : motor ∈ Current.motors) {line : String}
    (hline : line ∈ [speedDefinition, distanceDefinition]) : line ∉ motorSetup motor := by
  intro hmem
  have hfront : "MOTOR_".toList <+: line.toList := by
    refine (capitals_shape h).1.trans ?_
    simp only [motorSetup, List.mem_cons, List.not_mem_nil, or_false] at hmem
    rcases hmem with rfl | rfl <;> simp only [String.toList_append, List.append_assoc] <;>
      exact List.prefix_append _ _
  simp only [List.mem_cons, List.not_mem_nil, or_false] at hline
  rcases hline with rfl | rfl <;> revert hfront <;> decide

/-- A function is defined in an opening only as a helper. -/
theorem definition_mem_iff (hknown : ∀ motor ∈ motors, motor ∈ Current.motors) {line : String}
    (hline : line ∈ [speedDefinition, distanceDefinition]) :
    line ∈ openingOf settings needs motors ↔ line ∈ helperLines settings needs := by
  have hmotors : line ∉ (motors.map motorSetup).flatten := by
    simpa using fun motor hmotor => definition_not_mem_motorSetup (hknown motor hmotor) hline
  have hfixed : line ∉ portNotes ∧ line ∉ importLines ⟨[], true, true, true, true⟩ ∧
      line ∉ sensorLines ⟨[], true, true, true, true⟩ ∧ line ≠ "" ∧
      line ≠ "# Motor configuration" := by
    simp only [List.mem_cons, List.not_mem_nil, or_false] at hline
    rcases hline with rfl | rfl <;> decide
  have himports : line ∉ importLines needs := by
    refine fun h => hfixed.2.1 ?_
    simp only [importLines, List.mem_append, mem_linesIf] at h ⊢
    grind
  have hsensors : line ∉ sensorLines needs := by
    refine fun h => hfixed.2.2.1 ?_
    simp only [sensorLines_eq, List.mem_append, mem_linesIf] at h ⊢
    grind
  simp [openingOf, himports, hsensors, hmotors, hfixed]

theorem speedDefinition_mem_iff (hknown : ∀ motor ∈ motors, motor ∈ Current.motors) :
    speedDefinition ∈ openingOf settings needs motors ↔
      needs.motors ≠ [] ∧ settings.percentSpeeds = true := by
  have hfixed : speedDefinition ∉ irNotes ∧ speedDefinition ∈ speedHelper ∧
      speedDefinition ∉ distanceHelper ∧ speedDefinition ≠ "" := by
    decide
  rw [definition_mem_iff hknown (by simp)]
  simp [helperLines, hfixed]

end Setup

/-- How motors are named in the main function of a program and set up in its opening: the lines that
run or stop a motor use the constants of these motors and no others, and each of them has one line
for its port and one for its direction, as the hub has them. -/
structure MotorsDeclared (settings : Settings) (motors opening : List String) (body : List Line) :
    Prop where
  constants : ∀ constant, (∃ line ∈ codeTexts body, motorConstant? line = some constant) ↔
    ∃ motor ∈ motors, constant = Text.upper motor
  ordered : ∃ before after, opening = before ++ (motors.map motorSetup).flatten ++ after
  ports : ∀ motor ∈ motors, ∃ port, motorPorts.lookup motor = some port ∧
    opening.filter (assigns (Text.upper motor)) = [Text.upper motor ++ " = " ++ port]
  directions : ∀ motor ∈ motors, opening.filter (assigns (Text.upper motor ++ "_REVERSED")) =
    [Text.upper motor ++ "_REVERSED" ++ " = " ++ if motorReversed motor then "True" else "False"]
  helper : speedDefinition ∈ opening ↔ motors ≠ [] ∧ settings.percentSpeeds = true

theorem port_known {motor : String} (h : motor ∈ Current.motors) :
    motorPorts.lookup motor = some (motorPort motor) := by
  have hall : Current.motors.all (fun motor => (motorPorts.lookup motor).isSome) = true := by
    decide
  obtain ⟨port, hport⟩ := Option.isSome_iff_exists.mp (List.all_eq_true.mp hall motor h)
  rw [motorPort, hport, Option.getD_some]

section Program

variable {settings : Settings} {script source program : String} {instrs : List Instruction}
  {needs : Needs} {motors opening : List String} {body : List Line}

theorem SetsUp.known (h : SetsUp instrs needs motors)
    (hread : readInstructions Current.dialect script = .ok instrs) :
    ∀ motor ∈ motors, motor ∈ Current.motors := by
  intro motor hmotor
  obtain ⟨-, i, hi, hmoves⟩ := (h.named.mem_iff motor).mp hmotor
  exact motor_known hread hi hmoves

theorem SetsUp.needs_ne_nil_iff (h : SetsUp instrs needs motors) :
    needs.motors ≠ [] ↔ motors ≠ [] := by
  rw [ne_eq, ne_eq, ← List.isEmpty_iff, ← List.isEmpty_iff, h.motors_isEmpty]

/-- Every motor that an instruction moves is collected. -/
theorem NamesMotors.mem_of_moves (hnamed : NamesMotors (nestedAll instrs) motors)
    (hread : readInstructions Current.dialect script = .ok instrs) {i : Instruction}
    (hi : i ∈ nestedAll instrs) {motor : String} (hmoves : i.motor? = some motor) :
    motor ∈ motors := by
  have hname : motor ≠ "" := by
    rintro rfl
    exact absurd (motor_known hread hi hmoves) (by decide)
  exact (hnamed.mem_iff motor).mpr ⟨hname, i, hi, hmoves⟩

/-- The lines of the main function have the constants of the motors that are collected. -/
theorem constants_iff (hread : readInstructions Current.dialect script = .ok instrs)
    (hmade : Composed settings instrs source program opening body)
    (hnamed : NamesMotors (nestedAll instrs) motors) (constant : String) :
    (∃ line ∈ codeTexts body, motorConstant? line = some constant) ↔
      ∃ motor ∈ motors, constant = Text.upper motor := by
  constructor
  · rintro ⟨line, hline, hconstant⟩
    rcases hmade.mem_codeTexts hline with rfl | ⟨i, hi, htext⟩
    · have hnone := motorConstant?_opening (by decide : "else:" ∈ lineOpenings) ""
      rw [String.append_empty, hconstant] at hnone
      cases hnone
    · rw [motorConstant?_line hread hi htext] at hconstant
      obtain ⟨motor, hmotor, rfl⟩ := Option.map_eq_some_iff.mp hconstant
      exact ⟨motor, hnamed.mem_of_moves hread hi hmotor, rfl⟩
  · rintro ⟨motor, hmotor, rfl⟩
    obtain ⟨-, i, hi, hmoves⟩ := (hnamed.mem_iff motor).mp hmotor
    have hspeaks : i.speaks = true := by
      cases i with
      | step act info =>
        cases act with
        | startMotor | stopMotor => rfl
        | _ => cases hmoves
      | block | branch => rfl
    obtain ⟨line, hline⟩ := Instruction.texts_of_speaks hspeaks (hmade.written i hi)
    have hmem : line ∈ i.texts settings := by rw [hline]; exact List.mem_singleton_self line
    refine ⟨line, hmade.texts_mem hi hmem, ?_⟩
    rw [motorConstant?_line hread hi hmem, hmoves, Option.map_some]

/-- The motors that are used and those that are set up are the same, for every script, every
settings and every source of comments with which a program is made. They are set up in the order of
their names, and in the standard settings the function on percentages is there exactly if there are
any. -/
theorem motors_declared (hread : readInstructions Current.dialect script = .ok instrs)
    (hmade : generate settings (formsOf instrs) source = .ok program) :
    ∃ opening body used motors, Composed settings instrs source program opening body ∧
      usedMotors (formsOf instrs) = .ok used ∧ used.Perm (motors.map Value.str) ∧
      NamesMotors (nestedAll instrs) motors ∧ motors.Pairwise (· < ·) ∧
      MotorsDeclared settings motors opening body := by
  obtain ⟨opening, body, hcomposed⟩ := composed_of_generate hmade
  obtain ⟨needs, motors, hsets, hopening⟩ := prelude_sets_up settings instrs
  obtain rfl := Except.ok.inj (hcomposed.opened.symm.trans hopening)
  have hknown := hsets.known hread
  refine ⟨_, body, needs.motors, motors, hcomposed, hsets.used, hsets.each, hsets.named,
    hsets.sorted, ?_⟩
  refine ⟨constants_iff hread hcomposed hsets.named, ?_, ?_, ?_, ?_⟩
  · obtain ⟨before, after, hsplit, -⟩ := openingOf_split settings needs motors
    exact ⟨before, after, hsplit⟩
  · intro motor hmotor
    exact ⟨motorPort motor, port_known (hknown motor hmotor),
      port_line hknown hsets.named.nodup hmotor⟩
  · intro motor hmotor
    rw [motorReversed_eq]
    exact direction_line hknown hsets.named.nodup hmotor
  · rw [speedDefinition_mem_iff hknown, hsets.needs_ne_nil_iff]

end Program

/-- A motor is started in a loop and in the other part of a branch, and another one is stopped. -/
def convoyScript : String :=
  "while go:\n    motor_b.start(50)\n    if far:\n        motor_a.stop()\n" ++
    "    else:\n        motor_b.start(speed)\n"

theorem motors_declared_convoyScript :
    ∃ instrs program, readInstructions Current.dialect convoyScript = .ok instrs ∧
      generate .standard (formsOf instrs) convoyScript = .ok program ∧
      ∃ opening body used motors, Composed .standard instrs convoyScript program opening body ∧
        usedMotors (formsOf instrs) = .ok used ∧ used.Perm (motors.map Value.str) ∧
        motors.Pairwise (· < ·) ∧ MotorsDeclared .standard motors opening body ∧
        "motor_a" ∈ motors ∧ "motor_b" ∈ motors ∧ speedDefinition ∈ opening := by
  have hanswer : (answerGenerate convoyScript).any (fun instrs _ =>
      (nestedAll instrs).any (·.motor? == some "motor_a") &&
        (nestedAll instrs).any (·.motor? == some "motor_b")) = true := by
    decide +kernel
  obtain ⟨instrs, program, haccepted, hmotors⟩ := accepted_of_any hanswer
  obtain ⟨hread, hmade⟩ := answerGenerate_eq_accepted haccepted
  obtain ⟨opening, body, used, motors, hcomposed, hused, hperm, hnamed, hsorted, hdeclared⟩ :=
    motors_declared hread hmade
  have hmem (motor : String) (hname : motor ≠ "")
      (h : (nestedAll instrs).any (·.motor? == some motor) = true) : motor ∈ motors := by
    obtain ⟨i, hi, hmoves⟩ := List.any_eq_true.mp h
    exact (hnamed.mem_iff motor).mpr ⟨hname, i, hi, eq_of_beq hmoves⟩
  obtain ⟨hfirst, hsecond⟩ := Bool.and_eq_true_iff.mp hmotors
  have hstopped := hmem "motor_a" (by decide) hfirst
  exact ⟨instrs, program, hread, hmade, opening, body, used, motors, hcomposed, hused, hperm,
    hsorted, hdeclared, hstopped, hmem "motor_b" (by decide) hsecond,
    hdeclared.helper.mpr ⟨List.ne_nil_of_mem hstopped, rfl⟩⟩

end Hub

end HubScript
