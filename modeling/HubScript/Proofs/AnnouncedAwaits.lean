import HubScript.Proofs.AssignedValues

/-!
# Awaits that are announced

Whether instructions have something to wait for is asked of their kinds alone, at every depth: a
pause, a motor that is started and a call of a function count. The lines of the hub program are made
apart from this. A line is worded from words of the hub program and from texts that the instruction
brings along, so that a word to wait that is put into it is told from one that the script has
written. Words to wait come with pauses and calls, which are announced, and with assignments that
look like calls, which are not.
-/
namespace HubScript

open Hub

/-! ### Lines and their words -/

/-- A stretch of a line of code. -/
inductive Stretch where
  /-- Words of the hub program. -/
  | word (text : String)
  /-- A text that the instruction brings along, in the words of the hub. -/
  | taken (text : String)
  deriving DecidableEq, Repr

namespace Stretch

def text : Stretch → String
  | .word text => text
  | .taken text => text

/-- Whether a stretch puts a word to wait into a line. -/
def awaits : Stretch → Bool
  | .word text => mentions text "await"
  | .taken _ => false

end Stretch

/-- A line of code by its stretches. -/
abbrev Wording := List Stretch

namespace Wording

def text : Wording → String
  | [] => ""
  | stretch :: rest => stretch.text ++ Wording.text rest

/-- Whether a word to wait is put into a line. -/
def awaits (wording : Wording) : Bool := wording.any Stretch.awaits

/-- Texts that are taken with commas between them. -/
def commas : List String → Wording
  | [] => []
  | [text] => [.taken text]
  | text :: rest => .taken text :: .word ", " :: commas rest

@[simp] theorem text_nil : text [] = "" := rfl

@[simp] theorem text_word (w : String) (rest : Wording) :
    text (.word w :: rest) = w ++ text rest := rfl

@[simp] theorem text_taken (w : String) (rest : Wording) :
    text (.taken w :: rest) = w ++ text rest := rfl

@[simp] theorem text_append (a b : Wording) : text (a ++ b) = text a ++ text b := by
  induction a with
  | nil => simp
  | cons stretch rest ih => rw [List.cons_append, text, ih, text, String.append_assoc]

@[simp] theorem text_commas (texts : List String) : text (commas texts) = Printer.commas texts := by
  fun_induction commas texts with
  | case1 => rfl
  | case2 w => simp [Printer.commas]
  | case3 w rest hrest ih =>
    rw [text_taken, text_word, ih, Printer.commas, Printer.commas,
      String.intercalate_cons_of_ne_nil hrest, String.append_assoc]

theorem awaits_append (a b : Wording) : awaits (a ++ b) = (awaits a || awaits b) := List.any_append

theorem awaits_commas (texts : List String) : awaits (commas texts) = false := by
  fun_induction commas texts with
  | case1 => rfl
  | case2 => rfl
  | case3 w rest hrest ih => exact ih

end Wording

/-- An operand as it is written: a value by its text, an expression in the words of the hub. -/
def Operand.written : Operand → Except Failure String
  | .known v => v.write
  | .text expression => .ok (toHub expression)

/-- The speed of a motor in the line that runs it. -/
def speedWording (settings : Settings) : Operand → Except Failure Wording
  | .known v => do return [.taken (← v.display)]
  | .text expression =>
    .ok (if settings.percentSpeeds then [.taken (toHub expression)]
      else [.word "int(", .taken (toHub expression), .word ")"])

/-- The lines of code of a step by their stretches. -/
def Step.wordings (settings : Settings) : Step → Except Failure (List Wording)
  | .startMotor motor speed => do
    let speed ← speedWording settings speed
    return [[.word "motor.run(", .taken (Text.upper motor), .word ", ",
      .word settings.speedFunction, .word "("] ++ speed ++
        [.word ", ", .taken (Text.upper motor), .word "_REVERSED))"]]
  | .stopMotor motor => .ok [[.word "motor.stop(", .taken (Text.upper motor), .word ")"]]
  | .wait (.known v) => do
    let ms ← v.thousandfold >>= Value.writeInt
    return [[.word "await runloop.sleep_ms(", .taken ms, .word ")"]]
  | .wait (.text expression) =>
    .ok [[.word "await runloop.sleep_ms(int(", .taken (toHub expression), .word " * 1000))"]]
  | .print content => do return [[.word "print(", .taken (← content.written), .word ")"]]
  | .assign target (.text expression) =>
    .ok [[.taken target, .word (if looksAwaited (toHub expression) then " = await " else " = "),
      .taken (toHub expression)]]
  | .assign _ (.known _) => .error (.missingKey (Text.quoted "expression"))
  | .leaveLoop => .ok [[.word "break"]]
  | .giveBack (.known .none) => .ok [[.word "return"]]
  | .giveBack value => do return [[.word "return ", .taken (← value.written)]]
  | .call function arguments => do
    let items ← arguments.mapM Operand.written
    return [[.word "await ", .taken function, .word "("] ++ Wording.commas items ++ [.word ")"]]
  | .comment _ | .irDirection | .irStrength => .ok []

def Head.wording : Head → Wording
  | .forEach target source =>
    [.word "for ", .taken target, .word " in ", .taken (toHub source), .word ":"]
  | .whileLoop condition => [.word "while ", .taken (toHub condition), .word ":"]
  | .define name params =>
    [.word "async def ", .taken name, .word "("] ++ Wording.commas params ++ [.word "):"]

section Statements

variable (settings : Settings)

theorem speedText_eq (speed : Operand) :
    speedText settings speed = (speedWording settings speed).map Wording.text := by
  cases speed with
  | known v =>
    rw [speedText, speedWording]
    cases v.display <;> simp [Except.map]
  | text expression =>
    rw [speedText, speedWording]
    cases settings.percentSpeeds <;> simp [Except.map, String.append_assoc]

theorem mapM_argument (arguments : List Operand) :
    (arguments.map Operand.argument).mapM argument = arguments.mapM Operand.written := by
  have hargument (operand : Operand) : argument operand.argument = operand.written := by
    cases operand with
    | known v => exact argument_known v
    | text expression => exact argument_text expression
  rw [List.mapM_map]
  exact congrArg (arguments.mapM ·) (funext hargument)

theorem wait_known_eq (v : Value) :
    statements settings (Step.wait (.known v)).fields =
      (v.thousandfold >>= Value.writeInt) >>= fun ms =>
        .ok ["await runloop.sleep_ms(" ++ ms ++ ")"] := by
  rw [bind_assoc]
  rfl

theorem print_eq (content : Operand) :
    statements settings (Step.print content).fields =
      content.written >>= fun text => .ok ["print(" ++ text ++ ")"] := by
  cases content <;> rfl

theorem giveBack_eq {value : Operand} (h : value ≠ .known .none) :
    statements settings (Step.giveBack value).fields =
      value.written >>= fun text => .ok ["return " ++ text] := by
  cases value with
  | known v =>
    cases v with
    | none => exact absurd rfl h
    | _ => rfl
  | text expression => rfl

theorem call_eq (function : String) (arguments : List Operand) :
    statements settings (Step.call function arguments).fields =
      arguments.mapM Operand.written >>= fun items =>
        .ok ["await " ++ function ++ "(" ++ Printer.commas items ++ ")"] := by
  rw [← mapM_argument]
  rfl

/-- A result that is worded is the text of its wording. -/
theorem bind_eq_map_text {α : Type} (x : Except Failure α) {text : α → String}
    {wording : α → Wording} (h : ∀ a, text a = (wording a).text) :
    (x >>= fun a => .ok [text a]) =
      (x >>= fun a => Except.ok [wording a]).map (List.map Wording.text) := by
  cases x with
  | error failure => rfl
  | ok a => simp [Except.map, h]

/-- The statements of a step are its lines by their stretches. -/
theorem statements_eq_wordings (act : Step) :
    statements settings act.fields = (act.wordings settings).map (List.map Wording.text) := by
  cases act with
  | startMotor motor speed =>
    -- Both sides nest their appends in their own way; the line is opened once for every speed.
    have hline (speed : String) : runLine settings motor speed =
        "motor.run(" ++ Text.upper motor ++ ", " ++ settings.speedFunction ++ "(" ++ speed ++
          ", " ++ Text.upper motor ++ "_REVERSED))" := rfl
    rw [startMotor_eq, speedText_eq, Step.wordings]
    cases speedWording settings speed with
    | error failure => rfl
    | ok inner => simp [Except.map, hline, String.append_assoc]
  | stopMotor motor =>
    have hline : statements settings (Step.stopMotor motor).fields = .ok [stopLine motor] := rfl
    rw [hline, Step.wordings]
    simp [Except.map, stopLine, String.append_assoc]
  | wait seconds =>
    cases seconds with
    | known v =>
      rw [wait_known_eq]
      exact bind_eq_map_text _ fun ms => by simp [String.append_assoc]
    | text expression =>
      have hline : statements settings (Step.wait (.text expression)).fields =
          .ok ["await runloop.sleep_ms(int(" ++ toHub expression ++ " * 1000))"] := rfl
      rw [hline, Step.wordings]
      simp [Except.map, String.append_assoc]
  | print content =>
    rw [print_eq]
    exact bind_eq_map_text _ fun text => by simp [String.append_assoc]
  | assign target value =>
    cases value with
    | known v => rfl
    | text expression =>
      rw [assign_eq, Step.wordings]
      simp only [Except.map, List.map_cons, List.map_nil, Wording.text_taken, Wording.text_word,
        Wording.text_nil, String.append_empty, String.append_assoc]
  | giveBack value =>
    by_cases hnone : value = .known .none
    · subst hnone
      rfl
    · rw [giveBack_eq settings hnone, Step.wordings]
      · exact bind_eq_map_text _ fun text => by simp
      · exact hnone
  | call function arguments =>
    rw [call_eq, Step.wordings]
    exact bind_eq_map_text _ fun items => by simp [String.append_assoc]
  | leaveLoop => rfl
  | comment | irDirection | irStrength => rfl

end Statements

/-! ### Lines of instructions -/

/-- The lines of code of an instruction itself. A step that cannot be written has none. -/
def Instruction.ownWordings (settings : Settings) : Instruction → List Wording
  | .step act _ => (act.wordings settings).toOption.getD []
  | .block head _ _ => [head.wording]
  | .branch condition _ _ _ => [[.word "if ", .taken (toHub condition), .word ":"]]

/-- Whether a word to wait is put into the lines of an instruction itself. -/
def Instruction.awaits (settings : Settings) (i : Instruction) : Bool :=
  (i.ownWordings settings).any Wording.awaits

mutual

/-- The lines of code of an instruction with those of the instructions inside it. -/
def Instruction.wordings (settings : Settings) : Instruction → List Wording
  | .step act info => (Instruction.step act info).ownWordings settings
  | .block head body info =>
    (Instruction.block head body info).ownWordings settings ++ wordingsAll settings body
  | .branch condition body orelse info =>
    (Instruction.branch condition body orelse info).ownWordings settings ++
      (wordingsAll settings body ++
        if orelse.isEmpty then [] else [.word "else:"] :: wordingsAll settings orelse)

def wordingsAll (settings : Settings) : List Instruction → List Wording
  | [] => []
  | i :: rest => i.wordings settings ++ wordingsAll settings rest

end

section Instructions

variable (settings : Settings)

theorem Instruction.map_text_ownWordings (i : Instruction) :
    (i.ownWordings settings).map Wording.text = i.texts settings := by
  cases i with
  | step act info =>
    rw [ownWordings, texts, statements_eq_wordings]
    cases act.wordings settings <;> rfl
  | block head body info =>
    cases head <;> simp [ownWordings, texts, Head.wording, Head.text, toString, String.append_assoc]
  | branch condition body orelse info =>
    simp [ownWordings, texts, toString, String.append_assoc]

/-- The lines of the other part of a branch, if there is one. -/
def elseWordings (orelse : List Instruction) : List Wording :=
  if orelse.isEmpty then [] else [.word "else:"] :: wordingsAll settings orelse

theorem Instruction.wordings_of_compound {i : Instruction} (h : i.isCompound = true) :
    i.wordings settings = i.ownWordings settings ++
      (wordingsAll settings i.body ++ elseWordings settings i.orelse) := by
  cases i with
  | step => cases h
  | block head body info => simp [wordings, Instruction.body, Instruction.orelse, elseWordings]
  | branch condition body orelse info =>
    simp [wordings, Instruction.body, Instruction.orelse, elseWordings]

/-- The lines of a forest by their stretches are those of its outline. -/
theorem map_text_wordingsAll (depth : Nat) (instrs : List Instruction) :
    (wordingsAll settings instrs).map Wording.text =
      (outlineAll settings depth instrs).map CodeLine.text := by
  refine Instruction.forest_induction
    (P := fun i => ∀ depth, (i.wordings settings).map Wording.text =
      (i.outline settings depth).map CodeLine.text)
    (Q := fun instrs => ∀ depth, (wordingsAll settings instrs).map Wording.text =
      (outlineAll settings depth instrs).map CodeLine.text)
    ?step ?compound ?nil ?cons instrs depth
  case step =>
    intro act info depth
    rw [Instruction.wordings, Instruction.map_text_ownWordings, Instruction.outline, List.map_map]
    exact (List.map_id _).symm
  case compound =>
    intro i hcompound hbody helse depth
    have hother : (elseWordings settings i.orelse).map Wording.text =
        (elseOutline settings depth i.orelse).map CodeLine.text := by
      rw [elseWordings, elseOutline]
      cases i.orelse.isEmpty with
      | true => rfl
      | false => simp [helse (depth + 1)]
    rw [Instruction.wordings_of_compound settings hcompound,
      Instruction.outline_of_compound settings depth hcompound, List.map_append, List.map_append,
      List.map_append, List.map_append, Instruction.map_text_ownWordings, hbody (depth + 1), hother,
      List.map_map]
    exact congrArg (· ++ _) (List.map_id _).symm
  case nil =>
    intro depth
    rfl
  case cons =>
    intro i rest hi hrest depth
    rw [wordingsAll, outlineAll, List.map_append, List.map_append, hi depth, hrest depth]

/-- Words to wait are put into the lines of a forest if they are put into those of one of its
instructions, at any depth. -/
theorem any_awaits_wordingsAll (instrs : List Instruction) :
    (wordingsAll settings instrs).any Wording.awaits =
      (nestedAll instrs).any (Instruction.awaits settings) := by
  refine Instruction.forest_induction
    (P := fun i => (i.wordings settings).any Wording.awaits =
      i.nested.any (Instruction.awaits settings))
    (Q := fun instrs => (wordingsAll settings instrs).any Wording.awaits =
      (nestedAll instrs).any (Instruction.awaits settings))
    ?step ?compound ?nil ?cons instrs
  case step =>
    intro act info
    rw [Instruction.wordings, Instruction.nested, List.any_cons, List.any_nil, Bool.or_false]
    rfl
  case compound =>
    intro i hcompound hbody helse
    -- The line of the `else` is the only one that is not an instruction's own.
    have hother : (elseWordings settings i.orelse).any Wording.awaits =
        (nestedAll i.orelse).any (Instruction.awaits settings) := by
      rw [elseWordings, ← helse]
      cases horelse : i.orelse with
      | nil => rfl
      | cons first rest =>
        have hword : Wording.awaits [.word "else:"] = false := rfl
        rw [List.isEmpty_cons, if_neg Bool.false_ne_true, List.any_cons, hword, Bool.false_or]
    rw [Instruction.wordings_of_compound settings hcompound, Instruction.nested_eq, List.any_append,
      List.any_append, List.any_cons, List.any_append, hbody, hother]
    rfl
  case nil => rfl
  case cons =>
    intro i rest hi hrest
    rw [wordingsAll, nestedAll, List.any_append, List.any_append, hi, hrest]

end Instructions

/-! ### What is announced -/

namespace Instruction

/-- Whether an instruction counts as one to wait for. -/
def announces : Instruction → Bool
  | .step (.wait _) _ => true
  | .step (.startMotor _ _) _ => true
  | .step (.call _ _) _ => true
  | _ => false

/-- Whether an instruction assigns an expression with a round bracket that mentions none of the
plain calls in the hub. -/
def assignsBracketed : Instruction → Bool
  | .step (.assign _ (.text text)) _ =>
    text.toList.contains '(' && !plainCalls.any (mentions (toHub text))
  | _ => false

/-- Of the instructions that are not announced, those that assign such an expression have a word to
wait in their line. -/
theorem awaits_of_unannounced (settings : Settings) {i : Instruction} (h : i.announces = false) :
    i.awaits settings = i.assignsBracketed := by
  cases i with
  | step act info =>
    cases act with
    | startMotor | wait | call => cases h
    | assign target value =>
      cases value with
      | known v => rfl
      | text expression =>
        -- The word stands before the text, so that what the text itself holds is not counted.
        have hword (awaited : Bool) (e : String) : Wording.awaits [.taken target,
            .word (if awaited then " = await " else " = "), .taken e] = awaited := by
          cases awaited <;> rfl
        have hlooks : looksAwaited (toHub expression) =
            (expression.toList.contains '(' && !plainCalls.any (mentions (toHub expression))) := by
          rw [Bool.eq_iff_iff, looksAwaited_iff]
          simp
        have hown : (step (.assign target (.text expression)) info).ownWordings settings =
            [[.taken target, .word (if looksAwaited (toHub expression) then " = await " else " = "),
              .taken (toHub expression)]] := by
          rw [ownWordings, Step.wordings]
          rfl
        rw [awaits, hown, List.any_cons, List.any_nil, Bool.or_false, hword, hlooks,
          assignsBracketed]
    | print content =>
      rw [awaits, ownWordings, Step.wordings]
      cases content.written <;> rfl
    | giveBack value =>
      by_cases hnone : value = .known .none
      · subst hnone
        rfl
      · rw [awaits, ownWordings, Step.wordings]
        · cases value.written <;> rfl
        · exact hnone
    | stopMotor | leaveLoop | comment | irDirection | irStrength => rfl
  | block head body info =>
    cases head with
    | forEach | whileLoop => rfl
    | define name params =>
      rw [awaits, ownWordings, Head.wording, List.any_cons, Wording.awaits_append,
        Wording.awaits_append, Wording.awaits_commas]
      rfl
  | branch => rfl

end Instruction

/-- Whether there is something to wait for is whether an instruction announces it, at any depth. -/
theorem hasAwait_eq (instrs : List Instruction) :
    hasAwait (formsOf instrs) = .ok ((nestedAll instrs).any Instruction.announces) := by
  refine Instruction.forest_induction
    (P := fun i => formAwaits i.form = .ok (i.nested.any Instruction.announces))
    (Q := fun instrs => hasAwait (formsOf instrs) =
      .ok ((nestedAll instrs).any Instruction.announces))
    ?step ?compound ?nil ?cons instrs
  case step =>
    intro act info
    cases act <;> rfl
  case compound =>
    intro i hcompound hbody helse
    have hkind : Fields.hasType i.fields ["wait", "motor_start"] = false ∧
        Fields.hasType i.fields ["function_call"] = false ∧ i.announces = false := by
      cases i with
      | step => cases hcompound
      | block head body info => cases head <;> exact ⟨rfl, rfl, rfl⟩
      | branch => exact ⟨rfl, rfl, rfl⟩
    obtain ⟨hwaits, hcalls, hown⟩ := hkind
    have hother : suiteAwaits i.elseSuite =
        .ok ((nestedAll i.orelse).any Instruction.announces) := by
      rw [← helse]
      exact i.apply_elseSuite rfl fun _ => rfl
    rw [Instruction.form_eq, formAwaits, hwaits, hcalls, Instruction.isCompound_fields, hcompound,
      Instruction.bodySuite_of_compound hcompound, suiteAwaits, hbody, hother,
      Instruction.nested_eq, List.any_cons, List.any_append, hown]
    cases (nestedAll i.body).any Instruction.announces <;>
      cases (nestedAll i.orelse).any Instruction.announces <;> rfl
  case nil => rfl
  case cons =>
    intro i rest hi hrest
    rw [formsOf, hasAwait, hi, hrest, nestedAll, List.any_append]
    cases i.nested.any Instruction.announces <;> rfl

/-- Where nothing to wait for is announced, no word to wait is put into the lines that the workbench
writes for an instruction, whatever its level and its comments, exactly if no instruction inside
assigns an expression with a round bracket that mentions none of the plain calls. -/
theorem unannounced_awaits_iff {bench : Workbench} {instrs : List Instruction}
    (h : hasAwait (formsOf instrs) = .ok false) {i : Instruction} (hi : i ∈ instrs)
    {lines : List Line} (hlines : formLines bench.scene i.form = .ok lines) :
    bench.run (.lines i.form) = (.ok (.lines (lines.map (Line.render bench.level))), bench) ∧
      codeTexts lines = (i.wordings bench.settings).map Wording.text ∧
      ((∀ wording ∈ i.wordings bench.settings, wording.awaits = false) ↔
        ∀ j ∈ i.nested, j.assignsBracketed = false) := by
  have hquiet : ∀ j ∈ i.nested, j.announces = false := by
    rw [hasAwait_eq] at h
    intro j hj
    have hany := List.any_eq_false.mp (Except.ok.inj h) j
      (nestedAll_subset_of_mem hi j (by simpa [nestedAll] using hj))
    simpa using hany
  have hcode : codeTexts lines = (i.wordings bench.settings).map Wording.text := by
    have houtline := (formLines_lines hlines).code 0
    have hwordings := map_text_wordingsAll bench.settings 0 [i]
    rw [wordingsAll, wordingsAll, List.append_nil] at hwordings
    rw [codeTexts, houtline, hwordings, List.map_map]
    rfl
  refine ⟨?_, hcode, ?_⟩
  · rw [run_lines bench i.isNumbered_form, hlines]
    rfl
  · have hany := any_awaits_wordingsAll bench.settings [i]
    rw [wordingsAll, wordingsAll, nestedAll, nestedAll, List.append_nil, List.append_nil] at hany
    have hwordings : (∀ wording ∈ i.wordings bench.settings, wording.awaits = false) ↔
        ∀ j ∈ i.nested, j.awaits bench.settings = false := by
      simpa [List.any_eq_false] using congrArg (· = false) hany
    rw [hwordings]
    exact forall₂_congr fun j hj => by rw [Instruction.awaits_of_unannounced _ (hquiet j hj)]

/-- An instruction of a script that announces nothing, with the lines that a new workbench writes
for it, from a test of the whole computation. -/
theorem unannounced_of_any (script : String) (texts : List String) (p : Instruction → Bool)
    (h : (readInstructions Current.dialect script).toOption.any (fun instrs =>
      (hasAwait (formsOf instrs)).toOption == some false && instrs.any fun i =>
        (formLines (Workbench.new .standard).scene i.form).toOption.any (codeTexts · == texts) &&
          p i) = true) :
    ∃ instrs, readInstructions Current.dialect script = .ok instrs ∧
      hasAwait (formsOf instrs) = .ok false ∧ ∃ i ∈ instrs, ∃ lines,
        formLines (Workbench.new .standard).scene i.form = .ok lines ∧ codeTexts lines = texts ∧
        p i = true := by
  obtain ⟨instrs, hinstrs, hholds⟩ := exists_of_any h
  obtain ⟨hawait, hsome⟩ := Bool.and_eq_true_iff.mp hholds
  obtain ⟨i, hi, hholds⟩ := List.any_eq_true.mp hsome
  obtain ⟨hlines, hp⟩ := Bool.and_eq_true_iff.mp hholds
  obtain ⟨lines, hlines, htexts⟩ := exists_of_any hlines
  have hfalse : hasAwait (formsOf instrs) = .ok false := by
    rw [hasAwait_eq] at hawait ⊢
    exact congrArg _ (Option.some.inj (eq_of_beq hawait))
  exact ⟨instrs, hinstrs, hfalse, i, hi, lines, hlines, eq_of_beq htexts, hp⟩

/-- A loop in which a range is assigned and the result of a function is printed. -/
def rangeScript : String := "while go:\n    x = range(3)\n    print(f(x))\n"

theorem unannounced_awaits_rangeScript :
    ∃ instrs, readInstructions Current.dialect rangeScript = .ok instrs ∧
      hasAwait (formsOf instrs) = .ok false ∧ ∃ i ∈ instrs, ∃ lines,
        formLines (Workbench.new .standard).scene i.form = .ok lines ∧
        codeTexts lines = ["while go:", "x = range(3)", "print(f(x))"] ∧
        ∀ wording ∈ i.wordings .standard, wording.awaits = false := by
  obtain ⟨instrs, hinstrs, hfalse, i, hi, lines, hlines, htexts, hplain⟩ :=
    unannounced_of_any rangeScript ["while go:", "x = range(3)", "print(f(x))"]
      (fun i => i.nested.all (!·.assignsBracketed)) (by decide +kernel)
  obtain ⟨-, -, hiff⟩ := unannounced_awaits_iff hfalse hi hlines
  exact ⟨instrs, hinstrs, hfalse, i, hi, lines, hlines, htexts, hiff.mpr (by simpa using hplain)⟩

/-- The result of a function is assigned. -/
def resultScript : String := "x = f()\n"

/-- A word to wait is put into the line, and nothing to wait for is announced. -/
theorem unannounced_await_resultScript :
    ∃ instrs, readInstructions Current.dialect resultScript = .ok instrs ∧
      hasAwait (formsOf instrs) = .ok false ∧ ∃ i ∈ instrs, ∃ lines,
        formLines (Workbench.new .standard).scene i.form = .ok lines ∧
        codeTexts lines = ["x = await f()"] ∧
        i.wordings .standard = [[.taken "x", .word " = await ", .taken "f()"]] ∧
        Wording.awaits [.taken "x", .word " = await ", .taken "f()"] = true := by
  obtain ⟨instrs, hinstrs, hfalse, i, hi, lines, hlines, htexts, hwordings⟩ :=
    unannounced_of_any resultScript ["x = await f()"]
      (fun i => i.wordings .standard == [[.taken "x", .word " = await ", .taken "f()"]])
      (by decide +kernel)
  exact ⟨instrs, hinstrs, hfalse, i, hi, lines, hlines, htexts, eq_of_beq hwordings, rfl⟩

end HubScript
