import HubScript.Proofs.InstructionRecord
import HubScript.Proofs.StepFailure

/-!
# How instructions are worded

A step becomes at most one line of code and an instruction that holds others opens with a header.
Expressions that are kept as texts are put into these lines in the words of the hub, each in a place
of its own; what stands before them there is known from the place.
-/
namespace HubScript

open Hub (toHub looksAwaited statements)

/-- The places of instructions in which expressions are kept as texts. -/
inductive Position where
  | speed
  | pause
  | content
  | assigned
  | result
  | argument
  | source
  | condition
  deriving DecidableEq, Repr

/-- An expression that is kept in a place. -/
structure KeptText where
  position : Position
  text : String
  deriving DecidableEq, Repr

def Operand.kept (position : Position) : Operand → List KeptText
  | .known _ => []
  | .text expression => [⟨position, expression⟩]

def Step.kept : Step → List KeptText
  | .startMotor _ speed => speed.kept .speed
  | .wait seconds => seconds.kept .pause
  | .print content => content.kept .content
  | .assign _ value => value.kept .assigned
  | .giveBack value => value.kept .result
  | .call _ arguments => arguments.flatMap (Operand.kept .argument)
  | _ => []

def Head.kept : Head → List KeptText
  | .forEach _ source => [⟨.source, source⟩]
  | .whileLoop condition => [⟨.condition, condition⟩]
  | .define _ _ => []

/-- The expressions of an instruction that are kept as texts, apart from those inside it. -/
def Instruction.kept : Instruction → List KeptText
  | .step act _ => act.kept
  | .block head _ _ => head.kept
  | .branch condition _ _ _ => [⟨.condition, condition⟩]

/-- Whether there is a line of code for a step. -/
def Step.speaks : Step → Bool
  | .comment _ | .irDirection | .irStrength => false
  | _ => true

/-- Whether there is a line of code for an instruction. -/
def Instruction.speaks : Instruction → Bool
  | .step act _ => act.speaks
  | _ => true

/-- The header of an instruction with a body. -/
def Head.text : Head → String
  | .forEach target source => s!"for {target} in {toHub source}:"
  | .whileLoop condition => s!"while {toHub condition}:"
  | .define name params => s!"async def {name}({Printer.commas params}):"

/-- The lines of code of an instruction itself. A step that cannot be written has none. -/
def Instruction.texts (settings : Hub.Settings) : Instruction → List String
  | .step act _ => (statements settings act.fields).toOption.getD []
  | .block head _ _ => [head.text]
  | .branch condition _ _ _ => [s!"if {toHub condition}:"]

/-- The words that can stand right before an expression that is not assigned. -/
def introductions : List String :=
  ["(", "int(", "await runloop.sleep_ms(int(", "print(", "return ", ", ", " in ", "while ", "if "]

/-- What stands before an expression in its line. -/
inductive KeptText.Introduced : KeptText → String → Prop
  | assigned (target text : String) :
      Introduced ⟨.assigned, text⟩
        (target ++ if looksAwaited (toHub text) then " = await " else " = ")
  | other {k : KeptText} {word : String} (unassigned : k.position ≠ .assigned) (before : String)
      (known : word ∈ introductions) : Introduced k (before ++ word)

/-- A line shows an expression in the words of the hub, with what its place puts before it. -/
def KeptText.ShownIn (k : KeptText) (line : String) : Prop :=
  ∃ before after, line = before ++ toHub k.text ++ after ∧ k.Introduced before

theorem KeptText.shownIn_after {position : Position} {text line : String}
    (before word after : String)
    (hposition : position ≠ .assigned) (hword : word ∈ introductions)
    (h : line = before ++ word ++ toHub text ++ after) : KeptText.ShownIn ⟨position, text⟩ line :=
  ⟨before ++ word, after, h, .other hposition before hword⟩

namespace Hub

variable {settings : Settings} {act : Step}

theorem statements_of_silent (h : act.speaks = false) :
    statements settings act.fields = .ok [] := by
  cases act with
  | comment | irDirection | irStrength => rfl
  | _ => cases h

theorem startMotor_shows (motor expression : String) :
    ∃ text, statements settings (Step.startMotor motor (.text expression)).fields = .ok [text] ∧
      KeptText.ShownIn ⟨.speed, expression⟩ text := by
  let name := Text.upper motor
  rcases settings with ⟨_ | _, _, _⟩
  · refine ⟨_, rfl,
      KeptText.shownIn_after ("motor.run(" ++ name ++ ", " ++ "apply_direction" ++ "(") "int("
        (")" ++ ", " ++ name ++ "_REVERSED))") (by decide) (by decide) ?_⟩
    simp only [toString, String.append_assoc, name]
  · refine ⟨_, rfl, KeptText.shownIn_after ("motor.run(" ++ name ++ ", " ++ "percent_to_dps") "("
      (", " ++ name ++ "_REVERSED))") (by decide) (by decide) ?_⟩
    simp only [toString, String.append_assoc, name]

theorem wait_shows (expression : String) :
    ∃ text, statements settings (Step.wait (.text expression)).fields = .ok [text] ∧
      KeptText.ShownIn ⟨.pause, expression⟩ text := by
  refine ⟨_, rfl, KeptText.shownIn_after "" "await runloop.sleep_ms(int(" " * 1000))" (by decide)
    (by decide) ?_⟩
  rw [String.empty_append]
  rfl

theorem print_shows (expression : String) :
    ∃ text, statements settings (Step.print (.text expression)).fields = .ok [text] ∧
      KeptText.ShownIn ⟨.content, expression⟩ text := by
  refine ⟨_, rfl, KeptText.shownIn_after "" "print(" ")" (by decide) (by decide) ?_⟩
  rw [String.empty_append]
  rfl

theorem giveBack_shows (expression : String) :
    ∃ text, statements settings (Step.giveBack (.text expression)).fields = .ok [text] ∧
      KeptText.ShownIn ⟨.result, expression⟩ text := by
  refine ⟨_, rfl, KeptText.shownIn_after "" "return " "" (by decide) (by decide) ?_⟩
  rw [String.empty_append, String.append_empty]
  rfl

theorem assign_shows (target expression : String) :
    ∃ text, statements settings (Step.assign target (.text expression)).fields = .ok [text] ∧
      KeptText.ShownIn ⟨.assigned, expression⟩ text := by
  have htarget : Fields.need (Step.assign target (.text expression)).fields "variable" =
      .ok (.str target) := rfl
  have hvalue : Fields.expression (Step.assign target (.text expression)).fields "expression" =
      .ok (toHub expression) := rfl
  change ∃ text, assigned _ = .ok [text] ∧ _
  rw [assigned, htarget, hvalue]
  simp only [ok_bind, Value.display]
  refine ⟨target ++ (if looksAwaited (toHub expression) then " = await " else " = ") ++
    toHub expression, ?_, _, "", String.append_empty.symm, .assigned target expression⟩
  split <;> rfl

/-- The text of an argument that is no constant is among those of all arguments. -/
theorem mapM_argument_text {arguments : List Operand} {texts : List String} {expression : String}
    (h : (arguments.map Operand.argument).mapM argument = .ok texts)
    (hmem : .text expression ∈ arguments) :
    ∃ before after, texts = before ++ toHub expression :: after := by
  induction arguments generalizing texts with
  | nil => cases hmem
  | cons operand rest ih =>
    rw [List.map_cons, List.mapM_cons] at h
    obtain ⟨first, hfirst, h⟩ := bind_eq_ok.mp h
    obtain ⟨others, hothers, h⟩ := bind_eq_ok.mp h
    obtain rfl := Except.ok.inj h
    rcases List.mem_cons.mp hmem with rfl | hmem
    · rw [argument_text] at hfirst
      obtain rfl := Except.ok.inj hfirst
      exact ⟨[], others, rfl⟩
    · obtain ⟨before, after, rfl⟩ := ih hothers hmem
      exact ⟨first :: before, after, rfl⟩

/-- In a list with commas, an item stands at the front or after a comma. -/
theorem commas_split (before : List String) (item : String) (after : List String) :
    ∃ front rest, Printer.commas (before ++ item :: after) = front ++ item ++ rest ∧
      (front = "" ∨ ∃ others, front = others ++ ", ") := by
  have hitem : ∃ rest, Printer.commas (item :: after) = item ++ rest := by
    cases after with
    | nil => exact ⟨"", by simp [Printer.commas]⟩
    | cons next after =>
      exact ⟨", " ++ Printer.commas (next :: after), by simp [Printer.commas, String.append_assoc]⟩
  obtain ⟨rest, hrest⟩ := hitem
  by_cases hbefore : before = []
  · subst hbefore
    exact ⟨"", rest, by rw [List.nil_append, hrest, String.empty_append], .inl rfl⟩
  · refine ⟨Printer.commas before ++ ", ", rest, ?_, .inr ⟨_, rfl⟩⟩
    rw [Printer.commas, String.intercalate_append_of_ne_nil hbefore (by simp), ← Printer.commas,
      ← Printer.commas, hrest, String.append_assoc, String.append_assoc, String.append_assoc]

theorem call_eq_ok {function : String} {arguments : List Operand} {texts : List String}
    (h : statements settings (Step.call function arguments).fields = .ok texts) :
    ∃ items, (arguments.map Operand.argument).mapM argument = .ok items ∧
      texts = ["await " ++ function ++ "(" ++ Printer.commas items ++ ")"] := by
  obtain ⟨name, hname, h⟩ := bind_eq_ok.mp h
  obtain rfl := Except.ok.inj hname
  obtain ⟨items, hitems, h⟩ := bind_eq_ok.mp h
  obtain rfl := Except.ok.inj h
  exact ⟨items, hitems, rfl⟩

theorem call_shows {function : String} {arguments : List Operand} {texts : List String}
    {expression : String}
    (h : statements settings (Step.call function arguments).fields = .ok texts)
    (hmem : .text expression ∈ arguments) :
    ∃ text, texts = [text] ∧ KeptText.ShownIn ⟨.argument, expression⟩ text := by
  obtain ⟨items, hitems, rfl⟩ := call_eq_ok h
  obtain ⟨before, after, rfl⟩ := mapM_argument_text hitems hmem
  obtain ⟨front, rest, hsplit, hfront⟩ := commas_split before (toHub expression) after
  refine ⟨_, rfl, ?_⟩
  rw [hsplit]
  rcases hfront with rfl | ⟨others, rfl⟩
  · refine KeptText.shownIn_after ("await " ++ function) "(" (rest ++ ")") (by decide)
      (by decide) ?_
    simp only [String.empty_append, String.append_assoc]
  · refine KeptText.shownIn_after ("await " ++ function ++ "(" ++ others) ", " (rest ++ ")")
      (by decide) (by decide) ?_
    simp only [String.append_assoc]

/-- A step that is written shows the expressions that it keeps in its only line. -/
theorem statements_show {texts : List String} (h : statements settings act.fields = .ok texts)
    {k : KeptText} (hk : k ∈ act.kept) : ∃ text, texts = [text] ∧ k.ShownIn text := by
  have hfixed {position : Position} {operand : Operand} (hk : k ∈ operand.kept position)
      (hshows : ∀ expression, operand = .text expression →
        ∃ text, statements settings act.fields = .ok [text] ∧
          KeptText.ShownIn ⟨position, expression⟩ text) :
      ∃ text, texts = [text] ∧ k.ShownIn text := by
    cases operand with
    | known => cases hk
    | text expression =>
      obtain rfl := List.mem_singleton.mp hk
      obtain ⟨text, htext, hshown⟩ := hshows expression rfl
      exact ⟨text, Except.ok.inj (h.symm.trans htext), hshown⟩
  cases act with
  | startMotor motor speed => exact hfixed hk fun _ hs => hs ▸ startMotor_shows motor _
  | wait seconds => exact hfixed hk fun _ hs => hs ▸ wait_shows _
  | print content => exact hfixed hk fun _ hs => hs ▸ print_shows _
  | assign target value => exact hfixed hk fun _ hs => hs ▸ assign_shows target _
  | giveBack value => exact hfixed hk fun _ hs => hs ▸ giveBack_shows _
  | call function arguments =>
    obtain ⟨operand, hoperand, hk⟩ := List.mem_flatMap.mp hk
    cases operand with
    | known => cases hk
    | text expression =>
      obtain rfl := List.mem_singleton.mp hk
      exact call_shows h hoperand
  | comment | stopMotor | irDirection | irStrength | leaveLoop => cases hk

/-- A step that has a line of code has one. -/
theorem statements_of_speaks {texts : List String} (hspeaks : act.speaks = true)
    (h : statements settings act.fields = .ok texts) : ∃ text, texts = [text] := by
  have hshown {k : KeptText} (hk : k ∈ act.kept) : ∃ text, texts = [text] := by
    obtain ⟨text, htexts, -⟩ := statements_show h hk
    exact ⟨text, htexts⟩
  have hwritten {α : Type} {x : Except Failure α} {f : α → String}
      (h : (x >>= fun a => .ok [f a]) = .ok texts) : ∃ text, texts = [text] := by
    obtain ⟨a, -, h⟩ := bind_eq_ok.mp h
    exact ⟨f a, (Except.ok.inj h).symm⟩
  cases act with
  | startMotor motor speed =>
    cases speed with
    | text expression => exact hshown List.mem_cons_self
    | known v => exact hwritten h
  | wait seconds =>
    cases seconds with
    | text expression => exact hshown List.mem_cons_self
    | known v =>
      obtain ⟨n, -, h⟩ := bind_eq_ok.mp h
      exact hwritten h
  | print content =>
    cases content with
    | text expression => exact hshown List.mem_cons_self
    | known v => exact hwritten h
  | assign target value =>
    cases value with
    | text expression => exact hshown List.mem_cons_self
    | known v => cases h
  | giveBack value =>
    cases value with
    | text expression => exact hshown List.mem_cons_self
    | known v =>
      cases v with
      | none => exact ⟨_, (Except.ok.inj h).symm⟩
      | _ => exact hwritten h
  | call function arguments =>
    obtain ⟨items, -, htexts⟩ := call_eq_ok h
    exact ⟨_, htexts⟩
  | stopMotor | leaveLoop => exact ⟨_, (Except.ok.inj h).symm⟩
  | comment | irDirection | irStrength => cases hspeaks

end Hub

namespace Instruction

variable {settings : Hub.Settings} {i : Instruction}

/-- Whether an instruction itself can be written. -/
def IsWritten (settings : Hub.Settings) : Instruction → Prop
  | .step act _ => ∃ texts, statements settings act.fields = .ok texts
  | _ => True

theorem texts_of_silent (h : i.speaks = false) : i.texts settings = [] := by
  cases i with
  | step act info => rw [texts, Hub.statements_of_silent h]; rfl
  | block | branch => cases h

theorem texts_of_speaks (hspeaks : i.speaks = true) (h : i.IsWritten settings) :
    ∃ text, i.texts settings = [text] := by
  cases i with
  | step act info =>
    obtain ⟨texts, htexts⟩ := h
    obtain ⟨text, rfl⟩ := Hub.statements_of_speaks hspeaks htexts
    exact ⟨text, by rw [Instruction.texts, htexts]; rfl⟩
  | block | branch => exact ⟨_, rfl⟩

/-- An instruction shows the expressions that it keeps in its own line. -/
theorem texts_show (h : i.IsWritten settings) {k : KeptText} (hk : k ∈ i.kept) :
    ∃ text, i.texts settings = [text] ∧ k.ShownIn text := by
  cases i with
  | step act info =>
    obtain ⟨texts, htexts⟩ := h
    obtain ⟨text, rfl, hshown⟩ := Hub.statements_show htexts hk
    exact ⟨text, by rw [Instruction.texts, htexts]; rfl, hshown⟩
  | block head body info =>
    cases head with
    | forEach target source =>
      obtain rfl := List.mem_singleton.mp hk
      exact ⟨_, rfl,
        KeptText.shownIn_after ("for " ++ target) " in " ":" (by decide) (by decide) rfl⟩
    | whileLoop condition =>
      obtain rfl := List.mem_singleton.mp hk
      refine ⟨_, rfl, KeptText.shownIn_after "" "while " ":" (by decide) (by decide) ?_⟩
      rw [String.empty_append]
      rfl
    | define => cases hk
  | branch condition body orelse info =>
    obtain rfl := List.mem_singleton.mp hk
    refine ⟨_, rfl, KeptText.shownIn_after "" "if " ":" (by decide) (by decide) ?_⟩
    rw [String.empty_append]
    rfl

/-- The header of an instruction that holds others is its line, and only a branch has another
part. -/
theorem header_eq (settings : Hub.Settings) (h : i.isCompound = true) :
    ∃ header, Hub.header? i.fields = .ok (some header) ∧ i.texts settings = [header.text] ∧
      (i.orelse ≠ [] → ∃ text, header = .branch text) := by
  cases i with
  | step => cases h
  | block head body info =>
    cases head with
    | forEach | whileLoop => exact ⟨_, rfl, rfl, fun hne => absurd rfl hne⟩
    | define name params =>
      exact ⟨_, header_of_define name params body info, rfl, fun hne => absurd rfl hne⟩
  | branch condition body orelse info => exact ⟨_, rfl, rfl, fun _ => ⟨_, rfl⟩⟩

end Instruction

end HubScript
