import HubScript.Proofs.Layout
import HubScript.Proofs.Outline
import HubScript.Proofs.StatementParts

/-!
# Where lines come from

Every instruction comes from a statement of the script, and every line of code in the main function
of a program from an instruction. What a statement can order is said once, with the part of the
statement it is taken from; the names in it are words because the script has been read.
-/
namespace HubScript

section Statements

/-- What a statement orders in the current dialect, with the call or the assignment it is taken
from. -/
inductive Stmt.Orders (s : Stmt) : Step → Prop
  | comment (text : String) : Orders s (.comment text)
  | start {motor : String} {e : Expr} {others : List Expr} {speed : Operand}
      (called : s.motorCall? = some (motor, "start", e :: others))
      (read : Current.speed e = .ok speed) : Orders s (.startMotor motor speed)
  | stop {motor : String} {arguments : List Expr}
      (called : s.motorCall? = some (motor, "stop", arguments)) : Orders s (.stopMotor motor)
  | direction : Orders s .irDirection
  | strength : Orders s .irStrength
  | wait {e : Expr} {seconds : Operand} (asked : s.pause? = some e)
      (read : Current.seconds e = .ok seconds) : Orders s (.wait seconds)
  | print (content : Operand) : Orders s (.print content)
  | call (function : String) (arguments : List Operand) : Orders s (.call function arguments)
  | assign {span : Span} {target : String} {value : Expr} (operand : Operand)
      (assigned : s = .assign span [.name target] value) : Orders s (.assign target operand)
  | leave : Orders s .leaveLoop
  | give (value : Operand) : Orders s (.giveBack value)

namespace Current

variable {s : Stmt} {function : Expr} {arguments : List Expr} {act : Step}

theorem orders_of_function {name : String} (hcall : s.call? = some (.name name, arguments))
    (h : dialect.functionCall name arguments = .ok act) : s.Orders act := by
  rcases Dialect.functionCall_cases name arguments with
    ⟨e, others, rfl, rfl⟩ | ⟨e, rfl, rfl⟩ | ⟨-, -, hread⟩ | ⟨-, -, hread⟩
  · obtain ⟨seconds, hseconds, h⟩ := bind_eq_ok.mp h
    obtain rfl := Except.ok.inj h
    exact .wait (Stmt.pause?_eq_some.mpr ⟨others, hcall⟩) hseconds
  · obtain ⟨content, -, h⟩ := bind_eq_ok.mp h
    obtain rfl := Except.ok.inj h
    exact .print content
  · rw [hread] at h
    obtain ⟨content, -, h⟩ := bind_eq_ok.mp h
    obtain rfl := Except.ok.inj h
    exact .print content
  · rw [hread] at h
    obtain ⟨operands, -, h⟩ := bind_eq_ok.mp h
    obtain rfl := Except.ok.inj h
    exact .call name operands

theorem orders_of_motor {motor method : String}
    (hcall : s.motorCall? = some (motor, method, arguments))
    (h : dialect.motorCall motor method arguments = .ok (some act)) : s.Orders act := by
  rcases Dialect.motorCall_cases method arguments with
    ⟨e, others, rfl, rfl, hread⟩ | ⟨rfl, hread⟩ | ⟨-, hread⟩
  · rw [hread] at h
    obtain ⟨speed, hspeed, h⟩ := bind_eq_ok.mp h
    obtain rfl := Option.some.inj (Except.ok.inj h)
    exact .start hcall hspeed
  · rw [hread] at h
    obtain rfl := Option.some.inj (Except.ok.inj h)
    exact .stop hcall
  · rw [hread] at h
    cases h

theorem orders_of_sensor {method : String} (h : Dialect.sensorCall method = some act) :
    s.Orders act := by
  unfold Dialect.sensorCall at h
  split at h
  · obtain rfl := Option.some.inj h
    exact .direction
  · obtain rfl := Option.some.inj h
    exact .strength
  · cases h

theorem orders_of_call (hcall : s.call? = some (function, arguments))
    (h : dialect.call function arguments = .ok (some act)) : s.Orders act := by
  rcases Dialect.call_cases function with ⟨object, method, rfl⟩ | ⟨name, rfl⟩ | ⟨-, -, hpassed⟩
  · by_cases hmotor : object ∈ motors
    · rw [Dialect.call_of_motor (motor?_of_mem hmotor)] at h
      exact orders_of_motor (Stmt.motorCall?_eq_some.mpr ⟨hcall, hmotor⟩) h
    · rw [Dialect.call_of_no_motor (motor?_of_not_mem hmotor)] at h
      replace h := Except.ok.inj h
      split at h
      · exact orders_of_sensor h
      · cases h
  · obtain ⟨found, hfound, h⟩ := bind_eq_ok.mp h
    obtain rfl := Option.some.inj (Except.ok.inj h)
    exact orders_of_function hcall hfound
  · rw [hpassed] at h
    cases h

/-- A step that is read from a statement is one that the statement orders. -/
theorem orders_of_statement {info : Info}
    (h : dialect.statement s = .ok (some (.step act info))) : s.Orders act := by
  obtain ⟨-, -, -, hgives⟩ := Dialect.statement_some h
  cases hgives act info rfl with
  | @expr span value _ info h =>
    cases hcall : (Stmt.expr span value).call? with
    | some parts =>
      obtain ⟨function, arguments⟩ := parts
      obtain ⟨awaited, hread⟩ := Dialect.expressionStmt_of_call hcall
      rw [hread dialect] at h
      obtain ⟨found, hfound, h⟩ := bind_eq_ok.mp h
      obtain ⟨act', rfl, hstep⟩ := Option.map_eq_some_iff.mp (Except.ok.inj h)
      obtain ⟨rfl, -⟩ := Instruction.step.inj hstep
      exact orders_of_call hcall hfound
    | none =>
      rcases Dialect.expressionStmt_of_no_call hcall with ⟨text, hread⟩ | hread
      · rw [hread dialect] at h
        obtain ⟨rfl, -⟩ := Instruction.step.inj (Option.some.inj (Except.ok.inj h))
        exact .comment text
      · rw [hread dialect] at h
        cases h
  | assign => exact .assign _ rfl
  | stop => exact .leave
  | returns => exact .give _

end Current

/-- Every instruction at any depth is read from a statement. -/
theorem Reads.source {d : Dialect} {stmts : List Stmt} {instrs : List Instruction}
    (h : Reads d stmts instrs) {i : Instruction} (hi : i ∈ nestedAll instrs) :
    ∃ s ∈ stmtsNested stmts, d.statement s = .ok (some i) := by
  induction h with
  | nil => cases hi
  | skip _ _ ih =>
    obtain ⟨s, hs, hread⟩ := ih hi
    exact ⟨s, by simp [stmtsNested, hs], hread⟩
  | @take s _ j _ found _ _ _ ihbody ihorelse ihrest =>
    simp only [nestedAll, Instruction.nested_eq, List.cons_append, List.mem_cons,
      List.mem_append] at hi
    rcases hi with rfl | (hi | hi) | hi
    · exact ⟨s, by simp [stmtsNested, Stmt.nested_eq], found⟩
    · obtain ⟨t, ht, hread⟩ := ihbody hi
      exact ⟨t, by simp [stmtsNested, Stmt.nested_eq, ht], hread⟩
    · obtain ⟨t, ht, hread⟩ := ihorelse hi
      exact ⟨t, by simp [stmtsNested, Stmt.nested_eq, ht], hread⟩
    · obtain ⟨t, ht, hread⟩ := ihrest hi
      exact ⟨t, by simp [stmtsNested, ht], hread⟩

theorem Stmt.isWorded_of_mem {stmts : List Stmt} (h : allWorded stmts = true) :
    ∀ s ∈ stmtsNested stmts, s.isWorded = true := by
  induction stmts using Stmt.forest_induction with
  | nil => simp [stmtsNested]
  | cons s rest ihbody ihorelse ihrest =>
    obtain ⟨hs, hrest⟩ := Bool.and_eq_true_iff.mp h
    have hparts : allWorded s.body = true ∧ allWorded s.orelse = true := by
      cases s with
      | branch => exact Bool.and_eq_true_iff.mp hs
      | forEach | whileLoop | define => exact ⟨hs, rfl⟩
      | expr | assign | stop | returns | other => exact ⟨rfl, rfl⟩
    exact forall_mem_stmtsNested_cons.mpr
      ⟨hs, ihbody hparts.1, ihorelse hparts.2, ihrest hrest⟩

/-- A step at any depth of the instructions of a script is ordered by a statement whose names are
words. -/
theorem orders_of_read {script : String} {instrs : List Instruction}
    (hread : readInstructions Current.dialect script = .ok instrs) {act : Step} {info : Info}
    (hi : .step act info ∈ nestedAll instrs) :
    ∃ stmts, readScript script = .ok stmts ∧
      ∃ s ∈ stmtsNested stmts, s.isWorded = true ∧ s.Orders act := by
  obtain ⟨stmts, hstmts, hreads⟩ := readInstructions_eq_ok hread
  obtain ⟨s, hs, hstatement⟩ := hreads.source hi
  exact ⟨stmts, hstmts, s, hs, Stmt.isWorded_of_mem (allWorded_of_readScript hstmts) s hs,
    Current.orders_of_statement hstatement⟩

end Statements

section Lines

/-- Every line of an outline is that of an instruction, or opens the other part of a branch. -/
theorem outlineAll_source {settings : Hub.Settings} {instrs : List Instruction} {depth : Nat}
    {line : CodeLine} (hline : line ∈ outlineAll settings depth instrs) :
    line.text = "else:" ∨ ∃ i ∈ nestedAll instrs, line.text ∈ i.texts settings := by
  refine Instruction.forest_induction
    (P := fun j => ∀ depth, line ∈ j.outline settings depth →
      line.text = "else:" ∨ ∃ i ∈ j.nested, line.text ∈ i.texts settings)
    (Q := fun instrs => ∀ depth, line ∈ outlineAll settings depth instrs →
      line.text = "else:" ∨ ∃ i ∈ nestedAll instrs, line.text ∈ i.texts settings)
    ?step ?compound ?nil ?cons instrs depth hline
  case step =>
    intro act info depth hline
    obtain ⟨text, htext, rfl⟩ := List.mem_map.mp hline
    exact .inr ⟨.step act info, by simp [Instruction.nested], htext⟩
  case compound =>
    intro j hcompound hbody helse depth hline
    rw [Instruction.outline_of_compound settings depth hcompound, List.mem_append,
      List.mem_append] at hline
    rw [Instruction.nested_eq]
    rcases hline with hline | hline | hline
    · obtain ⟨text, htext, rfl⟩ := List.mem_map.mp hline
      exact .inr ⟨j, by simp, htext⟩
    · refine (hbody _ hline).imp_right ?_
      rintro ⟨i, hi, htext⟩
      exact ⟨i, by simp [hi], htext⟩
    · unfold elseOutline at hline
      split at hline
      · cases hline
      · rcases List.mem_cons.mp hline with rfl | hline
        · exact .inl rfl
        · refine (helse _ hline).imp_right ?_
          rintro ⟨i, hi, htext⟩
          exact ⟨i, by simp [hi], htext⟩
  case nil =>
    intro depth hline
    cases hline
  case cons =>
    intro j rest hj hrest depth hline
    rw [outlineAll, List.mem_append] at hline
    simp only [nestedAll, List.mem_append]
    rcases hline with hline | hline
    · refine (hj _ hline).imp_right ?_
      rintro ⟨i, hi, htext⟩
      exact ⟨i, .inl hi, htext⟩
    · refine (hrest _ hline).imp_right ?_
      rintro ⟨i, hi, htext⟩
      exact ⟨i, .inr hi, htext⟩

namespace Hub

/-- The texts of the lines of code, at every depth. -/
def codeTexts (lines : List Line) : List String := (codeOf 0 lines).map Prod.snd

/-- A program is put together from an opening and the lines of its main function, with the comments
of a source. -/
structure Composed (settings : Settings) (instrs : List Instruction) (source program : String)
    (opening : List String) (body : List Line) : Prop where
  opened : prelude settings (formsOf instrs) = .ok opening
  filled : ∃ table, CommentTable.ofScript source = .ok table ∧
    bodyLines ⟨settings, table⟩ (formsOf instrs) = .ok body
  joined : program = programText opening body

theorem composed_of_generate {settings : Settings} {instrs : List Instruction}
    {source program : String} (h : generate settings (formsOf instrs) source = .ok program) :
    ∃ opening body, Composed settings instrs source program opening body := by
  obtain ⟨table, opening, body, htable, hopening, hbody, hprogram⟩ :=
    generate_eq_ok (areNumbered_formsOf instrs) h
  exact ⟨opening, body, hopening, ⟨table, htable, hbody⟩, hprogram⟩

namespace Composed

variable {settings : Settings} {instrs : List Instruction} {source program : String}
  {opening : List String} {body : List Line}

theorem lines (h : Composed settings instrs source program opening body) :
    LinesOf settings (inProgramOrder instrs) body := by
  obtain ⟨table, -, hbody⟩ := h.filled
  exact bodyLines_lines hbody

theorem written (h : Composed settings instrs source program opening body) :
    ∀ i ∈ nestedAll instrs, i.IsWritten settings :=
  fun i hi => h.lines.written i (mem_nestedAll_inProgramOrder.mpr hi)

theorem codeTexts_eq (h : Composed settings instrs source program opening body) :
    codeTexts body = (outlineAll settings 0 (inProgramOrder instrs)).map CodeLine.text := by
  rw [codeTexts, h.lines.code, List.map_map]
  rfl

/-- The main function has the line of every instruction. -/
theorem texts_mem (h : Composed settings instrs source program opening body) {i : Instruction}
    (hi : i ∈ nestedAll instrs) {text : String} (htext : text ∈ i.texts settings) :
    text ∈ codeTexts body := by
  obtain ⟨line, hline, rfl⟩ := mem_outlineAll (mem_nestedAll_inProgramOrder.mpr hi) htext 0
  rw [h.codeTexts_eq]
  exact List.mem_map_of_mem hline

/-- Every line of code of the main function is that of an instruction, or an `else`. -/
theorem mem_codeTexts (h : Composed settings instrs source program opening body) {text : String}
    (htext : text ∈ codeTexts body) :
    text = "else:" ∨ ∃ i ∈ nestedAll instrs, text ∈ i.texts settings := by
  rw [h.codeTexts_eq] at htext
  obtain ⟨line, hline, rfl⟩ := List.mem_map.mp htext
  refine (outlineAll_source hline).imp_right ?_
  rintro ⟨i, hi, htext⟩
  exact ⟨i, mem_nestedAll_inProgramOrder.mp hi, htext⟩

end Composed

/-- The lines of code of a script that is accepted, from the outline of its instructions. -/
theorem codeTexts_of_any {script : String} {texts : List String}
    (h : (answerGenerate script).any (fun instrs _ =>
      (outlineAll .standard 0 (inProgramOrder instrs)).map CodeLine.text == texts) = true) :
    ∃ instrs program, answerGenerate script = .accepted instrs program ∧
      ∃ opening body, Composed .standard instrs script program opening body ∧
        codeTexts body = texts := by
  obtain ⟨instrs, program, haccepted, htexts⟩ := accepted_of_any h
  obtain ⟨opening, body, hcomposed⟩ :=
    composed_of_generate (answerGenerate_eq_accepted haccepted).2
  exact ⟨instrs, program, haccepted, opening, body, hcomposed,
    hcomposed.codeTexts_eq.trans (eq_of_beq htexts)⟩

end Hub

end Lines

end HubScript
