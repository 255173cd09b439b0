import HubScript.Proofs.Except
import HubScript.Service

/-!
# How statements become instructions

`Reads` says of a whole forest which statement each instruction comes from: statements are passed
over or taken one by one, and the parts of an instruction are read from the parts of its statement.
Whatever holds of all instructions of a script is proved by induction on it.
-/
namespace HubScript

/-- The statements below a statement that are read with it. -/
def Stmt.body : Stmt → List Stmt
  | .forEach _ _ _ body => body
  | .whileLoop _ _ body => body
  | .branch _ _ body _ => body
  | .define _ _ _ body => body
  | _ => []

/-- The statements of the other part of a branch. -/
def Stmt.orelse : Stmt → List Stmt
  | .branch _ _ _ orelse => orelse
  | _ => []

theorem Stmt.sizeOf_parts_lt (s : Stmt) :
    sizeOf s.body < sizeOf s ∧ sizeOf s.orelse < sizeOf s := by
  have hspan (span : Span) : 0 < sizeOf span := by
    cases span
    simp only [Span.mk.sizeOf_spec]
    omega
  cases s with
  | expr span | assign span | forEach span | whileLoop span | branch span | stop span
  | define span | returns span | other span =>
    have := hspan span
    simp [Stmt.body, Stmt.orelse]
    omega

/-- Induction over scripts: what holds of no statements, and of a statement before others when it
holds of the parts of the one and of the others, holds of all statements. -/
theorem Stmt.forest_induction {P : List Stmt → Prop} (nil : P [])
    (cons : ∀ (s : Stmt) (rest : List Stmt), P s.body → P s.orelse → P rest → P (s :: rest))
    (stmts : List Stmt) : P stmts := by
  match stmts with
  | [] => exact nil
  | s :: rest =>
    exact cons s rest (forest_induction nil cons s.body) (forest_induction nil cons s.orelse)
      (forest_induction nil cons rest)
termination_by sizeOf stmts
decreasing_by
  all_goals
    have := s.sizeOf_parts_lt
    have := List.cons.sizeOf_spec s rest
    omega

namespace Instruction

def body : Instruction → List Instruction
  | .step _ _ => []
  | .block _ body _ => body
  | .branch _ body _ _ => body

def orelse : Instruction → List Instruction
  | .branch _ _ orelse _ => orelse
  | _ => []

/-- Whether an instruction holds others. -/
def isCompound : Instruction → Bool
  | .step _ _ => false
  | _ => true

end Instruction

mutual

/-- An instruction with all those inside it. -/
def Instruction.nested : Instruction → List Instruction
  | .step act info => [.step act info]
  | .block head body info => .block head body info :: nestedAll body
  | .branch condition body orelse info =>
    .branch condition body orelse info :: (nestedAll body ++ nestedAll orelse)

/-- All instructions of a forest, at every depth. -/
def nestedAll : List Instruction → List Instruction
  | [] => []
  | i :: rest => i.nested ++ nestedAll rest

end

theorem Instruction.nested_eq (i : Instruction) :
    i.nested = i :: (nestedAll i.body ++ nestedAll i.orelse) := by
  cases i <;> simp [Instruction.nested, Instruction.body, Instruction.orelse, nestedAll]

theorem nestedAll_subset_of_mem {i : Instruction} {instrs : List Instruction} (h : i ∈ instrs) :
    ∀ j ∈ nestedAll [i], j ∈ nestedAll instrs := by
  induction instrs with
  | nil => cases h
  | cons first rest ih =>
    intro j hj
    rw [nestedAll, List.mem_append]
    rcases List.mem_cons.mp h with rfl | h
    · left
      simpa [nestedAll] using hj
    · exact .inr (ih h j hj)

theorem forall_mem_nestedAll_cons {p : Instruction → Prop} {i : Instruction}
    {rest : List Instruction} :
    (∀ j ∈ nestedAll (i :: rest), p j) ↔
      p i ∧ (∀ j ∈ nestedAll i.body, p j) ∧ (∀ j ∈ nestedAll i.orelse, p j) ∧
        ∀ j ∈ nestedAll rest, p j := by
  simp [nestedAll, Instruction.nested_eq, or_imp, forall_and]

/-- Induction over forests: what holds of a step, of an instruction whose parts are forests of the
kind, and of forests put together from these, holds of all instructions and forests. -/
theorem Instruction.forest_induction {P : Instruction → Prop} {Q : List Instruction → Prop}
    (step : ∀ act info, P (.step act info))
    (compound : ∀ i : Instruction, i.isCompound = true → Q i.body → Q i.orelse → P i)
    (nil : Q []) (cons : ∀ i rest, P i → Q rest → Q (i :: rest)) (instrs : List Instruction) :
    Q instrs :=
  @Instruction.rec_1 P Q step
    (fun head body info ih => compound (.block head body info) rfl ih nil)
    (fun condition body orelse info => compound (.branch condition body orelse info) rfl)
    nil cons instrs

/-- Instructions as they are read from statements. -/
inductive Reads (d : Dialect) : List Stmt → List Instruction → Prop
  | nil : Reads d [] []
  | skip {s : Stmt} {stmts : List Stmt} {instrs : List Instruction}
      (passed : d.statement s = .ok none) (rest : Reads d stmts instrs) :
      Reads d (s :: stmts) instrs
  | take {s : Stmt} {stmts : List Stmt} {i : Instruction} {instrs : List Instruction}
      (found : d.statement s = .ok (some i)) (body : Reads d s.body i.body)
      (orelse : Reads d s.orelse i.orelse) (rest : Reads d stmts instrs) :
      Reads d (s :: stmts) (i :: instrs)

namespace Dialect

variable {d : Dialect}

theorem expressionStmt_some {span : Span} {value : Expr} {i : Instruction}
    (h : d.expressionStmt span value = .ok (some i)) :
    ∃ act awaited, i = .step act (d.info awaited span) := by
  have hstep {awaited : Bool} {x : Reading (Option Step)}
      (h : (x >>= fun act => pure (act.map fun act => .step act (d.info awaited span))) =
        .ok (some i)) : ∃ act awaited, i = .step act (d.info awaited span) := by
    obtain ⟨act, _, h⟩ := bind_eq_ok.mp h
    obtain ⟨act, rfl, rfl⟩ := Option.map_eq_some_iff.mp (Except.ok.inj h)
    exact ⟨act, awaited, rfl⟩
  unfold expressionStmt at h
  split at h
  · have h := Except.ok.inj h
    split at h
    · exact ⟨_, _, (Option.some.inj h).symm⟩
    · cases h
  · exact hstep h
  · exact hstep h
  · cases h

/-- The steps that statements give. -/
inductive Gives (d : Dialect) : Stmt → Step → Prop
  | expr {span : Span} {value : Expr} {act : Step} {info : Info}
      (h : d.expressionStmt span value = .ok (some (.step act info))) :
      Gives d (.expr span value) act
  | assign {span : Span} {target : String} {value : Expr} {operand : Operand}
      (h : d.assigned value = .ok operand) :
      Gives d (.assign span [.name target] value) (.assign target operand)
  | stop {span : Span} : Gives d (.stop span) .leaveLoop
  | returns {span : Span} {value : Option Expr} {operand : Operand}
      (h : d.resultOf value = .ok operand) : Gives d (.returns span value) (.giveBack operand)

/-- The instruction of a statement has its lines, its parts are read from those of the statement,
and a step is one that the statement gives. -/
theorem statement_some {s : Stmt} {i : Instruction} (h : d.statement s = .ok (some i)) :
    (∃ awaited, i.info = d.info awaited s.span) ∧
      d.statements s.body = .ok i.body ∧ d.statements s.orelse = .ok i.orelse ∧
      ∀ act info, i = .step act info → d.Gives s act := by
  fun_cases statement d s with
  | case1 span value =>
    obtain ⟨act, awaited, rfl⟩ := expressionStmt_some h
    exact ⟨⟨awaited, rfl⟩, rfl, rfl, fun _ _ hact => .expr (hact ▸ h)⟩
  | case2 span target value =>
    obtain ⟨operand, hoperand, h⟩ := bind_eq_ok.mp h
    obtain rfl := Option.some.inj (Except.ok.inj h)
    refine ⟨⟨false, rfl⟩, rfl, rfl, fun act info hact => ?_⟩
    obtain ⟨rfl, -⟩ := Instruction.step.inj hact
    exact .assign hoperand
  | case3 span targets value hother =>
    rw [statement.eq_3 d span targets value hother] at h
    cases h
  | case4 span target source body =>
    obtain ⟨instrs, hbody, h⟩ := bind_eq_ok.mp h
    obtain ⟨_, _, h⟩ := bind_eq_ok.mp h
    obtain ⟨_, _, h⟩ := bind_eq_ok.mp h
    obtain rfl := Option.some.inj (Except.ok.inj h)
    exact ⟨⟨false, rfl⟩, hbody, rfl, nofun⟩
  | case5 span test body =>
    obtain ⟨_, _, h⟩ := bind_eq_ok.mp h
    obtain ⟨instrs, hbody, h⟩ := bind_eq_ok.mp h
    obtain ⟨_, _, h⟩ := bind_eq_ok.mp h
    obtain rfl := Option.some.inj (Except.ok.inj h)
    exact ⟨⟨false, rfl⟩, hbody, rfl, nofun⟩
  | case6 span test body orelse =>
    obtain ⟨_, _, h⟩ := bind_eq_ok.mp h
    obtain ⟨instrs, hbody, h⟩ := bind_eq_ok.mp h
    obtain ⟨others, horelse, h⟩ := bind_eq_ok.mp h
    obtain ⟨_, _, h⟩ := bind_eq_ok.mp h
    obtain rfl := Option.some.inj (Except.ok.inj h)
    exact ⟨⟨false, rfl⟩, hbody, horelse, nofun⟩
  | case7 span =>
    obtain rfl := Option.some.inj (Except.ok.inj h)
    refine ⟨⟨false, rfl⟩, rfl, rfl, fun act info hact => ?_⟩
    obtain ⟨rfl, -⟩ := Instruction.step.inj hact
    exact .stop
  | case8 span name params body =>
    obtain ⟨instrs, hbody, h⟩ := bind_eq_ok.mp h
    obtain rfl := Option.some.inj (Except.ok.inj h)
    exact ⟨⟨false, rfl⟩, hbody, rfl, nofun⟩
  | case9 span value =>
    obtain ⟨operand, hoperand, h⟩ := bind_eq_ok.mp h
    obtain rfl := Option.some.inj (Except.ok.inj h)
    refine ⟨⟨false, rfl⟩, rfl, rfl, fun act info hact => ?_⟩
    obtain ⟨rfl, -⟩ := Instruction.step.inj hact
    exact .returns hoperand
  | case10 => cases h

theorem statements_reads {stmts : List Stmt} {instrs : List Instruction}
    (h : d.statements stmts = .ok instrs) : Reads d stmts instrs := by
  induction stmts using Stmt.forest_induction generalizing instrs with
  | nil =>
    obtain rfl := Except.ok.inj h
    exact .nil
  | cons s rest ihbody ihorelse ihrest =>
    obtain ⟨found, hs, h⟩ := bind_eq_ok.mp h
    obtain ⟨others, hrest, h⟩ := bind_eq_ok.mp h
    obtain rfl := Except.ok.inj h
    cases found with
    | none => exact .skip hs (ihrest hrest)
    | some i =>
      obtain ⟨_, hbody, horelse, _⟩ := statement_some hs
      exact .take hs (ihbody hbody) (ihorelse horelse) (ihrest hrest)

end Dialect

/-- The instructions of a script are read from its statements. -/
theorem readInstructions_eq_ok {d : Dialect} {script : String} {instrs : List Instruction}
    (h : readInstructions d script = .ok instrs) :
    ∃ stmts, readScript script = .ok stmts ∧ Reads d stmts instrs := by
  unfold readInstructions at h
  split at h
  · cases h
  · rename_i stmts hstmts
    split at h
    · rename_i instrs' hinstrs
      obtain rfl := Except.ok.inj h
      exact ⟨stmts, hstmts, Dialect.statements_reads hinstrs⟩
    · cases h

end HubScript
