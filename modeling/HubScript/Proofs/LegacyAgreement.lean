import HubScript.Proofs.Layout
import HubScript.Proofs.Reduction
import HubScript.Proofs.StatementParts

/-!
# The legacy language

Scripts that stay within what the legacy dialect was made for are read by the current dialect as
they were before: both accept the same scripts, for the same reasons, and the current instructions
are the legacy ones once they are reduced.
-/
namespace HubScript

/-- Whether a statement stays within the legacy language: its motor is one of two, its speed and its
pause are constants, and its test is a truth value. -/
structure Stmt.IsLegacy (s : Stmt) : Prop where
  motor : ∀ motor ∈ s.motor?, motor = "motor_a" ∨ motor = "motor_b"
  speed : ∀ e ∈ s.speed?, (e.isLiteral || e.isMinusLiteral) = true
  pause : ∀ e ∈ s.pause?, e.isLiteral = true
  test : ∀ test ∈ s.test?, test.isBoolean = true

instance (s : Stmt) : Decidable s.IsLegacy :=
  decidable_of_iff ((∀ motor ∈ s.motor?, motor = "motor_a" ∨ motor = "motor_b") ∧
      (∀ e ∈ s.speed?, (e.isLiteral || e.isMinusLiteral) = true) ∧
      (∀ e ∈ s.pause?, e.isLiteral = true) ∧ ∀ test ∈ s.test?, test.isBoolean = true)
    ⟨fun ⟨motor, speed, pause, test⟩ => ⟨motor, speed, pause, test⟩,
      fun ⟨motor, speed, pause, test⟩ => ⟨motor, speed, pause, test⟩⟩

namespace Legacy

theorem speed_eq_current {e : Expr} (h : (e.isLiteral || e.isMinusLiteral) = true) :
    speed e = Current.speed e := by
  rcases Bool.or_eq_true_iff.mp h with h | h
  · obtain ⟨value, rfl⟩ := Expr.isLiteral_iff.mp h
    rfl
  · obtain ⟨value, rfl⟩ := Expr.isMinusLiteral_iff.mp h
    rfl

theorem seconds_eq_current {e : Expr} (h : e.isLiteral = true) :
    seconds e = Current.seconds e := by
  obtain ⟨value, rfl⟩ := Expr.isLiteral_iff.mp h
  rfl

theorem motorCall_agrees {motor method : String} {arguments : List Expr}
    (hspeed : ∀ e others, method = "start" → arguments = e :: others → speed e = Current.speed e) :
    Agree (fun legacy current => legacy = current.bind Step.reduced?)
      (dialect.motorCall (motorLetter motor) method arguments)
      (Current.dialect.motorCall motor method arguments) := by
  rcases Dialect.motorCall_cases method arguments with
    ⟨e, others, hstart, hargs, hread⟩ | ⟨_, hread⟩ | ⟨_, hread⟩
  · have hsame : dialect.speed e = Current.dialect.speed e := hspeed e others hstart hargs
    rw [hread, hread, hsame]
    exact .bind_same _ fun operand => .ok rfl
  · rw [hread, hread]
    exact .ok rfl
  · rw [hread, hread]
    exact .ok rfl

theorem functionCall_agrees {name : String} {arguments : List Expr}
    (hseconds : ∀ e others, name = "wait" → arguments = e :: others →
      seconds e = Current.seconds e) :
    Agree (fun legacy current => some legacy = current.reduced?)
      (dialect.functionCall name arguments) (Current.dialect.functionCall name arguments) := by
  rcases Dialect.functionCall_cases name arguments with
    ⟨e, others, rfl, rfl⟩ | ⟨content, rfl, rfl⟩ | ⟨_, _, hread⟩ | ⟨_, _, hread⟩
  · have hsame : dialect.seconds e = Current.dialect.seconds e := hseconds e others rfl rfl
    simp only [Dialect.functionCall, hsame]
    exact .bind_same _ fun operand => .ok rfl
  · exact .bind_same (Current.operand content) fun operand => .ok rfl
  · rw [hread, hread]
    exact .bind_same _ fun operand => .ok rfl
  · rw [hread, hread]
    exact .bind_same (arguments.mapM Current.operand) fun operands => .ok rfl

theorem call_agrees {s : Stmt} {function : Expr} {arguments : List Expr} (hs : s.IsLegacy)
    (hcall : s.call? = some (function, arguments)) :
    Agree (fun legacy current => legacy = current.bind Step.reduced?)
      (dialect.call function arguments) (Current.dialect.call function arguments) := by
  rcases Dialect.call_cases function with
    ⟨object, method, rfl⟩ | ⟨name, rfl⟩ | ⟨_, _, hpassed⟩
  · by_cases hmotor : object ∈ Current.motors
    · have hmotorCall := Stmt.motorCall?_eq_some.mpr ⟨hcall, hmotor⟩
      have hknown := hs.motor object (by simp [Stmt.motor?, hmotorCall])
      rw [Dialect.call_of_motor (motor?_of_known hknown),
        Dialect.call_of_motor (Current.motor?_of_mem hmotor)]
      refine motorCall_agrees fun e others hstart hargs => speed_eq_current (hs.speed e ?_)
      rw [hstart, hargs] at hmotorCall
      exact Stmt.speed?_eq_some.mpr ⟨object, others, hmotorCall⟩
    · rw [Dialect.call_of_no_motor (motor?_of_not_mem hmotor),
        Dialect.call_of_no_motor (Current.motor?_of_not_mem hmotor)]
      exact .ok (Dialect.sensor_reduced object method).symm
  · refine (functionCall_agrees fun e others hwait hargs => seconds_eq_current (hs.pause e ?_)).bind
      fun legacy current h => .ok h
    rw [hwait, hargs] at hcall
    exact Stmt.pause?_eq_some.mpr ⟨others, hcall⟩
  · rw [hpassed, hpassed]
    exact .ok rfl

/-- A text that stands alone is kept by the current dialect only, and left out when it is
reduced. -/
theorem expressionStmt_agrees {span : Span} {value : Expr} (hs : (Stmt.expr span value).IsLegacy) :
    Agree (fun legacy current => legacy = current.bind Instruction.reduced?)
      (dialect.expressionStmt span value) (Current.dialect.expressionStmt span value) := by
  cases hcall : (Stmt.expr span value).call? with
  | some call =>
    obtain ⟨function, arguments⟩ := call
    obtain ⟨awaited, hread⟩ := Dialect.expressionStmt_of_call hcall
    rw [hread, hread]
    refine (call_agrees hs hcall).bind fun legacy current h => .ok ?_
    subst h
    cases current <;> rfl
  | none =>
    rcases Dialect.expressionStmt_of_no_call hcall with ⟨text, hread⟩ | hread
    · rw [hread, hread]
      exact .ok rfl
    · rw [hread, hread]
      exact .ok rfl

theorem checkTest_eq_ok {reason : String → Refusal} {test : Expr} (h : test.isBoolean = true) :
    Current.checkTest reason test = .ok () := by
  rw [Current.checkTest, if_pos h]
  rfl

/-- A statement of the legacy language is read alike if its parts are. -/
theorem statement_agrees {s : Stmt} (hs : s.IsLegacy)
    (hbody : Agree (fun legacy current => legacy = reducedAll current)
      (dialect.statements s.body) (Current.dialect.statements s.body))
    (horelse : Agree (fun legacy current => legacy = reducedAll current)
      (dialect.statements s.orelse) (Current.dialect.statements s.orelse)) :
    Agree (fun legacy current => legacy = current.bind Instruction.reduced?)
      (dialect.statement s) (Current.dialect.statement s) := by
  fun_cases Dialect.statement dialect s with
  | case1 span value => exact expressionStmt_agrees hs
  | case2 span target value =>
    rw [Dialect.statement]
    exact .bind_same (Current.dialect.assigned value) fun operand => .ok rfl
  | case3 span targets value hother =>
    rw [Dialect.statement.eq_3 _ _ _ _ hother]
    exact .ok rfl
  | case4 span target source body =>
    rw [Dialect.statement]
    refine hbody.bind fun legacy current h => ?_
    subst h
    exact .bind_same _ fun target => .bind_same _ fun source => .ok rfl
  | case5 span test body =>
    have htest : Current.dialect.checkWhile test = .ok () := checkTest_eq_ok (hs.test test rfl)
    rw [Dialect.statement, htest]
    refine hbody.bind fun legacy current h => ?_
    subst h
    exact .bind_same _ fun text => .ok rfl
  | case6 span test body orelse =>
    have htest : Current.dialect.checkBranch test = .ok () := checkTest_eq_ok (hs.test test rfl)
    rw [Dialect.statement, htest]
    refine hbody.bind fun legacy current h => horelse.bind fun others currentOthers hothers => ?_
    subst h hothers
    exact .bind_same _ fun text => .ok rfl
  | case7 span => exact .ok rfl
  | case8 span name params body =>
    rw [Dialect.statement]
    refine hbody.bind fun legacy current h => ?_
    subst h
    exact .ok rfl
  | case9 span value =>
    have hsame : dialect.resultOf value = Current.dialect.resultOf value := by cases value <;> rfl
    rw [Dialect.statement, hsame]
    exact .bind_same _ fun operand => .ok rfl
  | case10 => exact .ok rfl

theorem statements_agree {stmts : List Stmt} (h : ∀ s ∈ stmtsNested stmts, s.IsLegacy) :
    Agree (fun legacy current => legacy = reducedAll current)
      (dialect.statements stmts) (Current.dialect.statements stmts) := by
  induction stmts using Stmt.forest_induction with
  | nil => exact .ok rfl
  | cons s rest ihbody ihorelse ihrest =>
    obtain ⟨hs, hbody, horelse, hrest⟩ := forall_mem_stmtsNested_cons.mp h
    rw [Dialect.statements, Dialect.statements]
    refine (statement_agrees hs (ihbody hbody) (ihorelse horelse)).bind fun legacy current hfound =>
      (ihrest hrest).bind fun others currentOthers hothers => .ok ?_
    subst hfound hothers
    cases current <;> rfl

end Legacy

/-- On the legacy language the current dialect does what the legacy one did: it accepts the same
scripts, refuses the others for the same reason, and its records are the legacy ones once lines and
comments are left out and the motors go by their letters. -/
theorem current_reduces_to_legacy {stmts : List Stmt}
    (h : ∀ s ∈ stmtsNested stmts, s.IsLegacy) :
    Agree (fun legacy current => formsOf legacy = reducedForms (formsOf current))
      (Legacy.dialect.statements stmts) (Current.dialect.statements stmts) := by
  have hagree := Legacy.statements_agree h
  generalize Legacy.dialect.statements stmts = x, Current.dialect.statements stmts = y at hagree
  cases hagree with
  | ok related => exact .ok (by rw [related, reducedForms_formsOf])
  | error refusal => exact .error refusal

/-- A loop that starts a motor backwards and has a branch with nothing but a comment on one side. -/
def patrolStmts : List Stmt :=
  [.expr (.of 1 1) (.literal (.text "patrol" false)),
    .whileLoop (.of 2 7) (.name "going")
      [.expr (.of 3 3) (.await (.call (.attribute (.name "motor_a") "start")
          [.unary .minus (.literal (.int 50))] [])),
        .branch (.of 4 7) (.name "near")
          [.expr (.of 5 5) (.call (.name "wait") [.literal (.int 1)] [])]
          [.expr (.of 7 7) (.literal (.text "go on" false))]],
    .expr (.of 8 8) (.call (.attribute (.name "motor_b") "stop") [] [])]

theorem current_reduces_to_legacy_patrolStmts :
    (∀ s ∈ stmtsNested patrolStmts, s.IsLegacy) ∧
      Agree (fun legacy current => formsOf legacy = reducedForms (formsOf current))
        (Legacy.dialect.statements patrolStmts) (Current.dialect.statements patrolStmts) ∧
      Legacy.dialect.statements patrolStmts = .ok
        [.block (.whileLoop "going")
            [.step (.startMotor "a" (.known (.int (-50)))) ⟨true, none⟩,
              .branch "near" [.step (.wait (.known (.int 1))) ⟨false, none⟩] [] ⟨false, none⟩]
            ⟨false, none⟩,
          .step (.stopMotor "b") ⟨false, none⟩] := by
  have h : ∀ s ∈ stmtsNested patrolStmts, s.IsLegacy := by decide +kernel
  exact ⟨h, current_reduces_to_legacy h, rfl⟩

end HubScript
