import HubScript.Proofs.Reading

/-!
# What statements ask for

The parts of a statement that decide whether it is read and into what: the test of a loop or a
branch, and the call that stands alone as a statement, awaited or not, with the speed or the pause
it asks for.
-/
namespace HubScript

namespace Stmt

/-- The test of a loop or a branch. -/
def test? : Stmt → Option Expr
  | .whileLoop _ test _ => some test
  | .branch _ test _ _ => some test
  | _ => none

/-- The call that a statement makes, by its function and its arguments. -/
def call? : Stmt → Option (Expr × List Expr)
  | .expr _ (.call function arguments _) => some (function, arguments)
  | .expr _ (.await (.call function arguments _)) => some (function, arguments)
  | _ => none

/-- The call of a motor that a statement makes: the motor, its method and the arguments. -/
def motorCall? (s : Stmt) : Option (String × String × List Expr) :=
  match s.call? with
  | some (.attribute (.name object) method, arguments) =>
    if Current.motors.contains object then some (object, method, arguments) else none
  | _ => none

/-- The motor that a statement calls. -/
def motor? (s : Stmt) : Option String := s.motorCall?.map Prod.fst

/-- The speed at which a statement starts a motor. -/
def speed? (s : Stmt) : Option Expr :=
  match s.motorCall? with
  | some (_, "start", speed :: _) => some speed
  | _ => none

/-- The time for which a statement waits. -/
def pause? (s : Stmt) : Option Expr :=
  match s.call? with
  | some (.name "wait", seconds :: _) => some seconds
  | _ => none

theorem motorCall?_eq_some {s : Stmt} {motor method : String} {arguments : List Expr} :
    s.motorCall? = some (motor, method, arguments) ↔
      s.call? = some (.attribute (.name motor) method, arguments) ∧ motor ∈ Current.motors := by
  unfold motorCall?
  split
  · rename_i hcall
    rw [hcall, Option.ite_none_right_eq_some, List.contains_iff_mem]
    constructor
    · rintro ⟨hmem, heq⟩
      cases heq
      exact ⟨rfl, hmem⟩
    · rintro ⟨heq, hmem⟩
      cases heq
      exact ⟨hmem, rfl⟩
  · rename_i hother
    simp only [reduceCtorEq, false_iff, not_and]
    exact fun hcall => (hother _ _ _ hcall).elim

theorem speed?_eq_some {s : Stmt} {speed : Expr} :
    s.speed? = some speed ↔
      ∃ motor others, s.motorCall? = some (motor, "start", speed :: others) := by
  unfold speed?
  split
  · rename_i hcall
    simp [hcall]
  · rename_i hother
    simp only [reduceCtorEq, false_iff, not_exists]
    exact fun motor others hcall => hother _ _ _ hcall

theorem pause?_eq_some {s : Stmt} {seconds : Expr} :
    s.pause? = some seconds ↔ ∃ others, s.call? = some (.name "wait", seconds :: others) := by
  unfold pause?
  split
  · rename_i found others hcall
    simp [hcall]
  · rename_i hother
    simp only [reduceCtorEq, false_iff, not_exists]
    exact fun others hcall => hother _ _ hcall

end Stmt

namespace Expr

def isLiteral : Expr → Bool
  | .literal _ => true
  | _ => false

/-- Whether an expression is a minus sign before a constant. -/
def isMinusLiteral : Expr → Bool
  | .unary .minus (.literal _) => true
  | _ => false

theorem isLiteral_iff {e : Expr} : e.isLiteral = true ↔ ∃ value, e = .literal value := by
  cases e <;> simp [isLiteral]

theorem text_eq_ok {e : Expr} {text : String} : e.text = .ok text ↔ e.print = .ok text := by
  unfold Expr.text
  cases e.print <;> simp

theorem isMinusLiteral_iff {e : Expr} :
    e.isMinusLiteral = true ↔ ∃ value, e = .unary .minus (.literal value) := by
  unfold isMinusLiteral
  split
  · simp
  · rename_i hother
    simp only [Bool.false_eq_true, false_iff, not_exists]
    exact hother

end Expr

namespace Current

theorem motor?_of_mem {motor : String} (h : motor ∈ motors) :
    dialect.motor? motor = some motor := by
  simp [dialect, h]

theorem motor?_of_not_mem {object : String} (h : object ∉ motors) :
    dialect.motor? object = none := by
  simp [dialect, h]

theorem operand_of_no_literal {e : Expr} (h : e.isLiteral = false) :
    operand e = e.text >>= fun text => pure (.text text) := by
  unfold operand
  split
  · cases h
  · rfl

theorem seconds_of_no_literal {e : Expr} (h : e.isLiteral = false) :
    seconds e = if e.isNumeric then e.text >>= fun text => pure (.text text)
      else throw .waitTime := by
  unfold seconds
  split
  · cases h
  · rfl

theorem speed_of_no_literal {e : Expr} (h : e.isLiteral = false)
    (hminus : e.isMinusLiteral = false) :
    speed e = if e.isNumeric then e.text >>= fun text => pure (.text text)
      else throw .motorSpeed := by
  unfold speed
  split
  · cases h
  · cases hminus
  · rfl

end Current

namespace Dialect

section Call

variable {d : Dialect} {object : String}

theorem call_of_motor {motor : String} (h : d.motor? object = some motor) (method : String)
    (arguments : List Expr) :
    d.call (.attribute (.name object) method) arguments = d.motorCall motor method arguments := by
  simp only [call, h]

theorem call_of_no_motor (h : d.motor? object = none) (method : String) (arguments : List Expr) :
    d.call (.attribute (.name object) method) arguments =
      .ok (if object == "ir_sensor" then sensorCall method else none) := by
  simp only [call, h]
  rfl

/-- A method of a name or a name is called, or the call is passed over. -/
theorem call_cases (function : Expr) :
    (∃ object method, function = .attribute (.name object) method) ∨
      (∃ name, function = .name name) ∨
      (∀ object method, function ≠ .attribute (.name object) method) ∧
        (∀ name, function ≠ .name name) ∧
        ∀ (d : Dialect) arguments, d.call function arguments = .ok none := by
  by_cases hmethod : ∃ object method, function = .attribute (.name object) method
  · exact .inl hmethod
  · by_cases hname : ∃ name, function = .name name
    · exact .inr (.inl hname)
    · simp only [not_exists] at hmethod hname
      refine .inr (.inr ⟨hmethod, hname, fun d arguments => ?_⟩)
      unfold call
      split
      · exact absurd rfl (hmethod _ _)
      · exact absurd rfl (hname _)
      · rfl

end Call

/-- A method of a motor starts it, stops it or is passed over. -/
theorem motorCall_cases (method : String) (arguments : List Expr) :
    (∃ speed others, method = "start" ∧ arguments = speed :: others ∧
        ∀ (d : Dialect) motor, d.motorCall motor method arguments =
          d.speed speed >>= fun operand => pure (some (.startMotor motor operand))) ∨
      (method = "stop" ∧ ∀ (d : Dialect) motor,
        d.motorCall motor method arguments = .ok (some (.stopMotor motor))) ∨
      (∀ speed others, method = "start" → arguments ≠ speed :: others) ∧
        ∀ (d : Dialect) motor, d.motorCall motor method arguments = .ok none := by
  by_cases hstart : ∃ speed others, method = "start" ∧ arguments = speed :: others
  · obtain ⟨speed, others, rfl, rfl⟩ := hstart
    exact .inl ⟨speed, others, rfl, rfl, fun d motor => rfl⟩
  · by_cases hstop : method = "stop"
    · subst hstop
      exact .inr (.inl ⟨rfl, fun d motor => rfl⟩)
    · refine .inr (.inr ⟨fun speed others hmethod hargs => hstart ⟨_, _, hmethod, hargs⟩,
        fun d motor => ?_⟩)
      unfold motorCall
      split
      · exact absurd ⟨_, _, rfl, rfl⟩ hstart
      · exact absurd rfl hstop
      · rfl

/-- What is printed where it is not one expression: nothing, or several joined by blanks. -/
def joinedOperand : List Expr → Reading Operand
  | [] => pure (.known (.str ""))
  | arguments => joinedContent arguments >>= fun text => pure (.text text)

theorem joinedOperand_cons (first : Expr) (others : List Expr) :
    joinedOperand (first :: others) =
      joinedContent (first :: others) >>= fun text => pure (.text text) := rfl

/-- A function that is called waits, prints, or goes by its name. What is printed differs between
dialects only if it is one expression. -/
theorem functionCall_cases (name : String) (arguments : List Expr) :
    (∃ seconds others, name = "wait" ∧ arguments = seconds :: others) ∨
      (∃ content, name = "print" ∧ arguments = [content]) ∨
      (name = "print" ∧ (∀ content, arguments ≠ [content]) ∧
        ∀ d : Dialect, d.functionCall name arguments =
          joinedOperand arguments >>= fun operand => pure (.print operand)) ∨
      (∀ seconds others, name = "wait" → arguments ≠ seconds :: others) ∧ name ≠ "print" ∧
        ∀ d : Dialect, d.functionCall name arguments =
          arguments.mapM d.argument >>= fun operands => pure (.call name operands) := by
  by_cases hwait : ∃ seconds others, name = "wait" ∧ arguments = seconds :: others
  · exact .inl hwait
  · by_cases hprint : name = "print"
    · subst hprint
      match arguments with
      | [] => exact .inr (.inr (.inl ⟨rfl, nofun, fun d => rfl⟩))
      | [content] => exact .inr (.inl ⟨content, rfl, rfl⟩)
      | first :: second :: others =>
        refine .inr (.inr (.inl ⟨rfl, nofun, fun d => ?_⟩))
        rw [joinedOperand_cons, bind_assoc]
        rfl
    · refine .inr (.inr (.inr ⟨fun seconds others hname hargs => hwait ⟨_, _, hname, hargs⟩,
        hprint, fun d => ?_⟩))
      unfold functionCall
      split
      · exact absurd ⟨_, _, rfl, rfl⟩ hwait
      · exact absurd rfl hprint
      · exact absurd rfl hprint
      · exact absurd rfl hprint
      · rfl

/-- In every dialect, a statement that makes a call is read as this call. -/
theorem expressionStmt_of_call {span : Span} {value function : Expr} {arguments : List Expr}
    (h : (Stmt.expr span value).call? = some (function, arguments)) :
    ∃ awaited, ∀ d : Dialect, d.expressionStmt span value =
      d.call function arguments >>= fun found =>
        pure (found.map fun act => .step act (d.info awaited span)) := by
  unfold Stmt.call? at h
  split at h
  · rename_i heq
    obtain ⟨rfl, rfl⟩ := Stmt.expr.inj heq
    obtain ⟨rfl, rfl⟩ := Prod.mk.inj (Option.some.inj h)
    exact ⟨false, fun d => rfl⟩
  · rename_i heq
    obtain ⟨rfl, rfl⟩ := Stmt.expr.inj heq
    obtain ⟨rfl, rfl⟩ := Prod.mk.inj (Option.some.inj h)
    exact ⟨true, fun d => rfl⟩
  · cases h

theorem statement_of_call (d : Dialect) {s : Stmt} {function : Expr} {arguments : List Expr}
    (h : s.call? = some (function, arguments)) :
    ∃ info, d.statement s = d.call function arguments >>= fun found =>
      pure (found.map fun act => .step act info) := by
  cases s with
  | expr span value =>
    obtain ⟨awaited, hread⟩ := expressionStmt_of_call h
    exact ⟨_, by rw [statement, hread d]⟩
  | _ => cases h

/-- An expression that makes no call is passed over, unless it is a text and comments are kept. -/
theorem expressionStmt_of_no_call {span : Span} {value : Expr}
    (h : (Stmt.expr span value).call? = none) :
    (∃ text, ∀ d : Dialect, d.expressionStmt span value = .ok
        (if d.keepsComments then some (.step (.comment text) (d.info false span)) else none)) ∨
      ∀ d : Dialect, d.expressionStmt span value = .ok none := by
  by_cases htext : ∃ text marked, value = .literal (.text text marked)
  · obtain ⟨text, marked, rfl⟩ := htext
    exact .inl ⟨text, fun d => rfl⟩
  · refine .inr fun d => ?_
    unfold expressionStmt
    split
    · exact absurd ⟨_, _, rfl⟩ htext
    · cases h
    · cases h
    · rfl

end Dialect

end HubScript
