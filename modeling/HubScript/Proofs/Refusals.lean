import HubScript.Proofs.Layout
import HubScript.Proofs.StatementParts

/-!
# Where reading fails

A statement is refused for what it says itself, for a statement inside it, or because its header
cannot be written, and the first of these that applies is the reason given. So where headers can be
written, a script is refused for the first of its statements, from top to bottom, that has a reason
of its own.
-/
namespace HubScript

section Refusal

variable {α β : Type}

/-- The reason why something is not read. -/
def refusal? : Reading α → Option Refusal
  | .ok _ => none
  | .error refusal => some refusal

@[simp] theorem refusal?_ok (a : α) : refusal? (.ok a) = none := rfl

@[simp] theorem refusal?_error (refusal : Refusal) :
    refusal? (.error refusal : Reading α) = some refusal := rfl

theorem refusal?_eq_some {x : Reading α} {refusal : Refusal} :
    refusal? x = some refusal ↔ x = .error refusal := by
  cases x <;> simp

theorem refusal?_eq_none {x : Reading α} : refusal? x = none ↔ ∃ a, x = .ok a := by
  cases x <;> simp

/-- Of two steps, the first that fails gives the reason. -/
theorem refusal?_bind {x : Reading α} {f : α → Reading β} {later : Option Refusal}
    (h : ∀ a, refusal? (f a) = later) : refusal? (x >>= f) = (refusal? x).or later := by
  cases x with
  | error refusal => rfl
  | ok a => exact h a

theorem refusal?_bind_pure (x : Reading α) (f : α → β) :
    refusal? (x >>= fun a => pure (f a)) = refusal? x := by
  have hlater (a : α) : refusal? (pure (f a) : Reading β) = none := rfl
  rw [refusal?_bind hlater, Option.or_none]

end Refusal

/-- Why the header of a statement cannot be written. -/
def Stmt.headRefusal? : Stmt → Option Refusal
  | .forEach _ target source _ => (refusal? target.text).or (refusal? source.text)
  | .whileLoop _ test _ => refusal? test.text
  | .branch _ test _ _ => refusal? test.text
  | _ => none

namespace Dialect

variable (d : Dialect)

/-- Why a statement is refused, apart from those inside it and from its header. -/
def ownRefusal? : Stmt → Option Refusal
  | .expr span value => refusal? (d.expressionStmt span value)
  | .assign _ [.name _] value => refusal? (d.assigned value)
  | .whileLoop _ test _ => refusal? (d.checkWhile test)
  | .branch _ test _ _ => refusal? (d.checkBranch test)
  | .returns _ value => refusal? (d.resultOf value)
  | _ => none

@[simp] theorem refusal?_statements_nil : refusal? (d.statements []) = none := by
  rw [statements]
  rfl

theorem refusal?_statements_cons (s : Stmt) (rest : List Stmt) :
    refusal? (d.statements (s :: rest)) =
      (refusal? (d.statement s)).or (refusal? (d.statements rest)) := by
  rw [statements]
  exact refusal?_bind fun found => refusal?_bind_pure _ _

/-- A statement is refused for itself, for its parts or for its header, in this order. -/
theorem refusal?_statement (s : Stmt) :
    refusal? (d.statement s) =
      (d.ownRefusal? s).or ((refusal? (d.statements s.body)).or
        ((refusal? (d.statements s.orelse)).or s.headRefusal?)) := by
  fun_cases statement d s with
  | case1 span value => simp [ownRefusal?, Stmt.body, Stmt.orelse, Stmt.headRefusal?]
  | case2 span target value =>
    rw [refusal?_bind_pure]
    simp [ownRefusal?, Stmt.body, Stmt.orelse, Stmt.headRefusal?]
  | case3 span targets value hother =>
    have hown : d.ownRefusal? (.assign span targets value) = none := by
      unfold ownRefusal?
      split <;> simp_all
    simp [hown, Stmt.body, Stmt.orelse, Stmt.headRefusal?]
  | case4 span target source body =>
    have hhead (instrs : List Instruction) : refusal? (do
        let target ← target.text
        let source ← source.text
        return some (Instruction.block (.forEach target source) instrs (d.info false span))) =
          (refusal? target.text).or (refusal? source.text) :=
      refusal?_bind fun _ => refusal?_bind_pure _ _
    rw [refusal?_bind hhead]
    simp [ownRefusal?, Stmt.body, Stmt.orelse, Stmt.headRefusal?]
  | case5 span test body =>
    rw [refusal?_bind fun _ => refusal?_bind fun _ => refusal?_bind_pure _ _]
    simp [ownRefusal?, Stmt.body, Stmt.orelse, Stmt.headRefusal?]
  | case6 span test body orelse =>
    rw [refusal?_bind fun _ => refusal?_bind fun _ => refusal?_bind fun _ => refusal?_bind_pure _ _]
    simp [ownRefusal?, Stmt.body, Stmt.orelse, Stmt.headRefusal?]
  | case7 span => simp [ownRefusal?, Stmt.body, Stmt.orelse, Stmt.headRefusal?]
  | case8 span name params body =>
    rw [refusal?_bind_pure]
    simp [ownRefusal?, Stmt.body, Stmt.orelse, Stmt.headRefusal?]
  | case9 span value =>
    rw [refusal?_bind_pure]
    simp [ownRefusal?, Stmt.body, Stmt.orelse, Stmt.headRefusal?]
  | case10 span => simp [ownRefusal?, Stmt.body, Stmt.orelse, Stmt.headRefusal?]

/-- Where headers can be written, the first statement with a reason of its own gives the reason. -/
theorem refusal?_statements_eq_findSome? {stmts : List Stmt}
    (h : ∀ s ∈ stmtsNested stmts, s.headRefusal? = none) :
    refusal? (d.statements stmts) = (stmtsNested stmts).findSome? d.ownRefusal? := by
  induction stmts using Stmt.forest_induction with
  | nil => simp [stmtsNested]
  | cons s rest ihbody ihorelse ihrest =>
    obtain ⟨hs, hbody, horelse, hrest⟩ := forall_mem_stmtsNested_cons.mp h
    rw [refusal?_statements_cons, refusal?_statement, hs, ihbody hbody, ihorelse horelse,
      ihrest hrest, stmtsNested, Stmt.nested_eq]
    cases hown : d.ownRefusal? s with
    | some refusal => simp [hown]
    | none => simp [hown, List.findSome?_append, Option.or_assoc]

theorem ownRefusal?_of_call {s : Stmt} {function : Expr} {arguments : List Expr}
    (h : s.call? = some (function, arguments)) :
    d.ownRefusal? s = refusal? (d.call function arguments) := by
  cases s with
  | expr span value =>
    obtain ⟨awaited, hread⟩ := expressionStmt_of_call h
    rw [ownRefusal?, hread d, refusal?_bind_pure]
  | _ => cases h

theorem ownRefusal?_of_no_call {span : Span} {value : Expr}
    (h : (Stmt.expr span value).call? = none) : d.ownRefusal? (.expr span value) = none := by
  rcases expressionStmt_of_no_call h with ⟨text, hread⟩ | hread
  · rw [ownRefusal?, hread d, refusal?_ok]
  · rw [ownRefusal?, hread d, refusal?_ok]

end Dialect

/-- The expressions of a statement whose text can be asked for. -/
def Stmt.written : Stmt → List Expr
  | .assign _ _ value => [value]
  | .forEach _ target source _ => [target, source]
  | .whileLoop _ test _ => [test]
  | .branch _ test _ _ => [test]
  | .returns _ value => value.toList
  | s => (s.call?.map Prod.snd).getD []

theorem Stmt.written_of_call {s : Stmt} {function : Expr} {arguments : List Expr}
    (h : s.call? = some (function, arguments)) : s.written = arguments := by
  cases s with
  | expr span value => simp [Stmt.written, h]
  | _ => cases h

theorem Stmt.mem_written_of_test {s : Stmt} {test : Expr} (h : s.test? = some test) :
    test ∈ s.written := by
  cases s with
  | whileLoop | branch =>
    obtain rfl := Option.some.inj h
    exact List.mem_cons_self
  | _ => cases h

/-- Why an expression has no text. -/
def Expr.printFault? (e : Expr) : Option PrintFault :=
  match e.print with
  | .ok _ => none
  | .error fault => some fault

/-- The first of some expressions that has no text is the reason. -/
def TextFails (asked : List Expr) (refusal : Refusal) : Prop :=
  ∃ fault, asked.findSome? Expr.printFault? = some fault ∧ refusal = .failed (.print fault)

section TextFails

variable {e : Expr} {es others : List Expr} {refusal : Refusal}

@[simp] theorem not_textFails_nil : ¬TextFails [] refusal := by
  simp [TextFails]

theorem text_eq_error : e.text = .error refusal ↔ TextFails [e] refusal := by
  cases h : e.print with
  | ok text => simp [TextFails, Expr.text, Expr.printFault?, h]
  | error fault => simp [TextFails, Expr.text, Expr.printFault?, h, eq_comm]

theorem textFails_append :
    TextFails (es ++ others) refusal ↔
      TextFails es refusal ∨ (∀ r, ¬TextFails es r) ∧ TextFails others refusal := by
  cases h : es.findSome? Expr.printFault? with
  | none => simp [TextFails, List.findSome?_append, h]
  | some fault => simp [TextFails, List.findSome?_append, h]

theorem not_textFails_of_written (h : ∀ e ∈ es, ∃ text, e.text = .ok text) :
    ¬TextFails es refusal := by
  rintro ⟨fault, hfault, -⟩
  obtain ⟨e, he, hprint⟩ := List.exists_of_findSome?_eq_some hfault
  obtain ⟨text, htext⟩ := h e he
  cases hok : e.print with
  | ok text => simp [Expr.printFault?, hok] at hprint
  | error fault => simp [Expr.text, hok] at htext

/-- Expressions that are read one by one fail for the first text that one of them asks for. -/
theorem mapM_eq_error_iff {β : Type} {f : Expr → Reading β} {asked : Expr → List Expr}
    (h : ∀ e r, f e = .error r ↔ TextFails (asked e) r) :
    es.mapM f = .error refusal ↔ TextFails (es.flatMap asked) refusal := by
  induction es with
  | nil => simp
  | cons e rest ih =>
    have hok : (∃ b, f e = .ok b) ↔ ∀ r, ¬TextFails (asked e) r := by
      simp only [← h, ← not_exists, exists_error_iff, Classical.not_not]
    rw [List.mapM_cons, bind_eq_error, h, List.flatMap_cons, textFails_append, ← hok, ← ih]
    simp [bind_eq_error, exists_and_right]

end TextFails

/-- The expressions that are no constants. -/
def unknowns (es : List Expr) : List Expr := es.filter fun e => !e.isLiteral

theorem unknowns_eq_flatMap (es : List Expr) :
    unknowns es = es.flatMap fun e => unknowns [e] := by
  induction es with
  | nil => rfl
  | cons e rest ih =>
    rw [List.flatMap_cons, ← ih, unknowns, unknowns, unknowns, ← List.filter_append]
    rfl

theorem unknowns_subset (es : List Expr) : unknowns es ⊆ es := List.filter_sublist.subset

/-- The arguments of a function whose texts are kept. -/
def argumentsAsked (name : String) (arguments : List Expr) : List Expr :=
  if name = "wait" then unknowns ((arguments.take 1).filter Expr.isNumeric)
  else if name = "print" ∧ 1 < arguments.length then arguments
  else unknowns arguments

/-- The arguments of a call whose texts are kept. -/
def askedByCall : Expr → List Expr → List Expr
  | .attribute (.name object) method, arguments =>
    if object ∈ Current.motors ∧ method = "start" then
      unknowns ((arguments.take 1).filter fun e => e.isNumeric && !e.isMinusLiteral)
    else []
  | .name name, arguments => argumentsAsked name arguments
  | _, _ => []

/-- The expressions of a statement whose texts are asked for before its parts are read. -/
def Stmt.asked : Stmt → List Expr
  | .assign _ [.name _] value => [value]
  | .whileLoop _ test _ => if test.isBoolean then [] else [test]
  | .branch _ test _ _ => if test.isBoolean then [] else [test]
  | .returns _ value => unknowns value.toList
  | s => (s.call?.map fun call => askedByCall call.1 call.2).getD []

theorem askedByCall_subset (function : Expr) (arguments : List Expr) :
    askedByCall function arguments ⊆ arguments := by
  have htaken (p : Expr → Bool) : unknowns ((arguments.take 1).filter p) ⊆ arguments :=
    List.Subset.trans (unknowns_subset _)
      (List.Subset.trans List.filter_sublist.subset (List.take_subset 1 arguments))
  unfold askedByCall
  split
  · split
    · exact htaken _
    · exact List.nil_subset _
  · unfold argumentsAsked
    split
    · exact htaken _
    · split
      · exact List.Subset.refl _
      · exact unknowns_subset _
  · exact List.nil_subset _

theorem Stmt.asked_of_call {s : Stmt} {function : Expr} {arguments : List Expr}
    (h : s.call? = some (function, arguments)) : s.asked = askedByCall function arguments := by
  cases s with
  | expr span value => simp [Stmt.asked, h]
  | _ => cases h

theorem Stmt.asked_subset_written (s : Stmt) : s.asked ⊆ s.written := by
  cases s with
  | expr span value =>
    cases hcall : (Stmt.expr span value).call? with
    | some call =>
      rw [asked_of_call hcall, written_of_call hcall]
      exact askedByCall_subset _ _
    | none => simp [asked, hcall]
  | assign span targets value =>
    unfold asked
    split <;> simp_all [written, call?]
  | whileLoop span test body | branch span test body orelse =>
    simp only [asked]
    split <;> simp [written]
  | returns span value => exact unknowns_subset _
  | _ => simp [asked, call?]

/-- Whether an expression is the negative of a constant that has one. -/
def Expr.isNegative : Expr → Bool
  | .unary .minus (.literal value) => (Value.ofLiteral value).negate.isOk
  | _ => false

/-- A statement that the current dialect does not take: a test that is no truth value, a speed that
is neither a constant nor the negative of one nor a number, or a pause that is neither a constant
nor a number. -/
def Stmt.Offending (s : Stmt) : Prop :=
  (∃ test ∈ s.test?, test.isBoolean = false) ∨
    (∃ e ∈ s.speed?, e.isLiteral = false ∧ e.isNegative = false ∧ e.isNumeric = false) ∨
    ∃ e ∈ s.pause?, e.isLiteral = false ∧ e.isNumeric = false

/-- How a loop or a branch refuses its test, of which it shows the text. -/
def Stmt.testRefusal : Stmt → String → Refusal
  | .whileLoop .. => .whileTest
  | _ => .branchTest

/-- The reason that an offending statement gives. A minus sign before a constant that has no
negative fails as the operation does. -/
inductive Stmt.Complaint : Stmt → Refusal → Prop
  | test {s : Stmt} {test : Expr} {text : String} (asked : s.test? = some test)
      (noTruth : test.isBoolean = false) (shown : test.text = .ok text) :
      Complaint s (s.testRefusal text)
  | speed {s : Stmt} {e : Expr} (asked : s.speed? = some e) (noConstant : e.isLiteral = false)
      (noMinus : e.isMinusLiteral = false) (noNumber : e.isNumeric = false) :
      Complaint s .motorSpeed
  | negative {s : Stmt} {value : Literal} {failure : Failure}
      (asked : s.speed? = some (.unary .minus (.literal value)))
      (fails : (Value.ofLiteral value).negate = .error failure) : Complaint s (.failed failure)
  | pause {s : Stmt} {e : Expr} (asked : s.pause? = some e) (noConstant : e.isLiteral = false)
      (noNumber : e.isNumeric = false) : Complaint s .waitTime

/-- Only numbers and complex multiples have a negative. -/
theorem isNumeric_of_negate_error {value : Literal} {failure : Failure}
    (h : (Value.ofLiteral value).negate = .error failure) :
    (Expr.unary .minus (.literal value)).isNumeric = false := by
  cases value with
  | bool | int | float | imaginary => cases h
  | _ => rfl

theorem headRefusal?_of_written {s : Stmt} (h : ∀ e ∈ s.written, ∃ text, e.text = .ok text) :
    s.headRefusal? = none := by
  cases s with
  | forEach span target source body =>
    obtain ⟨x, hx⟩ := h target (by simp [Stmt.written])
    obtain ⟨y, hy⟩ := h source (by simp [Stmt.written])
    simp [Stmt.headRefusal?, hx, hy]
  | whileLoop span test body =>
    obtain ⟨x, hx⟩ := h test (by simp [Stmt.written])
    simp [Stmt.headRefusal?, hx]
  | branch span test body orelse =>
    obtain ⟨x, hx⟩ := h test (by simp [Stmt.written])
    simp [Stmt.headRefusal?, hx]
  | _ => rfl

namespace Current

theorem operand_eq_error {e : Expr} {refusal : Refusal} :
    operand e = .error refusal ↔ TextFails (unknowns [e]) refusal := by
  cases hliteral : e.isLiteral with
  | true =>
    obtain ⟨value, rfl⟩ := Expr.isLiteral_iff.mp hliteral
    simp [operand, unknowns, hliteral]
  | false =>
    simp [operand_of_no_literal hliteral, unknowns, hliteral, bind_eq_error, text_eq_error]

theorem speed_eq_error {e : Expr} {refusal : Refusal} :
    speed e = .error refusal ↔
      (refusal = .motorSpeed ∧ e.isLiteral = false ∧ e.isMinusLiteral = false ∧
        e.isNumeric = false) ∨
      (∃ value failure, e = .unary .minus (.literal value) ∧
        (Value.ofLiteral value).negate = .error failure ∧ refusal = .failed failure) ∨
      TextFails (unknowns ([e].filter fun e => e.isNumeric && !e.isMinusLiteral)) refusal := by
  cases hliteral : e.isLiteral with
  | true =>
    obtain ⟨value, rfl⟩ := Expr.isLiteral_iff.mp hliteral
    have hnone : unknowns ([Expr.literal value].filter fun e =>
        e.isNumeric && !e.isMinusLiteral) = [] := by
      rw [unknowns, List.filter_filter]
      rfl
    simp [speed, hnone]
  | false =>
    cases hminus : e.isMinusLiteral with
    | true =>
      obtain ⟨value, rfl⟩ := Expr.isMinusLiteral_iff.mp hminus
      cases hnegate : (Value.ofLiteral value).negate with
      | ok v => simp [speed, hnegate, hminus, unknowns]
      | error failure =>
        have hfails : speed (.unary .minus (.literal value)) = .error (.failed failure) := by
          simp [speed, hnegate]
        simp [hfails, hminus, hnegate, unknowns, eq_comm (b := refusal)]
    | false =>
      have hno (value : Literal) : e ≠ .unary .minus (.literal value) := by
        rintro rfl
        cases hminus
      rw [speed_of_no_literal hliteral hminus]
      cases hnumber : e.isNumeric with
      | true => simp [hno, hnumber, hminus, unknowns, hliteral, bind_eq_error, text_eq_error]
      | false => simp [hno, hnumber, unknowns, eq_comm]

theorem seconds_eq_error {e : Expr} {refusal : Refusal} :
    seconds e = .error refusal ↔
      (refusal = .waitTime ∧ e.isLiteral = false ∧ e.isNumeric = false) ∨
        TextFails (unknowns ([e].filter Expr.isNumeric)) refusal := by
  cases hliteral : e.isLiteral with
  | true =>
    obtain ⟨value, rfl⟩ := Expr.isLiteral_iff.mp hliteral
    have hnone : unknowns ([Expr.literal value].filter Expr.isNumeric) = [] := by
      rw [unknowns, List.filter_filter]
      rfl
    simp [seconds, hnone]
  | false =>
    rw [seconds_of_no_literal hliteral]
    cases hnumber : e.isNumeric with
    | true => simp [hnumber, unknowns, hliteral, bind_eq_error, text_eq_error]
    | false => simp [hnumber, unknowns, eq_comm]

theorem checkTest_eq_error {reason : String → Refusal} {test : Expr} {refusal : Refusal} :
    checkTest reason test = .error refusal ↔
      (test.isBoolean = false ∧ ∃ text, test.text = .ok text ∧ refusal = reason text) ∨
        TextFails (if test.isBoolean then [] else [test]) refusal := by
  unfold checkTest
  cases test.isBoolean with
  | true => simp
  | false =>
    simp only [Bool.false_eq_true, if_false, bind_eq_error, text_eq_error, throw_eq_error,
      Except.error.injEq, eq_comm (a := refusal), true_and]
    exact or_comm

theorem motorCall_eq_error {motor method : String} {arguments : List Expr} {refusal : Refusal} :
    dialect.motorCall motor method arguments = .error refusal ↔
      ∃ e others, method = "start" ∧ arguments = e :: others ∧ speed e = .error refusal := by
  rcases Dialect.motorCall_cases method arguments with
    ⟨e, others, rfl, rfl, hread⟩ | ⟨rfl, hread⟩ | ⟨hstart, hread⟩
  · rw [hread]
    simp [bind_eq_error, dialect]
  · simp [hread]
  · simp only [hread, reduceCtorEq, false_iff, not_exists, not_and]
    exact fun e others hmethod hargs => absurd hargs (hstart e others hmethod)

theorem joinedOperand_eq_error {arguments : List Expr} {refusal : Refusal} :
    Dialect.joinedOperand arguments = .error refusal ↔ TextFails arguments refusal := by
  cases arguments with
  | nil => simp [Dialect.joinedOperand]
  | cons first others =>
    have hall : (first :: others).mapM Expr.text = .error refusal ↔
        TextFails (first :: others) refusal := by
      rw [mapM_eq_error_iff fun e r => text_eq_error, List.flatMap_singleton']
    rw [Dialect.joinedOperand_cons, Dialect.joinedContent]
    simp only [bind_eq_error, hall, pure_eq_ok, reduceCtorEq, and_false, exists_false, or_false]

theorem functionCall_eq_error {name : String} {arguments : List Expr} {refusal : Refusal} :
    dialect.functionCall name arguments = .error refusal ↔
      (∃ e others, name = "wait" ∧ arguments = e :: others ∧ refusal = .waitTime ∧
        e.isLiteral = false ∧ e.isNumeric = false) ∨
        TextFails (argumentsAsked name arguments) refusal := by
  rcases Dialect.functionCall_cases name arguments with
    ⟨e, others, rfl, rfl⟩ | ⟨e, rfl, rfl⟩ | ⟨rfl, hmany, hread⟩ | ⟨hwait, hprint, hread⟩
  · simp [Dialect.functionCall, bind_eq_error, dialect, seconds_eq_error, argumentsAsked]
  · simp [Dialect.functionCall, bind_eq_error, dialect, operand_eq_error, argumentsAsked]
  · have hasked : argumentsAsked "print" arguments = arguments := by
      cases arguments with
      | nil => rfl
      | cons first others =>
        cases others with
        | nil => exact absurd rfl (hmany first)
        | cons second others => simp [argumentsAsked]
    simp [hread, bind_eq_error, joinedOperand_eq_error, hasked]
  · have hall : arguments.mapM operand = .error refusal ↔
        TextFails (unknowns arguments) refusal := by
      rw [mapM_eq_error_iff fun e r => operand_eq_error, unknowns_eq_flatMap]
    have hasked : argumentsAsked name arguments = unknowns arguments := by
      rw [argumentsAsked, if_neg (fun h : name = "print" ∧ _ => hprint h.1)]
      split
      · rename_i hname
        cases arguments with
        | nil => rfl
        | cons e others => exact absurd rfl (hwait e others hname)
      · rfl
    have hnowait : ¬∃ e others, name = "wait" ∧ arguments = e :: others ∧ refusal = .waitTime ∧
        e.isLiteral = false ∧ e.isNumeric = false := by
      rintro ⟨e, others, hname, hargs, -⟩
      exact hwait e others hname hargs
    rw [or_iff_right hnowait, hasked, hread, bind_eq_error, ← hall]
    simp [dialect]

section Complaint

variable {s : Stmt} {refusal : Refusal}

/-- Without a call, only a test can be complained about. -/
theorem complaint_of_no_call (hcall : s.call? = none) :
    s.Complaint refusal ↔ ∃ test text, s.test? = some test ∧ test.isBoolean = false ∧
      test.text = .ok text ∧ refusal = s.testRefusal text := by
  constructor
  · intro h
    cases h with
    | test asked noTruth shown => exact ⟨_, _, asked, noTruth, shown, rfl⟩
    | speed asked | negative asked =>
      obtain ⟨motor, others, hmotor⟩ := Stmt.speed?_eq_some.mp asked
      rw [(Stmt.motorCall?_eq_some.mp hmotor).1] at hcall
      cases hcall
    | pause asked =>
      obtain ⟨others, hpause⟩ := Stmt.pause?_eq_some.mp asked
      rw [hpause] at hcall
      cases hcall
  · rintro ⟨test, text, asked, noTruth, shown, rfl⟩
    exact .test asked noTruth shown

/-- Without a test, only a speed or a pause can be complained about. -/
theorem complaint_of_no_test (htest : s.test? = none) :
    s.Complaint refusal ↔
      (∃ e, s.speed? = some e ∧ ((refusal = .motorSpeed ∧ e.isLiteral = false ∧
        e.isMinusLiteral = false ∧ e.isNumeric = false) ∨
        ∃ value failure, e = .unary .minus (.literal value) ∧
          (Value.ofLiteral value).negate = .error failure ∧ refusal = .failed failure)) ∨
      ∃ e, s.pause? = some e ∧ refusal = .waitTime ∧ e.isLiteral = false ∧
        e.isNumeric = false := by
  constructor
  · intro h
    cases h with
    | test asked =>
      rw [htest] at asked
      cases asked
    | speed asked noConstant noMinus noNumber =>
      exact .inl ⟨_, asked, .inl ⟨rfl, noConstant, noMinus, noNumber⟩⟩
    | negative asked fails => exact .inl ⟨_, asked, .inr ⟨_, _, rfl, fails, rfl⟩⟩
    | pause asked noConstant noNumber => exact .inr ⟨_, asked, rfl, noConstant, noNumber⟩
  · rintro (⟨e, asked, ⟨rfl, hliteral, hminus, hnumber⟩ | ⟨value, failure, rfl, hnegate, rfl⟩⟩ |
      ⟨e, asked, rfl, hliteral, hnumber⟩)
    · exact .speed asked hliteral hminus hnumber
    · exact .negative asked hnegate
    · exact .pause asked hliteral hnumber

theorem call_eq_error {function : Expr} {arguments : List Expr}
    (hcall : s.call? = some (function, arguments)) (htest : s.test? = none) :
    dialect.call function arguments = .error refusal ↔
      s.Complaint refusal ∨ TextFails s.asked refusal := by
  rw [complaint_of_no_test htest, Stmt.asked_of_call hcall]
  simp only [Stmt.speed?_eq_some, Stmt.pause?_eq_some, Stmt.motorCall?_eq_some, hcall]
  rcases Dialect.call_cases function with
    ⟨object, method, rfl⟩ | ⟨name, rfl⟩ | ⟨hmethod, hname, hpassed⟩
  · by_cases hmotor : object ∈ motors
    · rw [Dialect.call_of_motor (motor?_of_mem hmotor), motorCall_eq_error]
      simp only [speed_eq_error, askedByCall, hmotor, true_and]
      by_cases hstart : ∃ e others, method = "start" ∧ arguments = e :: others
      · obtain ⟨e, others, rfl, rfl⟩ := hstart
        rw [if_pos rfl, List.take_succ_cons, List.take_zero]
        grind
      · have hnone : (if method = "start" then unknowns ((arguments.take 1).filter fun e =>
            e.isNumeric && !e.isMinusLiteral) else []) = [] := by
          cases arguments <;> simp_all [unknowns]
        rw [hnone]
        grind [not_textFails_nil]
    · rw [Dialect.call_of_no_motor (motor?_of_not_mem hmotor)]
      simp only [askedByCall, hmotor]
      grind [not_textFails_nil]
  · have hread : dialect.call (.name name) arguments =
        dialect.functionCall name arguments >>= fun act => pure (some act) := rfl
    simp only [hread, bind_eq_error, functionCall_eq_error, pure_eq_ok, reduceCtorEq,
      and_false, exists_false, or_false, askedByCall]
    grind
  · have hnone : askedByCall function arguments = [] := by
      unfold askedByCall
      split
      · exact absurd rfl (hmethod _ _)
      · exact absurd rfl (hname _)
      · rfl
    rw [hpassed, hnone]
    grind [not_textFails_nil]

/-- The reasons that a test gives. -/
theorem ownRefusal?_of_test {test : Expr} (hcall : s.call? = none) (htest : s.test? = some test)
    (hown : dialect.ownRefusal? s = refusal? (checkTest s.testRefusal test))
    (hasked : s.asked = if test.isBoolean then [] else [test]) :
    dialect.ownRefusal? s = some refusal ↔ s.Complaint refusal ∨ TextFails s.asked refusal := by
  rw [hown, refusal?_eq_some, checkTest_eq_error, complaint_of_no_call hcall, hasked]
  simp [htest]

/-- A statement that makes no call and has no test complains about nothing. -/
theorem not_complaint_of_quiet (hcall : s.call? = none) (htest : s.test? = none) :
    ¬s.Complaint refusal := by
  rw [complaint_of_no_call hcall, htest]
  simp

/-- The reasons that statements have of their own are their complaints and the texts that they ask
for and that cannot be written. -/
theorem ownRefusal?_iff :
    dialect.ownRefusal? s = some refusal ↔ s.Complaint refusal ∨ TextFails s.asked refusal := by
  cases s with
  | expr span value =>
    cases hcall : (Stmt.expr span value).call? with
    | some call =>
      rw [Dialect.ownRefusal?_of_call _ hcall, refusal?_eq_some]
      exact call_eq_error hcall rfl
    | none =>
      rw [Dialect.ownRefusal?_of_no_call _ hcall, or_iff_right (not_complaint_of_quiet hcall rfl)]
      simp [Stmt.asked, hcall]
  | whileLoop span test body => exact ownRefusal?_of_test rfl rfl rfl rfl
  | branch span test body orelse => exact ownRefusal?_of_test rfl rfl rfl rfl
  | assign span targets value =>
    rw [or_iff_right (not_complaint_of_quiet rfl rfl)]
    by_cases hname : ∃ target, targets = [.name target]
    · obtain ⟨target, rfl⟩ := hname
      simp [Dialect.ownRefusal?, dialect, Stmt.asked, refusal?_eq_some, bind_eq_error,
        text_eq_error]
    · have hother : ∀ target, targets ≠ [.name target] := not_exists.mp hname
      have hown : dialect.ownRefusal? (.assign span targets value) = none := by
        unfold Dialect.ownRefusal?
        split <;> simp_all
      have hasked : (Stmt.assign span targets value).asked = [] := by
        unfold Stmt.asked
        split <;> simp_all [Stmt.call?]
      simp [hown, hasked]
  | returns span value =>
    rw [or_iff_right (not_complaint_of_quiet rfl rfl), Dialect.ownRefusal?, refusal?_eq_some]
    cases value with
    | none => simp [Dialect.resultOf, Stmt.asked, unknowns]
    | some e => exact operand_eq_error
  | forEach | define | stop | other =>
    rw [or_iff_right (not_complaint_of_quiet rfl rfl)]
    simp [Dialect.ownRefusal?, Stmt.asked, Stmt.call?]

/-- Where every text can be written, only complaints are reasons. -/
theorem ownRefusal?_eq_some (hwritten : ∀ e ∈ s.written, ∃ text, e.text = .ok text) :
    dialect.ownRefusal? s = some refusal ↔ s.Complaint refusal := by
  rw [ownRefusal?_iff, or_iff_left]
  exact not_textFails_of_written fun e he => hwritten e (s.asked_subset_written he)

end Complaint

end Current

theorem Stmt.offending_iff {s : Stmt} (hwritten : ∀ e ∈ s.written, ∃ text, e.text = .ok text) :
    s.Offending ↔ ∃ refusal, s.Complaint refusal := by
  constructor
  · rintro (⟨test, asked, noTruth⟩ | ⟨e, asked, noConstant, noNegative, noNumber⟩ |
      ⟨e, asked, noConstant, noNumber⟩)
    · obtain ⟨text, htext⟩ := hwritten test (mem_written_of_test asked)
      exact ⟨_, .test asked noTruth htext⟩
    · cases hminus : e.isMinusLiteral with
      | false => exact ⟨_, .speed asked noConstant hminus noNumber⟩
      | true =>
        obtain ⟨value, rfl⟩ := Expr.isMinusLiteral_iff.mp hminus
        cases hnegate : (Value.ofLiteral value).negate with
        | error failure => exact ⟨_, .negative asked hnegate⟩
        | ok v =>
          rw [Expr.isNegative, hnegate] at noNegative
          cases noNegative
    · exact ⟨_, .pause asked noConstant noNumber⟩
  · rintro ⟨refusal, h⟩
    cases h with
    | test asked noTruth shown => exact .inl ⟨_, asked, noTruth⟩
    | speed asked noConstant noMinus noNumber =>
      refine .inr (.inl ⟨_, asked, noConstant, ?_, noNumber⟩)
      unfold Expr.isNegative
      split
      · cases noMinus
      · rfl
    | negative asked fails =>
      refine .inr (.inl ⟨_, asked, rfl, ?_, isNumeric_of_negate_error fails⟩)
      rw [Expr.isNegative, fails]
      rfl
    | pause asked noConstant noNumber => exact .inr (.inr ⟨_, asked, noConstant, noNumber⟩)

theorem ownRefusal?_eq_none_iff {s : Stmt} (hwritten : ∀ e ∈ s.written, ∃ text, e.text = .ok text) :
    Current.dialect.ownRefusal? s = none ↔ ¬s.Offending := by
  rw [Stmt.offending_iff hwritten, not_exists, Option.eq_none_iff_forall_ne_some]
  exact forall_congr' fun refusal => not_congr (Current.ownRefusal?_eq_some hwritten)

/-- Where every text that is asked for can be written, a script is refused exactly if one of the
statements that are read, at any depth, is offending. The reason is the complaint of the first of
them, a statement counting before its body and its body before its other part. -/
theorem refused_at_first_offending {stmts : List Stmt}
    (hwritten : ∀ s ∈ stmtsNested stmts, ∀ e ∈ s.written, ∃ text, e.text = .ok text) :
    ((∃ refusal, Current.dialect.statements stmts = .error refusal) ↔
        ∃ s ∈ stmtsNested stmts, s.Offending) ∧
      ∀ refusal, Current.dialect.statements stmts = .error refusal ↔
        ∃ before s after, stmtsNested stmts = before ++ s :: after ∧
          (∀ t ∈ before, ¬t.Offending) ∧ s.Offending ∧ s.Complaint refusal := by
  have hfirst := Dialect.refusal?_statements_eq_findSome? Current.dialect
    fun s hs => headRefusal?_of_written (hwritten s hs)
  constructor
  · have hread : (∃ instrs, Current.dialect.statements stmts = .ok instrs) ↔
        ∀ s ∈ stmtsNested stmts, ¬s.Offending := by
      rw [← refusal?_eq_none, hfirst, List.findSome?_eq_none_iff]
      exact forall₂_congr fun s hs => ownRefusal?_eq_none_iff (hwritten s hs)
    rw [exists_error_iff, hread]
    simp only [Classical.not_forall, Classical.not_not, exists_prop]
  · intro refusal
    rw [← refusal?_eq_some, hfirst, List.findSome?_eq_some_iff]
    constructor
    · rintro ⟨before, s, after, hsplit, hown, hbefore⟩
      have hs : s ∈ stmtsNested stmts := by simp [hsplit]
      have hcomplaint := (Current.ownRefusal?_eq_some (hwritten s hs)).mp hown
      refine ⟨before, s, after, hsplit, fun t ht => ?_,
        (Stmt.offending_iff (hwritten s hs)).mpr ⟨refusal, hcomplaint⟩, hcomplaint⟩
      exact (ownRefusal?_eq_none_iff (hwritten t (by simp [hsplit, ht]))).mp (hbefore t ht)
    · rintro ⟨before, s, after, hsplit, hbefore, -, hcomplaint⟩
      have hs : s ∈ stmtsNested stmts := by simp [hsplit]
      refine ⟨before, s, after, hsplit,
        (Current.ownRefusal?_eq_some (hwritten s hs)).mpr hcomplaint, fun t ht => ?_⟩
      exact (ownRefusal?_eq_none_iff (hwritten t (by simp [hsplit, ht]))).mpr (hbefore t ht)

theorem forall_written_of_all {stmts : List Stmt}
    (h : ((stmtsNested stmts).all fun s => s.written.all fun e => e.text.isOk) = true) :
    ∀ s ∈ stmtsNested stmts, ∀ e ∈ s.written, ∃ text, e.text = .ok text := by
  intro s hs e he
  have hok := List.all_eq_true.mp (List.all_eq_true.mp h s hs) e he
  cases htext : e.text with
  | ok text => exact ⟨text, rfl⟩
  | error refusal =>
    rw [htext] at hok
    cases hok

/-- A loop that waits and starts a motor at the negative of a text, and a branch on a number. -/
def stumblingStmts : List Stmt :=
  [.whileLoop (.of 1 3) (.name "going")
      [.expr (.of 2 2) (.call (.name "wait") [.literal (.int 1)] []),
        .expr (.of 3 3) (.await (.call (.attribute (.name "motor_a") "start")
          [.unary .minus (.literal (.text "fast" false))] []))],
    .branch (.of 4 5) (.literal (.int 1)) [.stop (.of 5 5)] []]

theorem refused_at_first_offending_stumblingStmts :
    (∀ s ∈ stmtsNested stumblingStmts, ∀ e ∈ s.written, ∃ text, e.text = .ok text) ∧
    (((∃ refusal, Current.dialect.statements stumblingStmts = .error refusal) ↔
        ∃ s ∈ stmtsNested stumblingStmts, s.Offending) ∧
      ∀ refusal, Current.dialect.statements stumblingStmts = .error refusal ↔
        ∃ before s after, stmtsNested stumblingStmts = before ++ s :: after ∧
          (∀ t ∈ before, ¬t.Offending) ∧ s.Offending ∧ s.Complaint refusal) ∧
    Current.dialect.statements stumblingStmts = .error (.failed (.badUnary "-" "str")) := by
  have hwritten : ∀ s ∈ stmtsNested stumblingStmts, ∀ e ∈ s.written, ∃ text, e.text = .ok text :=
    forall_written_of_all (by decide +kernel)
  exact ⟨hwritten, refused_at_first_offending hwritten, rfl⟩

end HubScript
