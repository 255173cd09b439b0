import HubScript.Proofs.Refusals

/-!
# Speeds and pauses that are known

A motor is started at a speed and a script waits for some seconds. Such an amount is checked to be a
number only where it is worked out by the robot; a constant, and for a speed also a minus sign
before one, is taken as it is. So the amounts that an instruction holds are numbers exactly if the
constants of the script are, and it is for these constants alone that a statement whose amount is
no number is not refused as one.
-/
namespace HubScript

/-- Whether a value is a number. Truth values are whole numbers. -/
def Value.isNumber : Value → Bool
  | .bool _ => true
  | .int _ => true
  | .float _ => true
  | _ => false

/-- The speed or the pause that an instruction holds as a value. -/
def Instruction.amount? : Instruction → Option Value
  | .step (.startMotor _ (.known v)) _ => some v
  | .step (.wait (.known v)) _ => some v
  | _ => none

/-- The speed or the pause that a statement asks for, with the refusal of one that is no number. -/
inductive Stmt.Asks : Stmt → Expr → Refusal → Prop
  | speed {s : Stmt} {e : Expr} (asked : s.speed? = some e) : Asks s e .motorSpeed
  | pause {s : Stmt} {e : Expr} (asked : s.pause? = some e) : Asks s e .waitTime

/-- A statement gives a constant as a speed, maybe with a minus sign, or as a pause. -/
inductive Stmt.Fixes : Stmt → Literal → Prop
  | speed {s : Stmt} {c : Literal} (asked : s.speed? = some (.literal c)) : Fixes s c
  | negative {s : Stmt} {c : Literal} (asked : s.speed? = some (.unary .minus (.literal c))) :
      Fixes s c
  | pause {s : Stmt} {c : Literal} (asked : s.pause? = some (.literal c)) : Fixes s c

theorem isNumber_ofLiteral (c : Literal) : (Value.ofLiteral c).isNumber = c.isNumber := by
  cases c <;> rfl

/-- A negative is a number if the constant is one. -/
theorem isNumber_negate {c : Literal} {v : Value} (h : (Value.ofLiteral c).negate = .ok v) :
    v.isNumber = c.isNumber := by
  cases c with
  | bool | int | float | imaginary =>
    obtain rfl := Except.ok.inj h
    rfl
  | none | text | bytes | ellipsis => cases h

namespace Current

section Statement

variable {s : Stmt} {e : Expr}

theorem statement_of_speed (h : s.speed? = some e) :
    ∃ motor info, dialect.statement s =
      speed e >>= fun o => pure (some (.step (.startMotor motor o) info)) := by
  obtain ⟨motor, others, hmotor⟩ := Stmt.speed?_eq_some.mp h
  obtain ⟨hcall, hmem⟩ := Stmt.motorCall?_eq_some.mp hmotor
  obtain ⟨info, hread⟩ := Dialect.statement_of_call dialect hcall
  refine ⟨motor, info, ?_⟩
  rw [hread, Dialect.call_of_motor (motor?_of_mem hmem)]
  simp only [Dialect.motorCall, bind_assoc, pure_bind, Option.map_some]
  rfl

theorem statement_of_pause (h : s.pause? = some e) :
    ∃ info, dialect.statement s = seconds e >>= fun o => pure (some (.step (.wait o) info)) := by
  obtain ⟨others, hcall⟩ := Stmt.pause?_eq_some.mp h
  obtain ⟨info, hread⟩ := Dialect.statement_of_call dialect hcall
  refine ⟨info, ?_⟩
  rw [hread]
  simp only [Dialect.call, Dialect.functionCall, bind_assoc, pure_bind, Option.map_some]
  rfl

/-- A constant that a statement gives is held by its instruction, and is a number there if it is one
in the script. -/
theorem amount_of_fixes {i : Instruction} {c : Literal} (hread : dialect.statement s = .ok (some i))
    (h : s.Fixes c) : ∃ v, i.amount? = some v ∧ v.isNumber = c.isNumber := by
  cases h with
  | speed asked =>
    obtain ⟨motor, info, hs⟩ := statement_of_speed asked
    rw [hs] at hread
    obtain rfl := Option.some.inj (Except.ok.inj hread)
    exact ⟨_, rfl, isNumber_ofLiteral c⟩
  | negative asked =>
    obtain ⟨motor, info, hs⟩ := statement_of_speed asked
    rw [hs] at hread
    obtain ⟨o, ho, hread⟩ := bind_eq_ok.mp hread
    obtain rfl := Option.some.inj (Except.ok.inj hread)
    rw [speed] at ho
    split at ho
    · rename_i v hnegate
      obtain rfl := Except.ok.inj ho
      exact ⟨v, rfl, isNumber_negate hnegate⟩
    · cases ho
  | pause asked =>
    obtain ⟨info, hs⟩ := statement_of_pause asked
    rw [hs] at hread
    obtain rfl := Option.some.inj (Except.ok.inj hread)
    exact ⟨_, rfl, isNumber_ofLiteral c⟩

/-- A statement that gives a constant is not passed over. -/
theorem not_fixes_of_passed {c : Literal} (hpassed : dialect.statement s = .ok none) :
    ¬s.Fixes c := by
  intro h
  cases h with
  | speed asked | negative asked =>
    obtain ⟨motor, info, hs⟩ := statement_of_speed asked
    rw [hs] at hpassed
    obtain ⟨o, -, hpassed⟩ := bind_eq_ok.mp hpassed
    cases hpassed
  | pause asked =>
    obtain ⟨info, hs⟩ := statement_of_pause asked
    rw [hs] at hpassed
    obtain ⟨o, -, hpassed⟩ := bind_eq_ok.mp hpassed
    cases hpassed

/-- A call without a speed and without a pause holds no amount. -/
theorem amount_of_call {function : Expr} {arguments : List Expr} {act : Step} (info : Info)
    (hcall : s.call? = some (function, arguments)) (hspeed : s.speed? = none)
    (hpause : s.pause? = none) (h : dialect.call function arguments = .ok (some act)) :
    (Instruction.step act info).amount? = none := by
  rcases Dialect.call_cases function with ⟨object, method, rfl⟩ | ⟨name, rfl⟩ | ⟨-, -, hpassed⟩
  · by_cases hmotor : object ∈ motors
    · rw [Dialect.call_of_motor (motor?_of_mem hmotor)] at h
      rcases Dialect.motorCall_cases method arguments with
        ⟨e, others, rfl, rfl, -⟩ | ⟨rfl, hread⟩ | ⟨-, hread⟩
      · have hasked : s.speed? = some e :=
          Stmt.speed?_eq_some.mpr ⟨object, others, Stmt.motorCall?_eq_some.mpr ⟨hcall, hmotor⟩⟩
        rw [hspeed] at hasked
        cases hasked
      · rw [hread] at h
        obtain rfl := Option.some.inj (Except.ok.inj h)
        rfl
      · rw [hread] at h
        cases h
    · rw [Dialect.call_of_no_motor (motor?_of_not_mem hmotor)] at h
      replace h := Except.ok.inj h
      split at h
      · unfold Dialect.sensorCall at h
        split at h <;> cases h <;> rfl
      · cases h
  · obtain ⟨found, hfound, h⟩ := bind_eq_ok.mp h
    obtain rfl := Option.some.inj (Except.ok.inj h)
    rcases Dialect.functionCall_cases name arguments with
      ⟨e, others, rfl, rfl⟩ | ⟨e, rfl, rfl⟩ | ⟨rfl, -, hread⟩ | ⟨-, -, hread⟩
    · have hasked : s.pause? = some e := Stmt.pause?_eq_some.mpr ⟨others, hcall⟩
      rw [hpause] at hasked
      cases hasked
    · obtain ⟨o, -, hfound⟩ := bind_eq_ok.mp hfound
      obtain rfl := Except.ok.inj hfound
      rfl
    · rw [hread] at hfound
      obtain ⟨o, -, hfound⟩ := bind_eq_ok.mp hfound
      obtain rfl := Except.ok.inj hfound
      rfl
    · rw [hread] at hfound
      obtain ⟨os, -, hfound⟩ := bind_eq_ok.mp hfound
      obtain rfl := Except.ok.inj hfound
      rfl
  · rw [hpassed] at h
    cases h

theorem amount_of_gives {act : Step} (info : Info) (hspeed : s.speed? = none)
    (hpause : s.pause? = none) (h : dialect.Gives s act) :
    (Instruction.step act info).amount? = none := by
  cases h with
  | @expr span value act info' h =>
    cases hcall : (Stmt.expr span value).call? with
    | some call =>
      obtain ⟨awaited, hread⟩ := Dialect.expressionStmt_of_call hcall
      rw [hread dialect] at h
      obtain ⟨found, hfound, h⟩ := bind_eq_ok.mp h
      obtain ⟨act', rfl, hact⟩ := Option.map_eq_some_iff.mp (Except.ok.inj h)
      obtain ⟨rfl, -⟩ := Instruction.step.inj hact
      exact amount_of_call info hcall hspeed hpause hfound
    | none =>
      rcases Dialect.expressionStmt_of_no_call hcall with ⟨text, hread⟩ | hread
      · rw [hread dialect] at h
        obtain ⟨rfl, -⟩ := Instruction.step.inj (Option.some.inj (Except.ok.inj h))
        rfl
      · rw [hread dialect] at h
        cases h
  | assign | stop | returns => rfl

/-- An amount is held only where one is asked for. -/
theorem asks_of_amount {i : Instruction} {v : Value} (hread : dialect.statement s = .ok (some i))
    (h : i.amount? = some v) : ∃ e refusal, s.Asks e refusal := by
  cases hspeed : s.speed? with
  | some e => exact ⟨e, _, .speed hspeed⟩
  | none =>
    cases hpause : s.pause? with
    | some e => exact ⟨e, _, .pause hpause⟩
    | none =>
      cases i with
      | step act info =>
        have hgives := (Dialect.statement_some hread).2.2.2 act info rfl
        rw [amount_of_gives info hspeed hpause hgives] at h
        cases h
      | block | branch => cases h

theorem constant_of_speed {v : Value} (h : speed e = .ok (.known v)) :
    (∃ c, e = .literal c) ∨ ∃ c, e = .unary .minus (.literal c) := by
  unfold speed at h
  split at h
  · exact .inl ⟨_, rfl⟩
  · exact .inr ⟨_, rfl⟩
  · split at h
    · obtain ⟨text, -, h⟩ := bind_eq_ok.mp h
      cases h
    · cases h

theorem constant_of_seconds {v : Value} (h : seconds e = .ok (.known v)) :
    ∃ c, e = .literal c := by
  unfold seconds at h
  split at h
  · exact ⟨_, rfl⟩
  · split at h
    · obtain ⟨text, -, h⟩ := bind_eq_ok.mp h
      cases h
    · cases h

/-- An amount that is held is a constant of the script, and both are numbers or neither is. -/
theorem fixes_of_amount {i : Instruction} {v : Value} (hread : dialect.statement s = .ok (some i))
    (h : i.amount? = some v) : ∃ c, s.Fixes c ∧ v.isNumber = c.isNumber := by
  have hfixes : ∃ c, s.Fixes c := by
    obtain ⟨e, refusal, hasks⟩ := asks_of_amount hread h
    cases hasks with
    | speed asked =>
      obtain ⟨motor, info, hs⟩ := statement_of_speed asked
      rw [hs] at hread
      obtain ⟨o, ho, hread⟩ := bind_eq_ok.mp hread
      obtain rfl := Option.some.inj (Except.ok.inj hread)
      cases o with
      | text => cases h
      | known w =>
        rcases constant_of_speed ho with ⟨c, rfl⟩ | ⟨c, rfl⟩
        · exact ⟨c, .speed asked⟩
        · exact ⟨c, .negative asked⟩
    | pause asked =>
      obtain ⟨info, hs⟩ := statement_of_pause asked
      rw [hs] at hread
      obtain ⟨o, ho, hread⟩ := bind_eq_ok.mp hread
      obtain rfl := Option.some.inj (Except.ok.inj hread)
      cases o with
      | text => cases h
      | known w =>
        obtain ⟨c, rfl⟩ := constant_of_seconds ho
        exact ⟨c, .pause asked⟩
  obtain ⟨c, hc⟩ := hfixes
  obtain ⟨w, hw, hsame⟩ := amount_of_fixes hread hc
  obtain rfl := Option.some.inj (h.symm.trans hw)
  exact ⟨c, hc, hsame⟩

/-- A statement does not ask for a speed and for a pause. -/
theorem pause_of_speed (h : s.speed? = some e) : s.pause? = none := by
  obtain ⟨motor, others, hmotor⟩ := Stmt.speed?_eq_some.mp h
  rw [Stmt.pause?, (Stmt.motorCall?_eq_some.mp hmotor).1]

theorem fixes_iff_of_speed (h : s.speed? = some e) {c : Literal} :
    s.Fixes c ↔ e = .literal c ∨ e = .unary .minus (.literal c) := by
  constructor
  · intro hfixes
    cases hfixes with
    | speed asked => exact .inl (Option.some.inj (h.symm.trans asked))
    | negative asked => exact .inr (Option.some.inj (h.symm.trans asked))
    | pause asked =>
      rw [pause_of_speed h] at asked
      cases asked
  · rintro (rfl | rfl)
    · exact .speed h
    · exact .negative h

theorem fixes_iff_of_pause (h : s.pause? = some e) {c : Literal} :
    s.Fixes c ↔ e = .literal c := by
  constructor
  · intro hfixes
    cases hfixes with
    | speed asked | negative asked =>
      rw [pause_of_speed asked] at h
      cases h
    | pause asked => exact Option.some.inj (h.symm.trans asked)
  · rintro rfl
    exact .pause h

/-- What is worked out by the robot is refused exactly if it is no number. -/
theorem refused_iff_not_numeric {refusal : Refusal} (h : ∀ failure, refusal ≠ .failed failure) :
    (if e.isNumeric then e.text >>= fun text => pure (.text text) else throw refusal :
        Reading Operand) = .error refusal ↔ e.isNumeric = false := by
  cases e.isNumeric with
  | false => simp
  | true =>
    have htext : e.text ≠ .error refusal := by
      unfold Expr.text
      split
      · simp
      · simpa using (h _).symm
    simp [bind_eq_error, htext]

theorem refused_iff_of_speed (h : s.speed? = some e) :
    (dialect.statement s = .error .motorSpeed ↔ e.isNumeric = false) ↔
      ∀ c, s.Fixes c → c.isNumber = true := by
  obtain ⟨motor, info, hs⟩ := statement_of_speed h
  simp only [hs, bind_eq_error, pure_eq_ok, reduceCtorEq, and_false, exists_false, or_false,
    fixes_iff_of_speed h]
  cases hliteral : e.isLiteral with
  | true =>
    obtain ⟨c, rfl⟩ := Expr.isLiteral_iff.mp hliteral
    simp [speed, Expr.isNumeric]
  | false =>
    cases hminus : e.isMinusLiteral with
    | true =>
      obtain ⟨c, rfl⟩ := Expr.isMinusLiteral_iff.mp hminus
      have hother : speed (.unary .minus (.literal c)) ≠ .error .motorSpeed := by
        rw [speed]
        split <;> simp
      simp [hother, Expr.isNumeric, UnaryOp.isSign]
    | false =>
      have hnone (c : Literal) : ¬(e = .literal c ∨ e = .unary .minus (.literal c)) := by
        rintro (rfl | rfl)
        · cases hliteral
        · cases hminus
      simp only [hnone, false_imp_iff, implies_true, iff_true]
      rw [speed_of_no_literal hliteral hminus]
      exact refused_iff_not_numeric (by simp)

theorem refused_iff_of_pause (h : s.pause? = some e) :
    (dialect.statement s = .error .waitTime ↔ e.isNumeric = false) ↔
      ∀ c, s.Fixes c → c.isNumber = true := by
  obtain ⟨info, hs⟩ := statement_of_pause h
  simp only [hs, bind_eq_error, pure_eq_ok, reduceCtorEq, and_false, exists_false, or_false,
    fixes_iff_of_pause h]
  cases hliteral : e.isLiteral with
  | true =>
    obtain ⟨c, rfl⟩ := Expr.isLiteral_iff.mp hliteral
    simp [seconds, Expr.isNumeric]
  | false =>
    have hnone (c : Literal) : e ≠ .literal c := by
      rintro rfl
      cases hliteral
    simp only [hnone, false_imp_iff, implies_true, iff_true]
    rw [seconds_of_no_literal hliteral]
    exact refused_iff_not_numeric (by simp)

/-- A statement is refused as asking for no number whenever it asks for none, exactly if no constant
that it gives is something else. -/
theorem refused_iff_of_asks {refusal : Refusal} (h : s.Asks e refusal) :
    (dialect.statement s = .error refusal ↔ e.isNumeric = false) ↔
      ∀ c, s.Fixes c → c.isNumber = true := by
  cases h with
  | speed asked => exact refused_iff_of_speed asked
  | pause asked => exact refused_iff_of_pause asked

/-- The amount of a statement that is read is a number, as its instruction holds it or as it is
worked out, exactly if the constants that the statement gives are. -/
theorem amount_isNumber_iff {i : Instruction} (hread : dialect.statement s = .ok (some i)) :
    (∀ v, i.amount? = some v → v.isNumber = true) ↔ ∀ c, s.Fixes c → c.isNumber = true := by
  constructor
  · intro h c hc
    obtain ⟨v, hv, hsame⟩ := amount_of_fixes hread hc
    exact hsame ▸ h v hv
  · intro h v hv
    obtain ⟨c, hc, hsame⟩ := fixes_of_amount hread hv
    exact hsame ▸ h c hc

theorem asked_isNumeric_iff {found : Option Instruction} (hread : dialect.statement s = .ok found) :
    (∀ e refusal, s.Asks e refusal → e.isNumeric = true) ↔
      ∀ c, s.Fixes c → c.isNumber = true := by
  have hasked {e : Expr} {refusal : Refusal} (h : s.Asks e refusal) :
      e.isNumeric = true ↔ ∀ c, s.Fixes c → c.isNumber = true := by
    rw [← refused_iff_of_asks h, hread]
    simp
  constructor
  · intro h c hc
    cases hc with
    | speed asked => exact (hasked (.speed asked)).mp (h _ _ (.speed asked)) c (.speed asked)
    | negative asked => exact (hasked (.speed asked)).mp (h _ _ (.speed asked)) c (.negative asked)
    | pause asked => exact (hasked (.pause asked)).mp (h _ _ (.pause asked)) c (.pause asked)
  · exact fun h e refusal hasks => (hasked hasks).mpr h

end Statement

end Current

theorem Reads.amounts_iff {stmts : List Stmt} {instrs : List Instruction}
    (h : Reads Current.dialect stmts instrs) :
    (∀ i ∈ nestedAll instrs, ∀ v, i.amount? = some v → v.isNumber = true) ↔
      ∀ s ∈ stmtsNested stmts, ∀ c, s.Fixes c → c.isNumber = true := by
  induction h with
  | nil => simp [nestedAll, stmtsNested]
  | @skip s stmts instrs passed rest ih =>
    obtain ⟨hbody, horelse⟩ := Dialect.parts_of_passed passed
    have hs : ∀ c, s.Fixes c → c.isNumber = true :=
      fun c hc => absurd hc (Current.not_fixes_of_passed passed)
    rw [forall_mem_stmtsNested_cons, hbody, horelse, ih]
    constructor
    · exact fun h => ⟨hs, by simp [stmtsNested], by simp [stmtsNested], h⟩
    · exact fun h => h.2.2.2
  | take found body orelse rest ihbody ihorelse ihrest =>
    rw [forall_mem_nestedAll_cons, forall_mem_stmtsNested_cons]
    exact and_congr (Current.amount_isNumber_iff found)
      (and_congr ihbody (and_congr ihorelse ihrest))

/-- In a script that is read, the speeds and pauses held by instructions are numbers exactly if the
constants given for them are, at every depth, and then the other speeds and pauses are numbers as
well. A statement is refused as asking for something else exactly if it does, but for constants. -/
theorem amounts_numeric_iff (stmts : List Stmt) :
    (∀ instrs, Current.dialect.statements stmts = .ok instrs →
      ((∀ i ∈ nestedAll instrs, ∀ v, i.amount? = some v → v.isNumber = true) ↔
        ∀ s ∈ stmtsNested stmts, ∀ c, s.Fixes c → c.isNumber = true) ∧
      ((∀ s ∈ stmtsNested stmts, ∀ e refusal, s.Asks e refusal → e.isNumeric = true) ↔
        ∀ s ∈ stmtsNested stmts, ∀ c, s.Fixes c → c.isNumber = true)) ∧
    ∀ s ∈ stmtsNested stmts, ∀ e refusal, s.Asks e refusal →
      ((Current.dialect.statement s = .error refusal ↔ e.isNumeric = false) ↔
        ∀ c, s.Fixes c → c.isNumber = true) := by
  constructor
  · intro instrs hread
    have hreads := Dialect.statements_reads hread
    refine ⟨hreads.amounts_iff, forall₂_congr fun s hs => ?_⟩
    obtain ⟨found, hfound, -⟩ := hreads.forall_stmts s hs
    exact Current.asked_isNumeric_iff hfound
  · exact fun s _ e refusal hasks => Current.refused_iff_of_asks hasks

/-- A loop that starts a motor at a negative speed and waits for as long as a sensor says, after a
pause that is a truth value. -/
def steadyStmts : List Stmt :=
  [.expr (.of 1 1) (.call (.name "wait") [.literal (.bool true)] []),
    .whileLoop (.of 2 4) (.name "going")
      [.expr (.of 3 3) (.call (.attribute (.name "motor_left") "start")
          [.unary .minus (.literal (.int 40))] []),
        .expr (.of 4 4) (.await (.call (.name "wait")
          [.call (.attribute (.name "gyro_sensor") "get_rate") [] []] []))]]

theorem amounts_numeric_steadyStmts :
    ∃ instrs, Current.dialect.statements steadyStmts = .ok instrs ∧
      (((∀ i ∈ nestedAll instrs, ∀ v, i.amount? = some v → v.isNumber = true) ↔
        ∀ s ∈ stmtsNested steadyStmts, ∀ c, s.Fixes c → c.isNumber = true) ∧
      ((∀ s ∈ stmtsNested steadyStmts, ∀ e refusal, s.Asks e refusal → e.isNumeric = true) ↔
        ∀ s ∈ stmtsNested steadyStmts, ∀ c, s.Fixes c → c.isNumber = true)) ∧
      (nestedAll instrs).all (fun i => i.amount?.all Value.isNumber) = true := by
  have hread : (Current.dialect.statements steadyStmts).toOption.any
      (fun instrs => (nestedAll instrs).all fun i => i.amount?.all Value.isNumber) = true := by
    decide +kernel
  obtain ⟨instrs, hinstrs, hall⟩ := exists_of_any hread
  exact ⟨instrs, hinstrs, (amounts_numeric_iff steadyStmts).1 instrs hinstrs, hall⟩

/-- A motor that is started at a speed which is a text. -/
def briskScript : String := "motor_a.start('fast')\n"

/-- The text is taken for the speed, and the script is not refused. -/
theorem amount_of_briskScript :
    ∃ instrs, readInstructions Current.dialect briskScript = .ok instrs ∧
      ∃ i ∈ nestedAll instrs, ∃ v, i.amount? = some v ∧ v.isNumber = false := by
  have hread : (readInstructions Current.dialect briskScript).toOption.any
      (fun instrs => (nestedAll instrs).any fun i => i.amount?.any (!·.isNumber)) = true := by
    decide +kernel
  obtain ⟨instrs, hinstrs, hany⟩ := exists_of_any hread
  obtain ⟨i, hi, hv⟩ := List.any_eq_true.mp hany
  obtain ⟨v, hv, hno⟩ := (Option.any_eq_true _ _).mp hv
  exact ⟨instrs, hinstrs, i, hi, v, hv, by simpa using hno⟩

end HubScript
