import HubScript.Proofs.Layout
import HubScript.Proofs.Reduction
import HubScript.Proofs.StatementParts
import HubScript.Reader.Folding

/-!
# Folded constants

The folding dialect and the current one read a script into the same instructions, but for the
operands that they hold: where an expression is constant, the folding dialect holds its value, and
the current one holds the value only of what is written as a constant.
-/
namespace HubScript

/-- The slots in which instructions hold the operands of expressions. -/
inductive Slot where
  | speed
  | seconds
  | content
  | argument
  | assigned
  | returned
  deriving DecidableEq, Repr

namespace Slot

/-- How a dialect takes an expression in a slot. -/
def operand (d : Dialect) : Slot → Expr → Reading Operand
  | .speed => d.speed
  | .seconds => d.seconds
  | .content => d.content
  | .argument => d.argument
  | .assigned => d.assigned
  | .returned => d.returned

/-- Whether the current dialect takes an expression for a value in a slot. -/
def takesValue : Slot → Expr → Bool
  | .assigned, _ => false
  | .speed, e => e.isLiteral || e.isMinusLiteral
  | _, e => e.isLiteral

/-- The value that the folding dialect holds in a slot: what is printed is held as its text. -/
def shown : Slot → Value → Except Failure Value
  | .content, v => v.display.map .str
  | _, v => .ok v

end Slot

/-- The operands of one expression in the current and in the folding dialect. -/
inductive Operand.FoldsTo (slot : Slot) (e : Expr) : Operand → Operand → Prop
  /-- Both hold the value of the expression. -/
  | value {v w : Value} (constant : e.constant? = some v) (something : v ≠ .none)
      (taken : slot.takesValue e = true) (shown : slot.shown v = .ok w) :
      FoldsTo slot e (.known v) (.known w)
  /-- The value is held in the place of the text. -/
  | computed {v w : Value} {text : String} (constant : e.constant? = some v)
      (something : v ≠ .none) (kept : slot.takesValue e = false) (written : e.text = .ok text)
      (shown : slot.shown v = .ok w) : FoldsTo slot e (.text text) (.known w)
  /-- The value that is nothing counts as no constant. -/
  | nothing {text : String} (constant : e.constant? = some .none)
      (taken : slot.takesValue e = true) (written : e.text = .ok text) :
      FoldsTo slot e (.known .none) (.text text)
  /-- Both hold the text. -/
  | written {text : String} (unknown : e.constant? = none ∨ e.constant? = some .none)
      (kept : slot.takesValue e = false) (written : e.text = .ok text) :
      FoldsTo slot e (.text text) (.text text)

/-- The arguments of a call, one by one. -/
inductive Operand.AllFoldTo : List Expr → List Operand → List Operand → Prop
  | nil : AllFoldTo [] [] []
  | cons {e : Expr} {es : List Expr} {a b : Operand} {as bs : List Operand}
      (first : FoldsTo .argument e a b) (rest : AllFoldTo es as bs) :
      AllFoldTo (e :: es) (a :: as) (b :: bs)

/-- Steps that are the same but for the operands of given expressions. -/
inductive Step.FoldsTo : List (Slot × Expr) → Step → Step → Prop
  | same (act : Step) : FoldsTo [] act act
  | startMotor {motor : String} {e : Expr} {a b : Operand} (speed : Operand.FoldsTo .speed e a b) :
      FoldsTo [(.speed, e)] (.startMotor motor a) (.startMotor motor b)
  | wait {e : Expr} {a b : Operand} (seconds : Operand.FoldsTo .seconds e a b) :
      FoldsTo [(.seconds, e)] (.wait a) (.wait b)
  | print {e : Expr} {a b : Operand} (content : Operand.FoldsTo .content e a b) :
      FoldsTo [(.content, e)] (.print a) (.print b)
  | assign {target : String} {e : Expr} {a b : Operand} (value : Operand.FoldsTo .assigned e a b) :
      FoldsTo [(.assigned, e)] (.assign target a) (.assign target b)
  | giveBack {e : Expr} {a b : Operand} (value : Operand.FoldsTo .returned e a b) :
      FoldsTo [(.returned, e)] (.giveBack a) (.giveBack b)
  | call {function : String} {es : List Expr} {as bs : List Operand}
      (arguments : Operand.AllFoldTo es as bs) :
      FoldsTo (es.map fun e => (.argument, e)) (.call function as) (.call function bs)

/-- The expression of a motor's method that its instruction holds as an operand. -/
def motorOperands (method : String) (arguments : List Expr) : List (Slot × Expr) :=
  match method, arguments with
  | "start", speed :: _ => [(.speed, speed)]
  | _, _ => []

/-- The expressions of a function's call that its instruction holds as operands. -/
def functionOperands (name : String) (arguments : List Expr) : List (Slot × Expr) :=
  match name, arguments with
  | "wait", seconds :: _ => [(.seconds, seconds)]
  | "print", [content] => [(.content, content)]
  | "print", _ => []
  | _, arguments => arguments.map fun e => (.argument, e)

def callOperands : Expr → List Expr → List (Slot × Expr)
  | .attribute _ method, arguments => motorOperands method arguments
  | .name name, arguments => functionOperands name arguments
  | _, _ => []

theorem functionOperands_print {arguments : List Expr} (h : ∀ content, arguments ≠ [content]) :
    functionOperands "print" arguments = [] := by
  match arguments with
  | [] => rfl
  | [content] => exact absurd rfl (h content)
  | _ :: _ :: _ => rfl

theorem functionOperands_other {name : String} {arguments : List Expr}
    (hwait : ∀ seconds others, name = "wait" → arguments ≠ seconds :: others)
    (hprint : name ≠ "print") :
    functionOperands name arguments = arguments.map fun e => (.argument, e) := by
  unfold functionOperands
  split
  · exact absurd rfl (hwait _ _ rfl)
  · exact absurd rfl hprint
  · exact absurd rfl hprint
  · rfl

/-- The expressions of a statement that stand in its instruction as operands. -/
def Stmt.operands (s : Stmt) : List (Slot × Expr) :=
  match s, s.call? with
  | .assign _ [.name _] value, _ => [(.assigned, value)]
  | .returns _ (some value), _ => [(.returned, value)]
  | _, some (function, arguments) => callOperands function arguments
  | _, none => []

/-- Two forests read from the same statements: at every depth, the same instructions in the same
order, with operands that are held in both ways. -/
inductive Instruction.FoldTo : List Stmt → List Instruction → List Instruction → Prop
  | nil : FoldTo [] [] []
  | skip {s : Stmt} {stmts : List Stmt} {instrs folded : List Instruction}
      (passed : Folding.dialect.statement s = .ok none) (rest : FoldTo stmts instrs folded) :
      FoldTo (s :: stmts) instrs folded
  | step {s : Stmt} {stmts : List Stmt} {a b : Step} {info : Info}
      {instrs folded : List Instruction} (acts : Step.FoldsTo s.operands a b)
      (rest : FoldTo stmts instrs folded) :
      FoldTo (s :: stmts) (.step a info :: instrs) (.step b info :: folded)
  | block {s : Stmt} {stmts : List Stmt} {head : Head} {info : Info}
      {body foldedBody instrs folded : List Instruction} (inside : FoldTo s.body body foldedBody)
      (rest : FoldTo stmts instrs folded) :
      FoldTo (s :: stmts) (.block head body info :: instrs) (.block head foldedBody info :: folded)
  | branch {s : Stmt} {stmts : List Stmt} {condition : String} {info : Info}
      {body foldedBody orelse foldedElse instrs folded : List Instruction}
      (inside : FoldTo s.body body foldedBody) (otherwise : FoldTo s.orelse orelse foldedElse)
      (rest : FoldTo stmts instrs folded) :
      FoldTo (s :: stmts) (.branch condition body orelse info :: instrs)
        (.branch condition foldedBody foldedElse info :: folded)

theorem Operand.eq_text_of_read {e : Expr} {o : Operand}
    (h : (e.text >>= fun text => pure (Operand.text text)) = .ok o) :
    ∃ text, e.text = .ok text ∧ o = .text text := by
  obtain ⟨text, htext, ho⟩ := bind_eq_ok.mp h
  exact ⟨text, htext, (Except.ok.inj ho).symm⟩

namespace Current

theorem speed_eq_ok {e : Expr} {o : Operand} (h : speed e = .ok o) :
    ((e.isLiteral || e.isMinusLiteral) = true ∧ ∃ v, e.constant? = some v ∧ o = .known v) ∨
      (e.isLiteral || e.isMinusLiteral) = false ∧ ∃ text, e.text = .ok text ∧ o = .text text := by
  cases hliteral : e.isLiteral with
  | true =>
    obtain ⟨value, rfl⟩ := Expr.isLiteral_iff.mp hliteral
    exact .inl ⟨rfl, .ofLiteral value, rfl, (Except.ok.inj h).symm⟩
  | false =>
    cases hminus : e.isMinusLiteral with
    | true =>
      obtain ⟨value, rfl⟩ := Expr.isMinusLiteral_iff.mp hminus
      have hconstant : (Expr.unary .minus (.literal value)).constant? =
          (Value.ofLiteral value).negate.toOption := rfl
      rw [speed] at h
      cases hnegate : (Value.ofLiteral value).negate with
      | error failure => simp [hnegate] at h
      | ok v =>
        simp only [hnegate, pure_eq_ok, Except.ok.injEq] at h
        exact .inl ⟨rfl, v, by rw [hconstant, hnegate]; rfl, h.symm⟩
    | false =>
      rw [speed_of_no_literal hliteral hminus] at h
      split at h
      · exact .inr ⟨rfl, Operand.eq_text_of_read h⟩
      · cases h

/-- Where literals are taken as they are and the rest is written out. -/
theorem value_or_text {read : Expr → Reading Operand} {e : Expr} {o : Operand}
    (hliteral : ∀ value, read (.literal value) = .ok (.known (.ofLiteral value)))
    (hother : e.isLiteral = false → ∃ text, e.text = .ok text ∧ o = .text text)
    (h : read e = .ok o) :
    (e.isLiteral = true ∧ ∃ v, e.constant? = some v ∧ o = .known v) ∨
      e.isLiteral = false ∧ ∃ text, e.text = .ok text ∧ o = .text text := by
  cases hkind : e.isLiteral with
  | true =>
    obtain ⟨value, rfl⟩ := Expr.isLiteral_iff.mp hkind
    exact .inl ⟨rfl, .ofLiteral value, rfl, (Except.ok.inj ((hliteral value).symm.trans h)).symm⟩
  | false => exact .inr ⟨rfl, hother hkind⟩

/-- The current dialect holds the value of what it takes for one, and the text of anything else. -/
theorem slot_eq_ok {slot : Slot} {e : Expr} {o : Operand}
    (h : slot.operand dialect e = .ok o) :
    (slot.takesValue e = true ∧ ∃ v, e.constant? = some v ∧ o = .known v) ∨
      slot.takesValue e = false ∧ ∃ text, e.text = .ok text ∧ o = .text text := by
  cases slot with
  | speed => exact speed_eq_ok h
  | seconds =>
    refine value_or_text (fun value => rfl) (fun hkind => ?_) h
    simp only [Slot.operand, dialect, seconds_of_no_literal hkind] at h
    split at h
    · exact Operand.eq_text_of_read h
    · cases h
  | content | argument | returned =>
    refine value_or_text (fun value => rfl) (fun hkind => ?_) h
    simp only [Slot.operand, dialect, operand_of_no_literal hkind] at h
    exact Operand.eq_text_of_read h
  | assigned => exact .inr ⟨rfl, Operand.eq_text_of_read h⟩

end Current

namespace Folding

theorem folded?_eq_some {e : Expr} {v : Value} (h : folded? e = some v) :
    e.constant? = some v ∧ v ≠ .none := by
  unfold folded? at h
  split at h
  · cases h
  · rename_i hother
    refine ⟨h, ?_⟩
    rintro rfl
    exact hother h

theorem folded?_eq_none {e : Expr} (h : folded? e = none) :
    e.constant? = none ∨ e.constant? = some .none := by
  unfold folded? at h
  split at h
  · rename_i hnone
    exact .inr hnone
  · exact .inl h

/-- The folding dialect holds the value of a constant expression, unless it is nothing, and the text
of anything else. -/
theorem slot_eq_ok {slot : Slot} {e : Expr} {o : Operand}
    (h : slot.operand dialect e = .ok o) :
    (∃ v w, e.constant? = some v ∧ v ≠ .none ∧ slot.shown v = .ok w ∧ o = .known w) ∨
      (e.constant? = none ∨ e.constant? = some .none) ∧
        ∃ text, e.text = .ok text ∧ o = .text text := by
  cases hfolded : folded? e with
  | some v =>
    obtain ⟨hconstant, hsome⟩ := folded?_eq_some hfolded
    refine .inl ⟨v, ?_⟩
    cases slot with
    | content =>
      simp only [Slot.operand, dialect, content, hfolded] at h
      split at h
      · rename_i text hdisplay
        exact ⟨.str text, hconstant, hsome, by rw [Slot.shown, hdisplay]; rfl,
          (Except.ok.inj h).symm⟩
      · cases h
    | _ =>
      simp only [Slot.operand, dialect, numeric, operand, hfolded] at h
      exact ⟨v, hconstant, hsome, rfl, (Except.ok.inj h).symm⟩
  | none =>
    refine .inr ⟨folded?_eq_none hfolded, ?_⟩
    cases slot with
    | speed | seconds =>
      simp only [Slot.operand, dialect, numeric, hfolded] at h
      split at h
      · exact Operand.eq_text_of_read h
      · cases h
    | content | argument | assigned | returned =>
      simp only [Slot.operand, dialect, content, operand, hfolded] at h
      exact Operand.eq_text_of_read h

end Folding

/-- In every slot the two dialects hold an expression as they should. -/
theorem Operand.foldsTo_of_read (slot : Slot) (e : Expr) :
    BothGive (FoldsTo slot e) (slot.operand Current.dialect e)
      (slot.operand Folding.dialect e) := by
  intro a b hcurrent hfolding
  rcases Current.slot_eq_ok hcurrent with ⟨taken, v, hv, rfl⟩ | ⟨kept, text, htext, rfl⟩ <;>
    rcases Folding.slot_eq_ok hfolding with
      ⟨v', w, constant, something, shown, rfl⟩ | ⟨unknown, text', htext', rfl⟩
  · obtain rfl := Option.some.inj (hv.symm.trans constant)
    exact .value constant something taken shown
  · rw [hv] at unknown
    obtain rfl := Option.some.inj (unknown.resolve_left nofun)
    exact .nothing hv taken htext'
  · exact .computed constant something kept htext shown
  · obtain rfl := Except.ok.inj (htext.symm.trans htext')
    exact .written unknown kept htext

theorem Operand.allFoldTo_of_read (es : List Expr) :
    BothGive (AllFoldTo es) (es.mapM Current.dialect.argument)
      (es.mapM Folding.dialect.argument) := by
  induction es with
  | nil => exact .ok .nil
  | cons e es ih =>
    rw [List.mapM_cons, List.mapM_cons]
    exact (foldsTo_of_read .argument e).bind fun a b first => ih.bind fun as bs rest =>
      .ok (.cons first rest)

namespace Step

section Call

variable {arguments : List Expr}

theorem foldsTo_motorCall (motor method : String) (arguments : List Expr) :
    BothGive
      (fun x y => Option.Rel (FoldsTo (motorOperands method arguments)) (x.bind Step.reduced?) y)
      (Current.dialect.motorCall motor method arguments)
      (Folding.dialect.motorCall (motorLetter motor) method arguments) := by
  rcases Dialect.motorCall_cases method arguments with
    ⟨e, others, rfl, rfl, hread⟩ | ⟨rfl, hread⟩ | ⟨_, hread⟩
  · rw [hread, hread]
    exact (Operand.foldsTo_of_read .speed e).bind fun a b speed => .ok (.some (.startMotor speed))
  · rw [hread, hread]
    exact .ok (.some (.same _))
  · rw [hread, hread]
    exact .ok .none

theorem foldsTo_functionCall (name : String) (arguments : List Expr) :
    BothGive
      (fun a b => ∃ left, a.reduced? = some left ∧ FoldsTo (functionOperands name arguments) left b)
      (Current.dialect.functionCall name arguments)
      (Folding.dialect.functionCall name arguments) := by
  rcases Dialect.functionCall_cases name arguments with
    ⟨e, others, rfl, rfl⟩ | ⟨e, rfl, rfl⟩ | ⟨rfl, hone, hread⟩ | ⟨hwait, hprint, hread⟩
  · exact (Operand.foldsTo_of_read .seconds e).bind fun a b seconds => .ok ⟨_, rfl, .wait seconds⟩
  · exact (Operand.foldsTo_of_read .content e).bind fun a b content => .ok ⟨_, rfl, .print content⟩
  · rw [hread, hread, functionOperands_print hone]
    exact .bind_same _ fun operand => .ok ⟨_, rfl, .same _⟩
  · rw [hread, hread, functionOperands_other hwait hprint]
    exact (Operand.allFoldTo_of_read arguments).bind fun as bs arguments =>
      .ok ⟨_, rfl, .call arguments⟩

theorem foldsTo_sensorCall (object method : String) (arguments : List Expr) :
    Option.Rel (FoldsTo (motorOperands method arguments))
      (if object == "ir_sensor" then Dialect.sensorCall method else none)
      (if object == "ir_sensor" then Dialect.sensorCall method else none) := by
  unfold Dialect.sensorCall
  split
  · split
    · exact .some (.same _)
    · exact .some (.same _)
    · exact .none
  · exact .none

theorem foldsTo_call {s : Stmt} {function : Expr}
    (hmotors : ∀ motor ∈ s.motor?, motor = "motor_a" ∨ motor = "motor_b")
    (hcall : s.call? = some (function, arguments)) :
    BothGive
      (fun x y => Option.Rel (FoldsTo (callOperands function arguments)) (x.bind Step.reduced?) y)
      (Current.dialect.call function arguments) (Folding.dialect.call function arguments) := by
  rcases Dialect.call_cases function with
    ⟨object, method, rfl⟩ | ⟨name, rfl⟩ | ⟨_, _, hpassed⟩
  · by_cases hmotor : object ∈ Current.motors
    · have hknown := hmotors object
        (by simp [Stmt.motor?, Stmt.motorCall?_eq_some.mpr ⟨hcall, hmotor⟩])
      rw [Dialect.call_of_motor (Current.motor?_of_mem hmotor),
        Dialect.call_of_motor (Legacy.motor?_of_known hknown)]
      exact foldsTo_motorCall object method arguments
    · rw [Dialect.call_of_no_motor (Current.motor?_of_not_mem hmotor),
        Dialect.call_of_no_motor (Legacy.motor?_of_not_mem hmotor)]
      refine .ok ?_
      rw [Dialect.sensor_reduced]
      exact foldsTo_sensorCall object method arguments
  · refine (foldsTo_functionCall name arguments).bind fun a b h => .ok ?_
    obtain ⟨left, hleft, hfolds⟩ := h
    rw [Option.bind_some, hleft]
    exact .some hfolds
  · rw [hpassed, hpassed]
    exact .ok .none

end Call

end Step

namespace Instruction

/-- What a statement is read into in both dialects can stand before further instructions. The
second reading is at hand because a statement may be passed over only if it has no instruction. -/
def Precede (s : Stmt) (x y : Option Instruction) : Prop :=
  ∀ {stmts : List Stmt} {instrs folded : List Instruction},
    Folding.dialect.statement s = .ok y → FoldTo stmts instrs folded →
      FoldTo (s :: stmts) ((x.bind reduced?).toList ++ instrs) (y.toList ++ folded)

theorem precede_expressionStmt {span : Span} {value : Expr}
    (hmotors : ∀ motor ∈ (Stmt.expr span value).motor?, motor = "motor_a" ∨ motor = "motor_b") :
    BothGive (Precede (.expr span value)) (Current.dialect.expressionStmt span value)
      (Folding.dialect.expressionStmt span value) := by
  cases hcall : (Stmt.expr span value).call? with
  | some call =>
    obtain ⟨function, arguments⟩ := call
    have hoperands : (Stmt.expr span value).operands = callOperands function arguments := by
      simp only [Stmt.operands, hcall]
    obtain ⟨awaited, hread⟩ := Dialect.expressionStmt_of_call hcall
    rw [hread, hread]
    refine (Step.foldsTo_call hmotors hcall).bind fun x y h => .ok fun hfound hrest => ?_
    -- a step is reduced by itself, and its lines are those that the folding dialect never had
    have hleft : (x.map fun act => step act (Current.dialect.info awaited span)).bind reduced? =
        (x.bind Step.reduced?).map fun act => step act (Folding.dialect.info awaited span) := by
      cases x <;> rfl
    rw [← hoperands] at h
    rw [hleft]
    generalize x.bind Step.reduced? = left at h
    cases h with
    | none => exact .skip hfound hrest
    | some acts => exact .step acts hrest
  | none =>
    rcases Dialect.expressionStmt_of_no_call hcall with ⟨text, hread⟩ | hread
    · rw [hread, hread]
      exact .ok fun hfound hrest => .skip hfound hrest
    · rw [hread, hread]
      exact .ok fun hfound hrest => .skip hfound hrest

theorem precede_statement {s : Stmt}
    (hmotors : ∀ motor ∈ s.motor?, motor = "motor_a" ∨ motor = "motor_b")
    (hbody : BothGive (fun a b => FoldTo s.body (reducedAll a) b)
      (Current.dialect.statements s.body) (Folding.dialect.statements s.body))
    (horelse : BothGive (fun a b => FoldTo s.orelse (reducedAll a) b)
      (Current.dialect.statements s.orelse) (Folding.dialect.statements s.orelse)) :
    BothGive (Precede s) (Current.dialect.statement s) (Folding.dialect.statement s) := by
  fun_cases Dialect.statement Current.dialect s with
  | case1 span value => exact precede_expressionStmt hmotors
  | case2 span target value =>
    rw [Dialect.statement]
    exact (Operand.foldsTo_of_read .assigned value).bind fun a b assigned =>
      .ok fun _ hrest => .step (.assign assigned) hrest
  | case3 span targets value hother =>
    rw [Dialect.statement.eq_3 _ _ _ _ hother]
    exact .ok fun hfound hrest => .skip hfound hrest
  | case4 span target source body =>
    rw [Dialect.statement]
    exact hbody.bind fun a b inside => .bind_same _ fun target => .bind_same _ fun source =>
      .ok fun _ hrest => .block inside hrest
  | case5 span test body =>
    rw [Dialect.statement]
    exact .of_check <| hbody.bind fun a b inside => .bind_same _ fun text =>
      .ok fun _ hrest => .block inside hrest
  | case6 span test body orelse =>
    rw [Dialect.statement]
    exact .of_check <| hbody.bind fun a b inside => horelse.bind fun as bs otherwise =>
      .bind_same _ fun text => .ok fun _ hrest => .branch inside otherwise hrest
  | case7 span => exact .ok fun _ hrest => .step (.same _) hrest
  | case8 span name params body =>
    rw [Dialect.statement]
    exact hbody.bind fun a b inside => .ok fun _ hrest => .block inside hrest
  | case9 span value =>
    rw [Dialect.statement]
    cases value with
    | none => exact .ok fun _ hrest => .step (.same _) hrest
    | some e =>
      exact (Operand.foldsTo_of_read .returned e).bind fun a b returned =>
        .ok fun _ hrest => .step (.giveBack returned) hrest
  | case10 => exact .ok fun hfound hrest => .skip hfound hrest

theorem foldTo_statements {stmts : List Stmt}
    (h : ∀ s ∈ stmtsNested stmts, ∀ motor ∈ s.motor?, motor = "motor_a" ∨ motor = "motor_b") :
    BothGive (fun current folded => FoldTo stmts (reducedAll current) folded)
      (Current.dialect.statements stmts) (Folding.dialect.statements stmts) := by
  induction stmts using Stmt.forest_induction with
  | nil => exact .ok .nil
  | cons s rest ihbody ihorelse ihrest =>
    obtain ⟨hs, hbody, horelse, hrest⟩ := forall_mem_stmtsNested_cons.mp h
    -- `BothGive.bind` would lose `hy`, which `Precede` asks for
    intro current folded hcurrent hfolding
    obtain ⟨x, hx, hcurrent⟩ := bind_eq_ok.mp hcurrent
    obtain ⟨instrs, hinstrs, hcurrent⟩ := bind_eq_ok.mp hcurrent
    obtain ⟨y, hy, hfolding⟩ := bind_eq_ok.mp hfolding
    obtain ⟨others, hothers, hfolding⟩ := bind_eq_ok.mp hfolding
    obtain rfl := Except.ok.inj hcurrent
    obtain rfl := Except.ok.inj hfolding
    have hnext := precede_statement hs (ihbody hbody) (ihorelse horelse) x y hx hy hy
      (ihrest hrest instrs others hinstrs hothers)
    cases x <;> exact hnext

end Instruction

/-- Where both dialects read a script that calls no motors but two, they read it into the same
instructions, once those of the current one are reduced, and hold each operand in their own way. -/
theorem current_folds_to_folding {stmts : List Stmt} {current folded : List Instruction}
    (hmotors : ∀ s ∈ stmtsNested stmts, ∀ motor ∈ s.motor?,
      motor = "motor_a" ∨ motor = "motor_b")
    (hcurrent : Current.dialect.statements stmts = .ok current)
    (hfolding : Folding.dialect.statements stmts = .ok folded) :
    reducedForms (formsOf current) = formsOf (reducedAll current) ∧
      Instruction.FoldTo stmts (reducedAll current) folded :=
  ⟨reducedForms_formsOf current,
    Instruction.foldTo_statements hmotors current folded hcurrent hfolding⟩

/-- A function that backs up and prints a sum, and a call that is given nothing. -/
def reportStmts : List Stmt :=
  [.define (.of 1 5) "report" (.mk [] [.mk "text" none none] none [] none)
      [.expr (.of 2 2) (.literal (.text "back up first" false)),
        .expr (.of 3 3) (.await (.call (.attribute (.name "motor_b") "start")
          [.unary .minus (.literal (.int 30))] [])),
        .expr (.of 4 4) (.call (.name "print")
          [.binary .add (.literal (.int 2)) (.literal (.int 3))] []),
        .returns (.of 5 5) (some (.name "text"))],
    .expr (.of 6 6) (.call (.name "report") [.literal .none] [])]

theorem current_folds_to_folding_reportStmts :
    ∃ current folded, Current.dialect.statements reportStmts = .ok current ∧
      Folding.dialect.statements reportStmts = .ok folded ∧
      folded =
        [.block (.define "report" ["text"])
            [.step (.startMotor "b" (.known (.int (-30)))) ⟨true, none⟩,
              .step (.print (.known (.str "5"))) ⟨false, none⟩,
              .step (.giveBack (.text "text")) ⟨false, none⟩] ⟨false, none⟩,
          .step (.call "report" [.text "None"]) ⟨false, none⟩] ∧
      reducedForms (formsOf current) = formsOf (reducedAll current) ∧
      Instruction.FoldTo reportStmts (reducedAll current) folded := by
  have hmotors : ∀ s ∈ stmtsNested reportStmts, ∀ motor ∈ s.motor?,
      motor = "motor_a" ∨ motor = "motor_b" := by decide +kernel
  exact ⟨_, _, rfl, rfl, rfl, current_folds_to_folding hmotors rfl rfl⟩

end HubScript
