import HubScript.Proofs.Opening
import HubScript.Proofs.Simulation
import HubScript.Proofs.StepFailure

/-!
# Scripts that are read can be carried over

Every instruction read from a script has the fields that writing it looks up, so a program can be
made from it unless its comments cannot be told, a pause is not a whole number of milliseconds, or
a whole number has too many digits.
-/
namespace HubScript

namespace Current

theorem isScalar_ofLiteral (value : Literal) : (Value.ofLiteral value).isScalar = true := by
  cases value <;> rfl

theorem isScalar_negate {v w : Value} (h : v.negate = .ok w) : w.isScalar = true := by
  cases v with
  | bool | int | float | complex =>
    obtain rfl := Except.ok.inj h
    rfl
  | _ => cases h

theorem isScalar_of_literal {value : Literal} {operand : Operand}
    (h : (pure (.known (.ofLiteral value)) : Reading Operand) = .ok operand) :
    operand.IsScalar := by
  obtain rfl := Except.ok.inj h
  exact isScalar_ofLiteral value

theorem isScalar_of_text {e : Expr} {operand : Operand}
    (h : (e.text >>= fun text => pure (.text text)) = .ok operand) : operand.IsScalar := by
  obtain ⟨text, -, h⟩ := bind_eq_ok.mp h
  obtain rfl := Except.ok.inj h
  trivial

theorem operand_isScalar {e : Expr} {operand : Operand} (h : Current.operand e = .ok operand) :
    operand.IsScalar := by
  rw [Current.operand.eq_def] at h
  split at h
  · exact isScalar_of_literal h
  · exact isScalar_of_text h

theorem seconds_isScalar {e : Expr} {operand : Operand} (h : seconds e = .ok operand) :
    operand.IsScalar := by
  rw [seconds.eq_def] at h
  split at h
  · exact isScalar_of_literal h
  · split at h
    · exact isScalar_of_text h
    · cases h

theorem speed_isScalar {e : Expr} {operand : Operand} (h : speed e = .ok operand) :
    operand.IsScalar := by
  rw [speed.eq_def] at h
  split at h
  · exact isScalar_of_literal h
  · split at h
    · rename_i negated hnegated
      obtain rfl := Except.ok.inj h
      exact isScalar_negate hnegated
    · cases h
  · split at h
    · exact isScalar_of_text h
    · cases h

theorem mapM_operand {arguments : List Expr} {operands : List Operand}
    (h : arguments.mapM Current.operand = .ok operands) : ∀ o ∈ operands, o.IsScalar := by
  induction arguments generalizing operands with
  | nil =>
    obtain rfl := Except.ok.inj h
    simp
  | cons e rest ih =>
    rw [List.mapM_cons] at h
    obtain ⟨first, hfirst, h⟩ := bind_eq_ok.mp h
    obtain ⟨others, hothers, h⟩ := bind_eq_ok.mp h
    obtain rfl := Except.ok.inj h
    exact List.forall_mem_cons.mpr ⟨operand_isScalar hfirst, ih hothers⟩

theorem functionCall_isSimple {name : String} {arguments : List Expr} {act : Step}
    (h : dialect.functionCall name arguments = .ok act) : act.IsSimple := by
  rw [Dialect.functionCall.eq_def] at h
  split at h
  · obtain ⟨seconds, hseconds, h⟩ := bind_eq_ok.mp h
    obtain rfl := Except.ok.inj h
    exact seconds_isScalar hseconds
  · obtain rfl := Except.ok.inj h
    rfl
  · obtain ⟨content, hcontent, h⟩ := bind_eq_ok.mp h
    obtain rfl := Except.ok.inj h
    exact operand_isScalar hcontent
  · obtain ⟨text, -, h⟩ := bind_eq_ok.mp h
    obtain rfl := Except.ok.inj h
    trivial
  · obtain ⟨operands, hoperands, h⟩ := bind_eq_ok.mp h
    obtain rfl := Except.ok.inj h
    exact mapM_operand hoperands

theorem motorCall_isSimple {motor method : String} {arguments : List Expr} {act : Step}
    (h : dialect.motorCall motor method arguments = .ok (some act)) : act.IsSimple := by
  rw [Dialect.motorCall.eq_def] at h
  split at h
  · obtain ⟨speed, hspeed, h⟩ := bind_eq_ok.mp h
    obtain rfl := Option.some.inj (Except.ok.inj h)
    exact speed_isScalar hspeed
  · obtain rfl := Option.some.inj (Except.ok.inj h)
    trivial
  · cases h

theorem sensorCall_isSimple {method : String} {act : Step}
    (h : Dialect.sensorCall method = some act) : act.IsSimple := by
  rw [Dialect.sensorCall.eq_def] at h
  split at h
  · obtain rfl := Option.some.inj h
    trivial
  · obtain rfl := Option.some.inj h
    trivial
  · cases h

theorem call_isSimple {function : Expr} {arguments : List Expr} {act : Step}
    (h : dialect.call function arguments = .ok (some act)) : act.IsSimple := by
  rw [Dialect.call.eq_def] at h
  split at h
  · split at h
    · exact motorCall_isSimple h
    · replace h := Except.ok.inj h
      split at h
      · exact sensorCall_isSimple h
      · cases h
  · obtain ⟨found, hfound, h⟩ := bind_eq_ok.mp h
    obtain rfl := Option.some.inj (Except.ok.inj h)
    exact functionCall_isSimple hfound
  · cases h

theorem expressionStmt_isSimple {span : Span} {value : Expr} {act : Step} {info : Info}
    (h : dialect.expressionStmt span value = .ok (some (.step act info))) : act.IsSimple := by
  have hcall {function : Expr} {arguments : List Expr} {awaited : Bool}
      (h : (dialect.call function arguments >>= fun found =>
        pure (found.map fun act => Instruction.step act (dialect.info awaited span))) =
          .ok (some (.step act info))) : act.IsSimple := by
    obtain ⟨found, hfound, h⟩ := bind_eq_ok.mp h
    obtain ⟨act', rfl, hact⟩ := Option.map_eq_some_iff.mp (Except.ok.inj h)
    obtain ⟨rfl, -⟩ := Instruction.step.inj hact
    exact call_isSimple hfound
  unfold Dialect.expressionStmt at h
  split at h
  · obtain ⟨rfl, -⟩ := Instruction.step.inj (Option.some.inj (Except.ok.inj h))
    trivial
  · exact hcall h
  · exact hcall h
  · cases h

/-- The steps that are read are simple. -/
theorem isSimple_of_gives {s : Stmt} {act : Step} (h : dialect.Gives s act) : act.IsSimple := by
  cases h with
  | expr h => exact expressionStmt_isSimple h
  | assign h =>
    obtain ⟨text, -, htext⟩ := bind_eq_ok.mp h
    exact ⟨text, (Except.ok.inj htext).symm⟩
  | stop => trivial
  | @returns span value operand h =>
    cases value with
    | none =>
      obtain rfl := Except.ok.inj h
      rfl
    | some e => exact operand_isScalar h

end Current

/-- What holds of every instruction that a statement gives holds of all instructions read. -/
theorem Reads.forall_nested {d : Dialect} {stmts : List Stmt} {instrs : List Instruction}
    {p : Instruction → Prop} (h : Reads d stmts instrs)
    (hp : ∀ s i, d.statement s = .ok (some i) → p i) : ∀ i ∈ nestedAll instrs, p i := by
  induction h with
  | nil => simp [nestedAll]
  | skip passed rest ih => exact ih
  | take found body orelse rest ihbody ihelse ihrest =>
    exact forall_mem_nestedAll_cons.mpr ⟨hp _ _ found, ihbody, ihelse, ihrest⟩

theorem Reads.steps_isSimple {stmts : List Stmt} {instrs : List Instruction}
    (h : Reads Current.dialect stmts instrs) :
    ∀ act info, .step act info ∈ nestedAll instrs → act.IsSimple := by
  have hall := h.forall_nested (p := fun i => ∀ act info, i = .step act info → act.IsSimple)
    fun s i hs act info hi =>
      Current.isSimple_of_gives ((Dialect.statement_some hs).2.2.2 act info hi)
  exact fun act info hmem => hall _ hmem act info rfl

namespace Hub

/-- One of the steps of a forest cannot be written. -/
def StepFails (settings : Settings) (instrs : List Instruction) (failure : Failure) : Prop :=
  ∃ act info, .step act info ∈ nestedAll instrs ∧ statements settings act.fields = .error failure

theorem StepFails.mono {settings : Settings} {instrs others : List Instruction} {failure : Failure}
    (h : StepFails settings instrs failure)
    (hsub : ∀ i ∈ nestedAll instrs, i ∈ nestedAll others) : StepFails settings others failure := by
  obtain ⟨act, info, hmem, hfails⟩ := h
  exact ⟨act, info, hsub _ hmem, hfails⟩

/-- Making the lines of a forest fails only where a step cannot be written, in a block with comments
and without them. -/
structure FailsByStep (scene : Scene) (instrs : List Instruction) : Prop where
  children : ∀ cursor stop, childrenLines scene cursor (formsOf instrs) = .error stop →
    StepFails scene.settings instrs stop.failure
  plain : ∀ stop, plainLines scene (formsOf instrs) = .error stop →
    StepFails scene.settings instrs stop.failure

theorem formLines_step_error {scene : Scene} {act : Step} {info : Info} {stop : Stop}
    (h : formLines scene (Instruction.step act info).form = .error stop) :
    StepFails scene.settings [.step act info] stop.failure := by
  rw [Instruction.form_eq,
    formLines_of_header_none _ _ _ (Instruction.header_of_step act info)] at h
  rcases bind_eq_error.mp h with h | ⟨texts, -, h⟩
  · refine ⟨act, info, by simp [nestedAll, Instruction.nested], ?_⟩
    rw [← statements_append_info act.fields info]
    exact here_eq_error h
  · cases h

theorem elseLines_eq_error {scene : Scene} {i : Instruction} {stop : Stop}
    (h : elseLines scene i.elseSuite = .error stop) :
    ∃ inner : Stop, plainLines scene (formsOf i.orelse) = .error inner ∧
      inner.failure = stop.failure := by
  rw [Instruction.elseSuite] at h
  cases horelse : i.orelse with
  | nil =>
    rw [horelse] at h
    cases h
  | cons j rest =>
    rw [horelse] at h
    rcases bind_eq_error.mp h with h | ⟨lines, -, h⟩
    · exact within_eq_error h
    · cases h

theorem formLines_compound_error {scene : Scene} {i : Instruction} {stop : Stop}
    (hcompound : i.isCompound = true) (hbody : FailsByStep scene i.body)
    (helse : FailsByStep scene i.orelse) (h : formLines scene i.form = .error stop) :
    StepFails scene.settings [i] stop.failure := by
  have hinBody : ∀ j ∈ nestedAll i.body, j ∈ nestedAll [i] := by
    intro j hj
    simp [nestedAll, Instruction.nested_eq i, hj]
  have hinElse : ∀ j ∈ nestedAll i.orelse, j ∈ nestedAll [i] := by
    intro j hj
    simp [nestedAll, Instruction.nested_eq i, hj]
  obtain ⟨header, hheader⟩ := Instruction.header_of_compound hcompound
  rw [Instruction.form_eq, formLines_of_header_some _ _ _ hheader,
    Instruction.bodySuite_of_compound hcompound] at h
  rcases bind_eq_error.mp h with h | ⟨main, -, h⟩
  · rw [blockLines] at h
    rcases bind_eq_error.mp h with h | ⟨found, -, h⟩
    · obtain ⟨inner, hinner, hsame⟩ := within_eq_error h
      rw [← hsame]
      exact (hbody.children _ _ hinner).mono hinBody
    · cases h
  · rcases bind_eq_error.mp h with h | ⟨others, -, h⟩
    · cases header with
      | loop | function => cases h
      | branch text =>
        obtain ⟨inner, hinner, hsame⟩ := elseLines_eq_error h
        rw [← hsame]
        exact (helse.plain _ hinner).mono hinElse
    · cases h

theorem failsByStep (scene : Scene) (instrs : List Instruction) : FailsByStep scene instrs := by
  refine Instruction.forest_induction
    (P := fun i => ∀ stop, formLines scene i.form = .error stop →
      StepFails scene.settings [i] stop.failure)
    (Q := fun instrs => FailsByStep scene instrs) ?step ?compound ?nil ?cons instrs
  case step => exact fun act info stop h => formLines_step_error h
  case compound => exact fun i hcompound hbody helse stop h =>
    formLines_compound_error hcompound hbody helse h
  case nil =>
    constructor
    · intro cursor stop h
      cases h
    · intro stop h
      cases h
  case cons =>
    intro i rest hi hrest
    have hfirst := nestedAll_subset_of_mem (List.mem_cons_self (a := i) (l := rest))
    have hlater : ∀ j ∈ nestedAll rest, j ∈ nestedAll (i :: rest) := by
      intro j hj
      simp [nestedAll, hj]
    constructor
    · intro cursor stop h
      rw [formsOf, childrenLines, Instruction.form_eq, firstLineOf, here_ok, ok_bind,
        ← Instruction.form_eq] at h
      rcases bind_eq_error.mp h with h | ⟨own, -, h⟩
      · exact (hi stop h).mono hfirst
      · rcases bind_eq_error.mp h with h | ⟨others, -, h⟩
        · exact (hrest.children _ stop h).mono hlater
        · cases h
    · intro stop h
      rw [formsOf, plainLines] at h
      rcases bind_eq_error.mp h with h | ⟨own, -, h⟩
      · exact (hi stop h).mono hfirst
      · rcases bind_eq_error.mp h with h | ⟨others, -, h⟩
        · exact (hrest.plain stop h).mono hlater
        · cases h

theorem formLines_eq_error {scene : Scene} {i : Instruction} {stop : Stop}
    (h : formLines scene i.form = .error stop) : StepFails scene.settings [i] stop.failure := by
  refine (failsByStep scene [i]).plain stop ?_
  rw [formsOf, plainLines, h, error_bind]

theorem mainLines_eq_error {scene : Scene} {instrs : List Instruction} {forms : List Form}
    {cursor : Int} {stop : Stop} (hforms : ∀ form ∈ forms, ∃ i ∈ instrs, i.form = form)
    (h : mainLines scene cursor forms = .error stop) :
    StepFails scene.settings instrs stop.failure := by
  induction forms generalizing cursor with
  | nil => cases h
  | cons form rest ih =>
    obtain ⟨i, hi, rfl⟩ := hforms form (by simp)
    rw [mainLines, Instruction.form_eq, firstLineOf, here_ok, ok_bind, ← Instruction.form_eq] at h
    rcases bind_eq_error.mp h with h | ⟨own, -, h⟩
    · exact (formLines_eq_error h).mono (nestedAll_subset_of_mem hi)
    · rcases bind_eq_error.mp h with h | ⟨others, -, h⟩
      · exact ih (fun form hform => hforms form (by simp [hform])) h
      · cases h

theorem bodyLines_eq_error {scene : Scene} {instrs : List Instruction} {stop : Stop}
    (h : bodyLines scene (formsOf instrs) = .error stop) :
    StepFails scene.settings instrs stop.failure := by
  refine mainLines_eq_error (fun form hform => ?_) h
  rw [List.mem_mergeSort, formsOf_eq_map] at hform
  exact List.mem_map.mp hform

/-- A pause of a forest is no whole number of milliseconds. -/
def PauseFails (instrs : List Instruction) (failure : Failure) : Prop :=
  ∃ v info, .step (.wait (.known v)) info ∈ nestedAll instrs ∧ v.thousandfold = .error failure

/-- A step of a forest writes a whole number with too many digits. -/
def NumberTooLong (instrs : List Instruction) (failure : Failure) : Prop :=
  failure = .print .longNumber ∧ ∃ act info, .step act info ∈ nestedAll instrs ∧ act.WritesLong

/-- The failure of a pause is not that of a number with too many digits. -/
theorem PauseFails.ofWhole {instrs : List Instruction} {failure : Failure}
    (h : PauseFails instrs failure) : failure.ofWhole = true := by
  obtain ⟨v, info, -, hfails⟩ := h
  exact Value.thousandfold_eq_error hfails

theorem failure_of_stepFails {settings : Settings} {instrs : List Instruction} {failure : Failure}
    (hsimple : ∀ act info, .step act info ∈ nestedAll instrs → act.IsSimple)
    (h : StepFails settings instrs failure) :
    (PauseFails instrs failure ∧ ¬NumberTooLong instrs failure ∨
        NumberTooLong instrs failure ∧ ¬PauseFails instrs failure) ∧
      failure.kind ≠ .key ∧ failure.kind ≠ .member ∧
      ∀ op left right, failure ≠ .notOrdered op left right := by
  obtain ⟨act, info, hmem, hfails⟩ := h
  rcases statements_eq_error (hsimple act info hmem) hfails with ⟨v, rfl, hv⟩ | ⟨rfl, hlong⟩
  · have hpause : PauseFails instrs failure := ⟨v, info, hmem, hv⟩
    have hwhole := hpause.ofWhole
    refine ⟨.inl ⟨hpause, fun hlong => ?_⟩, ?_⟩
    · rw [hlong.1] at hwhole
      cases hwhole
    · cases failure with
      | notNumber | badBinary | badNumeral | longNumeral | infiniteInt | nanInt =>
        simp [Failure.kind]
      | _ => cases hwhole
  · refine ⟨.inr ⟨⟨rfl, act, info, hmem, hlong⟩, fun hpause => ?_⟩, by simp [Failure.kind]⟩
    cases hpause.ofWhole

/-- A program can be made from every script that is read, whatever the settings, unless the comments
of the script cannot be told, a pause is no whole number of milliseconds, or a whole number has too
many digits. -/
theorem generate_of_readInstructions {script : String} {instrs : List Instruction}
    (hread : readInstructions Current.dialect script = .ok instrs) (settings : Settings) :
    (∃ program, generate settings (formsOf instrs) script = .ok program) ∨
      (∃ fault, CommentTable.ofScript script = .error fault ∧
        generate settings (formsOf instrs) script = .error (.comments fault)) ∨
      ∃ table failure, CommentTable.ofScript script = .ok table ∧
        generate settings (formsOf instrs) script = .error (.failed failure) ∧
        (PauseFails instrs failure ∧ ¬NumberTooLong instrs failure ∨
          NumberTooLong instrs failure ∧ ¬PauseFails instrs failure) ∧
        failure.kind ≠ .key ∧ failure.kind ≠ .member ∧
        ∀ op left right, failure ≠ .notOrdered op left right := by
  obtain ⟨stmts, -, hreads⟩ := readInstructions_eq_ok hread
  obtain ⟨opening, hopening⟩ := prelude_ok settings instrs
  rw [generate_eq settings (areNumbered_formsOf instrs), hopening]
  cases htable : CommentTable.ofScript script with
  | error fault => exact .inr (.inl ⟨fault, rfl, rfl⟩)
  | ok table =>
    cases hbody : bodyLines ⟨settings, table⟩ (formsOf instrs) with
    | ok body => exact .inl ⟨programText opening body, by simp only [hbody]⟩
    | error stop =>
      refine .inr (.inr ⟨table, stop.failure, rfl, by simp only [hbody], ?_⟩)
      exact failure_of_stepFails (hreads.steps_isSimple) (bodyLines_eq_error hbody)

/-- A branch with a pause that is no number. -/
def pauseScript : String := "if x:\n    wait(None)\n"

/-- The pause is what keeps the program from being made. -/
theorem generate_pauseScript :
    ∃ instrs table failure, readInstructions Current.dialect pauseScript = .ok instrs ∧
      CommentTable.ofScript pauseScript = .ok table ∧
      generate .standard (formsOf instrs) pauseScript = .error (.failed failure) ∧
      PauseFails instrs failure ∧ ¬NumberTooLong instrs failure ∧
      failure.kind ≠ .key ∧ failure.kind ≠ .member ∧
      ∀ op left right, failure ≠ .notOrdered op left right := by
  have hstops : (readInstructions Current.dialect pauseScript).toOption.any (fun instrs =>
      failsBy (· == .failed (.badBinary "*" "NoneType" "int"))
        (generate .standard (formsOf instrs) pauseScript)) = true := by
    decide +kernel
  obtain ⟨instrs, hread, hfails⟩ := exists_of_any hstops
  obtain ⟨setback, hsetback, hcause⟩ := exists_of_failsBy hfails
  obtain rfl := eq_of_beq hcause
  rcases generate_of_readInstructions hread .standard with
    ⟨program, hprogram⟩ | ⟨fault, -, hfault⟩ | ⟨table, failure, htable, hfailure, hcause, hkinds⟩
  · cases hsetback.symm.trans hprogram
  · cases hsetback.symm.trans hfault
  · obtain rfl := Setback.failed.inj (Except.error.inj (hsetback.symm.trans hfailure))
    have hpause := hcause.resolve_right fun hlong => nomatch hlong.1.1
    exact ⟨instrs, table, _, hread, htable, hfailure, hpause.1, hpause.2, hkinds⟩

end Hub

end HubScript
