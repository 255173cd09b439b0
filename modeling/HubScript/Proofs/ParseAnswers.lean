import HubScript.Proofs.Refusals

/-!
# When a script has an answer

Reading looks at every statement twice: before its parts are read, when the statement may be refused
or a text that it asks for may not be written, and after, when its header is written. The first of
these moments with an objection decides. A refusal is an answer. What escapes is a minus sign before
a constant without a negative, a text that cannot be written, and, when all is read, a whole number
with too many digits to be logged.
-/
namespace HubScript

section Numbers

mutual

/-- The whole numbers in a value, at any depth. -/
def Value.numbers : Value → List Int
  | .int n => [n]
  | .list items => valuesNumbers items
  | .tuple items => valuesNumbers items
  | .set items => valuesNumbers items
  | .dict entries => entriesNumbers entries
  | _ => []

def valuesNumbers : List Value → List Int
  | [] => []
  | v :: rest => v.numbers ++ valuesNumbers rest

def entriesNumbers : List (Value × Value) → List Int
  | [] => []
  | (key, value) :: rest => key.numbers ++ (value.numbers ++ entriesNumbers rest)

end

mutual

/-- The whole numbers in a form, at any depth. -/
def Form.numbers : Form → List Int
  | .record fields body orelse =>
    valuesNumbers (fields.map Prod.snd) ++ (body.numbers ++ orelse.numbers)
  | .other value => value.numbers

def Suite.numbers : Suite → List Int
  | .absent => []
  | .forms items => formsNumbers items
  | .other value => value.numbers

def formsNumbers : List Form → List Int
  | [] => []
  | form :: rest => form.numbers ++ formsNumbers rest

end

variable {α β : Type}

/-- A step that fails exactly if one of some whole numbers has too many digits. -/
structure WritesNumbers (x : Except Failure α) (numbers : List Int) : Prop where
  ok_iff : (∃ a, x = .ok a) ↔ ∀ n ∈ numbers, ∃ text, decimalText? n = some text
  failure : ∀ failure, x = .error failure → failure = .print .longNumber

namespace WritesNumbers

theorem ok (a : α) : WritesNumbers (.ok a) [] where
  ok_iff := by simp
  failure := nofun

theorem bind {x : Except Failure α} {f : α → Except Failure β} {numbers others : List Int}
    (hx : WritesNumbers x numbers) (hf : ∀ a, WritesNumbers (f a) others) :
    WritesNumbers (x >>= f) (numbers ++ others) := by
  cases x with
  | error failure =>
    refine ⟨?_, fun other h => hx.failure other (congrArg Except.error (Except.error.inj h))⟩
    have hlong := mt hx.ok_iff.mpr (by simp)
    simp only [error_bind, reduceCtorEq, exists_false, List.mem_append, false_iff]
    exact fun h => hlong fun n hn => h n (.inl hn)
  | ok a =>
    refine ⟨?_, (hf a).failure⟩
    have hshort := hx.ok_iff.mp ⟨a, rfl⟩
    simp only [ok_bind, (hf a).ok_iff, List.mem_append]
    exact ⟨fun h n hn => hn.elim (hshort n) (h n), fun h n hn => h n (.inr hn)⟩

theorem map {x : Except Failure α} {numbers : List Int} (hx : WritesNumbers x numbers)
    (f : α → β) : WritesNumbers (x >>= fun a => .ok (f a)) numbers := by
  simpa using hx.bind fun a => .ok (f a)

end WritesNumbers

theorem writeInt_writes (n : Int) : WritesNumbers (Value.writeInt n) [n] := by
  unfold Value.writeInt
  split
  · rename_i text htext
    exact ⟨by simp [htext], nofun⟩
  · rename_i hlong
    exact ⟨by simp [hlong], fun failure h => (Except.error.inj h).symm⟩

mutual

theorem write_writes (v : Value) : WritesNumbers v.write v.numbers := by
  match v with
  | .int n => exact writeInt_writes n
  | .list items => exact (writeAll_writes items).map _
  | .tuple items => exact (writeAll_writes items).map _
  | .dict entries => exact (writeEntries_writes entries).map _
  | .set [] => exact .ok _
  | .set (item :: items) =>
    exact (write_writes item).bind fun first => (writeAll_writes items).map _
  | .bool true => exact .ok _
  | .bool false => exact .ok _
  | .none => exact .ok _
  | .float _ => exact .ok _
  | .complex _ _ => exact .ok _
  | .str _ => exact .ok _
  | .bytes _ => exact .ok _
  | .ellipsis => exact .ok _
  | .object _ => exact .ok _

theorem writeAll_writes (values : List Value) :
    WritesNumbers (Value.writeAll values) (valuesNumbers values) := by
  match values with
  | [] => exact .ok _
  | v :: rest => exact (write_writes v).bind fun text => (writeAll_writes rest).map _

theorem writeEntries_writes (entries : List (Value × Value)) :
    WritesNumbers (Value.writeEntries entries) (entriesNumbers entries) := by
  match entries with
  | [] => exact .ok _
  | (key, value) :: rest =>
    exact (write_writes key).bind fun _ => (write_writes value).bind fun _ =>
      (writeEntries_writes rest).map _

end

theorem valuesLoggable_writes (fields : List (String × Value)) :
    WritesNumbers (valuesLoggable fields) (valuesNumbers (fields.map Prod.snd)) := by
  induction fields with
  | nil => exact .ok _
  | cons field rest ih =>
    exact ((write_writes field.2).map fun _ => ()).bind fun _ => ih

mutual

theorem Form.loggable_writes (form : Form) : WritesNumbers form.loggable form.numbers := by
  match form with
  | .record fields body orelse =>
    exact (valuesLoggable_writes fields).bind fun _ =>
      (body.loggable_writes).bind fun _ => orelse.loggable_writes
  | .other value => exact (write_writes value).map fun _ => ()

theorem Suite.loggable_writes (suite : Suite) : WritesNumbers suite.loggable suite.numbers := by
  match suite with
  | .absent => exact .ok _
  | .forms items => exact formsLoggable_writes items
  | .other value => exact (write_writes value).map fun _ => ()

theorem formsLoggable_writes (forms : List Form) :
    WritesNumbers (formsLoggable forms) (formsNumbers forms) := by
  match forms with
  | [] => exact .ok _
  | form :: rest => exact form.loggable_writes.bind fun _ => formsLoggable_writes rest

end

end Numbers

section Moments

/-- A moment of reading: a statement is looked at before its parts are read and again after. -/
inductive Moment where
  | enter (s : Stmt)
  | leave (s : Stmt)

mutual

/-- The moments of a statement and of those inside it. -/
def Stmt.moments : Stmt → List Moment
  | .forEach span target source body =>
    .enter (.forEach span target source body) ::
      (momentsOf body ++ [.leave (.forEach span target source body)])
  | .whileLoop span test body =>
    .enter (.whileLoop span test body) :: (momentsOf body ++ [.leave (.whileLoop span test body)])
  | .branch span test body orelse =>
    .enter (.branch span test body orelse) ::
      (momentsOf body ++ (momentsOf orelse ++ [.leave (.branch span test body orelse)]))
  | .define span name params body =>
    .enter (.define span name params body) ::
      (momentsOf body ++ [.leave (.define span name params body)])
  | s => [.enter s, .leave s]

/-- The moments in which a script is read. -/
def momentsOf : List Stmt → List Moment
  | [] => []
  | s :: rest => s.moments ++ momentsOf rest

end

theorem Stmt.moments_eq (s : Stmt) :
    s.moments = .enter s :: (momentsOf s.body ++ (momentsOf s.orelse ++ [.leave s])) := by
  cases s <;> simp [Stmt.moments, Stmt.body, Stmt.orelse, momentsOf]

/-- The expressions in the header of a statement. -/
def Stmt.heading : Stmt → List Expr
  | .forEach _ target source _ => [target, source]
  | .whileLoop _ test _ => [test]
  | .branch _ test _ _ => [test]
  | _ => []

/-- What is objected to at a moment. -/
inductive Moment.Objection : Moment → Refusal → Prop
  | complaint {s : Stmt} {refusal : Refusal} (h : s.Complaint refusal) :
      Objection (.enter s) refusal
  | asked {s : Stmt} {refusal : Refusal} (h : TextFails s.asked refusal) :
      Objection (.enter s) refusal
  | heading {s : Stmt} {refusal : Refusal} (h : TextFails s.heading refusal) :
      Objection (.leave s) refusal

/-- Reading stops at the first moment with an objection. -/
def StopsWith (stmts : List Stmt) (refusal : Refusal) : Prop :=
  ∃ before m after, momentsOf stmts = before ++ m :: after ∧
    (∀ k ∈ before, ∀ r, ¬k.Objection r) ∧ m.Objection refusal

/-- Why reading stops at a moment. -/
def Moment.refusal? (d : Dialect) : Moment → Option Refusal
  | .enter s => d.ownRefusal? s
  | .leave s => s.headRefusal?

theorem headRefusal?_iff {s : Stmt} {refusal : Refusal} :
    s.headRefusal? = some refusal ↔ TextFails s.heading refusal := by
  have hone (e : Expr) : refusal? e.text = some refusal ↔ TextFails [e] refusal := by
    rw [refusal?_eq_some, text_eq_error]
  cases s with
  | forEach span target source body =>
    have htarget : refusal? target.text = none ↔ ∀ r, ¬TextFails [target] r := by
      simp only [← text_eq_error, ← not_exists, exists_error_iff, Classical.not_not,
        refusal?_eq_none]
    rw [Stmt.headRefusal?, Option.or_eq_some_iff, htarget, hone, hone]
    exact textFails_append.symm
  | whileLoop span test body => exact hone test
  | branch span test body orelse => exact hone test
  | _ => simp [Stmt.headRefusal?, Stmt.heading]

theorem Moment.refusal?_iff {m : Moment} {refusal : Refusal} :
    m.refusal? Current.dialect = some refusal ↔ m.Objection refusal := by
  cases m with
  | enter s =>
    rw [Moment.refusal?, Current.ownRefusal?_iff]
    constructor
    · rintro (h | h)
      · exact .complaint h
      · exact .asked h
    · intro h
      cases h with
      | complaint h => exact .inl h
      | asked h => exact .inr h
  | leave s =>
    rw [Moment.refusal?, headRefusal?_iff]
    constructor
    · exact .heading
    · intro h
      cases h with
      | heading h => exact h

/-- Statements are refused at the first moment that gives a reason. -/
theorem Dialect.refusal?_statements (d : Dialect) (stmts : List Stmt) :
    HubScript.refusal? (d.statements stmts) = (momentsOf stmts).findSome? (Moment.refusal? d) := by
  induction stmts using Stmt.forest_induction with
  | nil => simp [momentsOf]
  | cons s rest ihbody ihorelse ihrest =>
    rw [refusal?_statements_cons, refusal?_statement, ihbody, ihorelse, ihrest, momentsOf,
      Stmt.moments_eq, List.cons_append, List.findSome?_cons]
    cases hown : d.ownRefusal? s with
    | some refusal => simp [Moment.refusal?, hown]
    | none =>
      have hleave : (Moment.leave s :: momentsOf rest).findSome? (Moment.refusal? d) =
          s.headRefusal?.or ((momentsOf rest).findSome? (Moment.refusal? d)) := by
        cases hhead : s.headRefusal? <;> simp [Moment.refusal?, hhead]
      simp [Moment.refusal?, hown, List.findSome?_append, Option.or_assoc, hleave]

theorem statements_eq_error_iff {stmts : List Stmt} {refusal : Refusal} :
    Current.dialect.statements stmts = .error refusal ↔ StopsWith stmts refusal := by
  have hquiet (k : Moment) :
      k.refusal? Current.dialect = none ↔ ∀ r, ¬k.Objection r := by
    simp only [Option.eq_none_iff_forall_ne_some, ne_eq, Moment.refusal?_iff]
  rw [← refusal?_eq_some, Dialect.refusal?_statements, List.findSome?_eq_some_iff]
  simp only [Moment.refusal?_iff, hquiet]
  constructor
  · rintro ⟨before, m, after, hsplit, hm, hbefore⟩
    exact ⟨before, m, after, hsplit, hbefore, hm⟩
  · rintro ⟨before, m, after, hsplit, hbefore, hm⟩
    exact ⟨before, m, after, hsplit, hm, hbefore⟩

end Moments

/-- A failure that is not reported: reading stops with it, or the instructions hold a whole number
with too many digits to be logged. -/
inductive Escapes (script : String) : Failure → Prop
  | reading {stmts : List Stmt} {failure : Failure} (read : readScript script = .ok stmts)
      (stops : StopsWith stmts (.failed failure)) : Escapes script failure
  | logging {stmts : List Stmt} {instrs : List Instruction} {n : Int}
      (read : readScript script = .ok stmts)
      (taken : Current.dialect.statements stmts = .ok instrs)
      (held : n ∈ formsNumbers (formsOf instrs)) (long : decimalText? n = none) :
      Escapes script (.print .longNumber)

/-- What is answered to a script. -/
inductive Answers (script : String) : ParseAnswer → Prop
  | accepted {stmts : List Stmt} {instrs : List Instruction}
      (read : readScript script = .ok stmts)
      (taken : Current.dialect.statements stmts = .ok instrs) : Answers script (.accepted instrs)
  | malformed {fault : Fault} (unread : readScript script = .error fault) :
      Answers script (.rejected (Trouble.lineMessage fault.line fault.cause.message))
  | refused {stmts : List Stmt} {refusal : Refusal} (read : readScript script = .ok stmts)
      (stops : StopsWith stmts refusal) :
      Answers script (.rejected (Trouble.lineMessage none refusal.message))

theorem name_of_negate {value : Literal} {failure : Failure}
    (h : (Value.ofLiteral value).negate = .error failure) :
    ∃ name ∈ ["NoneType", "str", "bytes", "ellipsis"], failure = .badUnary "-" name := by
  cases value with
  | bool | int | float | imaginary => cases h
  | none | text | bytes | ellipsis =>
    obtain rfl := Except.error.inj h
    exact ⟨_, by simp [Value.ofLiteral, Value.typeName], rfl⟩

theorem negate_of_complaint {s : Stmt} {failure : Failure} (h : s.Complaint (.failed failure)) :
    ∃ value : Literal, (Value.ofLiteral value).negate = .error failure := by
  generalize hrefusal : Refusal.failed failure = refusal at h
  cases h with
  | test =>
    unfold Stmt.testRefusal at hrefusal
    split at hrefusal <;> cases hrefusal
  | speed | pause => cases hrefusal
  | negative asked fails =>
    obtain rfl := Refusal.failed.inj hrefusal
    exact ⟨_, fails⟩

/-- Only a minus sign and texts fail without being reported. -/
theorem failure_of_escapes {script : String} {failure : Failure} (h : Escapes script failure) :
    (∃ name ∈ ["NoneType", "str", "bytes", "ellipsis"], failure = .badUnary "-" name) ∨
      ∃ fault, failure = .print fault := by
  have htext {asked : List Expr} (h : TextFails asked (.failed failure)) :
      ∃ fault, failure = .print fault := by
    obtain ⟨fault, -, hfault⟩ := h
    exact ⟨fault, Refusal.failed.inj hfault⟩
  cases h with
  | logging => exact .inr ⟨_, rfl⟩
  | reading read stops =>
    obtain ⟨before, m, after, -, -, hobjection⟩ := stops
    cases hobjection with
    | asked h => exact .inr (htext h)
    | heading h => exact .inr (htext h)
    | complaint h =>
      obtain ⟨value, hnegate⟩ := negate_of_complaint h
      exact .inl (name_of_negate hnegate)

theorem answerParse_of_read {script : String} {stmts : List Stmt} {instrs : List Instruction}
    (hread : readScript script = .ok stmts)
    (htaken : Current.dialect.statements stmts = .ok instrs) :
    answerParse Current.dialect script =
      formsLoggable (formsOf instrs) >>= fun _ => .ok (.accepted instrs) := by
  simp [answerParse, readInstructions, hread, htaken]

theorem answerParse_of_escapes {script : String} {failure : Failure} (h : Escapes script failure) :
    answerParse Current.dialect script = .error failure := by
  cases h with
  | reading read stops =>
    simp [answerParse, readInstructions, read, statements_eq_error_iff.mpr stops,
      Trouble.ofRefusal]
  | @logging stmts instrs n read taken held long =>
    have hlog := formsLoggable_writes (formsOf instrs)
    rw [answerParse_of_read read taken]
    cases hlogged : formsLoggable (formsOf instrs) with
    | error failure => rw [error_bind, hlog.failure failure hlogged]
    | ok done =>
      obtain ⟨text, hshort⟩ := hlog.ok_iff.mp ⟨done, hlogged⟩ n held
      rw [long] at hshort
      cases hshort

theorem answers_or_escapes (script : String) :
    (∃ answer, answerParse Current.dialect script = .ok answer ∧ Answers script answer) ∨
      ∃ failure, Escapes script failure := by
  cases hread : readScript script with
  | error fault =>
    exact .inl ⟨_, by simp [answerParse, readInstructions, hread], .malformed hread⟩
  | ok stmts =>
    cases htaken : Current.dialect.statements stmts with
    | error refusal =>
      have hstops := statements_eq_error_iff.mp htaken
      cases refusal with
      | failed failure => exact .inr ⟨failure, .reading hread hstops⟩
      | motorSpeed | waitTime | whileTest | branchTest =>
        exact .inl ⟨_, by simp [answerParse, readInstructions, hread, htaken, Trouble.ofRefusal],
          .refused hread hstops⟩
    | ok instrs =>
      by_cases hlong : ∃ n ∈ formsNumbers (formsOf instrs), decimalText? n = none
      · obtain ⟨n, hn, hnone⟩ := hlong
        exact .inr ⟨_, .logging hread htaken hn hnone⟩
      · have hshort : ∀ n ∈ formsNumbers (formsOf instrs), ∃ text, decimalText? n = some text :=
          fun n hn => Option.ne_none_iff_exists'.mp fun hnone => hlong ⟨n, hn, hnone⟩
        obtain ⟨done, hlogged⟩ := (formsLoggable_writes (formsOf instrs)).ok_iff.mpr hshort
        refine .inl ⟨_, ?_, .accepted hread htaken⟩
        rw [answerParse_of_read hread htaken, hlogged, ok_bind]

/-- The service answers a script unless a failure escapes, and a failure escapes from a script
exactly if reading it stops at a moment with this failure, or if it is read and a whole number of
its instructions has too many digits to be logged. The failures are those of a minus sign before a
constant that is no number, and of texts that cannot be written. -/
theorem parse_answers_iff (script : String) :
    ((∃ answer, answerParse Current.dialect script = .ok answer ∧ Answers script answer) ↔
        ∀ failure, ¬Escapes script failure) ∧
      ∀ failure, (answerParse Current.dialect script = .error failure ↔ Escapes script failure) ∧
        (Escapes script failure →
          (∃ name ∈ ["NoneType", "str", "bytes", "ellipsis"], failure = .badUnary "-" name) ∨
            ∃ fault, failure = .print fault) := by
  refine ⟨⟨?_, ?_⟩, fun failure => ⟨⟨?_, answerParse_of_escapes⟩, failure_of_escapes⟩⟩
  · rintro ⟨answer, hanswer, -⟩ failure hescapes
    rw [answerParse_of_escapes hescapes] at hanswer
    cases hanswer
  · intro hnone
    exact (answers_or_escapes script).resolve_right fun ⟨failure, h⟩ => hnone failure h
  · intro hfails
    rcases answers_or_escapes script with ⟨answer, hanswer, -⟩ | ⟨other, hescapes⟩
    · rw [hfails] at hanswer
      cases hanswer
    · rw [answerParse_of_escapes hescapes] at hfails
      exact Except.error.inj hfails ▸ hescapes

/-- A motor that is started at the negative of a text. -/
def reversedScript : String := "motor_a.start(-'fast')\n"

/-- The script is neither accepted nor rejected. -/
theorem unanswered_reversedScript :
    answerParse Current.dialect reversedScript = .error (.badUnary "-" "str") := by
  have hfails : failsBy (· == .badUnary "-" "str")
      (answerParse Current.dialect reversedScript) = true := by
    decide +kernel
  obtain ⟨failure, hfailure, heq⟩ := exists_of_failsBy hfails
  rw [hfailure, eq_of_beq heq]

end HubScript
