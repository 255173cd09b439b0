import HubScript.Proofs.InstructionRecord

/-!
# Why a step cannot be written

A step whose values are scalars and whose assigned operand is a text is written unless a whole
number in it has too many digits, or a pause is not a whole number of milliseconds.
-/
namespace HubScript

/-- Whether a value is one without others inside it, as literals are. -/
def Value.isScalar : Value → Bool
  | .list _ | .tuple _ | .dict _ | .set _ | .object _ => false
  | _ => true

def Operand.IsScalar : Operand → Prop
  | .known value => value.isScalar = true
  | .text _ => True

/-- The steps whose values are scalars and that assign texts only. -/
def Step.IsSimple : Step → Prop
  | .startMotor _ operand | .wait operand | .print operand | .giveBack operand => operand.IsScalar
  | .assign _ operand => ∃ expression, operand = .text expression
  | .call _ arguments => ∀ operand ∈ arguments, operand.IsScalar
  | _ => True

/-- The whole numbers that are written in decimal digits with a step. -/
inductive Step.Writes : Step → Int → Prop
  | speed {motor : String} {n : Int} : Writes (.startMotor motor (.known (.int n))) n
  | pause {v : Value} {n : Int} (h : v.thousandfold = .ok n) : Writes (.wait (.known v)) n
  | content {n : Int} : Writes (.print (.known (.int n))) n
  | result {n : Int} : Writes (.giveBack (.known (.int n))) n
  | argument {function : String} {arguments : List Operand} {n : Int}
      (h : Operand.known (.int n) ∈ arguments) : Writes (.call function arguments) n

/-- The step writes a whole number that has too many digits. -/
def Step.WritesLong (act : Step) : Prop := ∃ n, act.Writes n ∧ decimalText? n = none

namespace Value

theorem writeInt_eq_error {n : Int} {failure : Failure} (h : writeInt n = .error failure) :
    decimalText? n = Option.none ∧ failure = .print .longNumber := by
  rw [writeInt] at h
  split at h
  · cases h
  · rename_i hlong
    exact ⟨hlong, (Except.error.inj h).symm⟩

theorem write_eq_error {v : Value} {failure : Failure} (hscalar : v.isScalar = true)
    (h : v.write = .error failure) :
    ∃ n, v = .int n ∧ decimalText? n = Option.none ∧ failure = .print .longNumber := by
  cases v with
  | int n => exact ⟨n, rfl, writeInt_eq_error h⟩
  | bool b => cases b <;> cases h
  | none | float | complex | str | bytes | ellipsis => cases h
  | list | tuple | dict | set | object => cases hscalar

theorem display_eq_error {v : Value} {failure : Failure} (hscalar : v.isScalar = true)
    (h : v.display = .error failure) :
    ∃ n, v = .int n ∧ decimalText? n = Option.none ∧ failure = .print .longNumber := by
  cases v with
  | str s => cases h
  | _ => exact write_eq_error hscalar h

theorem readWhole_eq_error {digit? : Char → Option Nat} {blank : Char → Bool}
    {bad failure : Failure} {cs : List Char} (h : readWhole digit? blank bad cs = .error failure) :
    failure = bad ∨ ∃ count, failure = .longNumeral count := by
  have hchecks {a b c : Prop} [Decidable a] [Decidable b] [Decidable c] {count : Nat} {n : Int}
      (h : (if a then .error bad else if b then .error (.longNumeral count)
        else if c then .error bad else .ok n) = (.error failure : Except Failure Int)) :
      failure = bad ∨ ∃ count, failure = .longNumeral count := by
    split at h
    · exact .inl (Except.error.inj h).symm
    · split at h
      · exact .inr ⟨count, (Except.error.inj h).symm⟩
      · split at h
        · exact .inl (Except.error.inj h).symm
        · cases h
  exact hchecks h

end Value

/-- The failures of turning a value into a whole number. -/
def Failure.ofWhole : Failure → Bool
  | .notNumber _ | .badBinary .. | .badNumeral _ | .longNumeral _ | .infiniteInt | .nanInt => true
  | _ => false

theorem Value.thousandfold_eq_error {v : Value} {failure : Failure}
    (h : v.thousandfold = .error failure) : failure.ofWhole = true := by
  cases v with
  | bool | int => cases h
  | float x =>
    change wholeOfFloat _ = _ at h
    rw [wholeOfFloat] at h
    split at h
    · cases h
    · obtain rfl := Except.error.inj h
      split <;> rfl
  | str s =>
    rcases readWhole_eq_error h with rfl | ⟨count, rfl⟩ <;> rfl
  | bytes bs =>
    rcases readWhole_eq_error h with rfl | ⟨count, rfl⟩ <;> rfl
  | complex | list | tuple | none | ellipsis | dict | set | object =>
    obtain rfl := Except.error.inj h
    rfl

namespace Hub

variable {settings : Settings} {failure : Failure}

/-- What a step does does not depend on its lines. -/
theorem statements_append_info (fields : Fields) (info : Info) :
    statements settings (fields ++ info.fields) = statements settings fields := by
  have hlookup (name : String) (hname : name ∉ infoFields) :
      (fields ++ info.fields).lookup name = fields.lookup name :=
    lookup_append_info fields info hname
  have htype : Fields.type? (fields ++ info.fields) = Fields.type? fields := by
    rw [Fields.type?, Fields.type?, hlookup "type" (by decide)]
  simp only [statements, htype, startMotor, waitFor, printed, assigned, givenBack, called,
    Fields.expression, Fields.need, hlookup "motor" (by decide), hlookup "speed" (by decide),
    hlookup "speed_expr" (by decide), hlookup "seconds" (by decide),
    hlookup "seconds_expr" (by decide), hlookup "message" (by decide),
    hlookup "expression" (by decide), hlookup "variable" (by decide), hlookup "value" (by decide),
    hlookup "name" (by decide), hlookup "args" (by decide)]

theorem argument_known (v : Value) : argument (Operand.known v).argument = v.write := by
  simp [argument, Operand.argument, member, Value.equal]

theorem argument_text (expression : String) :
    argument (Operand.text expression).argument = .ok (toHub expression) := by
  simp [argument, Operand.argument, member, Value.equal, valueToHub]

theorem argument_eq_error {operand : Operand} (hscalar : operand.IsScalar)
    (h : argument operand.argument = .error failure) :
    ∃ n, operand = .known (.int n) ∧ decimalText? n = none ∧ failure = .print .longNumber := by
  cases operand with
  | known v =>
    rw [argument_known] at h
    obtain ⟨n, rfl, hlong⟩ := Value.write_eq_error hscalar h
    exact ⟨n, rfl, hlong⟩
  | text expression =>
    rw [argument_text] at h
    cases h

theorem startMotor_known (settings : Settings) (motor : String) (v : Value) :
    ∃ texts : String → List String, statements settings (Step.startMotor motor (.known v)).fields =
      v.display >>= fun speed => .ok (texts speed) :=
  ⟨_, rfl⟩

theorem startMotor_text (settings : Settings) (motor expression : String) :
    ∃ texts, statements settings (Step.startMotor motor (.text expression)).fields = .ok texts := by
  rcases settings with ⟨_ | _, _, _⟩ <;> exact ⟨_, rfl⟩

theorem assign_text (settings : Settings) (target expression : String) :
    ∃ texts, statements settings (Step.assign target (.text expression)).fields = .ok texts := by
  have htarget : Fields.need (Step.assign target (.text expression)).fields "variable" =
      .ok (.str target) := rfl
  have hvalue : Fields.expression (Step.assign target (.text expression)).fields "expression" =
      .ok (toHub expression) := rfl
  change ∃ texts, assigned _ = .ok texts
  rw [assigned, htarget, hvalue]
  simp only [ok_bind, Value.display]
  split <;> exact ⟨_, rfl⟩

/-- A simple step fails for a pause that is no whole number of milliseconds or for a whole number
with too many digits. -/
theorem statements_eq_error {act : Step} (hsimple : act.IsSimple)
    (h : statements settings act.fields = .error failure) :
    (∃ v, act = .wait (.known v) ∧ v.thousandfold = .error failure) ∨
      (failure = .print .longNumber ∧ act.WritesLong) := by
  cases act with
  | startMotor motor speed =>
    cases speed with
    | text expression =>
      obtain ⟨texts, hok⟩ := startMotor_text settings motor expression
      rw [hok] at h
      cases h
    | known v =>
      obtain ⟨texts, hok⟩ := startMotor_known settings motor v
      rw [hok] at h
      rcases bind_eq_error.mp h with h | ⟨text, -, h⟩
      · obtain ⟨n, rfl, hlong, rfl⟩ := Value.display_eq_error hsimple h
        exact .inr ⟨rfl, n, .speed, hlong⟩
      · cases h
  | wait seconds =>
    cases seconds with
    | text expression => cases h
    | known v =>
      rcases bind_eq_error.mp h with h | ⟨n, hn, h⟩
      · exact .inl ⟨v, rfl, h⟩
      · rcases bind_eq_error.mp h with h | ⟨text, -, h⟩
        · obtain ⟨hlong, rfl⟩ := Value.writeInt_eq_error h
          exact .inr ⟨rfl, n, .pause hn, hlong⟩
        · cases h
  | print content =>
    cases content with
    | text expression => cases h
    | known v =>
      rcases bind_eq_error.mp h with h | ⟨text, -, h⟩
      · obtain ⟨n, rfl, hlong, rfl⟩ := Value.write_eq_error hsimple h
        exact .inr ⟨rfl, n, .content, hlong⟩
      · cases h
  | assign target value =>
    obtain ⟨expression, rfl⟩ := hsimple
    obtain ⟨texts, hok⟩ := assign_text settings target expression
    rw [hok] at h
    cases h
  | giveBack value =>
    cases value with
    | text expression => cases h
    | known v =>
      have hwrite : v.write = .error failure := by
        cases v with
        | none => cases h
        | _ =>
          rcases bind_eq_error.mp h with h | ⟨text, -, h⟩
          · exact h
          · cases h
      obtain ⟨n, rfl, hlong, rfl⟩ := Value.write_eq_error hsimple hwrite
      exact .inr ⟨rfl, n, .result, hlong⟩
  | call function arguments =>
    rcases bind_eq_error.mp h with h | ⟨name, hname, h⟩
    · cases h
    · obtain rfl := Except.ok.inj hname
      rcases bind_eq_error.mp h with h | ⟨texts, -, h⟩
      · obtain ⟨item, hitem, hfails⟩ := mapM_eq_error h
        obtain ⟨operand, hoperand, rfl⟩ := List.mem_map.mp hitem
        obtain ⟨n, rfl, hlong, rfl⟩ := argument_eq_error (hsimple operand hoperand) hfails
        exact .inr ⟨rfl, n, .argument hoperand, hlong⟩
      · cases h
  | comment | stopMotor | irDirection | irStrength | leaveLoop => cases h

end Hub

end HubScript
