import HubScript.Proofs.Outline
import HubScript.Proofs.ParseAnswers

/-!
# Replies of the two endpoints

A script can be sent to be read, or to be read and made into a program. Both ways go through the
same steps up to the instructions, but they report what goes wrong differently, and the second way
has more that can go wrong. The answers are paired once; that the endpoints agree is read off the
pairs.
-/
namespace HubScript

/-- What is sent back for a script. -/
structure Reply where
  valid : Bool
  error : Option String
  instructions : Option (List Instruction)
  program : Option String

def ParseAnswer.reply : ParseAnswer → Reply
  | .accepted instrs => ⟨true, none, some instrs, none⟩
  | .rejected error => ⟨false, some error, none, none⟩

def GenerateAnswer.reply : GenerateAnswer → Reply
  | .accepted instrs program => ⟨true, none, some instrs, some program⟩
  | .rejected error => ⟨false, some error, none, none⟩

namespace Reply

def textOrNone : Option String → Value
  | some text => .str text
  | none => .none

/-- Checks that a reply can be logged. -/
def loggable (reply : Reply) : Except Failure Unit := do
  valuesLoggable [("valid", .bool reply.valid), ("error", textOrNone reply.error),
    ("spike_code", textOrNone reply.program)]
  formsLoggable (formsOf (reply.instructions.getD []))

/-- A reply to a request for a program: it can be sent, and it holds an error or a result, never
both and never parts of either. -/
structure IsProper (reply : Reply) : Prop where
  logged : reply.loggable = .ok ()
  refusal : reply.valid = false →
    reply.error.isSome ∧ reply.instructions = none ∧ reply.program = none
  success : reply.valid = true →
    reply.error = none ∧ reply.instructions.isSome ∧ reply.program.isSome

/-- Texts and truth values can always be logged. -/
theorem loggable_eq (reply : Reply) :
    reply.loggable = formsLoggable (formsOf (reply.instructions.getD [])) := by
  obtain ⟨valid, error, instructions, program⟩ := reply
  cases valid <;> cases error <;> cases program <;> rfl

end Reply

/-- How the two answers to a script can go together: what keeps it from being read, what keeps its
program from being made, and what keeps its instructions from being logged. -/
inductive Paired (script : String) : Except Failure ParseAnswer → GenerateAnswer → Prop
  | refused (error : String) : Paired script (.ok (.rejected error)) (.rejected error)
  | unread (failure : Failure) : Paired script (.error failure) (.rejected failure.message)
  | hindered {instrs : List Instruction} {setback : Hub.Setback}
      (failed : Hub.generate .standard (formsOf instrs) script = .error setback) :
      Paired script (formsLoggable (formsOf instrs) >>= fun _ => .ok (.accepted instrs))
        (.rejected (setbackMessage setback))
  | unlogged {instrs : List Instruction} {failure : Failure}
      (unlogged : formsLoggable (formsOf instrs) = .error failure) :
      Paired script (.error failure) (.rejected failure.message)
  | made {instrs : List Instruction} {program : String}
      (made : Hub.generate .standard (formsOf instrs) script = .ok program)
      (logged : formsLoggable (formsOf instrs) = .ok ()) :
      Paired script (.ok (.accepted instrs)) (.accepted instrs program)

theorem answers_paired (script : String) :
    Paired script (answerParse Current.dialect script) (answerGenerate script) := by
  unfold answerParse answerGenerate
  cases readInstructions Current.dialect script with
  | error trouble =>
    cases trouble with
    | fault fault => exact .refused _
    | refused refusal => exact .refused _
    | failed failure => exact .unread failure
  | ok instrs =>
    cases hmade : Hub.generate .standard (formsOf instrs) script with
    | error setback => simpa [hmade] using Paired.hindered hmade
    | ok program =>
      cases hlogged : formsLoggable (formsOf instrs) with
      | error failure => simpa [hmade, hlogged] using Paired.unlogged hlogged
      | ok done => simpa [hmade, hlogged] using Paired.made hmade hlogged

namespace Paired

variable {script : String} {parsed : Except Failure ParseAnswer} {generated : GenerateAnswer}

theorem rejected (h : Paired script parsed generated) {error : String}
    (hparsed : parsed = .ok (.rejected error)) : generated = .rejected error := by
  cases h with
  | refused => rw [ParseAnswer.rejected.inj (Except.ok.inj hparsed)]
  | hindered failed =>
    obtain ⟨-, -, hanswer⟩ := bind_eq_ok.mp hparsed
    cases hanswer
  | unread | unlogged | made => cases hparsed

theorem accepted (h : Paired script parsed generated) {instrs : List Instruction} {program : String}
    (hgenerated : generated = .accepted instrs program) :
    parsed = .ok (.accepted instrs) ∧
      Hub.generate .standard (formsOf instrs) script = .ok program := by
  cases h with
  | made made logged =>
    cases hgenerated
    exact ⟨rfl, made⟩
  | refused | unread | hindered | unlogged => cases hgenerated

theorem of_accepted (h : Paired script parsed generated) {instrs : List Instruction}
    {program : String} (hparsed : parsed = .ok (.accepted instrs))
    (hmade : Hub.generate .standard (formsOf instrs) script = .ok program) :
    generated = .accepted instrs program := by
  cases h with
  | made made logged =>
    cases hparsed
    rw [Except.ok.inj (made.symm.trans hmade)]
  | hindered failed =>
    obtain ⟨-, -, hanswer⟩ := bind_eq_ok.mp hparsed
    cases hanswer
    rw [hmade] at failed
    cases failed
  | refused | unread | unlogged => cases hparsed

/-- Refusals are texts, and instructions are sent only after they have been logged. -/
theorem isProper (h : Paired script parsed generated) : generated.reply.IsProper := by
  cases h with
  | made made logged =>
    exact ⟨by rw [Reply.loggable_eq]; exact logged, nofun, fun _ => ⟨rfl, rfl, rfl⟩⟩
  | refused | unread | hindered | unlogged =>
    exact ⟨by rw [Reply.loggable_eq]; rfl, fun _ => ⟨rfl, rfl, rfl⟩, nofun⟩

end Paired

/-- The endpoints agree on every script. A script that is rejected when it is read is rejected with
the same error when a program is asked for. A program is answered exactly if the script is answered
with the same instructions and the program can be made from them. The reply to a request for a
program can always be sent; it holds an error and nothing else, or instructions and a program. -/
theorem replies_agree (script : String) :
    (∀ error, answerParse Current.dialect script = .ok (.rejected error) →
        answerGenerate script = .rejected error) ∧
      (∀ instrs program, answerGenerate script = .accepted instrs program ↔
        answerParse Current.dialect script = .ok (.accepted instrs) ∧
          Hub.generate .standard (formsOf instrs) script = .ok program) ∧
      (answerGenerate script).reply.IsProper :=
  have hpaired := answers_paired script
  ⟨fun _ => hpaired.rejected,
    fun _ _ => ⟨hpaired.accepted, fun h => hpaired.of_accepted h.1 h.2⟩,
    hpaired.isProper⟩

/-- A pause that is no number. -/
def hastyScript : String := "wait(x > 1)\n"

/-- A pause of two seconds. -/
def calmScript : String := "wait(2)\n"

/-- One script is rejected by both endpoints and the other one is accepted by both. -/
theorem replies_agree_hastyScript :
    (∃ error, answerParse Current.dialect hastyScript = .ok (.rejected error) ∧
      answerGenerate hastyScript = .rejected error ∧
      (answerGenerate hastyScript).reply.IsProper) ∧
    ∃ instrs program, answerGenerate calmScript = .accepted instrs program ∧
      answerParse Current.dialect calmScript = .ok (.accepted instrs) ∧
      Hub.generate .standard (formsOf instrs) calmScript = .ok program ∧
      (answerGenerate calmScript).reply.IsProper := by
  have hhasty : (answerParse Current.dialect hastyScript).toOption.any (!·.reply.valid) = true := by
    decide +kernel
  have hcalm : (answerGenerate calmScript).any (fun instrs _ => instrs.length == 1) = true := by
    decide +kernel
  obtain ⟨answer, hanswer, hvalid⟩ := exists_of_any hhasty
  obtain ⟨hrejected, -, hproper⟩ := replies_agree hastyScript
  obtain ⟨instrs, program, haccepted, -⟩ := accepted_of_any hcalm
  obtain ⟨-, hiff, hcalmProper⟩ := replies_agree calmScript
  obtain ⟨hparsed, hmade⟩ := (hiff instrs program).mp haccepted
  refine ⟨?_, instrs, program, haccepted, hparsed, hmade, hcalmProper⟩
  cases answer with
  | accepted instrs => cases hvalid
  | rejected error => exact ⟨error, hanswer, hrejected error hanswer, hproper⟩

end HubScript
