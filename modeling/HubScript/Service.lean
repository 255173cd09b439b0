import HubScript.Hub.Workbench
import HubScript.Reader.Legacy
import HubScript.Script.Grammar.Reading

/-!
# The service

What is answered to a script: its instructions, or the text of the error that keeps it from having
any. Every answer is logged in full, and a number with too many digits cannot be logged; such a
script has no answer but a failure.

Two limits of the machine are left out, those of its stack and of its memory: a chain of operators
of any length is read, checked and written out.
-/
namespace HubScript

/-- What can go wrong with a script. -/
inductive Trouble where
  /-- The script is not well formed. -/
  | fault (fault : Fault)
  /-- The script is not accepted. -/
  | refused (refusal : Refusal)
  | failed (failure : Failure)
  deriving DecidableEq, Repr

namespace Trouble

def ofRefusal : Refusal → Trouble
  | .failed failure => .failed failure
  | refusal => .refused refusal

def message : Trouble → String
  | .fault f => f.cause.message
  | .refused r => r.message
  | .failed f => f.message

/-- The message with the line it belongs to. -/
def lineMessage (line : Option Nat) (message : String) : String :=
  match line with
  | some line => s!"Line {line}: {message}"
  | none => s!"Line None: {message}"

end Trouble

/-- Checks that values can be logged. -/
def valuesLoggable : List (String × Value) → Except Failure Unit
  | [] => .ok ()
  | (_, value) :: rest => do
    discard value.write
    valuesLoggable rest

mutual

/-- Checks that a form can be logged. -/
def Form.loggable : Form → Except Failure Unit
  | .record fields body orelse => do
    valuesLoggable fields
    body.loggable
    orelse.loggable
  | .other value => do discard value.write

def Suite.loggable : Suite → Except Failure Unit
  | .absent => .ok ()
  | .forms items => formsLoggable items
  | .other value => do discard value.write

def formsLoggable : List Form → Except Failure Unit
  | [] => .ok ()
  | form :: rest => do
    form.loggable
    formsLoggable rest

end

/-- The instructions of a script in a dialect. -/
def readInstructions (dialect : Dialect) (script : String) : Except Trouble (List Instruction) :=
  match readScript script with
  | .error fault => .error (.fault fault)
  | .ok stmts =>
    match dialect.statements stmts with
    | .ok instructions => .ok instructions
    | .error refusal => .error (.ofRefusal refusal)

/-- The answer to a script: its instructions, or an error. -/
inductive ParseAnswer where
  | accepted (instructions : List Instruction)
  | rejected (error : String)

/-- Answers a script with its instructions. -/
def answerParse (dialect : Dialect) (script : String) : Except Failure ParseAnswer :=
  match readInstructions dialect script with
  | .ok instructions => do
    formsLoggable (formsOf instructions)
    return .accepted instructions
  | .error (.fault f) => return .rejected (Trouble.lineMessage f.line f.cause.message)
  | .error (.refused refusal) => return .rejected (Trouble.lineMessage none refusal.message)
  | .error (.failed failure) => throw failure

/-- The answer to a script: its instructions with a program for the hub, or an error. -/
inductive GenerateAnswer where
  | accepted (instructions : List Instruction) (program : String)
  | rejected (error : String)

/-- The text of what keeps a program from being made. Only an error of layout has a line. -/
def setbackMessage : Hub.Setback → String
  | .comments (.unindent line) =>
    Trouble.lineMessage (some line) (CommentFault.unindent line).message
  | .comments fault => fault.message
  | .failed failure => failure.message

/-- Answers a script with a program for the hub. Every failure is reported as an error. -/
def answerGenerate (script : String) : GenerateAnswer :=
  match readInstructions Current.dialect script with
  | .error (.fault f) => .rejected (Trouble.lineMessage f.line f.cause.message)
  | .error (.refused refusal) => .rejected (Trouble.lineMessage none refusal.message)
  | .error (.failed failure) => .rejected failure.message
  | .ok instructions =>
    let forms := formsOf instructions
    match Hub.generate .standard forms script with
    | .error setback => .rejected (setbackMessage setback)
    | .ok program =>
      match formsLoggable forms with
      | .error failure => .rejected failure.message
      | .ok () => .accepted instructions program

/-- What the service offers, by path. -/
def endpoints : List (String × String) :=
  [("/parse", "Parse code and return instructions"),
    ("/generate_spike", "Parse code and generate Spike Prime equivalent")]

end HubScript
