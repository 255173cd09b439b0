import HubScript.Hub.Program

/-!
# The workbench

A workbench makes programs one after the other, and its parts can be tried one by one. What a task
leaves behind is there for the next one: the comments of the last script, the level at which lines
are written, and after a failure a level as deep as the instruction that failed.
-/
namespace HubScript.Hub

/-- What one can ask of a workbench. -/
inductive Task where
  | program (instructions : List Form) (script : String)
  | comments (script : String)
  /-- Keeps the comments of a script for the tasks that follow. -/
  | load (script : String)
  | setLevel (level : Int)
  | lines (instruction : Form)
  /-- A header with the instructions of one of the fields below it. -/
  | block (header : String) (instruction : Form) (field : String)
  | commentsBetween (start stop : Int) (indentation : String)
  | child (instruction : Form)
  | phrase (expression : Value)
  | motors (instructions : List Form)
  | awaits (instructions : List Form)
  | uses (instructions : List Form) (sensor : String)

inductive Outcome where
  | text (text : String)
  | table (table : CommentTable)
  | done
  | lines (lines : List String)
  | child (lines : List String) (next : Int)
  | values (values : List Value)
  | truth (value : Bool)

/-- Lines with the line that follows them in the script; one that is no whole number is given as a
value after the list of the lines. -/
def Outcome.followed (lines : List String) : Value → Outcome
  | .int next => .child lines next
  | next => .values [.list (lines.map Value.str), next]

namespace Workbench

def new (settings : Settings) : Workbench := ⟨settings, 0, .empty⟩

/-- A field as a suite. -/
def suiteOf (form : Form) (name : String) : Suite :=
  match form with
  | .other _ => .absent
  | .record fields body orelse =>
    if name == "body" then body
    else if name == "orelse" then orelse
    else ((fields.lookup name).map Suite.ofValue).getD .absent

/-- What a task asks to be done. -/
def work : Task → Work Outcome
  | .program forms script => do return .text (← writeProgram forms script)
  | .comments script => do return .table (← Work.comments script)
  | .load script => do
    Work.load script
    return .done
  | .setLevel level => do
    Work.setLevel level
    return .done
  | .lines form => do return .lines (← writeForm form)
  | .block header form field => do
    return .lines (← writeBlock header form fun inner start =>
      writeSuite inner start (suiteOf form field))
  | .commentsBetween start stop indentation => do
    return .lines (← writeComments indentation (.int start) (.int stop))
  | .child form => do
    let (lines, next) ← writeChild form
    return .followed lines next
  | .phrase expression => do return .text (← Work.take (valueToHub expression))
  | .motors forms => do
    let motors ← Work.take (usedMotors forms)
    return .values (← Work.take (Value.sort motors))
  | .awaits forms => do return .truth (← Work.take (hasAwait forms))
  | .uses forms sensor => do return .truth (← Work.take (usesSensor sensor forms))

/-- What comes of a task, and the workbench after it. -/
abbrev Attempt := Except Setback Outcome × Workbench

def run (bench : Workbench) (task : Task) : Attempt := work task bench

/-- Runs tasks one after the other; a failure does not end the row. -/
def runAll (bench : Workbench) : List Task → List Attempt
  | [] => []
  | task :: rest =>
    let attempt := bench.run task
    attempt :: runAll attempt.2 rest

end Workbench

/-- A program made on a new workbench. -/
def generate (settings : Settings) (forms : List Form) (script : String) : Except Setback String :=
  (writeProgram forms script (Workbench.new settings)).1

end HubScript.Hub
