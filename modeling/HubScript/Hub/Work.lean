import HubScript.Hub.Settings
import HubScript.Script.Comment
import HubScript.Value.Failure

/-!
# Work at a bench

Programs are made at a workbench, which keeps the level at which lines are written and the comments
of a script. Work gives something or is set back, and in both cases it leaves the workbench as it is
at that moment. Four blanks make one step of indentation.
-/
namespace HubScript.Hub

structure Workbench where
  settings : Settings
  /-- How deep lines are written. -/
  level : Int
  /-- The comments of the script at hand. -/
  comments : CommentTable

/-- Why something cannot be done. -/
inductive Setback where
  | comments (fault : CommentFault)
  | failed (failure : Failure)
  deriving DecidableEq, Repr

/-- The blanks before a line of a level. A negative level has none. -/
def margin (level : Int) : String := String.ofList (List.replicate (4 * level.toNat) ' ')

/-- Something done at a workbench. -/
def Work (α : Type) := Workbench → Except Setback α × Workbench

namespace Work

variable {α : Type}

instance : Monad Work where
  pure a := fun bench => (.ok a, bench)
  bind x f := fun bench =>
    match x bench with
    | (.ok a, next) => f a next
    | (.error setback, next) => (.error setback, next)

/-- Looks something up at the workbench. -/
def ask (f : Workbench → α) : Work α := fun bench => (.ok (f bench), bench)

/-- Takes what has been found without the workbench. -/
def take (result : Except Failure α) : Work α := fun bench => (result.mapError .failed, bench)

/-- The blanks before a line at the level of the workbench. -/
def indent : Work String := ask fun bench => margin bench.level

def setLevel (level : Int) : Work Unit := fun bench => (.ok (), { bench with level })

/-- Goes one level deeper. -/
def enter : Work Unit := fun bench => (.ok (), { bench with level := bench.level + 1 })

/-- Comes back from one level deeper. -/
def leave : Work Unit := fun bench => (.ok (), { bench with level := bench.level - 1 })

/-- Finds the comments of a script. -/
def comments (script : String) : Work CommentTable :=
  fun bench => ((CommentTable.ofScript script).mapError .comments, bench)

/-- Keeps the comments of a script at hand. -/
def load (script : String) : Work Unit := do
  let comments ← comments script
  fun bench => (.ok (), { bench with comments })

end Work

end HubScript.Hub
