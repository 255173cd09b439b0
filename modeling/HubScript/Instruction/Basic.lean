import HubScript.Value.Basic

/-!
# Instructions

What a robot is told to do. Instructions form a forest: loops, branches and functions hold further
instructions. Where an operand is not known when the script is read, its text is kept instead.
-/
namespace HubScript

/-- An operand: a value that is known, or the text of an expression. -/
inductive Operand where
  | known (value : Value)
  | text (expression : String)

/-- An instruction without others inside it. -/
inductive Step where
  | comment (text : String)
  | startMotor (motor : String) (speed : Operand)
  | stopMotor (motor : String)
  | irDirection
  | irStrength
  | wait (seconds : Operand)
  | print (content : Operand)
  | assign (target : String) (value : Operand)
  | leaveLoop
  | giveBack (value : Operand)
  | call (function : String) (arguments : List Operand)

/-- The opening of an instruction with a body. -/
inductive Head where
  | forEach (target source : String)
  | whileLoop (condition : String)
  | define (name : String) (params : List String)

/-- What comes with every instruction: whether it is awaited, and its lines where they are kept. -/
structure Info where
  awaited : Bool
  span : Option Span
  deriving DecidableEq, Repr

inductive Instruction where
  | step (act : Step) (info : Info)
  | block (head : Head) (body : List Instruction) (info : Info)
  | branch (condition : String) (body orelse : List Instruction) (info : Info)

namespace Instruction

def info : Instruction → Info
  | .step _ info => info
  | .block _ _ info => info
  | .branch _ _ _ info => info

end Instruction

end HubScript
