import HubScript.Reader.Evaluation
import HubScript.Reader.Legacy

/-!
# The folding dialect

Constant expressions are computed when the script is read, and instructions hold their values.
Nothing is checked but speeds and times, and neither comments nor lines are kept. An expression
whose value is nothing is taken for one that is not constant.
-/
namespace HubScript.Folding

/-- The value of a constant expression, if it is something. -/
def folded? (e : Expr) : Option Value :=
  match e.constant? with
  | some .none => none
  | result => result

/-- The value of a constant expression, or the text of another one. -/
def operand (e : Expr) : Reading Operand :=
  match folded? e with
  | some v => return .known v
  | none => do return .text (← e.text)

/-- A number, or an expression that can be one. -/
def numeric (refusal : Refusal) (e : Expr) : Reading Operand :=
  match folded? e with
  | some v => return .known v
  | none => do
    if e.isNumeric then return .text (← e.text)
    throw refusal

/-- A printed constant is kept as the text it shows. -/
def content (e : Expr) : Reading Operand :=
  match folded? e with
  | some v =>
    match v.display with
    | .ok text => return .known (.str text)
    | .error failure => throw (.failed failure)
  | none => do return .text (← e.text)

def dialect : Dialect where
  motor? := Legacy.motor?
  speed := numeric .motorSpeed
  seconds := numeric .waitTime
  content := content
  argument := operand
  assigned := operand
  returned := operand
  checkWhile _ := return ()
  checkBranch _ := return ()
  keepsComments := false
  keepsLines := false

end HubScript.Folding
