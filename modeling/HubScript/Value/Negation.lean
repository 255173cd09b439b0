import HubScript.Value.Basic
import HubScript.Value.Failure

/-!
# Negation

A number has a negative; a truth value counts as a number. Nothing else can be negated.
-/
namespace HubScript.Value

def negate : Value → Except Failure Value
  | .bool b => .ok (.int (-boolInt b))
  | .int n => .ok (.int (-n))
  | .float x => .ok (.float x.neg)
  | .complex re im => .ok (.complex re.neg im.neg)
  | v => .error (.badUnary "-" v.typeName)

end HubScript.Value
