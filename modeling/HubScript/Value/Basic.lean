import HubScript.Script.Syntax

/-!
# Values

The values that a constant expression can have and that the fields of an instruction hold. They
carry their kind with them, because scripts are not typed.
-/
namespace HubScript

inductive Value where
  | none
  | bool (value : Bool)
  | int (value : Int)
  | float (value : Binary64)
  | complex (real imag : Binary64)
  | str (value : String)
  | bytes (value : List UInt8)
  | ellipsis
  | list (items : List Value)
  | tuple (items : List Value)
  | dict (entries : List (Value × Value))
  | set (items : List Value)
  /-- A value without contents of its own, such as a function, by the name of its type. -/
  | object (typeName : String)

namespace Value

instance : Inhabited Value := ⟨.none⟩

/-- The name of a value's type, as messages give it. -/
def typeName : Value → String
  | .none => "NoneType"
  | .bool _ => "bool"
  | .int _ => "int"
  | .float _ => "float"
  | .complex _ _ => "complex"
  | .str _ => "str"
  | .bytes _ => "bytes"
  | .ellipsis => "ellipsis"
  | .list _ => "list"
  | .tuple _ => "tuple"
  | .dict _ => "dict"
  | .set _ => "set"
  | .object name => name

/-- The value of a constant in a script. -/
def ofLiteral : Literal → Value
  | .none => .none
  | .bool b => .bool b
  | .int n => .int n
  | .float x => .float x
  | .imaginary x => .complex (Binary64.zero false) x
  | .text s _ => .str s
  | .bytes bs => .bytes bs
  | .ellipsis => .ellipsis

def boolInt (b : Bool) : Int := if b then 1 else 0

/-- A truth value counts as the number zero or one. -/
def asInt? : Value → Option Int
  | .bool b => some (boolInt b)
  | .int n => some n
  | _ => Option.none

/-- Whether a value counts as true. -/
def truth : Value → Bool
  | .none => false
  | .bool b => b
  | .int n => n != 0
  | .float x => !x.isZero
  | .complex re im => !(re.isZero && im.isZero)
  | .str s => !s.isEmpty
  | .bytes bs => !bs.isEmpty
  | .ellipsis => true
  | .list items => !items.isEmpty
  | .tuple items => !items.isEmpty
  | .dict entries => !entries.isEmpty
  | .set items => !items.isEmpty
  | .object _ => true

/-- The items of a value that can be walked over. -/
def items? : Value → Option (List Value)
  | .str s => some (s.toList.map fun c => .str c.toString)
  | .bytes bs => some (bs.map fun b => .int b.toNat)
  | .list items => some items
  | .tuple items => some items
  | .dict entries => some (entries.map Prod.fst)
  | .set items => some items
  | _ => Option.none

end Value

end HubScript
