import HubScript.Script.Printer

/-!
# Failures

Why an operation on values or on the fields of an instruction fails. The wording of each cause
stands in `Failure.message`.
-/
namespace HubScript

inductive FailureKind where
  | key
  | member
  | type
  | value
  | overflow
  deriving DecidableEq, Repr

inductive Failure where
  /-- A field is missing; the key is given as it is written. -/
  | missingKey (key : String)
  | noAttribute (typeName member : String)
  | badUnary (op typeName : String)
  | badBinary (op left right : String)
  | notIterable (typeName : String)
  | notIndexable (typeName : String)
  | textIndex (typeName : String)
  | sequenceIndex (sequence typeName : String)
  | unhashable (typeName : String)
  | cannotJoin
  | joinItem (position : Nat) (typeName : String)
  | notNumber (typeName : String)
  /-- A text is no numeral; it is given in quotes. -/
  | badNumeral (quoted : String)
  | longNumeral (digits : Nat)
  | infiniteInt
  | nanInt
  | bytesReplace (typeName : String)
  | notOrdered (op left right : String)
  /-- A sequence cannot be followed by a number. -/
  | notJoined (typeName : String)
  | bytesJoined
  | notWhole (typeName : String)
  | print (fault : PrintFault)
  deriving DecidableEq, Repr

namespace Failure

def kind : Failure → FailureKind
  | .missingKey _ => .key
  | .noAttribute .. => .member
  | .badNumeral _ | .longNumeral _ | .nanInt | .print _ => .value
  | .infiniteInt => .overflow
  | _ => .type

def message : Failure → String
  | .missingKey key => key
  | .noAttribute typeName member =>
    s!"'{typeName}' object has no attribute '{member}'"
  | .badUnary op typeName => s!"bad operand type for unary {op}: '{typeName}'"
  | .badBinary op left right => s!"unsupported operand type(s) for {op}: '{left}' and '{right}'"
  | .notIterable typeName => s!"'{typeName}' object is not iterable"
  | .notIndexable typeName => s!"'{typeName}' object is not subscriptable"
  | .textIndex typeName => s!"string indices must be integers, not '{typeName}'"
  | .sequenceIndex sequence typeName =>
    s!"{sequence} indices must be integers or slices, not {typeName}"
  | .unhashable typeName => s!"unhashable type: '{typeName}'"
  | .cannotJoin => "can only join an iterable"
  | .joinItem position typeName =>
    s!"sequence item {position}: expected str instance, {typeName} found"
  | .notNumber typeName =>
    "int() argument must be a string, a bytes-like object or a real number, not " ++
      s!"'{typeName}'"
  | .badNumeral quoted => s!"invalid literal for int() with base 10: {quoted}"
  | .longNumeral digits =>
    s!"Exceeds the limit ({digitLimit} digits) for integer string conversion: " ++
      s!"value has {digits} digits; use sys.set_int_max_str_digits() to increase the limit"
  | .infiniteInt => "cannot convert float infinity to integer"
  | .nanInt => "cannot convert float NaN to integer"
  | .bytesReplace typeName => s!"a bytes-like object is required, not '{typeName}'"
  | .notOrdered op left right =>
    s!"'{op}' not supported between instances of '{left}' and '{right}'"
  | .notJoined typeName => s!"can only concatenate {typeName} (not \"int\") to {typeName}"
  | .bytesJoined => "can't concat int to bytes"
  | .notWhole typeName => s!"'{typeName}' object cannot be interpreted as an integer"
  | .print fault => fault.message

end Failure

end HubScript
