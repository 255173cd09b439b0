import HubScript.Value.Template

/-!
# Operators on values

Each operator is tried on the kinds of values it is for. Whatever it cannot do has no result.
-/
namespace HubScript.Value

/-- An operation on sets. -/
def setOp (op : List Value → List Value → List Value) : Value → Value → Option Value
  | .set xs, .set ys => some (setOf (op xs ys))
  | _, _ => Option.none

/-- The members of exactly one of two sets. -/
def symmetricDifference (xs ys : List Value) : List Value := difference ys xs ++ difference xs ys

def remainder : Value → Value → Option Value
  | .str template, v => fillText template v
  | .bytes template, v => fillBytes template v
  | v, w => modNumbers v w

def eitherOf : Value → Value → Option Value
  | .dict xs, .dict ys => some (.dict (merge xs ys))
  | .set xs, .set ys => setOp union (.set xs) (.set ys)
  | v, w => bitwise bitOr Bool.or v w

def binary (op : BinaryOp) (v w : Value) : Option Value :=
  match op with
  | .add => (addNumbers v w).or (concat v w)
  | .sub => (subNumbers v w).or (setOp difference v w)
  | .mul => (mulNumbers v w).or (repetition v w)
  | .matMul => Option.none
  | .div => divNumbers v w
  | .mod => remainder v w
  | .floorDiv => floorDivNumbers v w
  | .pow => powNumbers v w
  | .shiftLeft => intOp shiftLeft v w
  | .shiftRight => intOp shiftRight v w
  | .bitOr => eitherOf v w
  | .bitXor => (bitwise bitXor Bool.xor v w).or (setOp symmetricDifference v w)
  | .bitAnd => (bitwise bitAnd Bool.and v w).or (setOp intersection v w)

mutual

/-- Whether two values could not be told apart at all. -/
def identical : Value → Value → Bool
  | .none, .none => true
  | .ellipsis, .ellipsis => true
  | .bool a, .bool b => a == b
  | .int m, .int n => m == n
  | .float x, .float y => x == y && !x.isNan
  | .complex a b, .complex c d => a == c && b == d && !a.isNan && !b.isNan
  | .str s, .str t => s == t
  | .bytes bs, .bytes cs => bs == cs
  | .tuple xs, .tuple ys => identicalAll xs ys
  | _, _ => false

def identicalAll : List Value → List Value → Bool
  | [], [] => true
  | v :: vs, w :: ws => identical v w && identicalAll vs ws
  | _, _ => false

end

/-- Whether a value exists only once, however it comes about. -/
def isShared : Value → Bool
  | .none | .ellipsis | .bool _ => true
  | .int n => -5 ≤ n && n ≤ 256
  | .str s => s.toList.length ≤ 1
  | .tuple items => items.isEmpty
  | _ => false

/-- Whether two values are one and the same. Equal constants are. -/
def same (constants : Bool) (v w : Value) : Bool :=
  identical v w && (constants || v.isShared)

/-- A test of two values; `constants` says that both are constants of the script. -/
def comparison (constants : Bool) (op : Comparison) (v w : Value) : Option Bool :=
  match op with
  | .eq => some (v.equal w)
  | .notEq => some !(v.equal w)
  | .lt => (sizeHolds .less v w).toOption
  | .ltEq => (sizeHolds .atMost v w).toOption
  | .gt => (sizeHolds .greater v w).toOption
  | .gtEq => (sizeHolds .atLeast v w).toOption
  | .same => some (same constants v w)
  | .notSame => some !(same constants v w)
  | .member => member v w
  | .notMember => (member v w).map (!·)

end HubScript.Value
