import HubScript.Value.Basic
import HubScript.Value.Failure

/-!
# Equality and order of values

Numbers are compared by their exact size, whatever their kind. Texts, lists and tuples have the
order of a dictionary, and sets are ordered by inclusion. Other pairs of values can only be equal or
not.
-/
namespace HubScript

/-- How two values are compared by size. -/
inductive SizeTest where
  | less
  | atMost
  | greater
  | atLeast
  deriving DecidableEq, Repr

namespace SizeTest

/-- Whether two things in an order pass the test. -/
def holds : SizeTest → Ordering → Bool
  | .less, o => o == .lt
  | .atMost, o => o != .gt
  | .greater, o => o == .gt
  | .atLeast, o => o != .lt

def text : SizeTest → String
  | .less => "<"
  | .atMost => "<="
  | .greater => ">"
  | .atLeast => ">="

end SizeTest

namespace Value

/-- The order of two numbers, unless one is not a number. -/
def numberOrder? : Value → Value → Option (Option Ordering)
  | .float x, .float y => some (x.compare? y)
  | .float x, v => v.asInt?.map fun n => (Binary64.compareInt? n x).map Ordering.swap
  | v, .float y => v.asInt?.map fun n => Binary64.compareInt? n y
  | v, w =>
    match v.asInt?, w.asInt? with
    | some m, some n => some (some (compare m n))
    | _, _ => Option.none

/-- Whether two numbers are the same, where the values are numbers. -/
def numberEqual? : Value → Value → Option Bool
  | .complex a b, .complex c d => some (a.same c && b.same d)
  | .complex a b, v => (numberOrder? (.float a) v).map fun o => o == some .eq && b.isZero
  | v, .complex c d => (numberOrder? v (.float c)).map fun o => o == some .eq && d.isZero
  | v, w => (numberOrder? v w).map fun o => o == some .eq

mutual

def equal : Value → Value → Bool
  | .none, .none => true
  | .str s, .str t => s == t
  | .bytes bs, .bytes cs => bs == cs
  | .ellipsis, .ellipsis => true
  | .list xs, .list ys => equalAll xs ys
  | .tuple xs, .tuple ys => equalAll xs ys
  | .set xs, .set ys => xs.length == ys.length && includedIn xs ys
  | .dict xs, .dict ys => xs.length == ys.length && entriesIn xs ys
  | v, w => (numberEqual? v w).getD false

def equalAll : List Value → List Value → Bool
  | [], [] => true
  | v :: vs, w :: ws => equal v w && equalAll vs ws
  | _, _ => false

/-- Whether every value of the first list is in the second. -/
def includedIn : List Value → List Value → Bool
  | [], _ => true
  | v :: vs, ws => ws.any (equal v ·) && includedIn vs ws

def entriesIn : List (Value × Value) → List (Value × Value) → Bool
  | [], _ => true
  | (key, value) :: rest, ws =>
    ws.any (fun entry => equal key entry.1 && equal value entry.2) && entriesIn rest ws

end

/-- The order of two texts by their characters' codes. -/
def textOrder : List Nat → List Nat → Ordering
  | [], [] => .eq
  | [], _ => .lt
  | _, [] => .gt
  | a :: as, b :: bs => (compare a b).then (textOrder as bs)

def codes (s : String) : List Nat := s.toList.map Char.toNat

/-- Whether one set is within another, as a test by size. -/
def setHolds (test : SizeTest) (xs ys : List Value) : Bool :=
  let within := includedIn xs ys
  let around := includedIn ys xs
  match test with
  | .less => within && !around
  | .atMost => within
  | .greater => around && !within
  | .atLeast => around

mutual

/-- Whether two values pass a test by size. -/
def sizeHolds (test : SizeTest) : Value → Value → Except Failure Bool
  | .str s, .str t => .ok (test.holds (textOrder (codes s) (codes t)))
  | .bytes bs, .bytes cs =>
    .ok (test.holds (textOrder (bs.map UInt8.toNat) (cs.map UInt8.toNat)))
  | .list xs, .list ys => sizeHoldsAll test xs ys
  | .tuple xs, .tuple ys => sizeHoldsAll test xs ys
  | .set xs, .set ys => .ok (setHolds test xs ys)
  | v, w =>
    match numberOrder? v w with
    | some (some o) => .ok (test.holds o)
    | some Option.none => .ok false
    | Option.none => .error (.notOrdered test.text v.typeName w.typeName)

/-- The first items that differ decide, and then the lengths. -/
def sizeHoldsAll (test : SizeTest) : List Value → List Value → Except Failure Bool
  | v :: vs, w :: ws => if equal v w then sizeHoldsAll test vs ws else sizeHolds test v w
  | vs, ws => .ok (test.holds (compare vs.length ws.length))

end

mutual

/-- The type that keeps a value from being a member of a set, if any. -/
def unhashable? : Value → Option String
  | .list _ => some "list"
  | .dict _ => some "dict"
  | .set _ => some "set"
  | .tuple items => anyUnhashable? items
  | _ => Option.none

def anyUnhashable? : List Value → Option String
  | [] => Option.none
  | v :: rest => (unhashable? v).or (anyUnhashable? rest)

end

/-- Adds a value to a list of different values. -/
def addTo (items : List Value) (v : Value) : Except Failure (List Value) :=
  match v.unhashable? with
  | some name => .error (.unhashable name)
  | Option.none => .ok (if items.any (v.equal ·) then items else items ++ [v])

/-- Puts a value before the first one that is greater. -/
def insertSorted (v : Value) : List Value → Except Failure (List Value)
  | [] => .ok [v]
  | w :: rest => do
    if ← sizeHolds .less v w then return v :: w :: rest
    return w :: (← insertSorted v rest)

/-- Sorts values that can be ordered. -/
def sort : List Value → Except Failure (List Value)
  | [] => .ok []
  | v :: rest => do insertSorted v (← sort rest)

end Value

end HubScript
