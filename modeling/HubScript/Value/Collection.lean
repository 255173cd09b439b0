import HubScript.Text.Occurrence
import HubScript.Value.Compare

/-!
# Texts, lists and sets of values

Joining, repeating, indexing and cutting sequences, membership, and the operations on sets and
dictionaries. An operation without a result gives none.
-/
namespace HubScript.Value

/-- Longer results are not built. The bound stands for that of the memory, which no script sets but
every machine has; a repetition that a script spells out stays far below it. -/
def lengthLimit : Nat := twoPow 22

/-- Two sequences of the same kind, one after the other. -/
def concat : Value → Value → Option Value
  | .str s, .str t => some (.str (s ++ t))
  | .bytes bs, .bytes cs => some (.bytes (bs ++ cs))
  | .list xs, .list ys => some (.list (xs ++ ys))
  | .tuple xs, .tuple ys => some (.tuple (xs ++ ys))
  | _, _ => Option.none

/-- A list repeated; a negative count gives nothing. -/
def repeatItems (count : Int) (items : List α) : Option (List α) :=
  if items.isEmpty then some []
  else if lengthLimit < items.length * count.toNat then Option.none
  else some (List.replicate count.toNat items).flatten

/-- A sequence repeated. -/
def repeatBy (count : Int) : Value → Option Value
  | .str s => (repeatItems count s.toList).map fun cs => .str (String.ofList cs)
  | .bytes bs => (repeatItems count bs).map .bytes
  | .list xs => (repeatItems count xs).map .list
  | .tuple xs => (repeatItems count xs).map .tuple
  | _ => Option.none

/-- A sequence and a count in either order. -/
def repetition (v w : Value) : Option Value :=
  match w.asInt? with
  | some n => repeatBy n v
  | Option.none => v.asInt?.bind fun n => repeatBy n w

/-- The item at a place; negative places count from the end. -/
def itemAt (items : List α) (place : Int) : Option α :=
  let place := if place < 0 then place + items.length else place
  if place < 0 then Option.none else items[place.toNat]?

/-- The value of a key. -/
def lookup (entries : List (Value × Value)) (key : Value) : Option Value :=
  match key.unhashable? with
  | some _ => Option.none
  | Option.none => (entries.find? fun entry => key.equal entry.1).map Prod.snd

/-- The item of a value at an index. -/
def index (v key : Value) : Option Value :=
  match v with
  | .str s => do return .str (← itemAt s.toList (← key.asInt?)).toString
  | .bytes bs => do return .int (← itemAt bs (← key.asInt?)).toNat
  | .list xs => do itemAt xs (← key.asInt?)
  | .tuple xs => do itemAt xs (← key.asInt?)
  | .dict entries => lookup entries key
  | _ => Option.none

/-- The bounds of a cut; a missing bound is none. -/
structure Cut where
  lower : Option Int
  upper : Option Int
  step : Int

/-- A bound within a sequence, counted from its end if it is negative. -/
def bound (length least greatest : Int) (n : Int) : Int :=
  let n := if n < 0 then n + length else n
  max least (min greatest n)

/-- The places of a cut in a sequence of a length. -/
def Cut.places (cut : Cut) (length : Nat) : List Nat :=
  let size : Int := length
  let (least, greatest) : Int × Int := if 0 < cut.step then (0, size) else (-1, size - 1)
  let within := bound size least greatest
  let (first, last) := if 0 < cut.step then (least, greatest) else (greatest, least)
  let start := (cut.lower.map within).getD first
  let stop := (cut.upper.map within).getD last
  let distance := if 0 < cut.step then stop - start else start - stop
  let stride : Int := cut.step.natAbs
  let count := ((distance + stride - 1) / stride).toNat
  (List.range count).map fun (i : Nat) => (start + cut.step * i).toNat

/-- The items of a cut. -/
def Cut.take (cut : Cut) (items : List α) : List α :=
  let items := items.toArray
  (cut.places items.size).filterMap (items[·]?)

/-- A part of a sequence. A step of zero has no result. -/
def slice (v : Value) (cut : Cut) : Option Value :=
  if cut.step = 0 then Option.none
  else
    match v with
    | .str s => some (.str (String.ofList (cut.take s.toList)))
    | .bytes bs => some (.bytes (cut.take bs))
    | .list xs => some (.list (cut.take xs))
    | .tuple xs => some (.tuple (cut.take xs))
    | _ => Option.none

/-- Whether a value is a member of another one. -/
def member (v container : Value) : Option Bool :=
  let among (items : List Value) : Option Bool :=
    match v.unhashable? with
    | some _ => Option.none
    | Option.none => some (items.any (v.equal ·))
  match v, container with
  | .str s, .str t => some (Text.occursIn s.toList t.toList)
  | .bytes bs, .bytes cs => some (Text.occursIn bs cs)
  | v, .bytes cs => do
    let n ← v.asInt?
    if n < 0 || 255 < n then Option.none
    return cs.any fun c => (c.toNat : Int) == n
  | v, .list items => some (items.any (v.equal ·))
  | v, .tuple items => some (items.any (v.equal ·))
  | .set xs, .set items => some (items.any (Value.equal (.set xs) ·))
  | _, .set items => among items
  | _, .dict entries => among (entries.map Prod.fst)
  | _, _ => Option.none

/-- Sets a key; a key that is there already keeps its place. -/
def insertEntry (key value : Value) : List (Value × Value) → List (Value × Value)
  | [] => [(key, value)]
  | (k, v) :: rest =>
    if key.equal k then (k, value) :: rest else (k, v) :: insertEntry key value rest

/-- Sets a key, if it can be one. -/
def setEntry (entries : List (Value × Value)) (key value : Value) :
    Option (List (Value × Value)) :=
  match key.unhashable? with
  | some _ => Option.none
  | Option.none => some (insertEntry key value entries)

/-- Two dictionaries in one; the second wins. -/
def merge (xs ys : List (Value × Value)) : List (Value × Value) :=
  ys.foldl (fun entries (key, value) => insertEntry key value entries) xs

/-- The number of a whole number's place in a set. -/
def placeNumber (n : Int) : Int :=
  let size : Int := (n.natAbs % (twoPow 61 - 1) : Nat)
  if n == -1 then -2 else if n < 0 then -size else size

/-- How many places a set of a size has. -/
def placesOf (size : Nat) : Nat := if size ≤ 4 then 8 else twoPow ((2 * size).log2 + 1)

/-- A set of different values. Whole numbers stand in the order of their places, other values in
the order in which they are given. -/
def setOf (items : List Value) : Value :=
  match items.mapM Value.asInt? with
  | Option.none => .set items
  | some _ =>
    let places : Int := placesOf items.length
    let place (v : Value) : Int := placeNumber (v.asInt?.getD 0) % places
    .set (items.mergeSort fun v w => place v ≤ place w)

def contains (items : List Value) (v : Value) : Bool := items.any (v.equal ·)

def union (xs ys : List Value) : List Value := xs ++ ys.filter fun y => !contains xs y

/-- The common members, as the smaller set has them. -/
def intersection (xs ys : List Value) : List Value :=
  if xs.length < ys.length then xs.filter (contains ys) else ys.filter (contains xs)

def difference (xs ys : List Value) : List Value := xs.filter fun x => !contains ys x

end HubScript.Value
