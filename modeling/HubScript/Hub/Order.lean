import HubScript.Hub.Position

/-!
# The order of a program

Forms are put in the order of the lines on which they start and end. The lines are compared as
values, so that the sort fails on the first pair of them that cannot be compared. What is in order
already is found first, and turned round if it falls; every other form is then put in its place
among those before it, by halving.

Rows of sixty-four forms and more are sorted in one piece, too. This differs from a sort in several
pieces only in the pair that is named by a failure and in the place of lines that are no numbers.
-/
namespace HubScript.Hub

section Sorting

variable {α : Type} (less : α → α → Except Failure Bool)

/-- The items after one up to the first that is less than the one before it, and the others. -/
def rising (last : α) : List α → Except Failure (List α × List α)
  | [] => .ok ([], [])
  | x :: rest => do
    if ← less x last then return ([], x :: rest)
    let (run, others) ← rising x rest
    return (x :: run, others)

/-- The items after one up to the first that is not less than the one before it, turned round, and
the others. -/
def falling (last : α) : List α → Except Failure (List α × List α)
  | [] => .ok ([], [])
  | x :: rest => do
    if !(← less x last) then return ([], x :: rest)
    let (run, others) ← falling x rest
    return (run ++ [x], others)

/-- The items at the start that are in order, or that are so when they are turned round, and the
others. -/
def firstRun : List α → Except Failure (List α × List α)
  | [] => .ok ([], [])
  | [x] => .ok ([x], [])
  | x :: y :: rest => do
    if ← less y x then
      let (run, others) ← falling less y rest
      return (run ++ [y, x], others)
    else
      let (run, others) ← rising less y rest
      return (x :: y :: run, others)

/-- Puts an item among sorted ones, behind those that it is not less than. Every round halves the
items, so that there are no more rounds than items. -/
def insertHalving (x : α) : (rounds : Nat) → List α → Except Failure (List α)
  | 0, sorted => .ok (x :: sorted)
  | rounds + 1, sorted =>
    match sorted.splitAt (sorted.length / 2) with
    | (_, []) => .ok [x]
    | (front, y :: back) => do
      if ← less x y then return (← insertHalving x rounds front) ++ y :: back
      else return front ++ y :: (← insertHalving x rounds back)

/-- Puts items among sorted ones, one after the other. -/
def insertAll (sorted : List α) : List α → Except Failure (List α)
  | [] => .ok sorted
  | x :: rest => do insertAll (← insertHalving less x sorted.length sorted) rest

def sortBy (items : List α) : Except Failure (List α) := do
  let (run, others) ← firstRun less items
  insertAll less run others

end Sorting

/-- Where a form without a line number is put. -/
def lastPlace : Int := 1000000000

/-- What forms are sorted by: the line on which one starts and then the line on which it ends. -/
def keyOf (form : Form) : Except Failure Value := do
  let fields ← recordFields form
  return .tuple [fields.startOr (.int lastPlace), fields.endOr (.int lastPlace)]

/-- Forms with their keys. -/
def keyed : List Form → Except Failure (List (Value × Form))
  | [] => .ok []
  | form :: rest => do
    let key ← keyOf form
    return (key, form) :: (← keyed rest)

/-- The forms in the order of the script. -/
def arranged (forms : List Form) : Except Failure (List Form) := do
  let sorted ← sortBy (fun a b => Value.sizeHolds .less a.1 b.1) (← keyed forms)
  return sorted.map Prod.snd

end HubScript.Hub
