import HubScript.Hub.Usage
import HubScript.Script.Comment
import HubScript.Value.Arithmetic

/-!
# Places in a script

Forms name the lines of the script on which they start and end, and comments are found by their
lines. A line number that is absent or counts as untrue is passed over. Every other value is taken
as it is: it is compared, counted on from and looked up like a number, and it fails where that
cannot be done with it.
-/
namespace HubScript

namespace Value

/-- Why a value cannot be counted on from. -/
def notCounted : Value → Failure
  | .bytes _ => .bytesJoined
  | .str _ => .notJoined "str"
  | .list _ => .notJoined "list"
  | .tuple _ => .notJoined "tuple"
  | v => .badBinary "+" v.typeName "int"

/-- One more than a number. -/
def successor (v : Value) : Except Failure Value :=
  match addNumbers v (.int 1) with
  | some next => .ok next
  | Option.none => .error v.notCounted

/-- The second value if it is less than the first one. -/
def smaller (v w : Value) : Except Failure Value := do
  if ← sizeHolds .less w v then return w else return v

/-- The second value if it is greater than the first one. -/
def larger (v w : Value) : Except Failure Value := do
  if ← sizeHolds .greater w v then return w else return v

def whole (v : Value) : Except Failure Int :=
  match v.asInt? with
  | some n => .ok n
  | Option.none => .error (.notWhole v.typeName)

end Value

/-- The text of a line of the script as a comment. -/
def Hub.stripped (table : CommentTable) (l : Nat) : String :=
  String.ofList (Text.trimLeft (table.lineText l).toList)

namespace CommentTable

variable (table : CommentTable)

/-- The comments that stand alone on the lines from one to another. Only whole numbers have lines
between them. -/
def between (start stop : Value) : Except Failure (List String) := do
  let stop ← Value.smaller stop (.int (table.lines.length + 1))
  let start ← start.whole
  let stop ← stop.whole
  return (table.alone.filter fun (l : Nat) => start ≤ (l : Int) && (l : Int) < stop).map
    (Hub.stripped table)

/-- The comment that stands alone on a line, if there is one. -/
def aloneAt (line : Value) : Except Failure (List String) :=
  if table.alone.any fun (l : Nat) => line.equal (.int l) then
    match line.asInt? with
    | some n => .ok [Hub.stripped table n.toNat]
    | none => .error (.sequenceIndex "list" line.typeName)
  else .ok []

/-- Takes the comments line by line, as long as the line is before another one and within the
script, and gives the line it comes to. Lines are counted from one, so there are no more rounds than
lines and one to find the end. -/
def pass (stop : Value) : (rounds : Nat) → (line : Value) → Except Failure (List String × Value)
  | 0, line => .ok ([], line)
  | rounds + 1, line => do
    if !(← Value.sizeHolds .less line stop) then return ([], line)
    if !(← Value.sizeHolds .atMost line (.int table.lines.length)) then return ([], line)
    let own ← table.aloneAt line
    let (others, final) ← pass stop rounds (← line.successor)
    return (own ++ others, final)

/-- The comments before a line, from another one on, and the line after them. -/
def upTo (line stop : Value) : Except Failure (List String × Value) :=
  table.pass stop (table.lines.length + 1) line

/-- The comments at the end of a line. -/
def remarksAt (line : Value) : Except Failure (Option (List String)) :=
  match line.unhashable? with
  | some name => .error (.unhashable name)
  | none => .ok ((table.inline.find? fun entry => line.equal (.int entry.1)).map Prod.snd)

end CommentTable

namespace Hub

/-- The fields of a form, which has to be a record. -/
def recordFields : Form → Except Failure Fields
  | .record fields _ _ => .ok fields
  | .other v => .error (notRecord v)

namespace Fields

/-- A line number, unless it is absent or counts as untrue. -/
def number? (fields : Fields) (name : String) : Option Value :=
  (fields.lookup name).filter Value.truth

/-- The line on which a form starts, or another one if it names none. -/
def startOr (fields : Fields) (other : Value) : Value := (fields.number? "lineno").getD other

/-- The line on which a form ends, or another one if it names none. -/
def endOr (fields : Fields) (other : Value) : Value := (fields.number? "end_lineno").getD other

end Fields

end Hub

end HubScript
