import HubScript.Hub.Position
import HubScript.Hub.Statement
import HubScript.Hub.Work

/-!
# The body of a hub program

Instructions become lines at the level of the workbench, which is one deeper while the instructions
inside another one are written. The comments of the script come along: a comment on a line of its
own stays between the instructions around it, and one at the end of a line goes to the last line of
the instruction that starts there. The comments of an `else` part are not placed there but after the
body.
-/
namespace HubScript.Hub

/-- Writes the comments that stand alone between two lines. -/
def writeComments (indentation : String) (start stop : Value) : Work (List String) := do
  let table ← Work.ask Workbench.comments
  return (← Work.take (table.between start stop)).map (indentation ++ ·)

/-- Adds remarks at the end of a line, each after two blanks. -/
def addRemarks (text : String) (remarks : List String) : String :=
  text ++ String.join (remarks.map ("  " ++ ·))

/-- Adds the remarks of a line of the script to the last of some lines, if there are any. -/
def addRemarksOf (line : Value) (lines : List String) : Work (List String) :=
  match lines.getLast? with
  | none => return lines
  | some last => do
    let table ← Work.ask Workbench.comments
    match ← Work.take (table.remarksAt line) with
    | some remarks => return lines.dropLast ++ [addRemarks last remarks]
    | none => return lines

/-- The lines of an instruction in a block with its remarks, and the line that follows it in the
script. -/
def settle (fields : Fields) (lines : List String) : Work (List String × Value) := do
  let line := fields.startOr (.int 0)
  let lines ← addRemarksOf line lines
  return (lines, ← Work.take (fields.endOr line).successor)

/-- Writes what is below a header. The instructions are written by `children`, which is given the
indentation and the line of the script to start from, and gives the line it comes to. -/
def writeBelow (owner : Form) (children : String → Value → Work (List String × Value)) :
    Work (List String) := do
  let inner ← Work.indent
  let fields ← Work.take (recordFields owner)
  let start ← Work.take (fields.startOr (.int 0)).successor
  let (lines, line) ← children inner start
  let stop ← Work.take (fields.endOr line).successor
  return lines ++ (← writeComments inner line stop)

/-- Writes a header with what is below it, one level deeper. -/
def writeBlock (header : String) (owner : Form)
    (children : String → Value → Work (List String × Value)) : Work (List String) := do
  let outer ← Work.indent
  Work.enter
  let below ← writeBelow owner children
  Work.leave
  return (outer ++ header) :: below

mutual

/-- Writes an instruction. -/
def writeForm : Form → Work (List String)
  | .other v => Work.take (.error (notRecord v))
  | .record fields body orelse => do
    let outer ← Work.indent
    match ← Work.take (header? fields) with
    | none =>
      let settings ← Work.ask Workbench.settings
      return (← Work.take (statements settings fields)).map (outer ++ ·)
    | some header =>
      let main ← writeBlock header.text (.record fields body orelse) fun inner start =>
        writeSuite inner start body
      match header with
      | .loop _ => return main
      | .branch _ => return main ++ (← writeElse outer orelse)
      | .function _ => return main ++ [""]

/-- Writes the instructions of a suite with the comments between them, from a line of the script on.
The line that follows them comes with them. -/
def writeSuite (inner : String) (start : Value) : Suite → Work (List String × Value)
  | .absent => return ([], start)
  | .forms items => writeChildren inner start items
  | .other v => Work.take (.error (.notIterable v.typeName))

def writeChildren (inner : String) (line : Value) : List Form → Work (List String × Value)
  | [] => return ([], line)
  | form :: rest => do
    let fields ← Work.take (recordFields form)
    let before ← writeComments inner line (fields.startOr line)
    let (own, next) ← settle fields (← writeForm form)
    let (others, final) ← writeChildren inner next rest
    return (before ++ own ++ others, final)

/-- Writes the other part of a branch, which an empty suite does not open. -/
def writeElse (outer : String) : Suite → Work (List String)
  | .absent => return []
  | .forms [] => return []
  | .forms (form :: rest) => do
    Work.enter
    let lines ← writePlain (form :: rest)
    Work.leave
    return (outer ++ "else:") :: lines
  | .other v => do
    if v.truth then
      Work.enter
      let lines ← Work.take (.error (.notIterable v.typeName))
      Work.leave
      return (outer ++ "else:") :: lines
    else return []

/-- Writes instructions without comments between them. -/
def writePlain : List Form → Work (List String)
  | [] => return []
  | form :: rest => do
    let lines ← writeForm form
    return lines ++ (← writePlain rest)

end

/-- Writes an instruction as one of a block, with the line that follows it in the script. -/
def writeChild (form : Form) : Work (List String × Value) := do
  let fields ← Work.take (recordFields form)
  settle fields (← writeForm form)

end HubScript.Hub
