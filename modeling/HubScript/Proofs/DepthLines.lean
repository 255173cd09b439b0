import HubScript.Hub.Workbench

/-!
# Lines by their depth

What is written at a workbench, told apart from the level at which it is written. A line knows how
deep it stands and which remarks follow it, and lines are counted by whole numbers; a number that is
none counts as absent. A failure comes with the depth of the instruction that fails.
-/
namespace HubScript.Hub

variable {α : Type}

/-- What a line holds. -/
inductive Content where
  | code (depth : Nat) (text : String)
  | comment (depth : Nat) (text : String)
  /-- The empty line after a function. It is never indented. -/
  | separator
  deriving DecidableEq, Repr

/-- A line with the remarks at its end. -/
structure Line where
  content : Content
  remarks : List String
  deriving DecidableEq, Repr

namespace Line

def code (text : String) : Line := ⟨.code 0 text, []⟩

def comment (text : String) : Line := ⟨.comment 0 text, []⟩

def separator : Line := ⟨.separator, []⟩

/-- The line one step deeper. -/
def deeper (line : Line) : Line :=
  match line.content with
  | .code depth text => { line with content := .code (depth + 1) text }
  | .comment depth text => { line with content := .comment (depth + 1) text }
  | .separator => line

/-- Adds remarks at the end of a line. -/
def remark (line : Line) (remarks : List String) : Line :=
  { line with remarks := line.remarks ++ remarks }

/-- The text of a line in a block of a level. -/
def render (level : Int) (line : Line) : String :=
  let text := match line.content with
    | .code depth text => margin (level + depth) ++ text
    | .comment depth text => margin (level + depth) ++ text
    | .separator => ""
  text ++ String.join (line.remarks.map ("  " ++ ·))

end Line

/-- Adds remarks to the last of some lines. -/
def remarkLast (lines : List Line) (remarks : List String) : List Line :=
  match lines.getLast? with
  | some last => lines.dropLast ++ [last.remark remarks]
  | none => lines

/-- A failure with the depth of the instruction that fails, counted from where one started. -/
structure Stop where
  failure : Failure
  depth : Nat
  deriving DecidableEq, Repr

abbrev Made (α : Type) := Except Stop α

/-- A failure of the instruction at hand. -/
def here (x : Except Failure α) : Made α := x.mapError (⟨·, 0⟩)

/-- What fails one step deeper. -/
def within (x : Made α) : Made α := x.mapError fun stop => { stop with depth := stop.depth + 1 }

/-- What stays the same for all instructions of a program. -/
structure Scene where
  settings : Settings
  comments : CommentTable

/-- A line number; zero counts as none. -/
def lineField? (fields : Fields) (name : String) : Option Int :=
  ((fields.lookup name).bind Value.asInt?).filter (· != 0)

def Fields.line? (fields : Fields) : Option Int := lineField? fields "lineno"

def Fields.lastLine? (fields : Fields) : Option Int := lineField? fields "end_lineno"

/-- The line number of a form, which has to be a record. -/
def firstLineOf : Form → Except Failure (Option Int)
  | .record fields _ _ => .ok (Fields.line? fields)
  | .other v => .error (notRecord v)

def lastLineOf : Form → Option Int
  | .record fields _ _ => Fields.lastLine? fields
  | .other _ => none

/-- The comments that stand alone from one line up to another, without their indentation. -/
def commentsBetween (comments : CommentTable) (start stop : Int) : List String :=
  let stop := min stop (comments.lines.length + 1)
  (comments.alone.filter fun (l : Nat) => start ≤ (l : Int) && (l : Int) < stop).map
    (stripped comments)

def commentLines (comments : CommentTable) (start stop : Int) : List Line :=
  (commentsBetween comments start stop).map Line.comment

/-- Adds the comments at the end of a line of the script. -/
def remarked (comments : CommentTable) (line : Int) (lines : List Line) : List Line :=
  match comments.inline? line with
  | some remarks => remarkLast lines remarks
  | none => lines

/-- The lines of an instruction in a block with its remarks, and the line that follows it in the
script. -/
def settled (comments : CommentTable) (form : Form) (first : Option Int) (lines : List Line) :
    List Line × Int :=
  let line := first.getD 0
  (remarked comments line lines, (lastLineOf form).getD line + 1)

mutual

/-- The lines of an instruction. -/
def formLines (scene : Scene) : Form → Made (List Line)
  | .other v => here (.error (notRecord v))
  | .record fields body orelse => do
    match ← here (header? fields) with
    | none => return (← here (statements scene.settings fields)).map Line.code
    | some header =>
      let main ← blockLines scene header.text (Fields.line? fields) (Fields.lastLine? fields) body
      match header with
      | .loop _ => return main
      | .branch _ => return main ++ (← elseLines scene orelse)
      | .function _ => return main ++ [Line.separator]

/-- A header with the lines of the instructions below it. -/
def blockLines (scene : Scene) (header : String) (first last : Option Int) :
    Suite → Made (List Line)
  | .other v => within (here (.error (.notIterable v.typeName)))
  | .absent =>
    let cursor := first.getD 0 + 1
    return Line.code header ::
      (commentLines scene.comments cursor (last.getD cursor + 1)).map Line.deeper
  | .forms items => do
    let (lines, cursor) ← within (childrenLines scene (first.getD 0 + 1) items)
    let closing := commentLines scene.comments cursor (last.getD cursor + 1)
    return Line.code header :: (lines ++ closing).map Line.deeper

/-- The lines of the instructions in a block and the line that follows them in the script. -/
def childrenLines (scene : Scene) (cursor : Int) : List Form → Made (List Line × Int)
  | [] => .ok ([], cursor)
  | form :: rest => do
    let line ← here (firstLineOf form)
    let before := commentLines scene.comments cursor (line.getD cursor)
    let (own, next) := settled scene.comments form line (← formLines scene form)
    let (others, final) ← childrenLines scene next rest
    return (before ++ own ++ others, final)

/-- The other part of a branch, which an empty suite does not open. -/
def elseLines (scene : Scene) : Suite → Made (List Line)
  | .absent => .ok []
  | .forms [] => .ok []
  | .forms (form :: rest) => do
    let lines ← within (plainLines scene (form :: rest))
    return Line.code "else:" :: lines.map Line.deeper
  | .other v => do
    if v.truth then within (here (.error (.notIterable v.typeName)))
    return []

/-- The lines of instructions without comments between them. -/
def plainLines (scene : Scene) : List Form → Made (List Line)
  | [] => .ok []
  | form :: rest => do
    let lines ← formLines scene form
    return lines ++ (← plainLines scene rest)

end

/-- The lines of an instruction as one of a block, and the line that follows it in the script. -/
def childLines (scene : Scene) (form : Form) : Made (List Line × Int) := do
  let line ← here (firstLineOf form)
  return settled scene.comments form line (← formLines scene form)

/-- Where a form is put: by its first line and then by its last one. -/
def placeOf : Form → Int × Int
  | .record fields _ _ =>
    ((Fields.line? fields).getD lastPlace, (Fields.lastLine? fields).getD lastPlace)
  | .other _ => (lastPlace, lastPlace)

/-- Whether a form may stand before another. -/
def inOrder (a b : Form) : Bool :=
  let (a₁, a₂) := placeOf a
  let (b₁, b₂) := placeOf b
  a₁ < b₁ || (a₁ == b₁ && a₂ ≤ b₂)

/-- Where the comments up to a line have been taken. -/
def passTo (comments : CommentTable) (cursor line : Int) : Int :=
  max cursor (min line (comments.lines.length + 1))

/-- The lines of the main function from a line of the script on. -/
def mainLines (scene : Scene) (cursor : Int) : List Form → Made (List Line)
  | [] => .ok (commentLines scene.comments cursor (scene.comments.lines.length + 1))
  | form :: rest => do
    let line := (← here (firstLineOf form)).getD cursor
    let before := commentLines scene.comments cursor line
    let own := remarked scene.comments line (← formLines scene form)
    let next := max (passTo scene.comments cursor line) ((lastLineOf form).getD line + 1)
    return before ++ own ++ (← mainLines scene next rest)

/-- The lines of the main function, in the order of the script. -/
def bodyLines (scene : Scene) (forms : List Form) : Made (List Line) :=
  mainLines scene 1 (forms.mergeSort inOrder)

/-- What stays the same at a workbench while instructions are written. -/
def Workbench.scene (bench : Workbench) : Scene := ⟨bench.settings, bench.comments⟩

/-- What comes of something made at a workbench; a failure leaves the level deeper. -/
def Workbench.made (bench : Workbench) : Made α → Except Setback α × Workbench
  | .ok a => (.ok a, bench)
  | .error stop => (.error (.failed stop.failure), { bench with level := bench.level + stop.depth })

/-- Lines at the level of a workbench. -/
def Workbench.rendered (bench : Workbench) (lines : List Line) : List String :=
  lines.map (Line.render bench.level)

/-- The text of a program. -/
def programText (opening : List String) (body : List Line) : String :=
  "\n".intercalate (opening ++ ["async def main():"] ++ body.map (Line.render 1) ++
    ["", "runloop.run(main())"])

end HubScript.Hub
