import HubScript.Proofs.Outline

/-!
# Where the lines of a program come from

A line of a program comes from an instruction, from the other part of a branch, from a comment that
stands alone in the script, or from the end of a function, and the remarks of some lines of the
script follow it. The trace of a forest keeps all this apart, so that comments with the same text
can be told from one another; without it, the trace is what the program consists of.
-/
namespace HubScript

namespace Hub

/-- Where a line of a program comes from. -/
inductive Origin where
  /-- An instruction, by the line of the script on which it starts. -/
  | own (line : Option Int)
  /-- The other part of a branch, by the line on which the branch starts. -/
  | otherwise (line : Option Int)
  | comment (line : Nat)
  | gap
  deriving DecidableEq, Repr

/-- A line of a program with its origin and the lines of the script whose remarks follow it. -/
structure Mark where
  origin : Origin
  content : Content
  remarks : List Int
  deriving DecidableEq, Repr

namespace Mark

/-- The line of a program that a mark stands for. -/
def line (table : CommentTable) (m : Mark) : Line :=
  ⟨m.content, m.remarks.flatMap fun l => (table.inline? l).getD []⟩

/-- The mark one step deeper. -/
def deeper (m : Mark) : Mark := { m with content := (Line.deeper ⟨m.content, []⟩).content }

theorem line_deeper (table : CommentTable) (m : Mark) :
    m.deeper.line table = (m.line table).deeper := by
  rcases m with ⟨origin, content, remarks⟩
  cases content <;> rfl

theorem map_line_deeper (table : CommentTable) (marks : List Mark) :
    (marks.map deeper).map (line table) = (marks.map (line table)).map Line.deeper := by
  simp [line_deeper]

end Mark

/-- Adds the remarks of a line to the last of some marks. -/
def annotate (l : Int) (marks : List Mark) : List Mark :=
  match marks.getLast? with
  | some last => marks.dropLast ++ [{ last with remarks := last.remarks ++ [l] }]
  | none => marks

@[simp] theorem annotate_nil (l : Int) : annotate l [] = [] := rfl

theorem annotate_concat (l : Int) (marks : List Mark) (last : Mark) :
    annotate l (marks ++ [last]) = marks ++ [{ last with remarks := last.remarks ++ [l] }] := by
  simp [annotate]

theorem remarkLast_nil (lines : List Line) : remarkLast lines [] = lines := by
  unfold remarkLast
  split
  · rename_i last hlast
    obtain ⟨others, rfl⟩ := List.getLast?_eq_some_iff.mp hlast
    simp [Line.remark]
  · rfl

theorem map_line_annotate (table : CommentTable) (l : Int) (marks : List Mark) :
    (annotate l marks).map (Mark.line table) = remarked table l (marks.map (Mark.line table)) := by
  have hremarked (lines : List Line) :
      remarked table l lines = remarkLast lines ((table.inline? l).getD []) := by
    unfold remarked
    cases table.inline? l with
    | some remarks => rfl
    | none => exact (remarkLast_nil lines).symm
  rw [hremarked]
  rcases marks.eq_nil_or_concat with rfl | ⟨others, last, rfl⟩
  · rfl
  · simp [annotate_concat, remarkLast, Mark.line, Line.remark]

/-- Where lines come from. -/
def origins (marks : List Mark) : List Origin := marks.map Mark.origin

@[simp] theorem origins_nil : origins [] = [] := rfl

@[simp] theorem origins_cons (m : Mark) (marks : List Mark) :
    origins (m :: marks) = m.origin :: origins marks := rfl

@[simp] theorem origins_append (a b : List Mark) : origins (a ++ b) = origins a ++ origins b :=
  List.map_append

@[simp] theorem origins_deeper (marks : List Mark) :
    origins (marks.map Mark.deeper) = origins marks := by
  simp [origins, Mark.deeper, Function.comp_def]

@[simp] theorem origins_annotate (l : Int) (marks : List Mark) :
    origins (annotate l marks) = origins marks := by
  rcases marks.eq_nil_or_concat with rfl | ⟨others, last, rfl⟩
  · rfl
  · simp [annotate_concat, origins]

/-- The comments that stand alone from one line up to another. -/
def commentMarks (table : CommentTable) (start stop : Int) : List Mark :=
  (table.alone.filter fun (l : Nat) =>
    start ≤ (l : Int) && (l : Int) < min stop (table.lines.length + 1)).map
      fun l => ⟨.comment l, .comment 0 (stripped table l), []⟩

theorem map_line_commentMarks (table : CommentTable) (start stop : Int) :
    (commentMarks table start stop).map (Mark.line table) = commentLines table start stop := by
  simp [commentMarks, commentLines, commentsBetween, Mark.line, Line.comment, stripped,
    Function.comp_def]

end Hub

open Hub

/-- Whether an instruction is the definition of a function. -/
def Instruction.defines : Instruction → Bool
  | .block (.define _ _) _ _ => true
  | _ => false

/-- The line of an instruction itself. -/
def ownMarks (scene : Scene) (i : Instruction) : List Mark :=
  (i.texts scene.settings).map fun text => ⟨.own (Fields.line? i.fields), .code 0 text, []⟩

/-- An instruction with its body, of which the line that follows it in the script is known. -/
def blockMarks (scene : Scene) (i : Instruction) (body : List Mark × Int) : List Mark :=
  let closing := commentMarks scene.comments body.2 ((Fields.lastLine? i.fields).getD body.2 + 1)
  ownMarks scene i ++ (body.1 ++ closing).map Mark.deeper

theorem map_line_blockMarks (scene : Scene) (i : Instruction) (body : List Mark × Int) :
    (blockMarks scene i body).map (Mark.line scene.comments) =
      (ownMarks scene i).map (Mark.line scene.comments) ++
        (body.1.map (Mark.line scene.comments) ++ commentLines scene.comments body.2
          ((Fields.lastLine? i.fields).getD body.2 + 1)).map Line.deeper := by
  rw [blockMarks, List.map_append, Mark.map_line_deeper, List.map_append, map_line_commentMarks]

/-- What follows the body of an instruction: the end of a function or another part. -/
def tailMarks (i : Instruction) (others : List Mark) : List Mark :=
  if i.defines then [⟨.gap, .separator, []⟩]
  else if i.orelse.isEmpty then []
  else ⟨.otherwise (Fields.line? i.fields), .code 0 "else:", []⟩ :: others.map Mark.deeper

mutual

/-- The lines of an instruction with their origins. -/
def Instruction.trace (scene : Scene) : Instruction → List Mark
  | .step act info => ownMarks scene (.step act info)
  | .block head body info =>
    let i := Instruction.block head body info
    blockMarks scene i (childrenTrace scene ((Fields.line? i.fields).getD 0 + 1) body) ++
      tailMarks i []
  | .branch condition body orelse info =>
    let i := Instruction.branch condition body orelse info
    blockMarks scene i (childrenTrace scene ((Fields.line? i.fields).getD 0 + 1) body) ++
      tailMarks i (plainTrace scene orelse)

/-- The lines of the instructions in a block, and the line that follows them in the script. -/
def childrenTrace (scene : Scene) (cursor : Int) : List Instruction → List Mark × Int
  | [] => ([], cursor)
  | i :: rest =>
    let line := Fields.line? i.fields
    let others := childrenTrace scene ((Fields.lastLine? i.fields).getD (line.getD 0) + 1) rest
    (commentMarks scene.comments cursor (line.getD cursor) ++
      annotate (line.getD 0) (i.trace scene) ++ others.1, others.2)

/-- The lines of instructions without comments between them. -/
def plainTrace (scene : Scene) : List Instruction → List Mark
  | [] => []
  | i :: rest => i.trace scene ++ plainTrace scene rest

end

/-- The lines of the main function from a line of the script on. -/
def mainTrace (scene : Scene) (cursor : Int) : List Instruction → List Mark
  | [] => commentMarks scene.comments cursor (scene.comments.lines.length + 1)
  | i :: rest =>
    let line := (Fields.line? i.fields).getD cursor
    let next := max (passTo scene.comments cursor line)
      ((Fields.lastLine? i.fields).getD line + 1)
    commentMarks scene.comments cursor line ++ annotate line (i.trace scene) ++
      mainTrace scene next rest

theorem Instruction.trace_of_compound (scene : Scene) {i : Instruction} (h : i.isCompound = true) :
    i.trace scene =
      blockMarks scene i (childrenTrace scene ((Fields.line? i.fields).getD 0 + 1) i.body) ++
        tailMarks i (plainTrace scene i.orelse) := by
  cases i with
  | step => cases h
  | block head body info => rw [trace]; rfl
  | branch condition body orelse info => rw [trace]; rfl

/-- The lines of a branch with another part. -/
theorem Instruction.trace_of_orelse (scene : Scene) {i : Instruction} (h : i.orelse ≠ []) :
    i.trace scene =
      blockMarks scene i (childrenTrace scene ((Fields.line? i.fields).getD 0 + 1) i.body) ++
        ⟨.otherwise (Fields.line? i.fields), .code 0 "else:", []⟩ ::
          (plainTrace scene i.orelse).map Mark.deeper := by
  cases i with
  | step | block => exact absurd rfl h
  | branch condition body orelse info =>
    cases orelse with
    | nil => exact absurd rfl h
    | cons => rw [Instruction.trace]; rfl

/-- The lines of an instruction at any depth stand together among those of the forest. -/
theorem trace_within_forest (scene : Scene) {i : Instruction} {instrs : List Instruction}
    (hi : i ∈ nestedAll instrs) :
    (∀ cursor, origins (i.trace scene) <:+: origins (childrenTrace scene cursor instrs).1) ∧
      origins (i.trace scene) <:+: origins (plainTrace scene instrs) := by
  refine Instruction.forest_induction
    (P := fun j => i ∈ j.nested → origins (i.trace scene) <:+: origins (j.trace scene))
    (Q := fun instrs => i ∈ nestedAll instrs →
      (∀ cursor, origins (i.trace scene) <:+: origins (childrenTrace scene cursor instrs).1) ∧
        origins (i.trace scene) <:+: origins (plainTrace scene instrs))
    ?step ?compound ?nil ?cons instrs hi
  case step =>
    intro act info hi
    obtain rfl : i = .step act info := by simpa [Instruction.nested] using hi
    exact List.infix_rfl
  case compound =>
    intro j hcompound hbody helse hi
    rw [Instruction.nested_eq, List.mem_cons, List.mem_append] at hi
    rcases hi with rfl | hi | hi
    · exact List.infix_rfl
    · rw [Instruction.trace_of_compound scene hcompound, blockMarks]
      refine ((hbody hi).1 ((Fields.line? j.fields).getD 0 + 1)).trans ?_
      simp only [origins_append, origins_deeper, List.append_assoc]
      exact List.infix_append' _ _ _
    · have hother : j.orelse ≠ [] := by
        intro hnil
        rw [hnil] at hi
        cases hi
      rw [Instruction.trace_of_orelse scene hother]
      refine (helse hi).2.trans ?_
      simp only [origins_append, origins_cons, origins_deeper]
      exact (List.infix_cons List.infix_rfl).trans (List.suffix_append _ _).isInfix
  case nil => simp [nestedAll]
  case cons =>
    intro j rest hj hrest hi
    rw [nestedAll, List.mem_append] at hi
    rcases hi with hi | hi
    · refine ⟨fun cursor => (hj hi).trans ?_, (hj hi).trans ?_⟩
      · simp only [childrenTrace, origins_append, origins_annotate]
        exact List.infix_append _ _ _
      · simp only [plainTrace, origins_append]
        exact (List.prefix_append _ _).isInfix
    · refine ⟨fun cursor => ?_, (hrest hi).2.trans ?_⟩
      · simp only [childrenTrace, origins_append]
        exact ((hrest hi).1 _).trans (List.suffix_append _ _).isInfix
      · simp only [plainTrace, origins_append]
        exact (List.suffix_append _ _).isInfix

theorem trace_within_main (scene : Scene) {i : Instruction} {instrs : List Instruction}
    (hi : i ∈ nestedAll instrs) (cursor : Int) :
    origins (i.trace scene) <:+: origins (mainTrace scene cursor instrs) := by
  induction instrs generalizing cursor with
  | nil => cases hi
  | cons j rest ih =>
    simp only [mainTrace, origins_append, origins_annotate]
    rw [nestedAll, List.mem_append] at hi
    rcases hi with hi | hi
    · have hself : i ∈ nestedAll [j] := by simpa [nestedAll] using hi
      have hinside := (trace_within_forest scene hself).2
      rw [plainTrace, plainTrace, List.append_nil] at hinside
      exact hinside.trans (List.infix_append _ _ _)
    · exact (ih hi _).trans (List.suffix_append _ _).isInfix

/-- The lines of an instruction are those of its trace. -/
def Instruction.IsTraced (scene : Scene) (i : Instruction) : Prop :=
  formLines scene i.form = .ok ((i.trace scene).map (Mark.line scene.comments))

/-- The lines made from a forest are those of its trace, in a block and without comments, and so are
those of all instructions inside. -/
structure Traced (scene : Scene) (instrs : List Instruction) : Prop where
  children : ∀ cursor lines next, childrenLines scene cursor (formsOf instrs) = .ok (lines, next) →
    (lines = (childrenTrace scene cursor instrs).1.map (Mark.line scene.comments) ∧
      next = (childrenTrace scene cursor instrs).2) ∧
      ∀ i ∈ nestedAll instrs, i.IsTraced scene
  plain : ∀ lines, plainLines scene (formsOf instrs) = .ok lines →
    lines = (plainTrace scene instrs).map (Mark.line scene.comments) ∧
      ∀ i ∈ nestedAll instrs, i.IsTraced scene

section Tracing

variable {scene : Scene} {i : Instruction} {lines : List Line}

theorem isTraced_step {act : Step} {info : Info}
    (h : formLines scene (Instruction.step act info).form = .ok lines) :
    lines = ((Instruction.step act info).trace scene).map (Mark.line scene.comments) := by
  rw [Instruction.form_eq,
    formLines_of_header_none _ _ _ (Instruction.header_of_step act info)] at h
  obtain ⟨texts, htexts, h⟩ := bind_eq_ok.mp h
  obtain rfl := Except.ok.inj h
  have hstatements : statements scene.settings act.fields = .ok texts := by
    rw [← statements_append_info act.fields info]
    exact here_eq_ok.mp htexts
  simp [Instruction.trace, ownMarks, Instruction.texts, hstatements, Except.toOption, Mark.line,
    Line.code]

/-- What is written after the body of an instruction is what its trace has there. -/
theorem afterBlock_traced {header : Header} (hcompound : i.isCompound = true)
    (hheader : header? i.fields = .ok (some header)) (helse : Traced scene i.orelse)
    (h : afterBlock scene i.elseSuite header = .ok lines) :
    lines = (tailMarks i (plainTrace scene i.orelse)).map (Mark.line scene.comments) ∧
      ∀ j ∈ nestedAll i.orelse, j.IsTraced scene := by
  cases i with
  | step => cases hcompound
  | block head body info =>
    cases head with
    | forEach | whileLoop =>
      obtain rfl := Option.some.inj (Except.ok.inj hheader)
      obtain rfl := Except.ok.inj h
      exact ⟨rfl, by simp [Instruction.orelse, nestedAll]⟩
    | define name params =>
      rw [Instruction.header_of_define] at hheader
      obtain rfl := Option.some.inj (Except.ok.inj hheader)
      obtain rfl := Except.ok.inj h
      exact ⟨rfl, by simp [Instruction.orelse, nestedAll]⟩
  | branch condition body orelse info =>
    obtain rfl := Option.some.inj (Except.ok.inj hheader)
    cases orelse with
    | nil =>
      rw [afterBlock, Instruction.elseSuite, Instruction.orelse, elseLines] at h
      obtain rfl := Except.ok.inj h
      exact ⟨rfl, by simp [Instruction.orelse, nestedAll]⟩
    | cons first rest =>
      obtain ⟨others, hothers, h⟩ := bind_eq_ok.mp h
      obtain rfl := Except.ok.inj h
      obtain ⟨rfl, hall⟩ := helse.plain others (within_eq_ok.mp hothers)
      refine ⟨?_, hall⟩
      simp [tailMarks, Instruction.defines, Instruction.orelse, Mark.line_deeper]
      rfl

theorem isTraced_compound (hcompound : i.isCompound = true) (hbody : Traced scene i.body)
    (helse : Traced scene i.orelse) (h : formLines scene i.form = .ok lines) :
    lines = (i.trace scene).map (Mark.line scene.comments) ∧
      (∀ j ∈ nestedAll i.body, j.IsTraced scene) ∧ ∀ j ∈ nestedAll i.orelse, j.IsTraced scene := by
  obtain ⟨header, hheader, htexts, -⟩ := i.header_eq scene.settings hcompound
  rw [Instruction.form_eq, formLines_of_header_some _ _ _ hheader,
    Instruction.bodySuite_of_compound hcompound] at h
  obtain ⟨main, hmain, h⟩ := bind_eq_ok.mp h
  obtain ⟨others, hothers, h⟩ := bind_eq_ok.mp h
  obtain rfl := Except.ok.inj h
  rw [blockLines] at hmain
  obtain ⟨⟨inner, next⟩, hinner, hmain⟩ := bind_eq_ok.mp hmain
  obtain rfl := Except.ok.inj hmain
  obtain ⟨⟨rfl, rfl⟩, hinside⟩ := hbody.children _ _ _ (within_eq_ok.mp hinner)
  obtain ⟨rfl, hother⟩ := afterBlock_traced hcompound hheader helse hothers
  refine ⟨?_, hinside, hother⟩
  have hblock := map_line_blockMarks scene i
    (childrenTrace scene ((Fields.line? i.fields).getD 0 + 1) i.body)
  rw [ownMarks, htexts] at hblock
  rw [Instruction.trace_of_compound scene hcompound, List.map_append (f := Mark.line _), hblock]
  rfl

end Tracing

theorem traced (scene : Scene) (instrs : List Instruction) : Traced scene instrs := by
  refine Instruction.forest_induction
    (P := fun i => ∀ lines, formLines scene i.form = .ok lines →
      lines = (i.trace scene).map (Mark.line scene.comments) ∧
        ∀ j ∈ i.nested, j.IsTraced scene)
    (Q := fun instrs => Traced scene instrs) ?step ?compound ?nil ?cons instrs
  case step =>
    intro act info lines h
    obtain rfl := isTraced_step h
    refine ⟨rfl, fun j hj => ?_⟩
    obtain rfl : j = .step act info := by simpa [Instruction.nested] using hj
    exact h
  case compound =>
    intro i hcompound hbody helse lines h
    obtain ⟨rfl, hinside, hother⟩ := isTraced_compound hcompound hbody helse h
    refine ⟨rfl, ?_⟩
    rw [Instruction.nested_eq]
    simpa [or_imp, forall_and] using ⟨h, hinside, hother⟩
  case nil =>
    constructor
    · intro cursor lines next h
      obtain ⟨rfl, rfl⟩ := Prod.mk.inj (Except.ok.inj h)
      exact ⟨⟨rfl, rfl⟩, by simp [nestedAll]⟩
    · intro lines h
      obtain rfl := Except.ok.inj h
      exact ⟨rfl, by simp [nestedAll]⟩
  case cons =>
    intro i rest hi hrest
    constructor
    · intro cursor lines next h
      rw [formsOf, childrenLines, Instruction.form_eq, firstLineOf, here_ok, ok_bind,
        ← Instruction.form_eq] at h
      obtain ⟨own, hown, h⟩ := bind_eq_ok.mp h
      obtain ⟨⟨others, final⟩, hothers, h⟩ := bind_eq_ok.mp h
      obtain ⟨rfl, rfl⟩ := Prod.mk.inj (Except.ok.inj h)
      obtain ⟨rfl, hself⟩ := hi own hown
      have hlast : lastLineOf i.form = Fields.lastLine? i.fields := by
        rw [Instruction.form_eq, lastLineOf]
      rw [hlast] at hothers
      obtain ⟨⟨rfl, rfl⟩, hall⟩ := hrest.children _ _ _ hothers
      refine ⟨⟨?_, by rw [childrenTrace]⟩, ?_⟩
      · rw [childrenTrace, List.map_append, List.map_append, map_line_commentMarks,
          map_line_annotate]
      · simpa [nestedAll, or_imp, forall_and] using ⟨hself, hall⟩
    · intro lines h
      rw [formsOf, plainLines] at h
      obtain ⟨own, hown, h⟩ := bind_eq_ok.mp h
      obtain ⟨others, hothers, h⟩ := bind_eq_ok.mp h
      obtain rfl := Except.ok.inj h
      obtain ⟨rfl, hself⟩ := hi own hown
      obtain ⟨rfl, hall⟩ := hrest.plain others hothers
      refine ⟨by rw [plainTrace, List.map_append], ?_⟩
      simpa [nestedAll, or_imp, forall_and] using ⟨hself, hall⟩

theorem formLines_traced {scene : Scene} {i : Instruction} {lines : List Line}
    (h : formLines scene i.form = .ok lines) :
    lines = (i.trace scene).map (Mark.line scene.comments) ∧
      ∀ j ∈ i.nested, j.IsTraced scene := by
  have hplain : plainLines scene (formsOf [i]) = .ok lines := by
    rw [formsOf, plainLines, h, ok_bind, formsOf, plainLines, ok_bind, List.append_nil]
    rfl
  simpa [plainTrace, nestedAll] using (traced scene [i]).plain lines hplain

theorem mainLines_traced {scene : Scene} {cursor : Int} {instrs : List Instruction}
    {lines : List Line} (h : mainLines scene cursor (formsOf instrs) = .ok lines) :
    lines = (mainTrace scene cursor instrs).map (Mark.line scene.comments) ∧
      ∀ i ∈ nestedAll instrs, i.IsTraced scene := by
  induction instrs generalizing cursor lines with
  | nil =>
    obtain rfl := Except.ok.inj h
    exact ⟨(map_line_commentMarks _ _ _).symm, by simp [nestedAll]⟩
  | cons i rest ih =>
    have hlast : lastLineOf i.form = Fields.lastLine? i.fields := by
      rw [Instruction.form_eq, lastLineOf]
    rw [formsOf, mainLines, Instruction.form_eq, firstLineOf, here_ok, ok_bind,
      ← Instruction.form_eq, hlast] at h
    obtain ⟨own, hown, h⟩ := bind_eq_ok.mp h
    obtain ⟨others, hothers, h⟩ := bind_eq_ok.mp h
    obtain rfl := Except.ok.inj h
    obtain ⟨rfl, hself⟩ := formLines_traced hown
    obtain ⟨rfl, hall⟩ := ih hothers
    refine ⟨?_, ?_⟩
    · rw [mainTrace, List.map_append, List.map_append, map_line_commentMarks, map_line_annotate]
    · simpa [nestedAll, or_imp, forall_and] using ⟨hself, hall⟩

/-- The lines of the main function are those of the trace of the instructions in order. -/
theorem bodyLines_traced {scene : Scene} {instrs : List Instruction} {body : List Line}
    (h : bodyLines scene (formsOf instrs) = .ok body) :
    body = (mainTrace scene 1 (inProgramOrder instrs)).map (Mark.line scene.comments) ∧
      ∀ i ∈ nestedAll instrs, i.IsTraced scene := by
  rw [bodyLines, mergeSort_formsOf] at h
  obtain ⟨hbody, hall⟩ := mainLines_traced h
  exact ⟨hbody, fun i hi => hall i (mem_nestedAll_inProgramOrder.mpr hi)⟩

end HubScript
