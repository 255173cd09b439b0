import HubScript.Proofs.CommentErasure
import HubScript.Proofs.Wording
import HubScript.Service

/-!
# The outline of a program

The lines of code of a program, comments and empty lines left out, follow the forest of its
instructions: each instruction has its own line, if it has one, and then those of the instructions
inside it, one step deeper. The outline says this of the forest alone; the lines of every program
have the code of its outline.
-/
namespace HubScript

open Hub (toHub)

theorem nestedAll_eq_flatMap (instrs : List Instruction) :
    nestedAll instrs = instrs.flatMap Instruction.nested := by
  induction instrs with
  | nil => rfl
  | cons i rest ih => rw [nestedAll, ih, List.flatMap_cons]

theorem nestedAll_perm {instrs moved : List Instruction} (h : moved.Perm instrs) :
    (nestedAll moved).Perm (nestedAll instrs) := by
  rw [nestedAll_eq_flatMap, nestedAll_eq_flatMap]
  exact h.flatMap_right _

/-- A line of code: whether it opens a block, how deep it stands, and its text. -/
structure CodeLine where
  opens : Bool
  depth : Nat
  text : String
  deriving DecidableEq, Repr

/-- A line of code as it is seen in a program. -/
def CodeLine.seen (line : CodeLine) : Nat × String := (line.depth, line.text)

mutual

/-- The lines of code of an instruction from a depth on. -/
def Instruction.outline (settings : Hub.Settings) (depth : Nat) : Instruction → List CodeLine
  | .step act info => ((Instruction.step act info).texts settings).map (CodeLine.mk false depth)
  | .block head body _ => ⟨true, depth, head.text⟩ :: outlineAll settings (depth + 1) body
  | .branch condition body orelse _ =>
    ⟨true, depth, s!"if {toHub condition}:"⟩ :: (outlineAll settings (depth + 1) body ++
      if orelse.isEmpty then []
      else ⟨true, depth, "else:"⟩ :: outlineAll settings (depth + 1) orelse)

def outlineAll (settings : Hub.Settings) (depth : Nat) : List Instruction → List CodeLine
  | [] => []
  | i :: rest => i.outline settings depth ++ outlineAll settings depth rest

end

/-- The other part of a branch, if there is one. -/
def elseOutline (settings : Hub.Settings) (depth : Nat) (orelse : List Instruction) :
    List CodeLine :=
  if orelse.isEmpty then [] else ⟨true, depth, "else:"⟩ :: outlineAll settings (depth + 1) orelse

theorem Instruction.outline_of_compound (settings : Hub.Settings) (depth : Nat) {i : Instruction}
    (h : i.isCompound = true) :
    i.outline settings depth = (i.texts settings).map (CodeLine.mk true depth) ++
      (outlineAll settings (depth + 1) i.body ++ elseOutline settings depth i.orelse) := by
  cases i with
  | step => cases h
  | block head body info =>
    simp [outline, texts, Instruction.body, Instruction.orelse, elseOutline]
  | branch condition body orelse info =>
    simp [outline, texts, Instruction.body, Instruction.orelse, elseOutline]

/-- The lines of an instruction at any depth of a forest are in the outline of the forest. -/
theorem mem_outlineAll {settings : Hub.Settings} {instrs : List Instruction} {i : Instruction}
    (hi : i ∈ nestedAll instrs) {text : String} (htext : text ∈ i.texts settings) (depth : Nat) :
    ∃ line ∈ outlineAll settings depth instrs, line.text = text := by
  refine Instruction.forest_induction
    (P := fun j => ∀ depth, i ∈ j.nested → ∃ line ∈ j.outline settings depth, line.text = text)
    (Q := fun instrs => ∀ depth, i ∈ nestedAll instrs →
      ∃ line ∈ outlineAll settings depth instrs, line.text = text)
    ?step ?compound ?nil ?cons instrs depth hi
  case step =>
    intro act info depth hi
    obtain rfl : i = .step act info := by simpa [Instruction.nested] using hi
    exact ⟨⟨false, depth, text⟩, List.mem_map_of_mem htext, rfl⟩
  case compound =>
    intro j hcompound hbody helse depth hi
    rw [Instruction.outline_of_compound settings depth hcompound]
    rw [Instruction.nested_eq, List.mem_cons, List.mem_append] at hi
    rcases hi with rfl | hi | hi
    · exact ⟨⟨true, depth, text⟩, List.mem_append_left _ (List.mem_map_of_mem htext), rfl⟩
    · obtain ⟨line, hline, hsame⟩ := hbody (depth + 1) hi
      exact ⟨line, by simp [hline], hsame⟩
    · obtain ⟨line, hline, hsame⟩ := helse (depth + 1) hi
      cases horelse : j.orelse with
      | nil =>
        rw [horelse] at hi
        cases hi
      | cons first rest =>
        rw [horelse] at hline
        exact ⟨line, by simp [elseOutline, hline], hsame⟩
  case nil =>
    intro depth hi
    cases hi
  case cons =>
    intro j rest hj hrest depth hi
    rw [nestedAll, List.mem_append] at hi
    rcases hi with hi | hi
    · obtain ⟨line, hline, hsame⟩ := hj depth hi
      exact ⟨line, by simp [outlineAll, hline], hsame⟩
    · obtain ⟨line, hline, hsame⟩ := hrest depth hi
      exact ⟨line, by simp [outlineAll, hline], hsame⟩

namespace Hub

/-- The code of a line in a block of a depth. -/
def Line.codeAt (depth : Nat) (line : Line) : Option (Nat × String) :=
  match line.content with
  | .code own text => some (depth + own, text)
  | _ => none

/-- The code of lines in a block of a depth, without comments, remarks and empty lines. -/
def codeOf (depth : Nat) (lines : List Line) : List (Nat × String) :=
  lines.filterMap (Line.codeAt depth)

section CodeOf

variable (depth : Nat)

@[simp] theorem codeOf_append (a b : List Line) :
    codeOf depth (a ++ b) = codeOf depth a ++ codeOf depth b :=
  List.filterMap_append

@[simp] theorem codeOf_code (texts : List String) :
    codeOf depth (texts.map Line.code) = texts.map fun text => (depth, text) := by
  simp [codeOf, List.filterMap_map, Line.codeAt, Line.code, Function.comp_def]

@[simp] theorem codeOf_deeper (lines : List Line) :
    codeOf depth (lines.map Line.deeper) = codeOf (depth + 1) lines := by
  have hline (line : Line) : line.deeper.codeAt depth = line.codeAt (depth + 1) := by
    rcases line with ⟨content, remarks⟩
    cases content with
    | code own text => simp [Line.deeper, Line.codeAt, Nat.add_assoc, Nat.add_comm own 1]
    | comment | separator => rfl
  rw [codeOf, codeOf, List.filterMap_map]
  exact congrArg (lines.filterMap ·) (funext hline)

/-- The code of lines is that of the lines without comments and remarks. -/
theorem codeOf_codeLines (lines : List Line) :
    codeOf depth (codeLines lines) = codeOf depth lines := by
  induction lines with
  | nil => rfl
  | cons line rest ih =>
    have hline : codeOf depth (codeLines [line]) = codeOf depth [line] := by
      rcases line with ⟨content, remarks⟩
      cases content <;> rfl
    rw [← List.singleton_append, codeLines_append, codeOf_append, hline, ih, ← codeOf_append]

@[simp] theorem codeOf_commentLines (table : CommentTable) (start stop : Int) :
    codeOf depth (commentLines table start stop) = [] := by
  rw [← codeOf_codeLines, codeLines_commentLines]
  rfl

@[simp] theorem codeOf_remarked (table : CommentTable) (l : Int) (lines : List Line) :
    codeOf depth (remarked table l lines) = codeOf depth lines := by
  rw [← codeOf_codeLines, codeLines_remarked, codeOf_codeLines]

end CodeOf

/-- Lines of a forest: its instructions can be written, and the lines have the code of its
outline. -/
structure LinesOf (settings : Settings) (instrs : List Instruction) (lines : List Line) : Prop where
  written : ∀ i ∈ nestedAll instrs, i.IsWritten settings
  code : ∀ depth, codeOf depth lines = (outlineAll settings depth instrs).map CodeLine.seen

namespace LinesOf

variable {settings : Settings} {instrs : List Instruction} {lines : List Line}

theorem nil : LinesOf settings [] [] where
  written := by simp [nestedAll]
  code := fun depth => by simp [codeOf, outlineAll]

theorem cons {i : Instruction} {others : List Line} (hi : LinesOf settings [i] lines)
    (hrest : LinesOf settings instrs others) :
    LinesOf settings (i :: instrs) (lines ++ others) where
  written := by
    have hfirst := hi.written
    simp only [nestedAll, List.append_nil, List.mem_append] at hfirst ⊢
    exact fun j hj => hj.elim (hfirst j) (hrest.written j)
  code := fun depth => by
    have hfirst := hi.code depth
    simp only [outlineAll, List.append_nil] at hfirst
    rw [codeOf_append, hfirst, hrest.code depth, outlineAll, List.map_append]

/-- Comments do not count. -/
theorem after_comments (h : LinesOf settings instrs lines) (table : CommentTable)
    (start stop : Int) : LinesOf settings instrs (commentLines table start stop ++ lines) where
  written := h.written
  code := fun depth => by rw [codeOf_append, codeOf_commentLines, List.nil_append, h.code]

theorem before_comments (h : LinesOf settings instrs lines) (table : CommentTable)
    (start stop : Int) : LinesOf settings instrs (lines ++ commentLines table start stop) where
  written := h.written
  code := fun depth => by rw [codeOf_append, codeOf_commentLines, List.append_nil, h.code]

theorem remarked (h : LinesOf settings instrs lines) (table : CommentTable) (l : Int) :
    LinesOf settings instrs (remarked table l lines) where
  written := h.written
  code := fun depth => by rw [codeOf_remarked, h.code]

/-- A header with the lines of a body one step deeper, and what follows it. -/
theorem compound {i : Instruction} {header : String} {others : List Line}
    (hcompound : i.isCompound = true) (hheader : i.texts settings = [header])
    (hbody : LinesOf settings i.body lines)
    (hwritten : ∀ j ∈ nestedAll i.orelse, j.IsWritten settings)
    (hothers : ∀ depth, codeOf depth others =
      (elseOutline settings depth i.orelse).map CodeLine.seen) :
    LinesOf settings [i] (Line.code header :: lines.map Line.deeper ++ others) where
  written := by
    have hself : i.IsWritten settings := by
      cases i with
      | step => cases hcompound
      | block | branch => trivial
    exact forall_mem_nestedAll_cons.mpr ⟨hself, hbody.written, hwritten, by simp [nestedAll]⟩
  code := fun depth => by
    have hcode : codeOf depth [Line.code header] = [(depth, header)] := codeOf_code depth [header]
    rw [outlineAll, outlineAll, Instruction.outline_of_compound settings depth hcompound, hheader,
      ← List.singleton_append, codeOf_append, codeOf_append, hcode, codeOf_deeper, hbody.code,
      hothers]
    simp [CodeLine.seen]

end LinesOf

/-- The lines made from a forest are lines of it, in a block with comments and without them. -/
structure Outlined (scene : Scene) (instrs : List Instruction) : Prop where
  children : ∀ cursor lines next, childrenLines scene cursor (formsOf instrs) = .ok (lines, next) →
    LinesOf scene.settings instrs lines
  plain : ∀ lines, plainLines scene (formsOf instrs) = .ok lines →
    LinesOf scene.settings instrs lines

section Making

variable {scene : Scene} {i : Instruction} {lines : List Line}

theorem formLines_step_lines {act : Step} {info : Info}
    (h : formLines scene (Instruction.step act info).form = .ok lines) :
    LinesOf scene.settings [.step act info] lines := by
  rw [Instruction.form_eq,
    formLines_of_header_none _ _ _ (Instruction.header_of_step act info)] at h
  obtain ⟨texts, htexts, h⟩ := bind_eq_ok.mp h
  obtain rfl := Except.ok.inj h
  have hstatements : statements scene.settings act.fields = .ok texts := by
    rw [← statements_append_info act.fields info]
    exact here_eq_ok.mp htexts
  refine ⟨?_, fun depth => ?_⟩
  · simpa [nestedAll, Instruction.nested] using ⟨texts, hstatements⟩
  · simp [outlineAll, Instruction.outline, Instruction.texts, hstatements, CodeLine.seen,
      Except.toOption, Function.comp_def]

/-- The workbench writes the statements of a step at its own level. -/
theorem run_lines_step {bench : Workbench} {act : Step} (info : Info) {texts : List String}
    (h : statements bench.settings act.fields = .ok texts) :
    bench.run (.lines (Instruction.step act info).form) =
      (.ok (.lines (texts.map (margin bench.level ++ ·))), bench) := by
  have hstatements : statements bench.scene.settings (Instruction.step act info).fields =
      .ok texts := by
    rw [← h, ← statements_append_info act.fields info]
    rfl
  have hlines : formLines bench.scene (Instruction.step act info).form =
      .ok (texts.map Line.code) := by
    rw [Instruction.form_eq, formLines_of_header_none _ _ _ (Instruction.header_of_step act info),
      hstatements]
    rfl
  have hrender : bench.rendered (texts.map Line.code) = texts.map (margin bench.level ++ ·) := by
    simp [Workbench.rendered, Line.code, Line.render]
  rw [run_lines bench (Instruction.isNumbered_form _), hlines, map_ok, made_ok, hrender]

theorem afterBlock_code {header : Header} (helse : Outlined scene i.orelse)
    (hbranch : i.orelse ≠ [] → ∃ text, header = .branch text)
    (h : afterBlock scene i.elseSuite header = .ok lines) :
    (∀ j ∈ nestedAll i.orelse, j.IsWritten scene.settings) ∧
      ∀ depth, codeOf depth lines =
        (elseOutline scene.settings depth i.orelse).map CodeLine.seen := by
  rw [Instruction.elseSuite] at h
  cases horelse : i.orelse with
  | nil =>
    rw [horelse] at h
    refine ⟨by simp [nestedAll], fun depth => ?_⟩
    cases header with
    | loop text | function text =>
      obtain rfl := Except.ok.inj h
      rfl
    | branch text =>
      rw [afterBlock, elseLines] at h
      obtain rfl := Except.ok.inj h
      rfl
  | cons first rest =>
    obtain ⟨text, rfl⟩ := hbranch (by simp [horelse])
    rw [horelse] at h helse
    obtain ⟨others, hothers, h⟩ := bind_eq_ok.mp h
    obtain rfl := Except.ok.inj h
    have hlines := helse.plain others (within_eq_ok.mp hothers)
    refine ⟨hlines.written, fun depth => ?_⟩
    have helseLine : codeOf depth [Line.code "else:"] = [(depth, "else:")] :=
      codeOf_code depth ["else:"]
    rw [← List.singleton_append, codeOf_append, helseLine, codeOf_deeper, hlines.code, elseOutline]
    simp [CodeLine.seen]

theorem formLines_compound_lines (hcompound : i.isCompound = true) (hbody : Outlined scene i.body)
    (helse : Outlined scene i.orelse) (h : formLines scene i.form = .ok lines) :
    LinesOf scene.settings [i] lines := by
  obtain ⟨header, hheader, htexts, hbranch⟩ := i.header_eq scene.settings hcompound
  rw [Instruction.form_eq, formLines_of_header_some _ _ _ hheader,
    Instruction.bodySuite_of_compound hcompound] at h
  obtain ⟨main, hmain, h⟩ := bind_eq_ok.mp h
  obtain ⟨others, hothers, h⟩ := bind_eq_ok.mp h
  obtain rfl := Except.ok.inj h
  rw [blockLines] at hmain
  obtain ⟨⟨inner, next⟩, hinner, hmain⟩ := bind_eq_ok.mp hmain
  obtain rfl := Except.ok.inj hmain
  obtain ⟨hwritten, hcode⟩ := afterBlock_code helse hbranch hothers
  have hlines := hbody.children _ _ _ (within_eq_ok.mp hinner)
  exact .compound hcompound htexts (hlines.before_comments _ _ _) hwritten hcode

end Making

theorem outlined (scene : Scene) (instrs : List Instruction) : Outlined scene instrs := by
  refine Instruction.forest_induction
    (P := fun i => ∀ lines, formLines scene i.form = .ok lines → LinesOf scene.settings [i] lines)
    (Q := fun instrs => Outlined scene instrs) ?step ?compound ?nil ?cons instrs
  case step => exact fun act info lines h => formLines_step_lines h
  case compound => exact fun i hcompound hbody helse lines h =>
    formLines_compound_lines hcompound hbody helse h
  case nil =>
    constructor
    · intro cursor lines next h
      obtain ⟨rfl, -⟩ := Prod.mk.inj (Except.ok.inj h)
      exact .nil
    · intro lines h
      obtain rfl := Except.ok.inj h
      exact .nil
  case cons =>
    intro i rest hi hrest
    constructor
    · intro cursor lines next h
      rw [formsOf, childrenLines, Instruction.form_eq, firstLineOf, here_ok, ok_bind,
        ← Instruction.form_eq] at h
      obtain ⟨own, hown, h⟩ := bind_eq_ok.mp h
      obtain ⟨⟨others, final⟩, hothers, h⟩ := bind_eq_ok.mp h
      obtain ⟨rfl, -⟩ := Prod.mk.inj (Except.ok.inj h)
      exact (((hi own hown).remarked _ _).after_comments _ _ _).cons (hrest.children _ _ _ hothers)
    · intro lines h
      rw [formsOf, plainLines] at h
      obtain ⟨own, hown, h⟩ := bind_eq_ok.mp h
      obtain ⟨others, hothers, h⟩ := bind_eq_ok.mp h
      obtain rfl := Except.ok.inj h
      exact (hi own hown).cons (hrest.plain others hothers)

theorem formLines_lines {scene : Scene} {i : Instruction} {lines : List Line}
    (h : formLines scene i.form = .ok lines) : LinesOf scene.settings [i] lines := by
  refine (outlined scene [i]).plain lines ?_
  rw [formsOf, plainLines, h, ok_bind, formsOf, plainLines, ok_bind, List.append_nil]
  rfl

theorem mainLines_lines {scene : Scene} {cursor : Int} {instrs : List Instruction}
    {lines : List Line} (h : mainLines scene cursor (formsOf instrs) = .ok lines) :
    LinesOf scene.settings instrs lines := by
  induction instrs generalizing cursor lines with
  | nil =>
    obtain rfl := Except.ok.inj h
    simpa using LinesOf.nil.after_comments scene.comments cursor _
  | cons i rest ih =>
    rw [formsOf, mainLines, Instruction.form_eq, firstLineOf, here_ok, ok_bind,
      ← Instruction.form_eq] at h
    obtain ⟨own, hown, h⟩ := bind_eq_ok.mp h
    obtain ⟨others, hothers, h⟩ := bind_eq_ok.mp h
    obtain rfl := Except.ok.inj h
    exact (((formLines_lines hown).remarked _ _).after_comments _ _ _).cons (ih hothers)

/-- Instructions in the order in which their lines stand in a program. -/
def inProgramOrder (instrs : List Instruction) : List Instruction :=
  instrs.mergeSort fun a b => inOrder a.form b.form

theorem mem_nestedAll_inProgramOrder {instrs : List Instruction} {i : Instruction} :
    i ∈ nestedAll (inProgramOrder instrs) ↔ i ∈ nestedAll instrs := by
  simp only [nestedAll_eq_flatMap, List.mem_flatMap, inProgramOrder, List.mem_mergeSort]

theorem mergeSort_formsOf (instrs : List Instruction) :
    (formsOf instrs).mergeSort inOrder = formsOf (inProgramOrder instrs) := by
  rw [formsOf_eq_map, formsOf_eq_map, inProgramOrder, List.map_mergeSort]
  intro a _ b _
  rfl

theorem bodyLines_lines {scene : Scene} {instrs : List Instruction} {body : List Line}
    (h : bodyLines scene (formsOf instrs) = .ok body) :
    LinesOf scene.settings (inProgramOrder instrs) body := by
  rw [bodyLines, mergeSort_formsOf] at h
  exact mainLines_lines h

/-- The lines of a program from the main function on. -/
def wholeLines (body : List Line) : List Line :=
  Line.code "async def main():" :: body.map Line.deeper ++
    [Line.separator, Line.code "runloop.run(main())"]

theorem programText_eq (opening : List String) (body : List Line) :
    programText opening body =
      "\n".intercalate (opening ++ (wholeLines body).map (Line.render 0)) := by
  have hempty : Line.separator.render 0 = "" := rfl
  have hcode (text : String) : (Line.code text).render 0 = text := by
    simp [render_code, margin]
  have hbody : (body.map Line.deeper).map (Line.render 0) = body.map (Line.render 1) := by
    simp [render_deeper]
  simp [programText, wholeLines, hcode, hempty, hbody]

end Hub

/-- The outline of a program from the main function on. -/
def programOutline (settings : Hub.Settings) (instrs : List Instruction) : List CodeLine :=
  ⟨true, 0, "async def main():"⟩ ::
    (outlineAll settings 1 (Hub.inProgramOrder instrs) ++ [⟨false, 0, "runloop.run(main())"⟩])

theorem codeOf_wholeLines {settings : Hub.Settings} {instrs : List Instruction}
    {body : List Hub.Line} (h : Hub.LinesOf settings (Hub.inProgramOrder instrs) body) :
    Hub.codeOf 0 (Hub.wholeLines body) = (programOutline settings instrs).map CodeLine.seen := by
  have hopening : Hub.codeOf 0 [Hub.Line.code "async def main():"] = [(0, "async def main():")] :=
    rfl
  have hclosing : Hub.codeOf 0 [Hub.Line.separator, Hub.Line.code "runloop.run(main())"] =
      [(0, "runloop.run(main())")] := rfl
  rw [Hub.wholeLines, ← List.singleton_append, Hub.codeOf_append, Hub.codeOf_append, hopening,
    Hub.codeOf_deeper, h.code, hclosing, programOutline]
  simp [CodeLine.seen]

theorem answerGenerate_eq_accepted {script program : String} {instrs : List Instruction}
    (h : answerGenerate script = .accepted instrs program) :
    readInstructions Current.dialect script = .ok instrs ∧
      Hub.generate .standard (formsOf instrs) script = .ok program := by
  unfold answerGenerate at h
  split at h
  · cases h
  · cases h
  · cases h
  · rename_i found hread
    dsimp only at h
    split at h
    · cases h
    · rename_i text hprogram
      split at h
      · cases h
      · cases h
        exact ⟨hread, hprogram⟩

/-- The line of an instruction at any depth is in the outline of a program. -/
theorem mem_programOutline {settings : Hub.Settings} {instrs : List Instruction} {i : Instruction}
    (hi : i ∈ nestedAll instrs) {text : String} (htext : text ∈ i.texts settings) :
    ∃ line ∈ programOutline settings instrs, line.text = text := by
  obtain ⟨line, hline, hsame⟩ :=
    mem_outlineAll (Hub.mem_nestedAll_inProgramOrder.mpr hi) htext 1
  exact ⟨line, by simp [programOutline, hline], hsame⟩

/-- A program is put together from an opening and the lines of its main function, whose code is the
outline of instructions that can all be written. -/
structure Assembled (instrs : List Instruction) (program : String) (opening : List String)
    (body : List Hub.Line) : Prop where
  opened : Hub.prelude .standard (formsOf instrs) = .ok opening
  joined : program = "\n".intercalate (opening ++ (Hub.wholeLines body).map (Hub.Line.render 0))
  code : Hub.codeOf 0 (Hub.wholeLines body) = (programOutline .standard instrs).map CodeLine.seen
  written : ∀ i ∈ nestedAll instrs, i.IsWritten .standard

theorem assembled_of_lines {table : CommentTable} {instrs : List Instruction}
    {opening : List String} {body : List Hub.Line}
    (hopening : Hub.prelude .standard (formsOf instrs) = .ok opening)
    (hbody : Hub.bodyLines ⟨.standard, table⟩ (formsOf instrs) = .ok body) :
    Assembled instrs (Hub.programText opening body) opening body := by
  have hlines := Hub.bodyLines_lines hbody
  exact ⟨hopening, Hub.programText_eq opening body, codeOf_wholeLines hlines,
    fun i hi => hlines.written i (Hub.mem_nestedAll_inProgramOrder.mpr hi)⟩

theorem assembled_of_accepted {script program : String} {instrs : List Instruction}
    (h : answerGenerate script = .accepted instrs program) :
    ∃ opening body, Assembled instrs program opening body := by
  obtain ⟨-, hprogram⟩ := answerGenerate_eq_accepted h
  obtain ⟨table, opening, body, -, hopening, hbody, rfl⟩ :=
    Hub.generate_eq_ok (areNumbered_formsOf instrs) hprogram
  exact ⟨opening, body, assembled_of_lines hopening hbody⟩

namespace Assembled

variable {instrs : List Instruction} {program : String} {opening : List String}
  {body : List Hub.Line}

/-- A program has the line of each of its instructions. -/
theorem texts_mem (h : Assembled instrs program opening body) {i : Instruction}
    (hi : i ∈ nestedAll instrs) {text : String} (htext : text ∈ i.texts .standard) :
    ∃ depth, (depth, text) ∈ Hub.codeOf 0 (Hub.wholeLines body) := by
  obtain ⟨line, hline, rfl⟩ := mem_programOutline hi htext
  rw [h.code]
  exact ⟨line.depth, List.mem_map_of_mem hline⟩

/-- A program shows every expression that its instructions keep, in the line of the instruction. -/
theorem shows (h : Assembled instrs program opening body) {i : Instruction}
    (hi : i ∈ nestedAll instrs) {k : KeptText} (hk : k ∈ i.kept) :
    ∃ depth text, i.texts .standard = [text] ∧
      (depth, text) ∈ Hub.codeOf 0 (Hub.wholeLines body) ∧ k.ShownIn text := by
  obtain ⟨text, htexts, hshown⟩ := Instruction.texts_show (h.written i hi) hk
  obtain ⟨depth, hmem⟩ := h.texts_mem hi (htexts ▸ List.mem_singleton_self text)
  exact ⟨depth, text, htexts, hmem, hshown⟩

end Assembled

/-- Whether a script is accepted with instructions and a program that pass a test. -/
def GenerateAnswer.any (p : List Instruction → String → Bool) : GenerateAnswer → Bool
  | .accepted instrs program => p instrs program
  | .rejected _ => false

theorem accepted_of_any {p : List Instruction → String → Bool} {script : String}
    (h : (answerGenerate script).any p = true) :
    ∃ instrs program, answerGenerate script = .accepted instrs program ∧
      p instrs program = true := by
  cases hanswer : answerGenerate script with
  | accepted instrs program =>
    rw [hanswer] at h
    exact ⟨instrs, program, rfl, h⟩
  | rejected =>
    rw [hanswer] at h
    cases h

theorem accepted_of_program {script text : String}
    (h : (answerGenerate script).any (fun _ program => program == text) = true) :
    ∃ instrs, answerGenerate script = .accepted instrs text := by
  obtain ⟨instrs, program, hprogram, htext⟩ := accepted_of_any h
  exact ⟨instrs, hprogram.trans (congrArg _ (eq_of_beq htext))⟩

end HubScript
