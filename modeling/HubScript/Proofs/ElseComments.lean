import HubScript.Proofs.CommentLines
import HubScript.Proofs.Coverage
import HubScript.Proofs.LineOrigins
import Mathlib.Data.List.Count
import Mathlib.Data.List.Nodup

/-!
# Comments in the other part of a branch

The block of a branch takes the comments up to the end of the whole branch, and its other part is
written without comments between the instructions. So a comment in the other part stands at the end
of the body, before the word that opens the other part, and once more inside each instruction of an
other part that holds it.
-/
namespace HubScript

open Hub
open Instruction (Laid)

/-- How many branches have a line within an instruction of their other part. -/
def doubledAt (instrs : List Instruction) (l : Nat) : Nat :=
  (nestedAll instrs).countP fun i => i.orelse.any (·.covers l)

/-- How often a comment is written: once if no step hides it, and once more for each branch that has
it within an instruction of its other part. -/
def showings (instrs : List Instruction) (l : Nat) : Nat :=
  doubledAt instrs l + if hidden instrs l then 0 else 1

theorem doubledAt_cons (i : Instruction) (rest : List Instruction) (l : Nat) :
    doubledAt (i :: rest) l =
      (if i.orelse.any (·.covers l) then 1 else 0) + doubledAt i.body l + doubledAt i.orelse l +
        doubledAt rest l := by
  simp only [doubledAt, nestedAll, Instruction.nested_eq, List.cons_append, List.countP_cons,
    List.countP_append]
  omega

theorem covers_of_clear {instrs : List Instruction} {l : Nat} (h : Clear instrs l) :
    instrs.any (·.covers l) = false := by
  induction instrs with
  | nil => rfl
  | cons i rest ih =>
    obtain ⟨hi, -, -, hrest⟩ := clear_cons.mp h
    simp [hi, ih hrest]

theorem doubledAt_of_clear {instrs : List Instruction} {l : Nat} (h : Clear instrs l) :
    doubledAt instrs l = 0 := by
  refine Instruction.forest_induction
    (P := fun i => Clear i.body l → Clear i.orelse l →
      doubledAt i.body l = 0 ∧ doubledAt i.orelse l = 0)
    (Q := fun instrs => Clear instrs l → doubledAt instrs l = 0) ?step ?compound ?nil ?cons instrs h
  case step => exact fun act info _ _ => ⟨rfl, rfl⟩
  case compound => exact fun i _ hbody helse hb he => ⟨hbody hb, helse he⟩
  case nil => exact fun _ => rfl
  case cons =>
    intro i rest hi hrest hclear
    obtain ⟨_, hbody, helse, hclear⟩ := clear_cons.mp hclear
    obtain ⟨hb, he⟩ := hi hbody helse
    rw [doubledAt_cons, covers_of_clear helse, hb, he, hrest hclear]
    rfl

theorem showings_of_clear {instrs : List Instruction} {l : Nat} (h : Clear instrs l) :
    showings instrs l = 1 := by
  simp [showings, doubledAt_of_clear h, hidden_of_clear h]

theorem showings_of_clear_rest {i : Instruction} {rest : List Instruction} {l : Nat}
    (h : Clear rest l) : showings (i :: rest) l = showings [i] l := by
  simp [showings, doubledAt_cons, hidden_cons, doubledAt_of_clear h, hidden_of_clear h,
    doubledAt_of_clear (clear_nil l)]

theorem showings_of_clear_head {i : Instruction} {rest : List Instruction} {l : Nat}
    (h : Clear [i] l) : showings (i :: rest) l = showings rest l := by
  obtain ⟨hself, hbody, helse, -⟩ := clear_cons.mp h
  simp [showings, doubledAt_cons, hidden_cons, hself, doubledAt_of_clear hbody,
    doubledAt_of_clear helse, hidden_of_clear hbody, hidden_of_clear helse, covers_of_clear helse]

section Rows

variable {lo hi l : Nat} {lines : List Nat} {i : Instruction} {rest instrs : List Instruction}
  {span : Span}

/-- A line among a row is before its first instruction, within it, or among the rest. -/
theorem showings_cons (hlaid : Laid lo hi (i :: rest)) (hspan : i.info.span = some span)
    (hoff : StartsOff lines (i :: rest)) (hmem : l ∈ lines) :
    showings (i :: rest) l =
      if l < span.first then 1 else if l ≤ span.last then showings [i] l else showings rest l := by
  obtain ⟨-, -, hself, hall, hrest⟩ := hlaid.split hspan
  by_cases hbefore : l < span.first
  · rw [if_pos hbefore, showings_of_clear (hall.clear_before hoff hmem (by omega))]
  · rw [if_neg hbefore]
    by_cases hwithin : l ≤ span.last
    · rw [if_pos hwithin, showings_of_clear_rest
        (hrest.clear_before (startsOff_cons.mp hoff).2.2.2 hmem hwithin)]
    · rw [if_neg hwithin, showings_of_clear_head (hself.clear_after (by omega))]

/-- A line outside the instructions of a row is outside all instructions inside them. -/
theorem clear_of_not_covered (hlaid : Laid lo hi instrs) (hoff : StartsOff lines instrs)
    (hmem : l ∈ lines) (h : instrs.any (·.covers l) = false) : Clear instrs l := by
  induction hlaid with
  | nil => exact clear_nil l
  | @cons lo hi m i rest span lines' start first_le le_last stop body orelse after _ _
      ihrest =>
    obtain ⟨-, hbody, horelse, hrest⟩ := startsOff_cons.mp hoff
    obtain ⟨hself, hothers⟩ : i.covers l = false ∧ rest.any (·.covers l) = false := by
      simpa using h
    have houtside := hself
    rw [Instruction.covers_eq lines'] at houtside
    simp only [Bool.and_eq_false_iff, decide_eq_false_iff_not] at houtside
    refine clear_cons.mpr ⟨hself, ?_, ?_, ihrest hrest hothers⟩
    · rcases houtside with hl | hl
      · exact body.clear_before hbody hmem (by omega)
      · exact body.clear_after (by omega)
    · rcases houtside with hl | hl
      · exact orelse.clear_before horelse hmem (by omega)
      · exact orelse.clear_after (by omega)

/-- A comment of a compound instruction is shown by its body, and by its other part if it is within
an instruction there. -/
theorem showings_compound (hcompound : i.isCompound = true) {m : Nat}
    (hbody : Laid lo m i.body) (helse : Laid m hi i.orelse) (hoff : StartsOff lines [i])
    (hmem : l ∈ lines) :
    showings [i] l =
      showings i.body l + if i.orelse.any (·.covers l) then showings i.orelse l else 0 := by
  obtain ⟨-, -, hoffElse, -⟩ := startsOff_cons.mp hoff
  have hself : showings [i] l = (if i.orelse.any (·.covers l) then 1 else 0) +
      doubledAt i.body l + doubledAt i.orelse l +
        if hidden i.body l || hidden i.orelse l then 0 else 1 := by
    simp [showings, doubledAt_cons, hidden_cons, hcompound, doubledAt_of_clear (clear_nil l)]
  cases hcovered : i.orelse.any (·.covers l) with
  | false =>
    have hclear := clear_of_not_covered helse hoffElse hmem hcovered
    rw [hself, hcovered]
    simp [showings, doubledAt_of_clear hclear, hidden_of_clear hclear]
  | true =>
    have hafter : m < l := by
      refine Nat.lt_of_not_le fun hl => ?_
      rw [covers_of_clear (helse.clear_before hoffElse hmem hl)] at hcovered
      cases hcovered
    have hclear := hbody.clear_after hafter
    rw [hself, hcovered]
    simp [showings, doubledAt_of_clear hclear, hidden_of_clear hclear]
    omega

end Rows

/-- How often a comment is among lines. -/
def times (l : Nat) (marks : List Mark) : Nat := (origins marks).count (.comment l)

section Times

variable (l : Nat)

@[simp] theorem times_append (a b : List Mark) : times l (a ++ b) = times l a + times l b := by
  simp [times]

@[simp] theorem times_deeper (marks : List Mark) :
    times l (marks.map Mark.deeper) = times l marks := by
  simp [times]

@[simp] theorem times_annotate (line : Int) (marks : List Mark) :
    times l (annotate line marks) = times l marks := by
  simp [times]

@[simp] theorem times_ownMarks (scene : Scene) (i : Instruction) :
    times l (ownMarks scene i) = 0 := by
  simp [times, origins, ownMarks, List.count_eq_zero]

theorem times_tailMarks (scene : Scene) (i : Instruction) :
    times l (tailMarks i (plainTrace scene i.orelse)) = times l (plainTrace scene i.orelse) := by
  have hnil : times l (plainTrace scene []) = 0 := by simp [plainTrace, times]
  cases i with
  | step => exact hnil.symm
  | block head body info =>
    change times l (tailMarks (.block head body info) (plainTrace scene [])) =
      times l (plainTrace scene [])
    rw [hnil]
    cases head <;> simp [tailMarks, Instruction.defines, Instruction.orelse, times]
  | branch condition body orelse info =>
    cases orelse with
    | nil => exact hnil.symm
    | cons first rest =>
      simp [tailMarks, Instruction.defines, Instruction.orelse, times]

end Times

theorem times_commentMarks {table : CommentTable} (htable : table.InOrder) {l : Nat}
    (hmem : l ∈ table.alone) (start stop : Int) :
    times l (commentMarks table start stop) =
      if start ≤ (l : Int) ∧ (l : Int) < stop then 1 else 0 := by
  have horigins : origins (commentMarks table start stop) = (table.alone.filter fun (l : Nat) =>
      start ≤ (l : Int) && (l : Int) < min stop (table.lines.length + 1)).map .comment := by
    simp [origins, commentMarks, Function.comp_def]
  have honce : table.alone.count l = 1 :=
    List.count_eq_one_of_mem (htable.increasing.imp Nat.ne_of_lt) hmem
  have hl := (htable.within l hmem).2
  rw [times, horigins, List.count_map_of_injective _ _ fun _ _ => Origin.comment.inj]
  by_cases hwithin : start ≤ (l : Int) ∧ (l : Int) < stop
  · rw [if_pos hwithin, List.count_filter (by simp; omega), honce]
  · rw [if_neg hwithin, List.count_eq_zero, List.mem_filter]
    simp
    omega

/-- What is known of a comment and a row of instructions: how often it is written in a block from a
line on, as far as the row goes, and how often without comments between the instructions. -/
structure Shown (scene : Scene) (l lo : Nat) (instrs : List Instruction) : Prop where
  children : ∃ stop : Nat, (childrenTrace scene (lo + 1) instrs).2 = stop + 1 ∧ lo ≤ stop ∧
    Laid lo stop instrs ∧ (∀ hi, lo ≤ hi → Laid lo hi instrs → stop ≤ hi) ∧
    times l (childrenTrace scene (lo + 1) instrs).1 =
      if lo < l ∧ l ≤ stop then showings instrs l else 0
  plain : times l (plainTrace scene instrs) =
    if instrs.any (·.covers l) then showings instrs l else 0

section Showing

variable {scene : Scene} (htable : scene.comments.InOrder) {l : Nat}
  (hmem : l ∈ scene.comments.alone) {lo hi m : Nat} {i : Instruction}
  {rest instrs : List Instruction} {span : Span}
include htable hmem

/-- A block writes the comments of its body and those after it up to the end of the instruction. -/
theorem times_blockMarks (hspan : i.info.span = some span) (hfirst : span.first ≤ m)
    (hlast : m ≤ span.last) (hlaid : Laid span.first m i.body)
    (hbody : Shown scene l span.first i.body) :
    times l (blockMarks scene i
      (childrenTrace scene ((Fields.line? i.fields).getD 0 + 1) i.body)) =
      if span.first < l ∧ l ≤ span.last then showings i.body l else 0 := by
  obtain ⟨stop, hstop, hle, hrow, hleast, htimes⟩ := hbody.children
  have hstop_le := hleast m hfirst hlaid
  rw [Instruction.line?_fields hspan, Option.getD_some, blockMarks,
    Instruction.lastLine?_fields hspan (by omega), Option.getD_some, hstop]
  simp only [times_append, times_deeper, times_ownMarks, htimes,
    times_commentMarks htable hmem]
  by_cases hl : l ≤ stop
  · grind
  · have hone := showings_of_clear (hrow.clear_after (Nat.lt_of_not_le hl))
    grind

/-- An instruction writes a comment on its lines as often as it shows it. -/
theorem times_trace (hlaid : Laid lo hi (i :: rest)) (hspan : i.info.span = some span)
    (hoff : StartsOff scene.comments.alone [i]) (hbody : Shown scene l span.first i.body)
    (helse : times l (plainTrace scene i.orelse) =
      if i.orelse.any (·.covers l) then showings i.orelse l else 0) :
    times l (i.trace scene) =
      if span.first < l ∧ l ≤ span.last then showings [i] l else 0 := by
  cases hlaid with
  | @cons _ _ m _ _ span' lines start first_le le_last stop body orelse after =>
    obtain rfl := Option.some.inj (lines.symm.trans hspan)
    obtain ⟨-, -, hoffElse, -⟩ := startsOff_cons.mp hoff
    cases hcompound : i.isCompound with
    | false =>
      cases i with
      | block | branch => cases hcompound
      | step act info =>
        rw [Instruction.trace, times_ownMarks]
        split
        · rename_i hl
          have hhidden : hidden [.step act info] l = true := by
            rw [hidden_cons, Instruction.covers_eq hspan]
            simp [Instruction.isCompound, Nat.le_of_lt hl.1, hl.2]
          simp [showings, hhidden, doubledAt_cons, Instruction.body, Instruction.orelse,
            doubledAt_of_clear (clear_nil l)]
        · rfl
    | true =>
      rw [Instruction.trace_of_compound scene hcompound, times_append, times_tailMarks, helse,
        times_blockMarks htable hmem hspan first_le le_last body hbody]
      by_cases hl : span'.first < l ∧ l ≤ span'.last
      · rw [if_pos hl, if_pos hl, showings_compound hcompound body orelse hoff hmem]
      · have hclear : Clear i.orelse l := by
          by_cases hbefore : l ≤ m
          · exact orelse.clear_before hoffElse hmem hbefore
          · exact orelse.clear_after (by omega)
        rw [if_neg hl, if_neg hl, covers_of_clear hclear]
        rfl

/-- A row writes a comment as often as it shows it, whatever is around it. -/
theorem shown (hlaid : Laid lo hi instrs) (hoff : StartsOff scene.comments.alone instrs) :
    Shown scene l lo instrs := by
  induction hlaid with
  | nil =>
    constructor
    · exact ⟨_, by rw [childrenTrace], Nat.le_refl _, .nil, fun hi hlo _ => hlo,
        by rw [childrenTrace, if_neg (by omega)]; rfl⟩
    · rw [plainTrace]
      rfl
  | @cons lo hi m i rest span lines start first_le le_last stop body orelse after ihbody
      ihelse ihrest =>
    obtain ⟨hself, hoffBody, hoffElse, hoffRest⟩ := startsOff_cons.mp hoff
    have hoffSelf : StartsOff scene.comments.alone [i] :=
      startsOff_cons.mpr ⟨hself, hoffBody, hoffElse, by simp [StartsOff, nestedAll]⟩
    have hrow := Laid.cons lines start first_le le_last stop body orelse after
    have hown := times_trace htable hmem hrow lines hoffSelf (ihbody hoffBody)
      (ihelse hoffElse).plain
    have hsplit := showings_cons hrow lines hoff hmem
    have hne : l ≠ span.first := by
      rintro rfl
      exact hself span lines hmem
    constructor
    · obtain ⟨stop', hstop, hle, hlaid', hleast, htimes⟩ := (ihrest hoffRest).children
      have hunfold : childrenTrace scene (lo + 1) (i :: rest) =
          (commentMarks scene.comments (lo + 1) span.first ++
            annotate span.first (i.trace scene) ++ (childrenTrace scene (span.last + 1) rest).1,
            (childrenTrace scene (span.last + 1) rest).2) := by
        rw [childrenTrace, Instruction.line?_fields lines,
          Instruction.lastLine?_fields lines (by omega)]
        rfl
      rw [hunfold]
      refine ⟨stop', hstop, by omega, ?_, ?_, ?_⟩
      · exact .cons lines start first_le le_last hle body orelse hlaid'
      · intro hi' _ hlaid''
        cases hlaid'' with
        | cons lines' _ _ _ stop'' _ _ after' =>
          obtain rfl := Option.some.inj (lines'.symm.trans lines)
          exact hleast hi' stop'' after'
      · simp only [times_append, times_annotate, times_commentMarks htable hmem, hown, htimes,
          hsplit]
        grind
    · have hcovers := Instruction.covers_eq lines l
      have hlater : rest.any (·.covers l) = true → span.last < l := by
        intro hcovered
        refine Nat.lt_of_not_le fun hl => ?_
        rw [covers_of_clear (after.clear_before hoffRest hmem hl)] at hcovered
        cases hcovered
      rw [plainTrace, times_append, hown, (ihrest hoffRest).plain, hsplit, List.any_cons, hcovers]
      grind

/-- The main function writes a comment as often as its instructions show it. -/
theorem times_mainTrace (hlaid : Laid lo hi instrs)
    (hoff : StartsOff scene.comments.alone instrs) :
    times l (mainTrace scene (lo + 1) instrs) = if lo < l then showings instrs l else 0 := by
  induction instrs generalizing lo with
  | nil =>
    have hl := (htable.within l hmem).2
    rw [mainTrace, times_commentMarks htable hmem, showings_of_clear (clear_nil l)]
    grind
  | cons i rest ih =>
    have hrow := hlaid
    obtain ⟨hself, hoffBody, hoffElse, hoffRest⟩ := startsOff_cons.mp hoff
    have hoffSelf : StartsOff scene.comments.alone [i] :=
      startsOff_cons.mpr ⟨hself, hoffBody, hoffElse, by simp [StartsOff, nestedAll]⟩
    cases hlaid with
    | @cons _ _ m _ _ span lines start first_le le_last stop body orelse after =>
      have hown := times_trace htable hmem hrow lines hoffSelf (shown htable hmem body hoffBody)
        (shown htable hmem orelse hoffElse).plain
      have hne : l ≠ span.first := by
        rintro rfl
        exact hself span lines hmem
      have hnext : max (passTo scene.comments (lo + 1) span.first) ((span.last : Int) + 1) =
          span.last + 1 := by
        rw [passTo]
        omega
      rw [mainTrace, Instruction.line?_fields lines,
        Instruction.lastLine?_fields lines (by omega)]
      simp only [Option.getD_some, hnext, times_append, times_annotate,
        times_commentMarks htable hmem, hown, ih after hoffRest,
        showings_cons hrow lines hoff hmem]
      grind

end Showing

/-- The layout of an instruction at any depth. -/
theorem laid_of_nested {lo hi : Nat} {lines : List Nat} {instrs : List Instruction}
    (hlaid : Laid lo hi instrs) (hoff : StartsOff lines instrs) {i : Instruction}
    (hi : i ∈ nestedAll instrs) :
    ∃ span m, i.info.span = some span ∧ span.first ≤ m ∧ m ≤ span.last ∧
      Laid span.first m i.body ∧ Laid m span.last i.orelse ∧ StartsOff lines i.body ∧
      StartsOff lines i.orelse := by
  induction hlaid with
  | nil => cases hi
  | @cons _ _ m j rest span lines start first_le le_last stop body orelse after ihbody
      ihelse ihrest =>
    obtain ⟨-, hoffBody, hoffElse, hoffRest⟩ := startsOff_cons.mp hoff
    rw [nestedAll, Instruction.nested_eq, List.cons_append, List.mem_cons, List.mem_append,
      List.mem_append] at hi
    rcases hi with rfl | (hi | hi) | hi
    · exact ⟨span, m, lines, first_le, le_last, body, orelse, hoffBody, hoffElse⟩
    · exact ihbody hoffBody hi
    · exact ihelse hoffElse hi
    · exact ihrest hoffRest hi

/-- A line between the body of an instruction and its other part, such as that of the word which
opens the other part. -/
def Instruction.PartedAt (i : Instruction) (k : Nat) : Prop :=
  ∃ span, i.info.span = some span ∧ span.first ≤ k ∧ Laid span.first k i.body ∧
    Laid k span.last i.orelse

/-- A line that parts the statements of a branch parts its instruction. -/
theorem partedAt_of_statement {s : Stmt} {i : Instruction} {k : Nat}
    (h : Current.dialect.statement s = .ok (some i)) (hfirst : s.span.first ≤ k)
    (hbody : Stmt.Laid s.span.first k s.body) (horelse : Stmt.Laid k s.span.last s.orelse) :
    i.PartedAt k := by
  obtain ⟨-, hbodyRead, horelseRead, -⟩ := Dialect.statement_some h
  exact ⟨s.span, Reads.span_eq rfl h, hfirst, (Dialect.statements_reads hbodyRead).laid rfl hbody,
    (Dialect.statements_reads horelseRead).laid rfl horelse⟩

/-- A comment after the line that parts a branch is written once with the body of the branch, and
with the other part as often as the instructions there show it. -/
theorem comment_of_orelse {scene : Scene} (htable : scene.comments.InOrder) {lo hi : Nat}
    {instrs : List Instruction} (hlaid : Laid lo hi instrs)
    (hoff : StartsOff scene.comments.alone instrs) {i : Instruction} (hi : i ∈ nestedAll instrs)
    (helse : i.orelse ≠ []) {k l : Nat} (hparted : i.PartedAt k) (hmem : l ∈ scene.comments.alone)
    (hafter : k < l) (hcovers : i.covers l = true) :
    ∃ block others, origins (i.trace scene) =
        block ++ .otherwise (Fields.line? i.fields) :: others ∧ block.count (.comment l) = 1 ∧
      others.count (.comment l) =
        if i.orelse.any (·.covers l) then showings i.orelse l else 0 := by
  obtain ⟨span, m, hspan, hfirst, hlast, hbody, horelse, hoffBody, hoffElse⟩ :=
    laid_of_nested hlaid hoff hi
  obtain ⟨span', hspan', hle, hbefore, -⟩ := hparted
  obtain rfl := Option.some.inj (hspan'.symm.trans hspan)
  have hblock := times_blockMarks htable hmem hspan hfirst hlast hbody
    (shown htable hmem hbody hoffBody)
  have hwithin : span'.first < l ∧ l ≤ span'.last := by
    rw [Instruction.covers_eq hspan, Bool.and_eq_true, decide_eq_true_eq, decide_eq_true_eq]
      at hcovers
    omega
  rw [if_pos hwithin, showings_of_clear (hbefore.clear_after hafter)] at hblock
  refine ⟨origins (blockMarks scene i _), origins (plainTrace scene i.orelse), ?_, hblock,
    (shown htable hmem horelse hoffElse).plain⟩
  rw [Instruction.trace_of_orelse scene helse]
  simp

/-- Comments in the other part of a branch do not stay there. A comment that stands alone is written
once, unless a step hides it, and once more for each branch that has it within an instruction of its
other part. One that follows the line which parts a branch is written with the body, before the line
that opens the other part; so it is never written once and after that line. -/
theorem else_comments_before_else {script : String} {instrs : List Instruction}
    {settings : Settings} {program : String}
    (hread : readInstructions Current.dialect script = .ok instrs)
    (hlaid : ∀ stmts, readScript script = .ok stmts → Stmt.LaidOut script stmts)
    (hmade : generate settings (formsOf instrs) script = .ok program) :
    ∃ table opening, CommentTable.ofScript script = .ok table ∧
      prelude settings (formsOf instrs) = .ok opening ∧
      let scene : Scene := ⟨settings, table⟩
      let marks := mainTrace scene 1 instrs
      program = programText opening (marks.map (Mark.line table)) ∧
      (∀ l ∈ table.alone, (origins marks).count (.comment l) = showings instrs l) ∧
      ∀ i ∈ nestedAll instrs, i.orelse ≠ [] →
        formLines scene i.form = .ok ((i.trace scene).map (Mark.line table)) ∧
        ∀ k l, i.PartedAt k → l ∈ table.alone → k < l → i.covers l = true →
          ∃ before block others after, origins marks = before ++ origins (i.trace scene) ++ after ∧
            origins (i.trace scene) = block ++ .otherwise (Fields.line? i.fields) :: others ∧
            block.count (.comment l) = 1 ∧
            others.count (.comment l) =
              (if i.orelse.any (·.covers l) then showings i.orelse l else 0) ∧
            ¬((origins marks).count (.comment l) = 1 ∧ .comment l ∈ others ++ after) := by
  obtain ⟨table, opening, body, htable, hopening, hbody, hprogram⟩ :=
    generate_eq_ok (areNumbered_formsOf instrs) hmade
  obtain ⟨stmts, hstmts, hreads⟩ := readInstructions_eq_ok hread
  obtain ⟨⟨hi, hnested⟩, hapart⟩ := hlaid stmts hstmts
  have horder : (⟨settings, table⟩ : Scene).comments.InOrder :=
    CommentTable.ofScript_inOrder htable
  have hrow := hreads.laid rfl hnested
  have hoff : StartsOff (⟨settings, table⟩ : Scene).comments.alone instrs :=
    hreads.startsOff rfl (hapart table htable)
  rw [bodyLines, hrow.mergeSort_formsOf] at hbody
  obtain ⟨rfl, htraced⟩ := mainLines_traced hbody
  refine ⟨table, opening, htable, hopening, hprogram, fun l hmem => ?_, fun i hmem helse => ?_⟩
  · have htimes := times_mainTrace horder hmem hrow hoff
    have hpos : 0 < l := (horder.within l hmem).1
    rw [if_pos hpos] at htimes
    exact htimes
  · refine ⟨htraced i hmem, fun k l hparted hl hafter hcovers => ?_⟩
    obtain ⟨block, others, horigins, hblock, hothers⟩ :=
      comment_of_orelse horder hrow hoff hmem helse hparted hl hafter hcovers
    obtain ⟨before, after, hinfix⟩ := trace_within_main ⟨settings, table⟩ hmem 1
    refine ⟨before, block, others, after, hinfix.symm, horigins, hblock, hothers, ?_⟩
    rintro ⟨honce, hlater⟩
    have hcount := List.count_pos_iff.mpr hlater
    rw [← hinfix, horigins] at honce
    simp only [List.count_append, List.count_cons] at honce hcount
    omega

/-- A branch with two more in a row, and a comment in each of its other parts. -/
def forkedScript : String :=
  "if x:\n    a()\nelif y:\n    # turn\n    b()\nelse:\n    # stop\n    c()\n"

/-- Whether a statement is parted at a line and becomes an instruction that passes a test. -/
def partedStmt (k : Nat) (p : Instruction → Bool) (s : Stmt) : Bool :=
  decide (s.span.first ≤ k) && Stmt.laidWithin 12 s.span.first k s.body &&
    Stmt.laidWithin 12 k s.span.last s.orelse &&
    (Current.dialect.statement s).toOption.any (·.any p)

theorem parted_of_partedStmt {k : Nat} {p : Instruction → Bool} {s : Stmt}
    (h : partedStmt k p s = true) :
    ∃ i, Current.dialect.statement s = .ok (some i) ∧ i.PartedAt k ∧ p i = true := by
  simp only [partedStmt, Bool.and_eq_true, decide_eq_true_eq] at h
  obtain ⟨⟨⟨hfirst, hbody⟩, horelse⟩, hfound⟩ := h
  obtain ⟨found, hstatement, hany⟩ := exists_of_any hfound
  obtain ⟨i, rfl, hp⟩ := (Option.any_eq_true _ _).mp hany
  exact ⟨i, hstatement, partedAt_of_statement hstatement hfirst (Stmt.laid_of_laidWithin hbody)
    (Stmt.laid_of_laidWithin horelse), hp⟩

theorem else_comments_before_else_forkedScript :
    ∃ instrs program table, readInstructions Current.dialect forkedScript = .ok instrs ∧
      (∀ stmts, readScript forkedScript = .ok stmts → Stmt.LaidOut forkedScript stmts) ∧
      generate .standard (formsOf instrs) forkedScript = .ok program ∧
      CommentTable.ofScript forkedScript = .ok table ∧ 4 ∈ table.alone ∧
      ∃ i ∈ nestedAll instrs, i.orelse ≠ [] ∧ i.PartedAt 3 ∧ i.covers 4 = true ∧
        ∃ before block others after,
          origins (mainTrace ⟨.standard, table⟩ 1 instrs) =
            before ++ origins (i.trace ⟨.standard, table⟩) ++ after ∧
          origins (i.trace ⟨.standard, table⟩) =
            block ++ .otherwise (Fields.line? i.fields) :: others ∧
          block.count (.comment 4) = 1 ∧ others.count (.comment 4) = 1 := by
  have hlayout : (readScript forkedScript).toOption.any (fun stmts =>
      Stmt.checkLayout 12 forkedScript stmts && (stmtsNested stmts).any (partedStmt 3 fun i =>
        !i.orelse.isEmpty && i.covers 4 && i.orelse.any (·.covers 4) &&
          showings i.orelse 4 == 1)) = true := by
    decide +kernel
  have hinstrs : (readInstructions Current.dialect forkedScript).toOption.any (fun instrs =>
      (generate .standard (formsOf instrs) forkedScript).toOption.any fun _ => true) = true := by
    decide +kernel
  have halone : (CommentTable.ofScript forkedScript).toOption.any (·.alone.contains 4) = true := by
    decide +kernel
  obtain ⟨stmts, hstmts, hchecks⟩ := exists_of_any hlayout
  obtain ⟨hcheck, hparted⟩ := Bool.and_eq_true_iff.mp hchecks
  obtain ⟨instrs, hread, hmade⟩ := exists_of_any hinstrs
  obtain ⟨program, hprogram, -⟩ := exists_of_any hmade
  obtain ⟨table, htable, hfour⟩ := exists_of_any halone
  have hlaid : ∀ stmts, readScript forkedScript = .ok stmts → Stmt.LaidOut forkedScript stmts := by
    intro stmts' hstmts'
    obtain rfl := Except.ok.inj (hstmts.symm.trans hstmts')
    exact Stmt.laidOut_of_checkLayout hcheck
  obtain ⟨s, hs, hs'⟩ := List.any_eq_true.mp hparted
  obtain ⟨i, hstatement, hi, htests⟩ := parted_of_partedStmt hs'
  simp only [Bool.and_eq_true, Bool.not_eq_true', List.isEmpty_eq_false_iff, beq_iff_eq] at htests
  obtain ⟨⟨⟨helse, hcovers⟩, hinside⟩, hshown⟩ := htests
  obtain ⟨stmts', hstmts', hreads⟩ := readInstructions_eq_ok hread
  obtain rfl := Except.ok.inj (hstmts.symm.trans hstmts')
  obtain ⟨found, hfound, hmem⟩ := hreads.forall_stmts s hs
  obtain rfl := Except.ok.inj (hstatement.symm.trans hfound)
  obtain ⟨table', opening, htable', -, -, -, hbranches⟩ :=
    else_comments_before_else hread hlaid hprogram
  obtain rfl := Except.ok.inj (htable.symm.trans htable')
  have hfour := List.contains_iff_mem.mp hfour
  obtain ⟨before, block, others, after, hmarks, horigins, hblock, hothers, -⟩ :=
    (hbranches i (hmem i rfl) helse).2 3 4 hi hfour (by decide) hcovers
  rw [if_pos hinside, hshown] at hothers
  exact ⟨instrs, program, table, hread, hlaid, hprogram, htable, hfour, i, hmem i rfl, helse, hi,
    hcovers, before, block, others, after, hmarks, horigins, hblock, hothers⟩

/-- A comment before a call in the other part of a branch. -/
def strayedScript : String := "if x:\n    a()\nelse:\n    # other\n    b()\n"

def strayedProgram : String :=
  "from hub import light_matrix, port\nimport runloop\nimport motor\n\n" ++
    "# IMPORTANT: Configure ports and directions below to match your robot\n" ++
    "# If a motor runs backwards, change its REVERSED flag to True\n\n" ++
    "# Motor configuration\n\nasync def main():\n    if x:\n        await a()\n" ++
    "        # other\n    else:\n        await b()\n\nrunloop.run(main())"

/-- The comment ends up before the line that opens the other part. -/
theorem else_comment_strayedScript :
    ∃ instrs, answerGenerate strayedScript = .accepted instrs strayedProgram :=
  accepted_of_program (by decide +kernel)

end HubScript
