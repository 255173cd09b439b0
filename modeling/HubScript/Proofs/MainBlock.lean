import HubScript.Proofs.Opening
import HubScript.Proofs.Outline

/-!
# The main function is a block

A program places comments and remarks around its instructions by a loop of its own, and every block
inside it by another one. The first sorts the instructions and never lets its line go back; the
second takes them as they come and goes on after the last line of each. On instructions that follow
one another in the script both do the same, so the main function is the block of a record that holds
the instructions and ends with the script.
-/
namespace HubScript.Hub

open Work

/-- Records from a line on that follow one another: each ends where it starts or later, and the next
one starts where it ends or later. -/
inductive InRow : Int → List Form → Prop
  | nil {lo : Int} : InRow lo []
  | cons {lo first last : Int} {form : Form} {rest : List Form}
      (starts : firstLineOf form = .ok (some first)) (ends : lastLineOf form = some last)
      (start : lo ≤ first) (first_le : first ≤ last) (after : InRow last rest) :
      InRow lo (form :: rest)

theorem InRow.weaken {lo lo' : Int} {forms : List Form} (hlo : lo' ≤ lo) (h : InRow lo forms) :
    InRow lo' forms := by
  cases h with
  | nil => exact .nil
  | cons starts ends start first_le after =>
    exact .cons starts ends (Int.le_trans hlo start) first_le after

theorem placeOf_eq {form : Form} {first last : Int} (starts : firstLineOf form = .ok (some first))
    (ends : lastLineOf form = some last) : placeOf form = (first, last) := by
  cases form with
  | other v => cases starts
  | record fields body orelse =>
    have hfirst : Fields.line? fields = some first := Except.ok.inj starts
    have hlast : Fields.lastLine? fields = some last := ends
    simp [placeOf, hfirst, hlast]

theorem InRow.places {lo : Int} {forms : List Form} (h : InRow lo forms) {form : Form}
    (hmem : form ∈ forms) :
    ∃ first last, placeOf form = (first, last) ∧ lo ≤ first ∧ first ≤ last := by
  induction h with
  | nil => cases hmem
  | @cons lo first last head rest starts ends start first_le after ih =>
    rcases List.mem_cons.mp hmem with rfl | hmem
    · exact ⟨first, last, placeOf_eq starts ends, start, first_le⟩
    · obtain ⟨first', last', hplace, hlo, hle⟩ := ih hmem
      exact ⟨first', last', hplace, by omega, hle⟩

/-- Records in a row are in order already. -/
theorem InRow.mergeSort_eq {lo : Int} {forms : List Form} (h : InRow lo forms) :
    forms.mergeSort inOrder = forms := by
  apply List.mergeSort_of_pairwise
  induction h with
  | nil => exact .nil
  | @cons lo first last head rest starts ends start first_le after ih =>
    refine List.pairwise_cons.mpr ⟨fun form hmem => ?_, ih⟩
    obtain ⟨first', last', hplace, hlo, hle⟩ := after.places hmem
    rw [inOrder, placeOf_eq starts ends, hplace]
    simp only [Bool.or_eq_true, Bool.and_eq_true, decide_eq_true_eq, beq_iff_eq]
    omega

/-- The lines of records in a row are whole numbers. -/
theorem InRow.placed {lo : Int} {forms : List Form} (h : InRow lo forms) :
    ∀ form ∈ forms, IsPlaced form := by
  induction h with
  | nil => exact nofun
  | @cons lo first last form rest starts ends start first_le after ih =>
    refine List.forall_mem_cons.mpr ⟨?_, ih⟩
    cases form with
    | other v => cases starts
    | record fields body orelse =>
      obtain ⟨v, hv, hfirst⟩ := number?_of_lineField? (Except.ok.inj starts)
      obtain ⟨w, hw, hlast⟩ :=
        number?_of_lineField? (show lineField? fields _ = some last from ends)
      exact ⟨fields, body, orelse, rfl, by simp [Fields.isNumbered, hv, hw, hfirst, hlast]⟩

section Loops

variable {bench : Workbench} {inner : String}

/-- The lines on which a record in a row starts and ends, as the loops read them. -/
theorem InRow.lines {lo : Int} {form : Form} {rest : List Form} (h : InRow lo (form :: rest)) :
    ∃ fields body orelse v w first last, form = .record fields body orelse ∧
      (∀ other, Fields.startOr fields other = v) ∧ (∀ other, Fields.endOr fields other = w) ∧
      v.asInt? = some first ∧ w.asInt? = some last ∧ lo ≤ first ∧ first ≤ last ∧
      InRow last rest := by
  cases h with
  | @cons _ first last _ _ starts ends start first_le after =>
    cases form with
    | other v => cases starts
    | record fields body orelse =>
      obtain ⟨v, hv, hfirst⟩ := number?_of_lineField? (Except.ok.inj starts)
      obtain ⟨w, hw, hlast⟩ :=
        number?_of_lineField? (show lineField? fields _ = some last from ends)
      refine ⟨fields, body, orelse, v, w, first, last, rfl, fun other => ?_, fun other => ?_,
        hfirst, hlast, start, first_le, after⟩
      · rw [Fields.startOr, hv, Option.getD_some]
      · rw [Fields.endOr, hw, Option.getD_some]

theorem settle_of_lines {fields : Fields} {v w : Value} {last : Int}
    (hstart : ∀ other, fields.startOr other = v) (hend : ∀ other, fields.endOr other = w)
    (hw : w.asInt? = some last) (own : List String) :
    settle fields own = addRemarksOf v own >>= fun own => pure (own, .int (last + 1)) := by
  rw [settle, hstart, hend, Value.successor_of_asInt? hw]
  rfl

/-- The loop of the main function is that of a block, with the comments up to the end of the script
after it. -/
theorem writeMain_eq_writeChildren (hbench : bench.comments.InOrder) (inner : String) {lo : Int}
    {forms : List Form} (h : InRow lo forms) (hlo : 0 ≤ lo) :
    writeMain inner (.int (lo + 1)) forms bench =
      (writeChildren inner (.int (lo + 1)) forms >>= fun found =>
        writeComments inner found.2 (.int (bench.comments.lines.length + 1)) >>= fun closing =>
          pure (found.1 ++ closing)) bench := by
  induction forms generalizing lo with
  | nil =>
    have hlast := Value.asInt?_int (bench.comments.lines.length + 1)
    rw [writeMain, ask_bind,
      bind_of_ok (writeCommentsUpTo_of_asInt? hbench inner (by omega) hlast), writeChildren,
      pure_bind, bind_of_ok (writeComments_of_asInt? inner (lo + 1) hlast)]
    rfl
  | cons form rest ih =>
    obtain ⟨fields, body, orelse, v, w, first, last, rfl, hstart, hend, hv, hw, hfirst, hle,
      after⟩ := h.lines
    -- Two records can share a line, so the line of the loop may be past the start of the next one.
    have hnext : max (passTo bench.comments (lo + 1) first) (last + 1) = last + 1 := by
      rw [passTo]
      omega
    have hsettle := settle_of_lines hstart hend hw
    have hbefore := @writeComments_of_asInt? bench v first inner (lo + 1) hv
    rw [writeMain, writeChildren, recordFields, take_ok_eq, pure_bind, pure_bind, bind_assoc,
      hstart, bind_of_ok (writeCommentsUpTo_of_asInt? hbench inner (by omega) hv),
      bind_of_ok hbefore]
    simp only [hsettle, hend, Value.successor_of_asInt? hw, take_ok_eq, Value.larger_int, hnext,
      bind_assoc, pure_bind]
    refine (writeForm_steady _).bind_congr fun own => (addRemarksOf_steady v own).bind_congr
      fun own => ?_
    rw [bind_eq_bind (ih after (by omega))]
    simp only [bind_assoc, pure_bind, List.append_assoc]

/-- The line of a block's loop does not fall behind. -/
theorem writeChildren_line {lo : Int} {forms : List Form} (h : InRow lo forms)
    {lines : List String} {line : Value} {next : Workbench}
    (hlines : writeChildren inner (.int (lo + 1)) forms bench = (.ok (lines, line), next)) :
    ∃ final : Int, line = .int final ∧ lo < final := by
  induction forms generalizing lo lines line bench next with
  | nil =>
    obtain ⟨-, rfl⟩ := Prod.mk.inj (Except.ok.inj (Prod.mk.inj hlines).1)
    exact ⟨lo + 1, rfl, by omega⟩
  | cons form rest ih =>
    obtain ⟨fields, body, orelse, v, w, first, last, rfl, hstart, hend, hv, hw, hfirst, hle,
      after⟩ := h.lines
    rw [writeChildren, recordFields, take_ok_eq, pure_bind] at hlines
    obtain ⟨before, _, -, hlines⟩ := Work.bind_eq_ok hlines
    obtain ⟨own, _, -, hlines⟩ := Work.bind_eq_ok hlines
    rw [settle_of_lines hstart hend hw, bind_assoc] at hlines
    obtain ⟨own, _, -, hlines⟩ := Work.bind_eq_ok hlines
    rw [pure_bind] at hlines
    obtain ⟨⟨others, line'⟩, _, hothers, hlines⟩ := Work.bind_eq_ok hlines
    obtain ⟨-, rfl⟩ := Prod.mk.inj (Except.ok.inj (Prod.mk.inj hlines).1)
    obtain ⟨final, rfl, hfinal⟩ := ih after hothers
    exact ⟨final, rfl, by omega⟩

end Loops

/-- A record that holds instructions and ends on a line. -/
def holding (forms : List Form) (last : Nat) : Form :=
  .record [("end_lineno", .int last)] (.forms forms) .absent

/-- The comments after the last instruction are those up to the end of the script. A script without
lines has no last one, and no comments either. -/
theorem writeComments_holding (bench : Workbench) (inner : String) {line : Int} (hline : 0 < line) :
    ∃ stop, (Fields.endOr [("end_lineno", .int bench.comments.lines.length)]
        (.int line)).successor = .ok stop ∧
      writeComments inner (.int line) stop bench =
        writeComments inner (.int line) (.int (bench.comments.lines.length + 1)) bench := by
  rw [writeComments_of_asInt? inner line (Value.asInt?_int _)]
  by_cases hempty : bench.comments.lines.length = 0
  · refine ⟨.int (line + 1), ?_, ?_⟩
    · rw [hempty]
      rfl
    · rw [writeComments_of_asInt? inner line (Value.asInt?_int _),
        CommentTable.commentsBetween_empty (.inr (by omega)),
        CommentTable.commentsBetween_empty (.inr (by omega))]
  · refine ⟨.int (bench.comments.lines.length + 1), ?_, ?_⟩
    · have hend : Fields.endOr [("end_lineno", .int bench.comments.lines.length)] (.int line) =
          .int bench.comments.lines.length := by
        have hlookup : Fields.number? [("end_lineno", .int bench.comments.lines.length)]
            "end_lineno" = (some (.int bench.comments.lines.length)).filter Value.truth := rfl
        rw [Fields.endOr, hlookup]
        simp [Option.filter, Value.truth, hempty]
      rw [hend, Value.successor_of_asInt? (Value.asInt?_int _)]
    · rw [writeComments_of_asInt? inner line (Value.asInt?_int _)]

/-- What is below the header of a block over instructions in a row is the main function. -/
theorem writeBelow_holding {bench : Workbench} (hbench : bench.comments.InOrder)
    {forms : List Form} (h : InRow 1 forms) {lines : List String}
    (hmain : writeMain (margin bench.level) (.int 1) forms bench = (.ok lines, bench)) :
    writeBelow (holding forms bench.comments.lines.length)
      (fun inner start => writeSuite inner start (.forms forms)) bench = (.ok lines, bench) := by
  have hrow : InRow 0 forms := h.weaken (by omega)
  have hloops := writeMain_eq_writeChildren hbench (margin bench.level) hrow (Int.le_refl 0)
  rw [Int.zero_add, hmain] at hloops
  obtain ⟨⟨own, line⟩, next, hchildren, hclosing⟩ := Work.bind_eq_ok hloops.symm
  obtain rfl := (writeChildren_steady _ _ _).eq_of_ok hchildren
  obtain ⟨final, rfl, hfinal⟩ := writeChildren_line hrow (by rwa [Int.zero_add])
  obtain ⟨stop, hstop, hcomments⟩ := writeComments_holding next (margin next.level) hfinal
  have hsuite : writeSuite (margin next.level) (.int 1) (.forms forms) next =
      (.ok (own, .int final), next) := by
    rw [writeSuite]
    exact hchildren
  have hstart : (Fields.startOr [("end_lineno", .int next.comments.lines.length)]
      (.int 0)).successor = .ok (.int 1) := rfl
  rw [writeBelow, indent_bind, holding, recordFields, bind_of_ok (take_ok _ _), hstart,
    bind_of_ok (take_ok _ _), bind_of_ok hsuite]
  dsimp only
  rw [hstop, bind_of_ok (take_ok _ _), ← hclosing]
  exact bind_eq_bind hcomments _

/-- The main function and a block are made alike. Where a program is made from instructions in a
row, a workbench with the comments of the script makes, from a record that holds the instructions
and ends with the script, the header and exactly the lines between the header and the end of the
program: those that the loop of the main function writes. -/
theorem main_is_block {bench : Workbench} {script program : String} {forms : List Form}
    (hlevel : bench.level = 0) (htable : CommentTable.ofScript script = .ok bench.comments)
    (hrow : InRow 1 forms) (hmade : generate bench.settings forms script = .ok program) :
    ∃ opening lines, prelude bench.settings forms = .ok opening ∧
      arranged forms = .ok forms ∧
      writeMain (margin 1) (.int 1) forms bench.deeper = (.ok lines, bench.deeper) ∧
      program = "\n".intercalate (opening ++ ["async def main():"] ++ lines ++
        ["", "runloop.run(main())"]) ∧
      bench.run (.block "async def main():" (holding forms bench.comments.lines.length) "body") =
        (.ok (.lines ("async def main():" :: lines)), bench) ∧
      (areNumbered forms = true → ∃ body, bodyLines bench.scene forms = .ok body ∧
        lines = body.map (Line.render 1)) := by
  obtain ⟨settings, level, table⟩ := bench
  obtain rfl : level = 0 := hlevel
  have horder : table.InOrder := CommentTable.ofScript_inOrder htable
  have harranged : arranged forms = .ok forms := by
    rw [arranged_eq hrow.placed, hrow.mergeSort_eq]
  obtain ⟨table', opening, htable', hopening, hbody, -⟩ := writeProgram_of_ok hmade
  obtain rfl := Except.ok.inj (htable.symm.trans htable')
  rw [writeBody, indent_bind, harranged, bind_of_ok (take_ok _ _)] at hbody
  obtain ⟨lines, next, hmain, hassembled⟩ := Work.bind_eq_ok hbody
  obtain rfl := (writeMain_steady _ _ _).eq_of_ok hmain
  obtain rfl := Except.ok.inj (Prod.mk.inj hassembled).1
  refine ⟨opening, lines, hopening, harranged, hmain, rfl, ?_, fun hnumbered => ?_⟩
  · have hbelow := writeBelow_holding horder hrow hmain
    have hblock : writeBlock "async def main():" (holding forms table.lines.length)
        (fun inner start => writeSuite inner start (.forms forms)) ⟨settings, 0, table⟩ =
        (.ok ("async def main():" :: lines), ⟨settings, 0, table⟩) :=
      @inside_of_ok _ _ _ _ ⟨settings, 0, table⟩ _ hbelow
    exact bind_of_ok hblock
  · have hlines :=
      hmain.symm.trans (@writeMain_eq ⟨settings, 1, table⟩ horder forms hnumbered 1 (by omega))
    cases hbody : mainLines (Workbench.scene ⟨settings, 1, table⟩) 1 forms with
    | error stop =>
      rw [hbody] at hlines
      cases (Prod.mk.inj hlines).1
    | ok body =>
      rw [hbody] at hlines
      refine ⟨body, ?_, Except.ok.inj (Prod.mk.inj hlines).1⟩
      rw [bodyLines, hrow.mergeSort_eq]
      exact hbody

/-- A loop and two calls on one line, with comments before, within and after them. -/
def sharedScript : String :=
  "# top\nwhile x:  # loop\n    # in\n    go()\nstop(); halt()  # both\n# end\n"

def sharedTable : CommentTable :=
  ⟨[1, 3, 6], [(2, ["# loop"]), (5, ["# both"])],
    ["# top", "while x:  # loop", "    # in", "    go()", "stop(); halt()  # both", "# end"]⟩

def sharedInstrs : List Instruction :=
  [.block (.whileLoop "x") [.step (.call "go" []) ⟨false, some (.of 4 4)⟩] ⟨false, some (.of 2 4)⟩,
    .step (.call "stop" []) ⟨false, some (.of 5 5)⟩,
    .step (.call "halt" []) ⟨false, some (.of 5 5)⟩]

theorem main_is_block_sharedInstrs :
    let bench : Workbench := ⟨.standard, 0, sharedTable⟩
    let forms := formsOf sharedInstrs
    bench.level = 0 ∧ CommentTable.ofScript sharedScript = .ok bench.comments ∧ InRow 1 forms ∧
      ∃ program, generate bench.settings forms sharedScript = .ok program ∧
        ∃ opening lines, prelude bench.settings forms = .ok opening ∧
          arranged forms = .ok forms ∧
          writeMain (margin 1) (.int 1) forms bench.deeper = (.ok lines, bench.deeper) ∧
          program = "\n".intercalate (opening ++ ["async def main():"] ++ lines ++
            ["", "runloop.run(main())"]) ∧
          bench.run
              (.block "async def main():" (holding forms bench.comments.lines.length) "body") =
            (.ok (.lines ("async def main():" :: lines)), bench) ∧
          (areNumbered forms = true → ∃ body, bodyLines bench.scene forms = .ok body ∧
            lines = body.map (Line.render 1)) := by
  intro bench forms
  have htable : CommentTable.ofScript sharedScript = .ok bench.comments := rfl
  have hrow : InRow 1 forms :=
    .cons rfl rfl (by decide) (by decide)
      (.cons rfl rfl (by decide) (by decide) (.cons rfl rfl (by decide) (by decide) .nil))
  have hlines :
      (mainLines ⟨.standard, sharedTable⟩ 1 forms).toOption.any (fun _ => true) = true := by
    decide +kernel
  obtain ⟨body, hbody, -⟩ := exists_of_any hlines
  obtain ⟨opening, hopening⟩ := prelude_ok bench.settings sharedInstrs
  have hmade : generate bench.settings forms sharedScript = .ok (programText opening body) := by
    rw [generate_eq bench.settings (areNumbered_formsOf sharedInstrs), htable, hopening]
    dsimp only
    rw [bodyLines, hrow.mergeSort_eq, hbody]
  exact ⟨rfl, htable, hrow, _, hmade, main_is_block rfl htable hrow hmade⟩

end HubScript.Hub
