import HubScript.Proofs.ReadableLines

/-!
# Blocks and their bodies

A block without a line of code in it is not well formed on the hub. The header of an instruction is
written whatever becomes of the instructions inside it, so a block is empty exactly if none of these
has a line of code: texts that stand alone and readings of the infrared seeker have none, and
statements that are passed over are no instructions at all. The same holds of the main function.
-/
namespace HubScript

/-- Whether every line that opens a block is followed by a line of code that stands deeper. -/
def blocksFilled : List CodeLine → Bool
  | [] => true
  | line :: rest =>
    (!line.opens || rest.head?.any (line.depth < ·.depth)) && blocksFilled rest

/-- The parts of an instruction that holds others have lines of code, as far as it has them. -/
def Instruction.HasBodies (i : Instruction) : Prop :=
  i.isCompound = true → i.body.any speaks = true ∧ (i.orelse ≠ [] → i.orelse.any speaks = true)

section Outline

variable {settings : Hub.Settings} {depth : Nat} {instrs : List Instruction}
  {after : List CodeLine}

theorem outline_of_silent {i : Instruction} (h : i.speaks = false) :
    i.outline settings depth = [] := by
  cases i with
  | step act info => rw [Instruction.outline, Instruction.texts_of_silent h, List.map_nil]
  | block | branch => cases h

theorem outlineAll_of_silent (h : instrs.any Instruction.speaks = false) :
    outlineAll settings depth instrs = [] := by
  induction instrs with
  | nil => rfl
  | cons i rest ih =>
    rw [List.any_cons, Bool.or_eq_false_iff] at h
    rw [outlineAll, outline_of_silent h.1, ih h.2, List.append_nil]

theorem outline_of_speaks {i : Instruction} (hspeaks : i.speaks = true)
    (hwritten : i.IsWritten settings) :
    ∃ line others, i.outline settings depth = line :: others ∧ line.depth = depth := by
  obtain ⟨text, htext⟩ := Instruction.texts_of_speaks hspeaks hwritten
  cases hcompound : i.isCompound with
  | true =>
    rw [Instruction.outline_of_compound settings depth hcompound, htext]
    exact ⟨_, _, rfl, rfl⟩
  | false =>
    cases i with
    | step act info =>
      rw [Instruction.outline, htext]
      exact ⟨_, _, rfl, rfl⟩
    | block | branch => cases hcompound

/-- A forest with a line of code starts with one that is no deeper than the forest. -/
theorem outlineAll_of_speaks (depth : Nat)
    (hwritten : ∀ i ∈ nestedAll instrs, i.IsWritten settings)
    (h : instrs.any Instruction.speaks = true) :
    ∃ line others, outlineAll settings depth instrs = line :: others ∧ line.depth = depth := by
  induction instrs with
  | nil => cases h
  | cons i rest ih =>
    obtain ⟨hi, -, -, hrest⟩ := forall_mem_nestedAll_cons.mp hwritten
    rw [outlineAll]
    cases hspeaks : i.speaks with
    | true =>
      obtain ⟨line, others, hline, hdepth⟩ := outline_of_speaks hspeaks hi
      exact ⟨line, others ++ outlineAll settings depth rest, by rw [hline]; rfl, hdepth⟩
    | false =>
      rw [List.any_cons, hspeaks, Bool.false_or] at h
      rw [outline_of_silent hspeaks, List.nil_append]
      exact ih hrest h

/-- The first line that follows, if there is one, is no deeper. -/
def StartsBy (depth : Nat) (after : List CodeLine) : Prop :=
  ∀ line ∈ after.head?, line.depth ≤ depth

theorem StartsBy.deeper (h : StartsBy depth after) : StartsBy (depth + 1) after :=
  fun line hline => Nat.le_succ_of_le (h line hline)

/-- A line that opens a block with a forest in it: the block is filled if the forest has a line of
code. What follows the block cannot fill it. -/
theorem filled_block {text : String} (hwritten : ∀ i ∈ nestedAll instrs, i.IsWritten settings)
    (hafter : StartsBy depth after) :
    blocksFilled (⟨true, depth, text⟩ :: (outlineAll settings (depth + 1) instrs ++ after)) = true ↔
      instrs.any Instruction.speaks = true ∧
        blocksFilled (outlineAll settings (depth + 1) instrs ++ after) = true := by
  rw [blocksFilled, Bool.and_eq_true, Bool.not_true, Bool.false_or]
  refine and_congr_left fun _ => ?_
  cases hspeaks : instrs.any Instruction.speaks with
  | true =>
    obtain ⟨line, others, hline, hdepth⟩ := outlineAll_of_speaks (depth + 1) hwritten hspeaks
    simp [hline, hdepth]
  | false =>
    rw [outlineAll_of_silent hspeaks, List.nil_append]
    cases after with
    | nil => simp
    | cons line others =>
      have hline : line.depth ≤ depth := hafter line rfl
      simpa using hline

theorem startsBy_outlineAll (hwritten : ∀ i ∈ nestedAll instrs, i.IsWritten settings)
    (hafter : StartsBy depth after) :
    StartsBy depth (outlineAll settings depth instrs ++ after) := by
  cases hspeaks : instrs.any Instruction.speaks with
  | true =>
    obtain ⟨line, others, hline, hdepth⟩ := outlineAll_of_speaks depth hwritten hspeaks
    simp [StartsBy, hline, hdepth]
  | false => rwa [outlineAll_of_silent hspeaks, List.nil_append]

theorem startsBy_elseOutline (hafter : StartsBy depth after) :
    StartsBy depth (elseOutline settings depth instrs ++ after) := by
  unfold elseOutline
  split
  · exact hafter
  · simp [StartsBy]

/-- The lines of a forest, whatever stands before and after it, have filled blocks if its
instructions have bodies. -/
def FilledWith (settings : Hub.Settings) (instrs : List Instruction) : Prop :=
  ∀ depth after, StartsBy depth after →
    (blocksFilled (outlineAll settings depth instrs ++ after) = true ↔
      (∀ j ∈ nestedAll instrs, j.HasBodies) ∧ blocksFilled after = true)

theorem filled_elseOutline (hwritten : ∀ i ∈ nestedAll instrs, i.IsWritten settings)
    (hfilled : FilledWith settings instrs) (hafter : StartsBy depth after) :
    blocksFilled (elseOutline settings depth instrs ++ after) = true ↔
      (instrs ≠ [] → instrs.any Instruction.speaks = true) ∧
        (∀ j ∈ nestedAll instrs, j.HasBodies) ∧ blocksFilled after = true := by
  cases instrs with
  | nil => simp [elseOutline, nestedAll]
  | cons first rest =>
    rw [elseOutline, List.isEmpty_cons, if_neg Bool.false_ne_true, List.cons_append,
      filled_block hwritten hafter, hfilled _ _ hafter.deeper]
    simp

theorem filled_outline_of_compound {i : Instruction} (hcompound : i.isCompound = true)
    (hwritten : ∀ j ∈ nestedAll [i], j.IsWritten settings)
    (hbody : FilledWith settings i.body) (helse : FilledWith settings i.orelse)
    (hafter : StartsBy depth after) :
    blocksFilled (i.outline settings depth ++ after) = true ↔
      (∀ j ∈ nestedAll [i], j.HasBodies) ∧ blocksFilled after = true := by
  obtain ⟨-, hbodyWritten, helseWritten, -⟩ := forall_mem_nestedAll_cons.mp hwritten
  obtain ⟨header, -, htexts, -⟩ := i.header_eq settings hcompound
  have hother : StartsBy depth (elseOutline settings depth i.orelse ++ after) :=
    startsBy_elseOutline hafter
  rw [Instruction.outline_of_compound settings depth hcompound, htexts, List.map_singleton,
    List.singleton_append, List.cons_append, List.append_assoc, filled_block hbodyWritten hother,
    hbody _ _ hother.deeper, filled_elseOutline helseWritten helse hafter,
    forall_mem_nestedAll_cons]
  have hself : i.HasBodies ↔ i.body.any Instruction.speaks = true ∧
      (i.orelse ≠ [] → i.orelse.any Instruction.speaks = true) := forall_prop_of_true hcompound
  rw [hself]
  constructor
  · rintro ⟨hspeaks, hinner, hotherSpeaks, hotherInner, hrest⟩
    exact ⟨⟨⟨hspeaks, hotherSpeaks⟩, hinner, hotherInner, by simp [nestedAll]⟩, hrest⟩
  · rintro ⟨⟨⟨hspeaks, hotherSpeaks⟩, hinner, hotherInner, -⟩, hrest⟩
    exact ⟨hspeaks, hinner, hotherSpeaks, hotherInner, hrest⟩

theorem filledWith (hwritten : ∀ i ∈ nestedAll instrs, i.IsWritten settings) :
    FilledWith settings instrs := by
  -- The depth and the lines that follow are part of what is proved of each instruction: those after
  -- a body are the other part of its branch, and those after a forest end all blocks inside it.
  refine Instruction.forest_induction
    (P := fun i => (∀ j ∈ nestedAll [i], j.IsWritten settings) → ∀ depth after,
      StartsBy depth after → (blocksFilled (i.outline settings depth ++ after) = true ↔
        (∀ j ∈ nestedAll [i], j.HasBodies) ∧ blocksFilled after = true))
    (Q := fun instrs => (∀ i ∈ nestedAll instrs, i.IsWritten settings) →
      FilledWith settings instrs) ?step ?compound ?nil ?cons instrs hwritten
  case step =>
    intro act info _ depth after _
    have hline (texts : List String) :
        blocksFilled (texts.map (CodeLine.mk false depth) ++ after) = blocksFilled after := by
      induction texts with
      | nil => rfl
      | cons text texts ih => simpa [blocksFilled] using ih
    rw [Instruction.outline, hline]
    simp [nestedAll, Instruction.nested, Instruction.HasBodies, Instruction.isCompound]
  case compound =>
    intro i hcompound hbody helse hi depth after hafter
    obtain ⟨-, hbodyWritten, helseWritten, -⟩ := forall_mem_nestedAll_cons.mp hi
    exact filled_outline_of_compound hcompound hi (hbody hbodyWritten) (helse helseWritten) hafter
  case nil =>
    intro _ depth after _
    simp [outlineAll, nestedAll]
  case cons =>
    intro i rest hi hrest hwritten depth after hafter
    simp only [nestedAll, List.mem_append, or_imp, forall_and] at hwritten
    have hfirst : ∀ j ∈ nestedAll [i], j.IsWritten settings := by
      simpa [nestedAll] using hwritten.1
    rw [outlineAll, List.append_assoc,
      hi hfirst depth _ (startsBy_outlineAll hwritten.2 hafter),
      hrest hwritten.2 depth after hafter]
    simp only [nestedAll, List.append_nil, List.mem_append, or_imp, forall_and, and_assoc]

/-- The blocks of a program are filled if there are lines of code in the main function and in the
parts of every instruction that holds others. -/
theorem filled_programOutline (hwritten : ∀ i ∈ nestedAll instrs, i.IsWritten settings) :
    blocksFilled (programOutline settings instrs) = true ↔
      instrs.any Instruction.speaks = true ∧ ∀ i ∈ nestedAll instrs, i.HasBodies := by
  have hordered : ∀ i ∈ nestedAll (Hub.inProgramOrder instrs), i.IsWritten settings := fun i hi =>
    hwritten i (Hub.mem_nestedAll_inProgramOrder.mp hi)
  have hclosing (depth : Nat) : StartsBy depth [⟨false, 0, "runloop.run(main())"⟩] := by
    simp [StartsBy]
  have hspeaks : (Hub.inProgramOrder instrs).any Instruction.speaks =
      instrs.any Instruction.speaks := by
    rw [Bool.eq_iff_iff]
    simp [Hub.inProgramOrder]
  rw [programOutline, filled_block hordered (hclosing 0), filledWith hordered _ _ (hclosing 1),
    hspeaks]
  simp only [Hub.mem_nestedAll_inProgramOrder, and_congr_right_iff, and_iff_left_iff_imp]
  exact fun _ _ => rfl

end Outline

/-- The lines of a program that is made have filled blocks exactly if its main function has a line
of code and so has each part of each instruction that holds others. Lines of code are those of the
outline, without what stands for comments. They are also the lines that are neither empty nor
comments in the text of the program, four blanks deeper with every step, unless the script has other
line ends than line feeds and something else may stand for a comment. -/
theorem blocks_filled_iff {script program : String} {instrs : List Instruction}
    (h : answerGenerate script = .accepted instrs program) :
    ∃ opening body, Assembled instrs program opening body ∧
      (Undivided (Text.feedLines script.toList) →
        ((Hub.wholeLines body).map (Hub.Line.render 0)).filterMap (indentation? ·.toList) =
          (programOutline .standard instrs).map (4 * ·.depth)) ∧
      (blocksFilled (programOutline .standard instrs) = true ↔
        instrs.any Instruction.speaks = true ∧ ∀ i ∈ nestedAll instrs, i.HasBodies) := by
  obtain ⟨opening, body, hprogram, hread⟩ := read_of_accepted h
  exact ⟨opening, body, hprogram, hread, filled_programOutline hprogram.written⟩

/-- A function with a text and a branch with both parts, and a comment, in it. -/
def rampScript : String :=
  "def go(n):\n    'ramp'\n    if n > 2:\n        # ahead\n        motor_a.start(50)\n" ++
    "    else:\n        motor_a.stop()\n"

theorem blocks_filled_rampScript :
    ∃ instrs program, answerGenerate rampScript = .accepted instrs program ∧
      ∃ opening body, Assembled instrs program opening body ∧
        ((Hub.wholeLines body).map (Hub.Line.render 0)).filterMap (indentation? ·.toList) =
          [0, 4, 8, 12, 8, 12, 0] ∧
        blocksFilled (programOutline .standard instrs) = true ∧
        instrs.any Instruction.speaks = true ∧ ∀ i ∈ nestedAll instrs, i.HasBodies := by
  have hanswer : (answerGenerate rampScript).any
      (fun instrs _ => blocksFilled (programOutline .standard instrs) &&
        (programOutline .standard instrs).map (4 * ·.depth) == [0, 4, 8, 12, 8, 12, 0]) = true := by
    decide +kernel
  have hplain : ∀ line ∈ Text.feedLines rampScript.toList, (cuts line).length = 1 := by
    decide +kernel
  obtain ⟨instrs, program, haccepted, hfacts⟩ := accepted_of_any hanswer
  obtain ⟨hfilled, hdepths⟩ := Bool.and_eq_true_iff.mp hfacts
  obtain ⟨opening, body, hprogram, hread, hiff⟩ := blocks_filled_iff haccepted
  exact ⟨instrs, program, haccepted, opening, body, hprogram,
    (hread hplain).trans (eq_of_beq hdepths), hfilled, hiff.mp hfilled⟩

/-- A loop in which nothing is done. -/
def idleScript : String := "while True:\n    pass\n"

/-- The loop is written without a body. -/
theorem blocks_empty_idleScript :
    ∃ instrs program, answerGenerate idleScript = .accepted instrs program ∧
      (programOutline .standard instrs).map CodeLine.seen =
        [(0, "async def main():"), (1, "while True:"), (0, "runloop.run(main())")] ∧
      blocksFilled (programOutline .standard instrs) = false := by
  have hanswer : (answerGenerate idleScript).any (fun instrs _ =>
      (programOutline .standard instrs).map CodeLine.seen ==
        [(0, "async def main():"), (1, "while True:"), (0, "runloop.run(main())")] &&
      !blocksFilled (programOutline .standard instrs)) = true := by
    decide +kernel
  obtain ⟨instrs, program, haccepted, htests⟩ := accepted_of_any hanswer
  obtain ⟨hcode, hempty⟩ := Bool.and_eq_true_iff.mp htests
  exact ⟨instrs, program, haccepted, eq_of_beq hcode, by simpa using hempty⟩

end HubScript
