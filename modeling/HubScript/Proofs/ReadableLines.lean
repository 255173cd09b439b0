import HubScript.Proofs.AnnouncedAwaits
import HubScript.Proofs.CommentCollection

/-!
# Lines as they are read

On the hub a line counts as code unless it is empty or a comment, and the blanks before it say how
deep it stands. Read in this way, the lines of a program are those of its outline. Lines of code
start neither with a blank nor with the mark of a comment, because names are words; and comments
start with their mark as long as the lines of the script end at line feeds only.
-/
namespace HubScript

open Text

/-- How many blanks stand before a line, unless it is empty or a comment. -/
def indentation? : List Char → Option Nat
  | [] => none
  | c :: rest =>
    if c == ' ' then (indentation? rest).map (· + 1)
    else if c == '#' then none
    else some 0

/-- Whether a text starts with neither a blank nor the mark of a comment. -/
def startsCode (text : String) : Bool := text.toList.head?.any fun c => c != ' ' && c != '#'

section Starts

variable {text : String}

theorem indentation?_blanks (n : Nat) (cs : List Char) :
    indentation? (List.replicate n ' ' ++ cs) = (indentation? cs).map (· + n) := by
  induction n with
  | zero => simp
  | succ n ih =>
    rw [List.replicate_succ, List.cons_append, indentation?, if_pos (beq_self_eq_true _), ih,
      Option.map_map]
    rfl

theorem indentation?_of_mark {cs : List Char} (h : cs.head? = some '#') (rest : List Char) :
    indentation? (cs ++ rest) = none := by
  obtain ⟨others, rfl⟩ := List.head?_eq_some_iff.mp h
  rfl

theorem startsCode_iff :
    startsCode text = true ↔ ∃ c rest, text.toList = c :: rest ∧ c ≠ ' ' ∧ c ≠ '#' := by
  rw [startsCode]
  cases text.toList with
  | nil => simp
  | cons c rest => simp

theorem indentation?_of_startsCode (h : startsCode text = true) (rest : List Char) :
    indentation? (text.toList ++ rest) = some 0 := by
  obtain ⟨c, others, hcs, hblank, hmark⟩ := startsCode_iff.mp h
  rw [hcs, List.cons_append, indentation?, if_neg (by simpa using hblank),
    if_neg (by simpa using hmark)]

theorem startsCode_append (h : startsCode text = true) (rest : String) :
    startsCode (text ++ rest) = true := by
  obtain ⟨c, others, hcs, hfirst⟩ := startsCode_iff.mp h
  rw [startsCode_iff, String.toList_append, hcs]
  exact ⟨c, others ++ rest.toList, rfl, hfirst⟩

theorem startsCode_of_isWord (h : isWord text = true) : startsCode text = true := by
  rw [isWord, Bool.and_eq_true, Bool.not_eq_true', List.isEmpty_eq_false_iff] at h
  obtain ⟨c, others, hcs⟩ := List.exists_cons_of_ne_nil h.1
  have hpart : Numeral.isWordPart c = true := by
    rw [hcs, List.all_cons, Bool.and_eq_true] at h
    exact h.2.1
  refine startsCode_iff.mpr ⟨c, others, hcs, ?_, ?_⟩
  · rintro rfl
    exact absurd hpart (by decide)
  · rintro rfl
    exact absurd hpart (by decide)

end Starts

section Code

variable {settings : Hub.Settings}

/-- The line of a step starts with a word of the hub program or, in an assignment, with a name. -/
theorem Step.wordings_start {act : Step} {wordings : List Wording}
    (hname : ∀ target value, act = .assign target value → isWord target = true)
    (h : act.wordings settings = .ok wordings) :
    ∀ wording ∈ wordings, startsCode wording.text = true := by
  have hfirst (stretch : Stretch) (rest : Wording) (h : startsCode stretch.text = true) :
      ∀ wording ∈ [stretch :: rest], startsCode (Wording.text wording) = true :=
    List.forall_mem_singleton.mpr (startsCode_append h _)
  cases act with
  | startMotor motor speed =>
    obtain ⟨inner, -, h⟩ := bind_eq_ok.mp h
    obtain rfl := Except.ok.inj h
    exact hfirst (.word "motor.run(") _ rfl
  | stopMotor motor =>
    obtain rfl := Except.ok.inj h
    exact hfirst (.word "motor.stop(") _ rfl
  | wait seconds =>
    cases seconds with
    | known v =>
      obtain ⟨ms, -, h⟩ := bind_eq_ok.mp h
      obtain rfl := Except.ok.inj h
      exact hfirst (.word "await runloop.sleep_ms(") _ rfl
    | text expression =>
      obtain rfl := Except.ok.inj h
      exact hfirst (.word "await runloop.sleep_ms(int(") _ rfl
  | print content =>
    obtain ⟨text, -, h⟩ := bind_eq_ok.mp h
    obtain rfl := Except.ok.inj h
    exact hfirst (.word "print(") _ rfl
  | assign target value =>
    cases value with
    | known v => cases h
    | text expression =>
      obtain rfl := Except.ok.inj h
      exact hfirst (.taken target) _ (startsCode_of_isWord (hname target _ rfl))
  | leaveLoop =>
    obtain rfl := Except.ok.inj h
    exact hfirst (.word "break") _ rfl
  | giveBack value =>
    by_cases hnone : value = .known .none
    · subst hnone
      obtain rfl := Except.ok.inj h
      exact hfirst (.word "return") _ rfl
    · rw [Step.wordings] at h
      · obtain ⟨text, -, h⟩ := bind_eq_ok.mp h
        obtain rfl := Except.ok.inj h
        exact hfirst (.word "return ") _ rfl
      · exact hnone
  | call function arguments =>
    obtain ⟨items, -, h⟩ := bind_eq_ok.mp h
    obtain rfl := Except.ok.inj h
    exact hfirst (.word "await ") _ rfl
  | comment | irDirection | irStrength =>
    obtain rfl := Except.ok.inj h
    exact List.forall_mem_nil _

theorem Instruction.texts_start {i : Instruction}
    (hname : ∀ target value info, i = .step (.assign target value) info → isWord target = true) :
    ∀ text ∈ i.texts settings, startsCode text = true := by
  rw [← i.map_text_ownWordings settings, List.forall_mem_map]
  cases i with
  | step act info =>
    rw [ownWordings]
    cases hwordings : act.wordings settings with
    | error failure => exact List.forall_mem_nil _
    | ok wordings =>
      exact Step.wordings_start (fun target value hact => hname target value info (hact ▸ rfl))
        hwordings
  | block head body info =>
    refine List.forall_mem_singleton.mpr ?_
    cases head with
    | forEach target source => exact startsCode_append (by rfl : startsCode "for " = true) _
    | whileLoop condition => exact startsCode_append (by rfl : startsCode "while " = true) _
    | define name params => exact startsCode_append (by rfl : startsCode "async def " = true) _
  | branch condition body orelse info =>
    exact List.forall_mem_singleton.mpr (startsCode_append (by rfl : startsCode "if " = true) _)

/-- The lines of the outline of a program start like code if the script has been read. -/
theorem programOutline_start {script : String} {instrs : List Instruction}
    (hread : readInstructions Current.dialect script = .ok instrs) :
    ∀ line ∈ programOutline settings instrs, startsCode line.text = true := by
  intro line hline
  rw [programOutline, List.mem_cons, List.mem_append, List.mem_singleton] at hline
  rcases hline with rfl | hline | rfl
  · rfl
  · rcases outlineAll_source hline with helse | ⟨i, hi, htext⟩
    · rw [helse]
      rfl
    · refine Instruction.texts_start (fun target value info heq => ?_) line.text htext
      subst heq
      obtain ⟨stmts, -, s, -, hworded, horders⟩ :=
        orders_of_read hread (Hub.mem_nestedAll_inProgramOrder.mp hi)
      cases horders with
      | assign operand assigned =>
        subst assigned
        simp only [Stmt.isWorded, Expr.allWorded, Expr.isWorded, Bool.and_eq_true] at hworded
        exact hworded.1.1
  · rfl

end Code

section Comments

variable {script : String} {table : CommentTable}

theorem isBlank_of_isLineEnd {c : Char} (h : isLineEnd c = true) : isBlank c = true := by
  have hcode {n : Nat} (hn : c.toNat = n) (hblank : isBlank (Char.ofNat n) = true) :
      isBlank c = true := by
    rwa [← Char.ofNat_toNat c, hn]
  simp only [isLineEnd, Bool.or_eq_true, beq_iff_eq, or_assoc] at h
  rcases h with rfl | rfl | hn | hn | hn | hn | hn | hn | hn | hn
  · decide
  · decide
  all_goals exact hcode hn (by decide +kernel)

theorem blank_of_splitLinesFrom {returned : Bool} {current cs : List Char}
    (h : splitLinesFrom returned current cs = []) : current = [] ∧ ∀ c ∈ cs, isBlank c = true := by
  fun_induction splitLinesFrom returned current cs with
  | case1 => exact ⟨rfl, List.forall_mem_nil _⟩
  | case2 => cases h
  | case3 returned current c rest hfeed ih =>
    obtain ⟨hcurrent, hrest⟩ := ih h
    have hc : c = '\n' := eq_of_beq (Bool.and_eq_true_iff.mp hfeed).2
    refine ⟨hcurrent, List.forall_mem_cons.mpr ⟨?_, hrest⟩⟩
    rw [hc]
    decide
  | case4 => cases h
  | case5 returned current c rest _ _ ih => cases (ih h).1

theorem endsOnce_of_splitLinesFrom {current line : List Char}
    (h : (splitLinesFrom false current line).length = 1) : endsOnce line = true := by
  induction line generalizing current with
  | nil => rfl
  | cons c rest ih =>
    rw [splitLinesFrom, Bool.false_and, if_neg Bool.false_ne_true] at h
    rw [endsOnce]
    cases hend : isLineEnd c with
    | true =>
      rw [if_pos hend, List.length_cons, Nat.add_eq_right, List.length_eq_zero_iff] at h
      have hrest := (blank_of_splitLinesFrom h).2
      rw [List.dropWhile_cons_of_neg (by simp [hend]), List.all_cons, Bool.and_eq_true,
        List.all_eq_true]
      exact ⟨isBlank_of_isLineEnd hend, hrest⟩
    | false =>
      rw [hend, if_neg Bool.false_ne_true] at h
      rw [List.dropWhile_cons_of_pos (by simp [hend])]
      exact ih h

/-- What stands for a comment that stands alone starts with the mark of a comment, if the lines of
the script end at line feeds only. -/
theorem stripped_mark (h : CommentTable.ofScript script = .ok table)
    (hplain : Undivided (feedLines script.toList)) :
    ∀ l ∈ table.alone, (Hub.stripped table l).toList.head? = some '#' := by
  intro l hl
  obtain ⟨comments, hcomments, rfl⟩ := ofScript_eq_ok h
  obtain ⟨comment, hmem, halone, rfl⟩ := CommentTable.mem_alone_iff.mp hl
  obtain ⟨-, -, hmark, line, hline, htrim⟩ := comment_of_alone hcomments hmem halone
  -- no line is divided, so that what has the number of the line is the first part of the line
  rcases numbered_part (feedLinesFrom_ne_nil [] script.toList) hline with
    ⟨-, -, hpart⟩ | ⟨hdivided, -⟩
  · have honce : endsOnce line = true :=
      endsOnce_of_splitLinesFrom (hplain line (List.mem_of_getElem? hline))
    rw [Hub.stripped, String.toList_ofList, lineText_ofComments script comments hpart]
    refine head_of_trim ?_
    rw [(trim_first_part_iff line).mpr honce, htrim]
    exact head_trim_of_mark hmark
  · exact absurd (fun line hline => hplain line (List.mem_of_mem_take hline)) hdivided

theorem remarks_mark (h : CommentTable.ofScript script = .ok table) {l : Int}
    {remarks : List String} (hremarks : table.inline? l = some remarks) :
    ∀ text ∈ remarks, text.toList.head? = some '#' := by
  intro text htext
  obtain ⟨comments, hcomments, rfl⟩ := ofScript_eq_ok h
  obtain ⟨entry, hentry, rfl⟩ := Option.map_eq_some_iff.mp hremarks
  have htexts := (CommentTable.grouped_foldl _).texts _ _ (List.mem_of_find?_eq_some hentry)
  rw [htexts] at htext
  obtain ⟨comment, hmem, rfl⟩ := List.mem_map.mp htext
  have hcomment := List.mem_of_mem_filter (List.mem_of_mem_filter hmem)
  obtain ⟨line, -, hofLine⟩ := exists_ofLine hcomments hcomment
  obtain ⟨cs, hmark, hfound⟩ :=
    hofLine.marked comment (List.mem_filter.mpr ⟨hcomment, beq_self_eq_true _⟩)
  rw [hfound, Comment.found, String.toList_ofList]
  exact hmark

end Comments

section Lines

open Hub

variable {script : String} {table : CommentTable} {line : Line}

theorem toList_margin (depth : Nat) :
    (margin (0 + depth)).toList = List.replicate (4 * depth) ' ' := by
  rw [margin, String.toList_ofList, Int.zero_add, Int.toNat_natCast]

/-- Remarks alone are no code. -/
theorem indentation?_remarks {remarks : List String}
    (h : ∀ text ∈ remarks, text.toList.head? = some '#') :
    indentation? (String.join (remarks.map ("  " ++ ·))).toList = none := by
  cases remarks with
  | nil => rfl
  | cons text rest =>
    have hmark := h text List.mem_cons_self
    have hjoin : (String.join ((text :: rest).map ("  " ++ ·))).toList =
        List.replicate 2 ' ' ++ (text.toList ++ (String.join (rest.map ("  " ++ ·))).toList) := by
      simp [String.join_cons]
    rw [hjoin, indentation?_blanks, indentation?_of_mark hmark]
    rfl

/-- A line of a program is read as what it was made as. -/
theorem indentation?_render (htable : CommentTable.ofScript script = .ok table)
    (hplain : Undivided (feedLines script.toList)) (hline : line.Annotated table)
    (hcode : ∀ depth text, line.content = .code depth text → startsCode text = true) :
    indentation? (line.render 0).toList = (line.codeAt 0).map (4 * ·.1) := by
  rcases line with ⟨content, remarks⟩
  cases content with
  | code depth text =>
    rw [Line.render, String.toList_append, String.toList_append, toList_margin, List.append_assoc,
      indentation?_blanks, indentation?_of_startsCode (hcode depth text rfl)]
    simp [Line.codeAt]
  | comment depth text =>
    obtain ⟨l, hl, rfl⟩ := hline.comment depth text rfl
    rw [Line.render, String.toList_append, String.toList_append, toList_margin, List.append_assoc,
      indentation?_blanks, indentation?_of_mark (stripped_mark htable hplain l hl)]
    rfl
  | separator =>
    obtain ⟨parts, rfl, hinline⟩ := hline.remarks
    have hmarks : ∀ text ∈ parts.flatten, text.toList.head? = some '#' := by
      intro text htext
      obtain ⟨part, hpart, htext⟩ := List.mem_flatten.mp htext
      obtain ⟨l, hl⟩ := hinline part hpart
      exact remarks_mark htable hl text htext
    rw [Line.render, String.empty_append, indentation?_remarks hmarks]
    rfl

/-- The lines of the main function of a program that are neither empty nor comments are those of its
outline, each with four blanks for every step it stands deeper, if the lines of the script end at
line feeds only. -/
theorem read_of_accepted {script program : String} {instrs : List Instruction}
    (h : answerGenerate script = .accepted instrs program) :
    ∃ opening body, Assembled instrs program opening body ∧
      (Undivided (feedLines script.toList) →
        ((wholeLines body).map (Line.render 0)).filterMap (indentation? ·.toList) =
          (programOutline .standard instrs).map (4 * ·.depth)) := by
  obtain ⟨hread, hprogram⟩ := answerGenerate_eq_accepted h
  obtain ⟨table, opening, body, htable, hopening, hbody, rfl⟩ :=
    generate_eq_ok (areNumbered_formsOf instrs) hprogram
  have hassembled := assembled_of_lines hopening hbody
  refine ⟨opening, body, hassembled, fun hplain => ?_⟩
  have hannotated : ∀ line ∈ wholeLines body, line.Annotated table := by
    have hbody := bodyLines_annotated hbody
    simp only [wholeLines, List.cons_append, List.forall_mem_cons, List.forall_mem_append,
      List.forall_mem_map]
    exact ⟨annotated_of_bare rfl rfl, fun line hline => (hbody line hline).deeper,
      annotated_of_bare rfl rfl, annotated_of_bare rfl rfl, List.forall_mem_nil _⟩
  have hcode : ∀ line ∈ wholeLines body, ∀ depth text, line.content = .code depth text →
      startsCode text = true := by
    intro line hline depth text hcontent
    have hmem : (0 + depth, text) ∈ codeOf 0 (wholeLines body) :=
      List.mem_filterMap.mpr ⟨line, hline, by rw [Line.codeAt, hcontent]⟩
    rw [hassembled.code] at hmem
    obtain ⟨found, hfound, hseen⟩ := List.mem_map.mp hmem
    rw [← (Prod.mk.inj hseen).2]
    exact programOutline_start hread found hfound
  have hlines : ((wholeLines body).map (Line.render 0)).filterMap (indentation? ·.toList) =
      (codeOf 0 (wholeLines body)).map (4 * ·.1) := by
    rw [List.filterMap_map, codeOf, List.map_filterMap]
    exact List.filterMap_congr fun line hline =>
      indentation?_render htable hplain (hannotated line hline) (hcode line hline)
  rw [hlines, hassembled.code, List.map_map]
  rfl

end Lines

end HubScript
