import HubScript.Proofs.CommentLines
import HubScript.Proofs.Outline
import Mathlib.Data.List.DropRight

/-!
# Comments by the numbers of their lines

A comment is found on a line that ends at a line feed, and it is shown by taking the line of the
same number from the script cut at every line end. The two numberings agree as long as no line
before the comment is divided by another line end; behind such a line the text of an earlier one is
shown.
-/
namespace HubScript

open Text

section Trimming

theorem trimRight_eq (cs : List Char) : trimRight cs = cs.rdropWhile isBlank := rfl

theorem trimRight_append_blanks (a : List Char) {b : List Char} (hb : ∀ c ∈ b, isBlank c = true) :
    trimRight (a ++ b) = trimRight a := by
  have hreverse : ∀ c ∈ b.reverse, isBlank c = true := fun c hc => hb c (List.mem_reverse.mp hc)
  rw [trimRight, trimRight, List.reverse_append, List.dropWhile_append_of_pos hreverse]

theorem trim_append_blanks (a : List Char) {b : List Char} (hb : ∀ c ∈ b, isBlank c = true) :
    trim (a ++ b) = trim a := by
  rw [trim, trim, trimLeft, trimLeft, List.dropWhile_append]
  split
  · rename_i hnone
    rw [List.isEmpty_iff.mp hnone, List.dropWhile_eq_nil_iff.mpr hb]
  · exact trimRight_append_blanks _ hb

theorem trim_of_mark {cs : List Char} (h : cs.head? = some '#') : trim cs = trimRight cs := by
  obtain ⟨rest, rfl⟩ := List.head?_eq_some_iff.mp h
  have hmark : ¬isBlank '#' = true := by decide
  rw [trim, trimLeft, List.dropWhile_cons_of_neg hmark]

/-- A trimmed text that starts with the mark of a comment is not changed by trimming. -/
theorem trim_trim_of_mark {cs : List Char} (h : (trim cs).head? = some '#') :
    trim (trim cs) = trim cs := by
  rw [trim_of_mark h, trim, trimRight_eq, trimRight_eq, List.rdropWhile_idempotent]

/-- A comment is what a text is trimmed to exactly if they are alike up to blanks and it is trimmed
itself. -/
theorem trim_eq_iff_of_mark {cs text : List Char} (h : text.head? = some '#') :
    trim cs = text ↔ trim text = text ∧ trim cs = trim text := by
  constructor
  · rintro rfl
    have htidy := trim_trim_of_mark h
    exact ⟨htidy, htidy.symm⟩
  · rintro ⟨htidy, hsame⟩
    exact hsame.trans htidy

theorem head_of_trim {cs : List Char} {c : Char} (h : (trim cs).head? = some c) :
    (trimLeft cs).head? = some c := by
  obtain ⟨rest, hrest⟩ := List.head?_eq_some_iff.mp h
  obtain ⟨behind, hbehind⟩ := List.rdropWhile_prefix isBlank (trimLeft cs)
  rw [← trimRight_eq, ← trim, hrest] at hbehind
  rw [← hbehind]
  rfl

theorem head_trim_of_mark {cs : List Char} (h : cs.head? = some '#') :
    (trim cs).head? = some '#' := by
  rw [trim_of_mark h, trimRight_eq]
  obtain ⟨rest, rfl⟩ := List.head?_eq_some_iff.mp h
  cases hleft : List.rdropWhile isBlank ('#' :: rest) with
  | nil =>
    have hblank := List.rdropWhile_eq_nil_iff.mp hleft '#' List.mem_cons_self
    exact absurd hblank (by decide)
  | cons c cs =>
    obtain ⟨behind, hbehind⟩ := List.rdropWhile_prefix isBlank ('#' :: rest)
    rw [hleft] at hbehind
    rw [List.head?_cons, (List.cons.inj hbehind).1]

/-- Whether only blanks follow the first line end of a line. -/
def endsOnce (line : List Char) : Bool := (line.dropWhile (!isLineEnd ·)).all isBlank

/-- The first part of a line is all that is written on it exactly if only blanks follow. -/
theorem trim_first_part_iff (line : List Char) :
    trim (line.takeWhile (!isLineEnd ·)) = trim line ↔ endsOnce line = true := by
  have hsplit : line.takeWhile (!isLineEnd ·) ++ line.dropWhile (!isLineEnd ·) = line :=
    List.takeWhile_append_dropWhile
  rw [endsOnce, List.all_eq_true]
  constructor
  · intro hsame
    have hink := congrArg Comment.ink hsame
    rw [Comment.ink_trim, Comment.ink_trim] at hink
    have hboth : Comment.ink line = Comment.ink (line.takeWhile (!isLineEnd ·)) +
        Comment.ink (line.dropWhile (!isLineEnd ·)) := by
      rw [← Comment.ink_append, hsplit]
    have hnone : Comment.ink (line.dropWhile (!isLineEnd ·)) = 0 := by omega
    intro c hc
    have hblank := List.countP_eq_zero.mp hnone c hc
    simpa using hblank
  · intro hblank
    rw [← trim_append_blanks (line.takeWhile (!isLineEnd ·)) hblank, hsplit]

/-- The mark of a comment leads the first part of a line if no line end stands before it. -/
theorem mark_leads_iff (line : List Char) :
    (trimLeft (line.takeWhile (!isLineEnd ·))).head? = some '#' ↔
      (line.dropWhile fun c => isBlank c && !isLineEnd c).head? = some '#' := by
  induction line with
  | nil => exact Iff.rfl
  | cons c rest ih =>
    rw [trimLeft] at ih ⊢
    cases hend : isLineEnd c with
    | true =>
      have hmark : c ≠ '#' := by
        rintro rfl
        exact absurd hend (by decide)
      simp [hend, hmark]
    | false =>
      cases hblank : isBlank c with
      | true => simpa [hend, hblank] using ih
      | false => simp [hend, hblank]

end Trimming

section Numbering

variable {lines : List (List Char)}

/-- Lines of which none is divided: each is one part when it is cut at every line end. -/
def Undivided (lines : List (List Char)) : Prop := ∀ line ∈ lines, (cuts line).length = 1

theorem undivided_iff (h : ∀ line ∈ lines, line ≠ []) :
    Undivided lines ↔ (lines.flatMap cuts).length = lines.length := by
  induction lines with
  | nil => exact iff_of_true nofun rfl
  | cons line rest ih =>
    obtain ⟨hline, hrest⟩ := List.forall_mem_cons.mp h
    obtain ⟨others, hcuts⟩ := cuts_of_ne_nil hline
    have hpos : 0 < (cuts line).length := by
      rw [hcuts]
      exact Nat.succ_pos _
    have hle := length_le_flatMap_cuts hrest
    have hothers := ih hrest
    rw [Undivided] at hothers ⊢
    rw [List.forall_mem_cons, hothers, List.flatMap_cons, List.length_append, List.length_cons]
    omega

/-- The part with the number of a line is the first part of that line if no line before it is
divided, and else a part of an earlier line. -/
theorem numbered_part (h : ∀ line ∈ lines, line ≠ []) {n : Nat} {line : List Char}
    (hline : lines[n]? = some line) :
    Undivided (lines.take n) ∧ ((lines.take n).flatMap cuts)[n]? = none ∧
        (lines.flatMap cuts)[n]? = some (line.takeWhile (!isLineEnd ·)) ∨
      ¬Undivided (lines.take n) ∧ ∃ part, ((lines.take n).flatMap cuts)[n]? = some part ∧
        (lines.flatMap cuts)[n]? = some part := by
  obtain ⟨hn, hget⟩ := List.getElem?_eq_some_iff.mp hline
  have hearlier : ∀ line ∈ lines.take n, line ≠ [] :=
    fun line hmem => h line (List.mem_of_mem_take hmem)
  have hlength : (lines.take n).length = n := List.length_take_of_le (Nat.le_of_lt hn)
  have hle := length_le_flatMap_cuts hearlier
  obtain ⟨others, hcuts⟩ := cuts_of_ne_nil (h line (List.mem_of_getElem? hline))
  have hsplit : lines.flatMap cuts = (lines.take n).flatMap cuts ++
      (line.takeWhile (!isLineEnd ·) :: (others ++ (lines.drop (n + 1)).flatMap cuts)) := by
    rw [← List.cons_append, ← hcuts, ← List.flatMap_cons, ← hget, List.getElem_cons_drop,
      ← List.flatMap_append, List.take_append_drop]
  rw [undivided_iff hearlier, hlength, hsplit]
  rw [hlength] at hle
  rcases Nat.eq_or_lt_of_le hle with hsame | hmore
  · refine .inl ⟨hsame.symm, List.getElem?_eq_none (Nat.le_of_eq hsame.symm), ?_⟩
    rw [List.getElem?_append_right (Nat.le_of_eq hsame.symm), ← hsame, Nat.sub_self]
    rfl
  · refine .inr ⟨Nat.ne_of_gt hmore, _, List.getElem?_eq_getElem hmore, ?_⟩
    rw [List.getElem?_append_left hmore, List.getElem?_eq_getElem hmore]

/-- What the part with the number of a line is like: the first part of the line or a part of an
earlier one. -/
theorem numbered_part_iff (h : ∀ line ∈ lines, line ≠ []) {n : Nat} {line part : List Char}
    (hline : lines[n]? = some line) (hpart : (lines.flatMap cuts)[n]? = some part)
    (P : List Char → Prop) :
    P part ↔ Undivided (lines.take n) ∧ P (line.takeWhile (!isLineEnd ·)) ∨
      ∃ copy, ((lines.take n).flatMap cuts)[n]? = some copy ∧ P copy := by
  rcases numbered_part h hline with ⟨hundivided, hnone, hfirst⟩ | ⟨hdivided, copy, hcopy, hsame⟩
  · obtain rfl := Option.some.inj (hpart.symm.trans hfirst)
    simp [hundivided, hnone]
  · obtain rfl := Option.some.inj (hpart.symm.trans hsame)
    simp [hdivided, hcopy]

end Numbering

/-- The text with the number of a comment's line is the comment: no line before it is divided and
only blanks follow the first line end of its own; or a part of the lines before it has the number,
and happens to have the same text. -/
def Legible (lines : List (List Char)) (n : Nat) (line text : List Char) : Prop :=
  Undivided (lines.take n) ∧ endsOnce line = true ∨
    ∃ copy, ((lines.take n).flatMap cuts)[n]? = some copy ∧ trim copy = trim text

/-- The text with the number of a comment's line has the mark of a comment before all but blanks. -/
def Leads (lines : List (List Char)) (n : Nat) (line : List Char) : Prop :=
  Undivided (lines.take n) ∧
      (line.dropWhile fun c => isBlank c && !isLineEnd c).head? = some '#' ∨
    ∃ copy, ((lines.take n).flatMap cuts)[n]? = some copy ∧ (trimLeft copy).head? = some '#'

/-- A comment that stands alone on a line of a script, and the text that the table has for the
number of that line. -/
structure Standalone (script : String) (table : CommentTable) (l : Nat) (comment : Comment)
    (line : List Char) : Prop where
  numbered : 0 < l
  /-- It is the only comment of its line. -/
  only : ∃ comments, commentsOf script = .ok comments ∧ comments.filter (·.line == l) = [comment]
  own : (feedLines script.toList)[l - 1]? = some line
  marked : comment.text.toList.head? = some '#'
  alone : trim line = trim comment.text.toList
  /-- Up to blanks at its end, the comment is what the table has for the line. -/
  shown : trim (table.lineText l).toList = trim comment.text.toList ↔
    Legible (feedLines script.toList) (l - 1) line comment.text.toList
  exactly : trim (table.lineText l).toList = comment.text.toList ↔
    trim comment.text.toList = comment.text.toList ∧
      Legible (feedLines script.toList) (l - 1) line comment.text.toList
  /-- What is put into a program for the line starts with the mark of a comment. -/
  inserted : (Hub.stripped table l).toList.head? = some '#' ↔
    Leads (feedLines script.toList) (l - 1) line
  inserted_of_shown : trim (table.lineText l).toList = trim comment.text.toList →
    (Hub.stripped table l).toList.head? = some '#'

theorem ofScript_eq_ok {script : String} {table : CommentTable}
    (h : CommentTable.ofScript script = .ok table) :
    ∃ comments, commentsOf script = .ok comments ∧
      table = CommentTable.ofComments (splitLines script) comments := by
  rw [CommentTable.ofScript] at h
  cases hcomments : commentsOf script with
  | error fault =>
    rw [hcomments] at h
    cases h
  | ok comments =>
    rw [hcomments] at h
    exact ⟨comments, rfl, (Except.ok.inj h).symm⟩

theorem lineText_ofComments (script : String) (comments : List Comment) {l : Nat}
    {part : List Char} (h : ((feedLines script.toList).flatMap cuts)[l - 1]? = some part) :
    ((CommentTable.ofComments (splitLines script) comments).lineText l).toList = part := by
  rw [CommentTable.lineText, CommentTable.ofComments, splitLines_eq, List.getElem?_map, h]
  exact String.toList_ofList

/-- The line of a comment, and all the comments that are found there. -/
theorem exists_ofLine {script : String} {comments : List Comment}
    (h : commentsOf script = .ok comments) {comment : Comment} (hmem : comment ∈ comments) :
    ∃ line, (feedLines script.toList)[comment.line - 1]? = some line ∧
      Comment.OfLine comment.line line (comments.filter (·.line == comment.line)) := by
  obtain ⟨hfirst, hlast⟩ := (Comment.scan_spread h).within comment hmem
  have hbound : comment.line - 1 < (feedLines script.toList).length := by omega
  have hnumber : 1 + (comment.line - 1) = comment.line := by omega
  have hline := List.getElem?_eq_getElem hbound
  have hofLine := Comment.scan_ofLine h hline
  rw [hnumber] at hofLine
  exact ⟨_, hline, hofLine⟩

/-- A comment that stands alone is the only one of its line, and all that is written there. -/
theorem comment_of_alone {script : String} {comments : List Comment}
    (h : commentsOf script = .ok comments) {comment : Comment} (hmem : comment ∈ comments)
    (halone : comment.alone = true) :
    0 < comment.line ∧ comments.filter (·.line == comment.line) = [comment] ∧
      comment.text.toList.head? = some '#' ∧
      ∃ line, (feedLines script.toList)[comment.line - 1]? = some line ∧
        trim line = trim comment.text.toList := by
  have hfirst := ((Comment.scan_spread h).within comment hmem).1
  obtain ⟨line, hline, hofLine⟩ := exists_ofLine h hmem
  have hown : comment ∈ comments.filter (·.line == comment.line) :=
    List.mem_filter.mpr ⟨hmem, beq_self_eq_true _⟩
  obtain ⟨text, hmark, hfound⟩ := hofLine.marked comment hown
  have htext : comment.text.toList = text := by
    rw [hfound, Comment.found, String.toList_ofList]
  have htrim : trim line = trim text := by
    rw [hfound, Comment.found, Bool.and_eq_true] at halone
    exact eq_of_beq halone.2
  rw [htext]
  exact ⟨hfirst, hofLine.eq_singleton hown halone, hmark, line, hline, htrim⟩

/-- A comment that stands alone is the only one on its line. The text with the number of the line is
that comment as long as no line end other than a line feed has shifted the numbers; behind one, it
is so only if a part of an earlier line has the same text. -/
theorem alone_text_iff {script : String} {table : CommentTable}
    (h : CommentTable.ofScript script = .ok table) {l : Nat} (hl : l ∈ table.alone) :
    ∃ comment line, Standalone script table l comment line := by
  obtain ⟨comments, hcomments, rfl⟩ := ofScript_eq_ok h
  obtain ⟨comment, hmem, rfl⟩ := List.mem_map.mp hl
  obtain ⟨hmem, halone⟩ := List.mem_filter.mp hmem
  obtain ⟨hnumber, honly, hmark, line, hline, htrim⟩ := comment_of_alone hcomments hmem halone
  have hne : ∀ line ∈ feedLines script.toList, line ≠ [] := feedLinesFrom_ne_nil [] script.toList
  -- the part of the script with the number of the line
  have hbound := (List.getElem?_eq_some_iff.mp hline).1
  have hparts := Nat.lt_of_lt_of_le hbound (length_le_flatMap_cuts hne)
  have hpart := List.getElem?_eq_getElem hparts
  have hlineText := lineText_ofComments script comments hpart
  generalize ((feedLines script.toList).flatMap cuts)[comment.line - 1] = part
    at hpart hlineText
  have hstripped : (Hub.stripped (CommentTable.ofComments (splitLines script) comments)
      comment.line).toList = trimLeft part := by
    rw [Hub.stripped, String.toList_ofList, hlineText]
  have hshown : trim part = trim comment.text.toList ↔
      Legible (feedLines script.toList) (comment.line - 1) line comment.text.toList := by
    rw [numbered_part_iff hne hline hpart (fun part => trim part = trim comment.text.toList),
      ← htrim, trim_first_part_iff, htrim, Legible]
  have hinserted : (trimLeft part).head? = some '#' ↔
      Leads (feedLines script.toList) (comment.line - 1) line := by
    rw [numbered_part_iff hne hline hpart (fun part => (trimLeft part).head? = some '#'),
      mark_leads_iff, Leads]
  refine ⟨comment, line, hnumber, ⟨comments, hcomments, honly⟩, hline, hmark, htrim, ?_, ?_, ?_,
    ?_⟩
  · rw [hlineText]
    exact hshown
  · rw [hlineText, trim_eq_iff_of_mark hmark, hshown]
  · rw [hstripped]
    exact hinserted
  · rw [hlineText, hstripped]
    intro hsame
    have hhead := head_trim_of_mark hmark
    rw [← hsame] at hhead
    exact head_of_trim hhead

/-- The form feed in the message shifts the numbers for the comment behind it. -/
def feedScript : String := "# first\nprint('a\x0cb')\n# note\n"

theorem alone_text_feedScript :
    ∃ table, CommentTable.ofScript feedScript = .ok table ∧ 1 ∈ table.alone ∧ 3 ∈ table.alone ∧
      (∃ comment line, Standalone feedScript table 1 comment line ∧
        Legible (feedLines feedScript.toList) 0 line comment.text.toList) ∧
      ∃ comment line, Standalone feedScript table 3 comment line ∧
        ¬Legible (feedLines feedScript.toList) 2 line comment.text.toList ∧
        ¬Leads (feedLines feedScript.toList) 2 line := by
  obtain ⟨table, htable, hfacts⟩ := exists_of_any (x := CommentTable.ofScript feedScript)
    (p := fun table => table.alone == [1, 3] && Hub.stripped table 3 == "b')")
    (by decide +kernel)
  rw [Bool.and_eq_true, beq_iff_eq, beq_iff_eq] at hfacts
  obtain ⟨halone, hthird⟩ := hfacts
  have hone : 1 ∈ table.alone := by simp [halone]
  have hthree : 3 ∈ table.alone := by simp [halone]
  obtain ⟨first, line, hfirst⟩ := alone_text_iff htable hone
  obtain ⟨note, line', hnote⟩ := alone_text_iff htable hthree
  have hmissing : ¬(Hub.stripped table 3).toList.head? = some '#' := by
    rw [hthird]
    decide
  refine ⟨table, htable, hone, hthree, ⟨first, line, hfirst, .inl ⟨nofun, ?_⟩⟩, note, line', hnote,
    ?_, ?_⟩
  · have hline := Option.some.inj
      (hfirst.own.symm.trans (by decide +kernel : _ = some "# first\n".toList))
    rw [hline]
    decide
  · intro hlegible
    exact hmissing (hnote.inserted_of_shown (hnote.shown.mpr hlegible))
  · intro hleads
    exact hmissing (hnote.inserted.mpr hleads)

/-- A message with a form feed before a comment. -/
def noteScript : String := "print('a\x0cb')\n# note\n"

def noteProgram : String :=
  "from hub import light_matrix, port\nimport runloop\nimport motor\n\n" ++
    "# IMPORTANT: Configure ports and directions below to match your robot\n" ++
    "# If a motor runs backwards, change its REVERSED flag to True\n\n" ++
    "# Motor configuration\n\nasync def main():\n    print('a\\x0cb')\n    b')\n" ++
    "\nrunloop.run(main())"

/-- The rest of the message is put in the place of the comment. -/
theorem message_shown_noteScript :
    commentsOf noteScript = .ok [⟨2, "# note", true⟩] ∧
      (∃ table, CommentTable.ofScript noteScript = .ok table ∧ table.alone = [2] ∧
        table.lineText 2 = "b')") ∧
      ∃ instrs, answerGenerate noteScript = .accepted instrs noteProgram := by
  have hcomments : commentsOf noteScript = .ok [⟨2, "# note", true⟩] := by
    obtain ⟨comments, hfound, hsame⟩ := exists_of_any (x := commentsOf noteScript)
      (p := fun comments => comments == [⟨2, "# note", true⟩]) (by decide +kernel)
    rw [hfound, eq_of_beq hsame]
  have htable : CommentTable.ofScript noteScript =
      .ok (CommentTable.ofComments (splitLines noteScript) [⟨2, "# note", true⟩]) := by
    rw [CommentTable.ofScript, hcomments]
    rfl
  have hsecond : (CommentTable.ofComments (splitLines noteScript)
      [⟨2, "# note", true⟩]).lineText 2 = "b')" := by decide +kernel
  exact ⟨hcomments, ⟨_, htable, rfl, hsecond⟩, accepted_of_program (by decide +kernel)⟩

end HubScript
