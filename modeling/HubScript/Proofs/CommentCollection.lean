import HubScript.Proofs.LineNumbering
import Mathlib.Data.List.Nodup

/-!
# The table of comments

The comments of a script are sorted into a table: a comment that stands alone is kept by the number
of its line, and all others by line with their texts. Nothing is lost or kept twice on the way. A
line has either one comment that stands alone or a list of others, which has their texts from left
to right, and the numbers stay within the lines of the script although these are cut at more line
ends than the lines on which comments are found.
-/
namespace HubScript

open Text Comment

/-- The texts of the comments on a line, in order. -/
def textsOn (l : Nat) (comments : List Comment) : List String :=
  (comments.filter (·.line == l)).map (·.text)

section Texts

variable {l : Nat} {comments : List Comment} {c : Comment}

theorem textsOn_append_of_eq (h : c.line = l) :
    textsOn l (comments ++ [c]) = textsOn l comments ++ [c.text] := by
  simp [textsOn, h]

theorem textsOn_append_of_ne (h : c.line ≠ l) :
    textsOn l (comments ++ [c]) = textsOn l comments := by
  simp [textsOn, h]

theorem textsOn_eq_nil (h : ∀ c ∈ comments, c.line ≠ l) : textsOn l comments = [] := by
  simpa [textsOn] using h

theorem toList_textsOn (l : Nat) (comments : List Comment) :
    (textsOn l comments).map String.toList = textsOf (comments.filter (·.line == l)) := by
  rw [textsOn, textsOf, List.map_map]
  rfl

end Texts

namespace CommentTable

/-- Comments by line: every line that has some is there once, with all their texts in order. -/
structure Grouped (comments : List Comment) (entries : List (Nat × List String)) : Prop where
  once : (entries.map Prod.fst).Nodup
  lines : ∀ l, l ∈ entries.map Prod.fst ↔ ∃ c ∈ comments, c.line = l
  texts : ∀ l texts, (l, texts) ∈ entries → texts = textsOn l comments
  total : (entries.flatMap Prod.snd).length = comments.length

section Grouping

variable {c : Comment} {comments : List Comment} {entries before after : List (Nat × List String)}
  {old : List String}

theorem insert_of_new (h : c.line ∉ entries.map Prod.fst) :
    insert c entries = entries ++ [(c.line, [c.text])] := by
  induction entries with
  | nil => rfl
  | cons entry rest ih =>
    obtain ⟨hne, hrest⟩ := not_or.mp (mt List.mem_cons.mpr h)
    rw [insert, if_neg (by simpa using Ne.symm hne), ih hrest, List.cons_append]

theorem insert_of_old (h : c.line ∉ before.map Prod.fst) :
    insert c (before ++ (c.line, old) :: after) =
      before ++ (c.line, old ++ [c.text]) :: after := by
  induction before with
  | nil => simp [insert]
  | cons entry rest ih =>
    obtain ⟨hne, hrest⟩ := not_or.mp (mt List.mem_cons.mpr h)
    rw [List.cons_append, insert, if_neg (by simpa using Ne.symm hne), ih hrest, List.cons_append]

theorem Grouped.insert_new (h : Grouped comments entries) (hnew : c.line ∉ entries.map Prod.fst) :
    Grouped (comments ++ [c]) (entries ++ [(c.line, [c.text])]) := by
  refine ⟨?_, fun l => ?_, fun l texts hmem => ?_, ?_⟩
  · rw [List.map_append, List.map_singleton]
    exact List.nodup_append.mpr ⟨h.once, by simp, by rintro l hl m hm rfl; simp_all⟩
  · rw [List.map_append, List.mem_append, h.lines]
    simp [or_and_right, exists_or, eq_comm]
  · rcases List.mem_append.mp hmem with hmem | hmem
    · have hkey : l ∈ entries.map Prod.fst := List.mem_map.mpr ⟨_, hmem, rfl⟩
      rw [textsOn_append_of_ne (fun heq => hnew (heq ▸ hkey))]
      exact h.texts l texts hmem
    · obtain ⟨rfl, rfl⟩ := Prod.mk.inj (List.mem_singleton.mp hmem)
      have hnone : textsOn c.line comments = [] :=
        textsOn_eq_nil fun d hd heq => hnew ((h.lines c.line).mpr ⟨d, hd, heq⟩)
      rw [textsOn_append_of_eq rfl, hnone, List.nil_append]
  · simp [h.total]

theorem Grouped.other_lines (h : Grouped comments (before ++ (c.line, old) :: after)) :
    c.line ∉ (before ++ after).map Prod.fst := by
  have honce := h.once
  rw [List.map_append, List.map_cons, List.nodup_middle, ← List.map_append] at honce
  exact (List.nodup_cons.mp honce).1

theorem Grouped.insert_old (h : Grouped comments (before ++ (c.line, old) :: after)) :
    Grouped (comments ++ [c]) (before ++ (c.line, old ++ [c.text]) :: after) := by
  have hkeys : (before ++ (c.line, old ++ [c.text]) :: after).map Prod.fst =
      (before ++ (c.line, old) :: after).map Prod.fst := by simp
  refine ⟨hkeys ▸ h.once, fun l => ?_, fun l texts hmem => ?_, ?_⟩
  · have hline := (h.lines c.line).mp (by simp)
    rw [hkeys, h.lines]
    grind
  · rcases List.mem_cons.mp (List.perm_middle.mem_iff.mp hmem) with hmem | hmem
    · obtain ⟨rfl, rfl⟩ := Prod.mk.inj hmem
      rw [textsOn_append_of_eq rfl, ← h.texts c.line old (by simp)]
    · have hne : c.line ≠ l :=
        fun heq => h.other_lines (List.mem_map.mpr ⟨_, hmem, heq.symm⟩)
      rw [textsOn_append_of_ne hne]
      exact h.texts l texts (List.perm_middle.mem_iff.mpr (List.mem_cons_of_mem _ hmem))
  · have htotal := h.total
    simp only [List.flatMap_append, List.flatMap_cons, List.length_append, List.length_singleton]
      at htotal ⊢
    omega

/-- One more comment goes to its line, behind those that are there. -/
theorem Grouped.insert (h : Grouped comments entries) (c : Comment) :
    Grouped (comments ++ [c]) (CommentTable.insert c entries) := by
  by_cases hline : c.line ∈ entries.map Prod.fst
  · obtain ⟨⟨l, old⟩, hmem, rfl⟩ := List.mem_map.mp hline
    obtain ⟨before, after, rfl⟩ := List.append_of_mem hmem
    have hbefore : c.line ∉ before.map Prod.fst := by
      have hother := h.other_lines
      rw [List.map_append] at hother
      exact fun hmem => hother (List.mem_append_left _ hmem)
    rw [insert_of_old hbefore]
    exact h.insert_old
  · rw [insert_of_new hline]
    exact h.insert_new hline

theorem Grouped.foldl (h : Grouped comments entries) (later : List Comment) :
    Grouped (comments ++ later)
      (later.foldl (fun table c => CommentTable.insert c table) entries) := by
  induction later generalizing comments entries with
  | nil => rwa [List.append_nil]
  | cons c rest ih =>
    rw [← List.singleton_append, ← List.append_assoc]
    exact ih (h.insert c)

theorem grouped_foldl (comments : List Comment) :
    Grouped comments (comments.foldl (fun table c => insert c table) []) := by
  have hempty : Grouped [] [] := ⟨.nil, by simp, by simp, rfl⟩
  exact hempty.foldl comments

end Grouping

/-- How a table has the comments of a script. Every line is there once, so the lines of comments
that stand alone and the texts at the ends of other lines can be counted. -/
structure Collects (script : String) (comments : List Comment) (table : CommentTable) : Prop where
  aloneOnce : table.alone.Nodup
  inlineOnce : (table.inline.map Prod.fst).Nodup
  counted : table.alone.length + (table.inline.flatMap Prod.snd).length = comments.length
  standing : ∀ l, l ∈ table.alone ↔ ∃ c ∈ comments, c.alone = true ∧ c.line = l
  ending : ∀ l, l ∈ table.inline.map Prod.fst ↔ ∃ c ∈ comments, c.alone = false ∧ c.line = l
  apart : ∀ l ∈ table.alone, l ∉ table.inline.map Prod.fst
  /-- A list has the texts of all comments on its line, which stand there from left to right. -/
  inTurn : ∀ l texts, (l, texts) ∈ table.inline → texts = textsOn l comments ∧
    ∃ line, (feedLines script.toList)[l - 1]? = some line ∧ InTurn (texts.map String.toList) line
  within : ∀ l, l ∈ table.alone ∨ l ∈ table.inline.map Prod.fst → 1 ≤ l ∧ l ≤ table.lines.length
  lines : table.lines = splitLines script

theorem mem_alone_iff {lines : List String} {comments : List Comment} {l : Nat} :
    l ∈ (ofComments lines comments).alone ↔ ∃ c ∈ comments, c.alone = true ∧ c.line = l := by
  simp [ofComments, and_assoc]

theorem mem_inline_iff {lines : List String} {comments : List Comment} {l : Nat} :
    l ∈ (ofComments lines comments).inline.map Prod.fst ↔
      ∃ c ∈ comments, c.alone = false ∧ c.line = l := by
  rw [ofComments, (grouped_foldl _).lines]
  simp [and_assoc]

section Collection

variable {script : String} {comments : List Comment}

/-- Where one comment does not stand alone, none on the same line does. -/
theorem alone_eq_false (h : commentsOf script = .ok comments) {c d : Comment}
    (hc : c ∈ comments) (hinline : c.alone = false) (hd : d ∈ comments) (hline : d.line = c.line) :
    d.alone = false := by
  by_contra halone
  rw [Bool.not_eq_false] at halone
  obtain ⟨-, honly, -⟩ := comment_of_alone h hd halone
  have hmem : c ∈ comments.filter (·.line == d.line) :=
    List.mem_filter.mpr ⟨hc, beq_iff_eq.mpr hline.symm⟩
  rw [honly, List.mem_singleton] at hmem
  rw [hmem, halone] at hinline
  cases hinline

/-- The comments at the end of a line are all the comments of the line. -/
theorem textsOn_inline (h : commentsOf script = .ok comments) {c : Comment} (hc : c ∈ comments)
    (hinline : c.alone = false) :
    textsOn c.line (comments.filter (!·.alone)) = textsOn c.line comments := by
  rw [textsOn, textsOn, List.filter_filter]
  refine congrArg _ (List.filter_congr fun d hd => ?_)
  by_cases hline : d.line = c.line
  · simp [alone_eq_false h hc hinline hd hline]
  · simp [hline]

/-- The comments that can be found in a script are all in its table, each once and in its place. -/
theorem comments_collected (h : commentsOf script = .ok comments) :
    ∃ table, ofScript script = .ok table ∧ Collects script comments table := by
  have htable : ofScript script = .ok (ofComments (splitLines script) comments) := by
    rw [ofScript, h]
    rfl
  have hgrouped := grouped_foldl (comments.filter (!·.alone))
  refine ⟨_, htable, ?_, hgrouped.once, ?_, fun _ => mem_alone_iff, fun _ => mem_inline_iff, ?_, ?_,
    ?_, rfl⟩
  · exact (ofScript_inOrder htable).increasing.imp Nat.ne_of_lt
  · have hsplit := List.length_eq_length_filter_add (l := comments) (·.alone)
    rw [hsplit, ← hgrouped.total, ofComments, List.length_map]
  · intro l hl hkey
    obtain ⟨c, hc, halone, rfl⟩ := mem_alone_iff.mp hl
    obtain ⟨d, hd, hinline, hline⟩ := mem_inline_iff.mp hkey
    cases halone.symm.trans (alone_eq_false h hd hinline hc hline.symm)
  · intro l texts hmem
    obtain ⟨c, hc, hinline, rfl⟩ := mem_inline_iff.mp (List.mem_map.mpr ⟨_, hmem, rfl⟩)
    have htexts := (hgrouped.texts c.line texts hmem).trans (textsOn_inline h hc hinline)
    obtain ⟨line, hline, hofLine⟩ := exists_ofLine h hc
    refine ⟨htexts, line, hline, ?_⟩
    rw [htexts, toList_textsOn]
    exact hofLine.inTurn
  · rintro l (hl | hl)
    · obtain ⟨c, hc, -, rfl⟩ := mem_alone_iff.mp hl
      exact line_within h hc
    · obtain ⟨c, hc, -, rfl⟩ := mem_inline_iff.mp hl
      exact line_within h hc

end Collection

/-- The carriage return in a bracket divides a line with two comments, and another one stands alone
behind it. -/
def crampedScript : String := "f(  # a\r# b\n)\n# c\n"

theorem comments_collected_crampedScript :
    ∃ comments table, commentsOf crampedScript = .ok comments ∧ comments.length = 3 ∧
      ofScript crampedScript = .ok table ∧ Collects crampedScript comments table ∧
      table.alone = [3] ∧ table.inline = [(1, ["# a", "# b"])] := by
  obtain ⟨comments, hcomments, hlength⟩ := exists_of_any (x := commentsOf crampedScript)
    (p := fun comments => comments.length == 3) (by decide +kernel)
  obtain ⟨table, htable, hkept⟩ := exists_of_any (x := ofScript crampedScript)
    (p := fun table => table.alone == [3] && table.inline == [(1, ["# a", "# b"])])
    (by decide +kernel)
  obtain ⟨table', htable', hcollects⟩ := comments_collected hcomments
  obtain rfl := Except.ok.inj (htable'.symm.trans htable)
  rw [Bool.and_eq_true, beq_iff_eq, beq_iff_eq] at hkept
  exact ⟨comments, table', hcomments, eq_of_beq hlength, htable, hcollects, hkept.1, hkept.2⟩

end CommentTable

end HubScript
