import HubScript.Proofs.Simulation

/-!
# Comments leave the code alone

Two scripts that differ in their comments give programs with the same code. The lines of the two
are compared step by step: the comments that stand alone are left out, and the remarks at the ends
of lines are taken off.
-/
namespace HubScript.Hub

/-- A line without its remarks. -/
def Line.bare (line : Line) : Line := { line with remarks := [] }

/-- The lines of code among lines, without remarks. -/
def codeLines (lines : List Line) : List Line :=
  (lines.filter fun line => !line.isComment).map Line.bare

/-- A comment is a line of the script, and remarks are those at the ends of its lines. -/
structure Line.Annotated (table : CommentTable) (line : Line) : Prop where
  comment : ∀ depth text, line.content = .comment depth text →
    ∃ l ∈ table.alone, text = stripped table l
  remarks : ∃ parts : List (List String), line.remarks = parts.flatten ∧
    ∀ part ∈ parts, ∃ l, table.inline? l = some part

theorem Line.render_eq (level : Int) (line : Line) :
    line.render level = line.bare.render level ++ String.join (line.remarks.map ("  " ++ ·)) := by
  rcases line with ⟨content, remarks⟩
  cases content <;> simp [Line.render, Line.bare]

section CodeLines

@[simp] theorem codeLines_append (a b : List Line) :
    codeLines (a ++ b) = codeLines a ++ codeLines b := by
  simp [codeLines]

theorem codeLines_deeper (lines : List Line) :
    codeLines (lines.map Line.deeper) = (codeLines lines).map Line.deeper := by
  induction lines with
  | nil => rfl
  | cons line rest ih =>
    have hline : codeLines [line.deeper] = (codeLines [line]).map Line.deeper := by
      rcases line with ⟨content, remarks⟩
      cases content <;> rfl
    rw [List.map_cons, ← List.singleton_append, codeLines_append, hline, ih,
      ← List.map_append, ← codeLines_append, List.singleton_append]

@[simp] theorem codeLines_commentLines (table : CommentTable) (start stop : Int) :
    codeLines (commentLines table start stop) = [] := by
  simp [codeLines, commentLines, Line.isComment, Line.placed?, Line.comment]

@[simp] theorem codeLines_remarked (table : CommentTable) (l : Int) (lines : List Line) :
    codeLines (remarked table l lines) = codeLines lines := by
  unfold remarked
  split
  · rename_i remarks _
    unfold remarkLast
    split
    · rename_i last hlast
      obtain ⟨others, rfl⟩ := List.getLast?_eq_some_iff.mp hlast
      have hremark : codeLines [last.remark remarks] = codeLines [last] := by
        rcases last with ⟨content, _⟩
        cases content <;> rfl
      rw [List.dropLast_concat, codeLines_append, codeLines_append, hremark]
    · rfl
  · rfl

end CodeLines

section Annotated

variable {table : CommentTable}

theorem annotated_of_bare {line : Line} (hcode : line.isComment = false)
    (hbare : line.remarks = []) : line.Annotated table := by
  refine ⟨fun depth text h => ?_, [], hbare, by simp⟩
  simp [Line.isComment, Line.placed?, h] at hcode

theorem Line.Annotated.deeper {line : Line} (h : line.Annotated table) :
    line.deeper.Annotated table := by
  rcases line with ⟨content, remarks⟩
  refine ⟨fun depth text hcontent => ?_, ?_⟩
  · cases content with
    | comment depth' text' =>
      obtain ⟨-, rfl⟩ := Content.comment.inj hcontent
      exact h.comment depth' text' rfl
    | code | separator => cases hcontent
  · cases content <;> exact h.remarks

theorem annotated_commentLines {start stop : Int} :
    ∀ line ∈ commentLines table start stop, line.Annotated table := by
  intro line hline
  simp only [commentLines, commentsBetween, List.map_map, List.mem_map, List.mem_filter] at hline
  obtain ⟨l, ⟨hl, -⟩, rfl⟩ := hline
  refine ⟨fun depth text h => ?_, [], rfl, by simp⟩
  obtain ⟨-, rfl⟩ := Content.comment.inj h
  exact ⟨l, hl, rfl⟩

theorem annotated_remarked {l : Int} {lines : List Line}
    (h : ∀ line ∈ lines, line.Annotated table) :
    ∀ line ∈ remarked table l lines, line.Annotated table := by
  unfold remarked
  split
  · rename_i remarks hinline
    unfold remarkLast
    split
    · rename_i last hlast
      obtain ⟨others, rfl⟩ := List.getLast?_eq_some_iff.mp hlast
      rw [List.forall_mem_append, List.forall_mem_singleton] at h
      rw [List.dropLast_concat, List.forall_mem_append, List.forall_mem_singleton]
      obtain ⟨parts, hparts, hinlines⟩ := h.2.remarks
      refine ⟨h.1, h.2.comment, parts ++ [remarks], ?_, ?_⟩
      · simp [Line.remark, hparts]
      · exact List.forall_mem_append.mpr ⟨hinlines, by simpa using ⟨l, hinline⟩⟩
    · exact h
  · exact h

end Annotated

/-- Lines with the same code, each annotated from a table of its own. -/
structure Alike (t₁ t₂ : CommentTable) (a b : List Line) : Prop where
  code : codeLines a = codeLines b
  first : ∀ line ∈ a, line.Annotated t₁
  second : ∀ line ∈ b, line.Annotated t₂

namespace Alike

variable {t₁ t₂ : CommentTable} {a b c d : List Line}

theorem append (h : Alike t₁ t₂ a b) (h' : Alike t₁ t₂ c d) : Alike t₁ t₂ (a ++ c) (b ++ d) where
  code := by rw [codeLines_append, codeLines_append, h.code, h'.code]
  first := List.forall_mem_append.mpr ⟨h.first, h'.first⟩
  second := List.forall_mem_append.mpr ⟨h.second, h'.second⟩

theorem deeper (h : Alike t₁ t₂ a b) : Alike t₁ t₂ (a.map Line.deeper) (b.map Line.deeper) where
  code := by rw [codeLines_deeper, codeLines_deeper, h.code]
  first := List.forall_mem_map.mpr fun line hline => (h.first line hline).deeper
  second := List.forall_mem_map.mpr fun line hline => (h.second line hline).deeper

/-- Comments that stand alone do not count, wherever they are taken from. -/
theorem comments (start₁ stop₁ start₂ stop₂ : Int) :
    Alike t₁ t₂ (commentLines t₁ start₁ stop₁) (commentLines t₂ start₂ stop₂) where
  code := by rw [codeLines_commentLines, codeLines_commentLines]
  first := annotated_commentLines
  second := annotated_commentLines

theorem remarked (h : Alike t₁ t₂ a b) (l₁ l₂ : Int) :
    Alike t₁ t₂ (remarked t₁ l₁ a) (remarked t₂ l₂ b) where
  code := by rw [codeLines_remarked, codeLines_remarked, h.code]
  first := annotated_remarked h.first
  second := annotated_remarked h.second

theorem of_bare {lines : List Line}
    (h : ∀ line ∈ lines, line.isComment = false ∧ line.remarks = []) : Alike t₁ t₂ lines lines where
  code := rfl
  first := fun line hline => annotated_of_bare (h line hline).1 (h line hline).2
  second := fun line hline => annotated_of_bare (h line hline).1 (h line hline).2

theorem nil : Alike t₁ t₂ [] [] := of_bare (by simp)

/-- A header over lines one step deeper. -/
theorem block (header : String) (h : Alike t₁ t₂ a b) :
    Alike t₁ t₂ (Line.code header :: a.map Line.deeper)
      (Line.code header :: b.map Line.deeper) := by
  have hheader : Alike t₁ t₂ [Line.code header] [Line.code header] :=
    of_bare (List.forall_mem_singleton.mpr ⟨rfl, rfl⟩)
  exact hheader.append h.deeper

end Alike

theorem agree_within {α β : Type} {R : α → β → Prop} {x : Made α} {y : Made β}
    (h : Agree R x y) : Agree R (within x) (within y) := by
  cases h with
  | ok related => exact .ok related
  | error stop => exact .error _

variable (settings : Settings) (t₁ t₂ : CommentTable)

theorem statementLines_agree (fields : Fields) :
    Agree (Alike t₁ t₂)
      (here (statements settings fields) >>= fun texts => .ok (texts.map Line.code))
      (here (statements settings fields) >>= fun texts => .ok (texts.map Line.code)) := by
  cases statements settings fields with
  | error failure => exact .error _
  | ok texts =>
    refine .ok (Alike.of_bare fun line hline => ?_)
    obtain ⟨text, -, rfl⟩ := List.mem_map.mp hline
    exact ⟨rfl, rfl⟩

mutual

/-- The lines of an instruction have the same code, whichever comments come along. -/
theorem formLines_agree : (form : Form) →
    Agree (Alike t₁ t₂) (formLines ⟨settings, t₁⟩ form) (formLines ⟨settings, t₂⟩ form)
  | .other v => .error _
  | .record fields body orelse => by
    cases hheader : header? fields with
    | error failure =>
      rw [formLines_of_header_error _ _ _ hheader, formLines_of_header_error _ _ _ hheader]
      exact .error _
    | ok found =>
      cases found with
      | none =>
        rw [formLines_of_header_none _ _ _ hheader, formLines_of_header_none _ _ _ hheader]
        exact statementLines_agree settings t₁ t₂ fields
      | some header =>
        rw [formLines_of_header_some _ _ _ hheader, formLines_of_header_some _ _ _ hheader]
        refine (blockLines_agree header.text _ _ body).bind fun main₁ main₂ hmain => ?_
        have hafter : Agree (Alike t₁ t₂) (afterBlock ⟨settings, t₁⟩ orelse header)
            (afterBlock ⟨settings, t₂⟩ orelse header) := by
          cases header with
          | loop text => exact .ok Alike.nil
          | branch text => exact elseLines_agree orelse
          | function text =>
            exact .ok (Alike.of_bare (List.forall_mem_singleton.mpr ⟨rfl, rfl⟩))
        exact hafter.bind fun others₁ others₂ hothers => .ok (hmain.append hothers)

theorem blockLines_agree (header : String) (first last : Option Int) : (suite : Suite) →
    Agree (Alike t₁ t₂) (blockLines ⟨settings, t₁⟩ header first last suite)
      (blockLines ⟨settings, t₂⟩ header first last suite)
  | .other v => .error _
  | .absent => .ok ((Alike.comments _ _ _ _).block header)
  | .forms items => by
    rw [blockLines, blockLines]
    refine (agree_within (childrenLines_agree _ _ items)).bind fun p q hlines => ?_
    exact .ok ((hlines.append (Alike.comments _ _ _ _)).block header)

theorem childrenLines_agree (cursor₁ cursor₂ : Int) : (forms : List Form) →
    Agree (fun p q => Alike t₁ t₂ p.1 q.1) (childrenLines ⟨settings, t₁⟩ cursor₁ forms)
      (childrenLines ⟨settings, t₂⟩ cursor₂ forms)
  | [] => .ok Alike.nil
  | form :: rest => by
    rw [childrenLines, childrenLines]
    cases firstLineOf form with
    | error failure => exact .error _
    | ok line =>
      refine (formLines_agree form).bind fun own₁ own₂ hown => ?_
      refine (childrenLines_agree _ _ rest).bind fun others₁ others₂ hothers => ?_
      exact .ok (((Alike.comments _ _ _ _).append (hown.remarked _ _)).append hothers)

theorem elseLines_agree : (suite : Suite) →
    Agree (Alike t₁ t₂) (elseLines ⟨settings, t₁⟩ suite) (elseLines ⟨settings, t₂⟩ suite)
  | .absent => .ok Alike.nil
  | .forms [] => .ok Alike.nil
  | .forms (form :: rest) => by
    rw [elseLines, elseLines]
    refine (agree_within (plainLines_agree (form :: rest))).bind fun lines₁ lines₂ hlines => ?_
    exact .ok (hlines.block "else:")
  | .other v => by
    rw [elseLines, elseLines]
    split
    · exact .error _
    · exact .ok Alike.nil

theorem plainLines_agree : (forms : List Form) →
    Agree (Alike t₁ t₂) (plainLines ⟨settings, t₁⟩ forms) (plainLines ⟨settings, t₂⟩ forms)
  | [] => .ok Alike.nil
  | form :: rest => by
    rw [plainLines, plainLines]
    refine (formLines_agree form).bind fun own₁ own₂ hown => ?_
    exact (plainLines_agree rest).bind fun others₁ others₂ hothers => .ok (hown.append hothers)

end

theorem mainLines_agree (cursor₁ cursor₂ : Int) (forms : List Form) :
    Agree (Alike t₁ t₂) (mainLines ⟨settings, t₁⟩ cursor₁ forms)
      (mainLines ⟨settings, t₂⟩ cursor₂ forms) := by
  induction forms generalizing cursor₁ cursor₂ with
  | nil => exact .ok (Alike.comments _ _ _ _)
  | cons form rest ih =>
    rw [mainLines, mainLines]
    cases firstLineOf form with
    | error failure => exact .error _
    | ok line =>
      refine (formLines_agree settings t₁ t₂ form).bind fun own₁ own₂ hown => ?_
      refine (ih _ _).bind fun others₁ others₂ hothers => ?_
      exact .ok (((Alike.comments _ _ _ _).append (hown.remarked _ _)).append hothers)

theorem bodyLines_agree (forms : List Form) :
    Agree (Alike t₁ t₂) (bodyLines ⟨settings, t₁⟩ forms) (bodyLines ⟨settings, t₂⟩ forms) :=
  mainLines_agree settings t₁ t₂ 1 1 _

theorem bodyLines_annotated {settings : Settings} {table : CommentTable} {forms : List Form}
    {body : List Line} (h : bodyLines ⟨settings, table⟩ forms = .ok body) :
    ∀ line ∈ body, line.Annotated table := by
  have hagree := bodyLines_agree settings table table forms
  rw [h] at hagree
  cases hagree with
  | ok halike => exact halike.first

theorem ofScript_empty : CommentTable.ofScript "" = .ok .empty := rfl

/-- Lines annotated from no comments are code without remarks. -/
theorem codeLines_of_empty {lines : List Line}
    (h : ∀ line ∈ lines, line.Annotated CommentTable.empty) : codeLines lines = lines := by
  have hcode : ∀ line ∈ lines, (!line.isComment) = true := by
    intro line hline
    rcases hcontent : line with ⟨content, remarks⟩
    cases content with
    | comment depth text =>
      obtain ⟨l, hl, -⟩ := (h line hline).comment depth text (by rw [hcontent])
      cases hl
    | code | separator => rfl
  have hbare : ∀ line ∈ lines, line.bare = line := by
    intro line hline
    obtain ⟨parts, hparts, hinline⟩ := (h line hline).remarks
    cases parts with
    | nil => rw [Line.bare, ← List.flatten_nil, ← hparts]
    | cons part rest =>
      obtain ⟨l, hl⟩ := hinline part (by simp)
      cases hl
  rw [codeLines, List.filter_eq_self.mpr hcode]
  exact (List.map_congr_left (g := id) hbare).trans lines.map_id

variable {t₁ t₂}

/-- Two scripts whose comments can be told fail alike or give programs with the same opening and
bodies with the same code. -/
theorem generate_cases {script₁ script₂ : String} (h₁ : CommentTable.ofScript script₁ = .ok t₁)
    (h₂ : CommentTable.ofScript script₂ = .ok t₂) {forms : List Form}
    (hforms : areNumbered forms = true) :
    (∃ setback, generate settings forms script₁ = .error setback ∧
      generate settings forms script₂ = .error setback) ∨
    ∃ opening body₁ body₂, prelude settings forms = .ok opening ∧
      bodyLines ⟨settings, t₁⟩ forms = .ok body₁ ∧ bodyLines ⟨settings, t₂⟩ forms = .ok body₂ ∧
      generate settings forms script₁ = .ok (programText opening body₁) ∧
      generate settings forms script₂ = .ok (programText opening body₂) ∧
      Alike t₁ t₂ body₁ body₂ := by
  rw [generate_eq settings hforms, generate_eq settings hforms, h₁, h₂]
  cases prelude settings forms with
  | error failure => exact .inl ⟨.failed failure, rfl, rfl⟩
  | ok opening =>
    dsimp only
    have hbodies := bodyLines_agree settings t₁ t₂ forms
    generalize bodyLines ⟨settings, t₁⟩ forms = made₁ at hbodies ⊢
    generalize bodyLines ⟨settings, t₂⟩ forms = made₂ at hbodies ⊢
    cases hbodies with
    | error stop => exact .inl ⟨.failed stop.failure, rfl, rfl⟩
    | @ok body₁ body₂ halike =>
      exact .inr ⟨opening, body₁, body₂, rfl, rfl, rfl, rfl, rfl, halike⟩

/-- Comments never change code: a program is made with the comments of a script just when it is made
without any. Its lines are then those made without comments, with the comments that stand alone
between them and remarks of the script at their ends, whatever the script. Line numbers have to be
whole where they are given. -/
theorem generate_erases_comments {script : String} {table : CommentTable}
    (htable : CommentTable.ofScript script = .ok table) (settings : Settings) {forms : List Form}
    (hforms : areNumbered forms = true) :
    (∀ setback, generate settings forms script = .error setback ↔
      generate settings forms "" = .error setback) ∧
    ∀ program, generate settings forms script = .ok program →
      ∃ opening body, prelude settings forms = .ok opening ∧
        bodyLines ⟨settings, table⟩ forms = .ok body ∧
        program = programText opening body ∧
        generate settings forms "" = .ok (programText opening (codeLines body)) ∧
        (∀ line ∈ body, line.Annotated table ∧ line.render 1 =
          line.bare.render 1 ++ String.join (line.remarks.map ("  " ++ ·))) ∧
        ∀ other table', CommentTable.ofScript other = .ok table' →
          ∃ body', bodyLines ⟨settings, table'⟩ forms = .ok body' ∧
            generate settings forms other = .ok (programText opening body') ∧
            codeLines body' = codeLines body := by
  rcases generate_cases settings htable ofScript_empty hforms with
    ⟨setback, hscript, hempty⟩ | ⟨opening, body, plain, hopening, hbody, -, hscript, hempty, halike⟩
  · rw [hscript, hempty]
    exact ⟨fun _ => Iff.rfl, nofun⟩
  · rw [hscript, hempty]
    refine ⟨fun _ => ⟨nofun, nofun⟩, fun program hprogram => ?_⟩
    obtain rfl := Except.ok.inj hprogram
    have hplain : plain = codeLines body := by
      rw [halike.code, codeLines_of_empty halike.second]
    refine ⟨opening, body, hopening, hbody, rfl, by rw [hplain], fun line hline => ?_, ?_⟩
    · exact ⟨halike.first line hline, line.render_eq 1⟩
    · intro other table' htable'
      rcases generate_cases settings htable htable' hforms with ⟨setback, hfails, -⟩ |
        ⟨opening', body₁, body', hopening', hbody₁, hbody', -, hother, halike'⟩
      · rw [hscript] at hfails
        cases hfails
      · obtain rfl := Except.ok.inj (hopening.symm.trans hopening')
        obtain rfl := Except.ok.inj (hbody.symm.trans hbody₁)
        exact ⟨body', hbody', hother, halike'.code.symm⟩

/-- A call with a remark, and a comment after it. -/
def remarkScript : String := "go()  # now\n# done\n"

def remarkTable : CommentTable := ⟨[2], [(1, ["# now"])], ["go()  # now", "# done"]⟩

def remarkForms : List Form := formsOf [.step (.call "go" []) ⟨false, some (.of 1 1)⟩]

theorem generate_erases_comments_remarkScript :
    CommentTable.ofScript remarkScript = .ok remarkTable ∧ areNumbered remarkForms = true ∧
    (∀ setback, generate .standard remarkForms remarkScript = .error setback ↔
      generate .standard remarkForms "" = .error setback) ∧
    ∀ program, generate .standard remarkForms remarkScript = .ok program →
      ∃ opening body, prelude .standard remarkForms = .ok opening ∧
        bodyLines ⟨.standard, remarkTable⟩ remarkForms = .ok body ∧
        program = programText opening body ∧
        generate .standard remarkForms "" = .ok (programText opening (codeLines body)) ∧
        (∀ line ∈ body, line.Annotated remarkTable ∧ line.render 1 =
          line.bare.render 1 ++ String.join (line.remarks.map ("  " ++ ·))) ∧
        ∀ other table', CommentTable.ofScript other = .ok table' →
          ∃ body', bodyLines ⟨.standard, table'⟩ remarkForms = .ok body' ∧
            generate .standard remarkForms other = .ok (programText opening body') ∧
            codeLines body' = codeLines body := by
  have htable : CommentTable.ofScript remarkScript = .ok remarkTable := by rfl
  have hforms : areNumbered remarkForms = true := by decide
  exact ⟨htable, hforms, generate_erases_comments htable .standard hforms⟩

end HubScript.Hub
