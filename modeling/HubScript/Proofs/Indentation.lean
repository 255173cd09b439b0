import HubScript.Proofs.CommentErasure

/-!
# One step deeper

The lines of an instruction do not depend on the level at which they are written. One level deeper
each of them has four more blanks in front, except for the empty line after a function, which is
never indented. Where these lines stand follows from the instructions alone: behind the block of a
function, and within another instruction as much further as lines come before.
-/
namespace HubScript.Hub

/-- Whether a line is the empty one after a function. -/
def Line.isSeparator (line : Line) : Bool :=
  match line.content with
  | .separator => true
  | _ => false

section Margin

variable {level : Int}

theorem margin_succ (h : 0 ≤ level) : margin (level + 1) = "    " ++ margin level := by
  have hlength : 4 * (level + 1).toNat = 4 + 4 * level.toNat := by omega
  rw [margin, margin, hlength, ← List.replicate_append_replicate, String.ofList_append]
  rfl

/-- A line that is no separator has four more blanks in front one level deeper. -/
theorem render_succ (h : 0 ≤ level) {line : Line} (hline : line.isSeparator = false) :
    line.render (level + 1) = "    " ++ line.render level := by
  rcases line with ⟨content, remarks⟩
  have hmargin (depth : Nat) : margin (level + 1 + depth) = "    " ++ margin (level + depth) := by
    rw [← margin_succ (by omega)]
    congr 1
    omega
  cases content with
  | code depth text | comment depth text =>
    simp only [Line.render, hmargin, String.append_assoc]
  | separator => cases hline

/-- A separator is its remarks and nothing else, at every level. -/
theorem render_separator (level : Int) {line : Line} (hline : line.isSeparator = true) :
    line.render level = String.join (line.remarks.map ("  " ++ ·)) := by
  rcases line with ⟨content, remarks⟩
  cases content with
  | code depth text | comment depth text => cases hline
  | separator => simp [Line.render]

end Margin

section Gaps

mutual

/-- The places of the empty lines after functions among the lines of an instruction. -/
inductive GapAt (scene : Scene) : Form → Nat → Prop
  | own {fields : Fields} {body orelse : Suite} {text : String} {main : List Line}
      (hheader : header? fields = .ok (some (.function text)))
      (hmain : blockLines scene text (Fields.line? fields) (Fields.lastLine? fields) body =
        .ok main) :
      GapAt scene (.record fields body orelse) main.length
  | body {fields : Fields} {items : List Form} {orelse : Suite} {header : Header} {i : Nat}
      (hheader : header? fields = .ok (some header))
      (h : GapAmong scene ((Fields.line? fields).getD 0 + 1) items i) :
      GapAt scene (.record fields (.forms items) orelse) (i + 1)
  | orelse {fields : Fields} {body : Suite} {items : List Form} {text : String} {main : List Line}
      {i : Nat} (hheader : header? fields = .ok (some (.branch text)))
      (hmain : blockLines scene text (Fields.line? fields) (Fields.lastLine? fields) body =
        .ok main)
      (h : GapAmongPlain scene items i) :
      GapAt scene (.record fields body (.forms items)) (main.length + (i + 1))

/-- The places among the lines of the instructions in a block, with the comments between them. -/
inductive GapAmong (scene : Scene) : Int → List Form → Nat → Prop
  | head {cursor : Int} {form : Form} {rest : List Form} {line : Option Int} {i : Nat}
      (hline : firstLineOf form = .ok line) (h : GapAt scene form i) :
      GapAmong scene cursor (form :: rest)
        ((commentLines scene.comments cursor (line.getD cursor)).length + i)
  | tail {cursor : Int} {form : Form} {rest : List Form} {line : Option Int} {own : List Line}
      {i : Nat} (hline : firstLineOf form = .ok line) (hown : formLines scene form = .ok own)
      (h : GapAmong scene (settled scene.comments form line own).2 rest i) :
      GapAmong scene cursor (form :: rest)
        ((commentLines scene.comments cursor (line.getD cursor)).length + (own.length + i))

/-- The places among the lines of instructions without comments between them. -/
inductive GapAmongPlain (scene : Scene) : List Form → Nat → Prop
  | head {form : Form} {rest : List Form} {i : Nat} (h : GapAt scene form i) :
      GapAmongPlain scene (form :: rest) i
  | tail {form : Form} {rest : List Form} {own : List Line} {i : Nat}
      (hown : formLines scene form = .ok own) (h : GapAmongPlain scene rest i) :
      GapAmongPlain scene (form :: rest) (own.length + i)

end

end Gaps

/-- A separator stands at a place among lines. -/
def SeparatorAt (lines : List Line) (i : Nat) : Prop :=
  ∃ line, lines[i]? = some line ∧ line.isSeparator = true

section Separators

theorem separatorAt_append {a b : List Line} {i : Nat} :
    SeparatorAt (a ++ b) i ↔ SeparatorAt a i ∨ ∃ j, i = a.length + j ∧ SeparatorAt b j := by
  rcases Nat.lt_or_ge i a.length with hlt | hge
  · have hfront : (a ++ b)[i]? = a[i]? := List.getElem?_append_left hlt
    have hbehind : ¬∃ j, i = a.length + j ∧ SeparatorAt b j := by
      rintro ⟨j, rfl, -⟩
      omega
    rw [or_iff_left hbehind]
    simp only [SeparatorAt, hfront]
  · have hback : (a ++ b)[i]? = b[i - a.length]? := List.getElem?_append_right hge
    have hfront : ¬SeparatorAt a i := by
      rintro ⟨line, hline, -⟩
      rw [List.getElem?_eq_none hge] at hline
      cases hline
    obtain ⟨j, rfl⟩ := Nat.exists_eq_add_of_le hge
    simp only [hfront, false_or, Nat.add_left_cancel_iff, exists_eq_left']
    simp only [SeparatorAt, hback, Nat.add_sub_cancel_left]

theorem separatorAt_singleton {line : Line} {i : Nat} :
    SeparatorAt [line] i ↔ i = 0 ∧ line.isSeparator = true := by
  cases i with
  | zero => simp [SeparatorAt]
  | succ i => simp [SeparatorAt]

theorem not_separatorAt {lines : List Line} (h : ∀ line ∈ lines, line.isSeparator = false)
    (i : Nat) : ¬SeparatorAt lines i := by
  rintro ⟨line, hline, hseparator⟩
  rw [h line (List.mem_of_getElem? hline)] at hseparator
  cases hseparator

theorem not_separatorAt_nil (i : Nat) : ¬SeparatorAt [] i := not_separatorAt (by simp) i

theorem separatorAt_map {f : Line → Line} (hf : ∀ line, (f line).isSeparator = line.isSeparator)
    {lines : List Line} {i : Nat} : SeparatorAt (lines.map f) i ↔ SeparatorAt lines i := by
  simp only [SeparatorAt, List.getElem?_map, Option.map_eq_some_iff]
  constructor
  · rintro ⟨_, ⟨line, hline, rfl⟩, hseparator⟩
    exact ⟨line, hline, (hf line).symm.trans hseparator⟩
  · rintro ⟨line, hline, hseparator⟩
    exact ⟨f line, ⟨line, hline, rfl⟩, (hf line).trans hseparator⟩

theorem separatorAt_deeper {lines : List Line} {i : Nat} :
    SeparatorAt (lines.map Line.deeper) i ↔ SeparatorAt lines i := by
  refine separatorAt_map fun line => ?_
  rcases line with ⟨content, remarks⟩
  cases content <;> rfl

theorem not_separatorAt_codes (texts : List String) (i : Nat) :
    ¬SeparatorAt (texts.map Line.code) i :=
  not_separatorAt (List.forall_mem_map.mpr fun _ _ => rfl) i

theorem not_separatorAt_commentLines (table : CommentTable) (start stop : Int) (i : Nat) :
    ¬SeparatorAt (commentLines table start stop) i :=
  not_separatorAt (List.forall_mem_map.mpr fun _ _ => rfl) i

theorem separatorAt_remarked {table : CommentTable} {l : Int} {lines : List Line} {i : Nat} :
    SeparatorAt (remarked table l lines) i ↔ SeparatorAt lines i := by
  unfold remarked
  split
  · unfold remarkLast
    split
    · rename_i last hlast
      obtain ⟨others, rfl⟩ := List.getLast?_eq_some_iff.mp hlast
      rw [List.dropLast_concat, separatorAt_append, separatorAt_append]
      simp only [separatorAt_singleton, Line.remark, Line.isSeparator]
    · rfl
  · rfl

theorem length_remarked (table : CommentTable) (l : Int) (lines : List Line) :
    (remarked table l lines).length = lines.length := by
  unfold remarked
  split
  · unfold remarkLast
    split
    · rename_i last hlast
      obtain ⟨others, rfl⟩ := List.getLast?_eq_some_iff.mp hlast
      rw [List.dropLast_concat, List.length_append, List.length_append, List.length_singleton,
        List.length_singleton]
    · rfl
  · rfl

/-- Below a header the places are those of the lines inside, one further on. -/
theorem separatorAt_block {header : String} {inside : List Line} {i : Nat} :
    SeparatorAt (Line.code header :: inside.map Line.deeper) i ↔
      ∃ j, i = j + 1 ∧ SeparatorAt inside j := by
  rw [← List.singleton_append, separatorAt_append, separatorAt_singleton]
  simp only [Line.code, Line.isSeparator, Bool.false_eq_true, and_false, false_or,
    separatorAt_deeper, List.length_singleton, Nat.add_comm 1]

end Separators

section Places

variable (scene : Scene)

/-- The places below a line that opens a suite, from those among the instructions in it. -/
def GapBelow (places : List Form → Nat → Prop) : Suite → Nat → Prop
  | .forms items, i => ∃ j, i = j + 1 ∧ places items j
  | _, _ => False

/-- The places among what follows the block of an instruction. -/
def GapAfter (orelse : Suite) : Header → Nat → Prop
  | .loop _, _ => False
  | .branch _, i => GapBelow (GapAmongPlain scene) orelse i
  | .function _, i => i = 0

theorem gapAt_record_iff {fields : Fields} {body orelse : Suite} {header : Header}
    {main : List Line} (hheader : header? fields = .ok (some header))
    (hmain : blockLines scene header.text (Fields.line? fields) (Fields.lastLine? fields) body =
      .ok main) {i : Nat} :
    GapAt scene (.record fields body orelse) i ↔
      GapBelow (GapAmong scene ((Fields.line? fields).getD 0 + 1)) body i ∨
        ∃ j, i = main.length + j ∧ GapAfter scene orelse header j := by
  constructor
  · intro h
    cases h with
    | own hheader' hmain' =>
      obtain rfl := Option.some.inj (Except.ok.inj (hheader'.symm.trans hheader))
      obtain rfl := Except.ok.inj (hmain'.symm.trans hmain)
      exact .inr ⟨0, rfl, rfl⟩
    | body hheader' h => exact .inl ⟨_, rfl, h⟩
    | orelse hheader' hmain' h =>
      obtain rfl := Option.some.inj (Except.ok.inj (hheader'.symm.trans hheader))
      obtain rfl := Except.ok.inj (hmain'.symm.trans hmain)
      exact .inr ⟨_, rfl, _, rfl, h⟩
  · rintro (h | ⟨j, rfl, h⟩)
    · cases body with
      | forms items =>
        obtain ⟨j, rfl, h⟩ := h
        exact .body hheader h
      | absent | other v => cases h
    · cases header with
      | loop text => cases h
      | branch text =>
        cases orelse with
        | forms items =>
          obtain ⟨k, rfl, h⟩ := h
          exact .orelse hheader hmain h
        | absent | other v => cases h
      | function text =>
        obtain rfl : j = 0 := h
        exact .own hheader hmain

theorem gapAmong_cons_iff {cursor : Int} {form : Form} {rest : List Form} {line : Option Int}
    {own : List Line} (hline : firstLineOf form = .ok line) (hown : formLines scene form = .ok own)
    {i : Nat} :
    GapAmong scene cursor (form :: rest) i ↔
      ∃ j, i = (commentLines scene.comments cursor (line.getD cursor)).length + j ∧
        (GapAt scene form j ∨ ∃ k, j = own.length + k ∧
          GapAmong scene (settled scene.comments form line own).2 rest k) := by
  constructor
  · intro h
    cases h with
    | head hline' h =>
      obtain rfl := Except.ok.inj (hline'.symm.trans hline)
      exact ⟨_, rfl, .inl h⟩
    | tail hline' hown' h =>
      obtain rfl := Except.ok.inj (hline'.symm.trans hline)
      obtain rfl := Except.ok.inj (hown'.symm.trans hown)
      exact ⟨_, rfl, .inr ⟨_, rfl, h⟩⟩
  · rintro ⟨j, rfl, h | ⟨k, rfl, h⟩⟩
    · exact .head hline h
    · exact .tail hline hown h

theorem gapAmongPlain_cons_iff {form : Form} {rest : List Form} {own : List Line}
    (hown : formLines scene form = .ok own) {i : Nat} :
    GapAmongPlain scene (form :: rest) i ↔
      GapAt scene form i ∨ ∃ j, i = own.length + j ∧ GapAmongPlain scene rest j := by
  constructor
  · intro h
    cases h with
    | head h => exact .inl h
    | tail hown' h =>
      obtain rfl := Except.ok.inj (hown'.symm.trans hown)
      exact .inr ⟨_, rfl, h⟩
  · rintro (h | ⟨j, rfl, h⟩)
    · exact .head h
    · exact .tail hown h

mutual

/-- The separators among the lines of an instruction stand where a function ends. -/
theorem gapAt_iff : (form : Form) → {lines : List Line} → formLines scene form = .ok lines →
    {i : Nat} → (GapAt scene form i ↔ SeparatorAt lines i)
  | .other _, _, h, _ => by cases h
  | .record fields body orelse, lines, h, i => by
    cases hheader : header? fields with
    | error failure =>
      rw [formLines_of_header_error scene body orelse hheader] at h
      cases h
    | ok result =>
      cases result with
      | none =>
        rw [formLines_of_header_none scene body orelse hheader] at h
        obtain ⟨texts, -, h⟩ := bind_eq_ok.mp h
        obtain rfl := Except.ok.inj h
        refine iff_of_false (fun hgap => ?_) (not_separatorAt_codes texts i)
        cases hgap with
        | own hheader' _ | body hheader' _ | orelse hheader' _ _ =>
          cases hheader'.symm.trans hheader
      | some header =>
        rw [formLines_of_header_some scene body orelse hheader] at h
        obtain ⟨main, hmain, h⟩ := bind_eq_ok.mp h
        obtain ⟨others, hothers, h⟩ := bind_eq_ok.mp h
        obtain rfl := Except.ok.inj h
        have hblock (i : Nat) := gapBelow_blockLines_iff (i := i) _ _ _ body hmain
        have hafter (j : Nat) : GapAfter scene orelse header j ↔ SeparatorAt others j := by
          cases header with
          | loop text =>
            obtain rfl := Except.ok.inj hothers
            exact iff_of_false id (not_separatorAt_nil j)
          | branch text => exact gapBelow_elseLines_iff orelse hothers
          | function text =>
            obtain rfl := Except.ok.inj hothers
            rw [separatorAt_singleton]
            exact (and_iff_left rfl).symm
        rw [gapAt_record_iff scene hheader hmain, separatorAt_append, hblock]
        simp only [hafter]

theorem gapBelow_blockLines_iff (header : String) (first last : Option Int) : (suite : Suite) →
    {lines : List Line} → blockLines scene header first last suite = .ok lines → {i : Nat} →
    (GapBelow (GapAmong scene (first.getD 0 + 1)) suite i ↔ SeparatorAt lines i)
  | .absent, _, h, i => by
    rw [blockLines] at h
    obtain rfl := Except.ok.inj h
    rw [separatorAt_block]
    refine iff_of_false id ?_
    rintro ⟨j, -, hseparator⟩
    exact not_separatorAt_commentLines _ _ _ j hseparator
  | .forms items, _, h, i => by
    rw [blockLines] at h
    obtain ⟨⟨lines, cursor⟩, hchildren, h⟩ := bind_eq_ok.mp h
    obtain rfl := Except.ok.inj h
    have hitems (j : Nat) := gapAmong_iff (i := j) _ items (within_eq_ok.mp hchildren)
    have hclosing (j : Nat) := not_separatorAt_commentLines scene.comments cursor
      (last.getD cursor + 1) j
    rw [separatorAt_block, GapBelow]
    simp only [separatorAt_append, hclosing, and_false, exists_false, or_false, hitems]
  | .other _, _, h, _ => by cases h

theorem gapAmong_iff (cursor : Int) : (items : List Form) → {result : List Line × Int} →
    childrenLines scene cursor items = .ok result → {i : Nat} →
    (GapAmong scene cursor items i ↔ SeparatorAt result.1 i)
  | [], _, h, i => by
    rw [childrenLines] at h
    obtain rfl := Except.ok.inj h
    exact iff_of_false nofun (not_separatorAt_nil i)
  | form :: rest, _, h, i => by
    rw [childrenLines] at h
    obtain ⟨line, hline, h⟩ := bind_eq_ok.mp h
    obtain ⟨own, hown, h⟩ := bind_eq_ok.mp h
    obtain ⟨⟨others, final⟩, hothers, h⟩ := bind_eq_ok.mp h
    obtain rfl := Except.ok.inj h
    have hform (j : Nat) := gapAt_iff (i := j) form hown
    have hrest (j : Nat) := gapAmong_iff (i := j) _ rest hothers
    have hbefore := not_separatorAt_commentLines scene.comments cursor (line.getD cursor) i
    rw [gapAmong_cons_iff scene (here_eq_ok.mp hline) hown, List.append_assoc, separatorAt_append,
      or_iff_right hbefore]
    simp only [separatorAt_append, settled, separatorAt_remarked, length_remarked, hform, hrest]

theorem gapBelow_elseLines_iff : (suite : Suite) → {lines : List Line} →
    elseLines scene suite = .ok lines → {i : Nat} →
    (GapBelow (GapAmongPlain scene) suite i ↔ SeparatorAt lines i)
  | .absent, _, h, i => by
    rw [elseLines] at h
    obtain rfl := Except.ok.inj h
    exact iff_of_false id (not_separatorAt_nil i)
  | .forms [], _, h, i => by
    rw [elseLines] at h
    obtain rfl := Except.ok.inj h
    refine iff_of_false ?_ (not_separatorAt_nil i)
    rintro ⟨j, -, h⟩
    cases h
  | .forms (form :: rest), _, h, i => by
    rw [elseLines] at h
    obtain ⟨lines, hlines, h⟩ := bind_eq_ok.mp h
    obtain rfl := Except.ok.inj h
    have hitems (j : Nat) := gapAmongPlain_iff (i := j) (form :: rest) (within_eq_ok.mp hlines)
    rw [separatorAt_block, GapBelow]
    simp only [hitems]
  | .other v, _, h, i => by
    rw [elseLines] at h
    split at h
    · cases h
    · obtain rfl := Except.ok.inj h
      exact iff_of_false id (not_separatorAt_nil i)

theorem gapAmongPlain_iff : (items : List Form) → {lines : List Line} →
    plainLines scene items = .ok lines → {i : Nat} →
    (GapAmongPlain scene items i ↔ SeparatorAt lines i)
  | [], _, h, i => by
    rw [plainLines] at h
    obtain rfl := Except.ok.inj h
    exact iff_of_false nofun (not_separatorAt_nil i)
  | form :: rest, _, h, i => by
    rw [plainLines] at h
    obtain ⟨own, hown, h⟩ := bind_eq_ok.mp h
    obtain ⟨others, hothers, h⟩ := bind_eq_ok.mp h
    obtain rfl := Except.ok.inj h
    have hform (j : Nat) := gapAt_iff (i := j) form hown
    have hrest (j : Nat) := gapAmongPlain_iff (i := j) rest hothers
    rw [gapAmongPlain_cons_iff scene hown, separatorAt_append]
    simp only [hform, hrest]

end

end Places

theorem formLines_annotated {scene : Scene} {form : Form} {lines : List Line}
    (h : formLines scene form = .ok lines) : ∀ line ∈ lines, line.Annotated scene.comments := by
  have hagree := formLines_agree scene.settings scene.comments scene.comments form
  have hscene : formLines ⟨scene.settings, scene.comments⟩ form = .ok lines := h
  rw [hscene] at hagree
  cases hagree with
  | ok halike => exact halike.first

/-- The lines of an instruction at a level and one step deeper: where a function ends both have the
same text, nothing but remarks from the comments; everywhere else the deeper one has four more
blanks in front. -/
structure Indents (scene : Scene) (form : Form) (shallow deep : List String) : Prop where
  length : deep.length = shallow.length
  within : ∀ i, GapAt scene form i → i < shallow.length
  text : ∀ (i : Nat) (a b : String), shallow[i]? = some a → deep[i]? = some b →
    ¬GapAt scene form i → b = "    " ++ a
  gap : ∀ (i : Nat) (a b : String), shallow[i]? = some a → deep[i]? = some b →
    GapAt scene form i → b = a ∧ ∃ parts : List (List String),
      (∀ part ∈ parts, ∃ l, scene.comments.inline? l = some part) ∧
        a = String.join (parts.flatten.map ("  " ++ ·))

theorem indents_render {scene : Scene} {form : Form} {lines : List Line}
    (h : formLines scene form = .ok lines) {level : Int} (hlevel : 0 ≤ level) :
    Indents scene form (lines.map (Line.render level)) (lines.map (Line.render (level + 1))) where
  length := by rw [List.length_map, List.length_map]
  within i hgap := by
    obtain ⟨line, hline, -⟩ := (gapAt_iff scene form h).mp hgap
    rw [List.length_map]
    exact (List.getElem?_eq_some_iff.mp hline).1
  text i a b ha hb hgap := by
    rw [gapAt_iff scene form h] at hgap
    rw [List.getElem?_map, Option.map_eq_some_iff] at ha
    obtain ⟨line, hline, rfl⟩ := ha
    rw [List.getElem?_map, hline] at hb
    obtain rfl := Option.some.inj hb
    have hcode : line.isSeparator = false := by
      rw [← Bool.not_eq_true]
      exact fun hseparator => hgap ⟨line, hline, hseparator⟩
    exact render_succ hlevel hcode
  gap i a b ha hb hgap := by
    obtain ⟨line, hline, hseparator⟩ := (gapAt_iff scene form h).mp hgap
    rw [List.getElem?_map, hline] at ha hb
    obtain rfl := Option.some.inj ha
    obtain rfl := Option.some.inj hb
    obtain ⟨parts, hparts, hinline⟩ :=
      (formLines_annotated h line (List.mem_of_getElem? hline)).remarks
    rw [render_separator _ hseparator, render_separator _ hseparator, hparts]
    exact ⟨rfl, parts, hinline, rfl⟩

/-- Making an instruction one level deeper fails if and as it fails at the level, and else gives as
many lines, each with four more blanks in front but for those where a function ends. Line numbers
are whole where they are given. -/
theorem indentation_commutes (bench : Workbench) (n : Nat) {form : Form}
    (hnumbered : formIsNumbered form = true) :
    let shallow := (Workbench.run { bench with level := n } (.lines form)).1
    let deep := (Workbench.run { bench with level := n + 1 } (.lines form)).1
    (∃ setback, shallow = .error setback ∧ deep = .error setback) ∨
    ∃ texts deeper, shallow = .ok (.lines texts) ∧ deep = .ok (.lines deeper) ∧
      Indents bench.scene form texts deeper := by
  intro shallow deep
  simp only [shallow, deep, run_lines _ hnumbered]
  dsimp only [Workbench.scene]
  cases hlines : formLines ⟨bench.settings, bench.comments⟩ form with
  | error stop => exact .inl ⟨_, rfl, rfl⟩
  | ok lines => exact .inr ⟨_, _, rfl, rfl, indents_render hlines (Int.natCast_nonneg n)⟩

/-- A function within a branch. -/
def nestedFunction : Form :=
  .record [("type", .str "if"), ("condition", .str "x"), ("lineno", .int 1), ("end_lineno", .int 3)]
    (.forms [.record [("type", .str "function_def"), ("name", .str "go"), ("params", .list []),
        ("lineno", .int 2), ("end_lineno", .int 3)]
      (.forms [.record [("type", .str "break"), ("lineno", .int 3)] .absent .absent]) .absent])
    .absent

/-- A workbench with the comments of a script in which the function has a remark. -/
def remarkedBench : Workbench :=
  ⟨.standard, 0, ⟨[], [(2, ["# goes"])], ["if x:", "  def go():  # goes", "    break"]⟩⟩

theorem indentation_commutes_nestedFunction :
    formIsNumbered nestedFunction = true ∧ GapAt remarkedBench.scene nestedFunction 3 ∧
    (writeForm nestedFunction { remarkedBench with level := 2 }).1.toOption =
      some ["        if x:", "            async def go():", "                break", "  # goes"] ∧
    ∃ texts deeper,
      (Workbench.run { remarkedBench with level := 2 } (.lines nestedFunction)).1 =
        .ok (.lines texts) ∧
      (Workbench.run { remarkedBench with level := 3 } (.lines nestedFunction)).1 =
        .ok (.lines deeper) ∧
      Indents remarkedBench.scene nestedFunction texts deeper := by
  have hnumbered : formIsNumbered nestedFunction = true := by decide
  have hlines : formLines remarkedBench.scene nestedFunction =
      .ok [.code "if x:", ⟨.code 1 "async def go():", []⟩, ⟨.code 2 "break", []⟩,
        ⟨.separator, ["# goes"]⟩] := by rfl
  refine ⟨hnumbered, (gapAt_iff _ _ hlines).mpr ⟨_, rfl, rfl⟩, by decide +kernel, ?_⟩
  refine (indentation_commutes remarkedBench 2 hnumbered).resolve_left ?_
  rintro ⟨setback, hshallow, -⟩
  have hmade : (Workbench.run { remarkedBench with level := 2 }
      (.lines nestedFunction)).1.toOption.isSome = true := by decide +kernel
  have hfails : (Workbench.run { remarkedBench with level := 2 } (.lines nestedFunction)).1 =
      .error setback := hshallow
  rw [hfails] at hmade
  cases hmade

end HubScript.Hub
