import HubScript.Proofs.ProgramSteps
import HubScript.Proofs.StableOrder
import HubScript.Proofs.WholeLines
import HubScript.Proofs.WorkSteps

/-!
# Writing gives the lines by their depth

What is written at a workbench, step by step and at the level it has at each moment, is what the
lines by their depth are when they are rendered at the level at the start, wherever line numbers are
whole. A failure leaves the level as much deeper as the instruction that fails stands below the
start.
-/
namespace HubScript.Hub

open Work

section Rendering

variable (level : Int)

theorem render_code (text : String) : (Line.code text).render level = margin level ++ text := by
  simp [Line.render, Line.code, String.join]

theorem render_comment (text : String) :
    (Line.comment text).render level = margin level ++ text := by
  simp [Line.render, Line.comment, String.join]

theorem render_deeper (line : Line) : line.deeper.render level = line.render (level + 1) := by
  rcases line with ⟨content, remarks⟩
  have hlevel (depth : Nat) : level + ((depth + 1 : Nat) : Int) = level + 1 + depth := by omega
  cases content with
  | code depth text | comment depth text => simp only [Line.render, Line.deeper, hlevel]
  | separator => rfl

theorem render_remark (line : Line) (remarks : List String) :
    (line.remark remarks).render level = addRemarks (line.render level) remarks := by
  simp only [Line.render, Line.remark, addRemarks, List.map_append, String.join_append,
    String.append_assoc]

end Rendering

section Steps

variable {α β γ : Type} {bench : Workbench}

@[simp] theorem made_ok (a : α) : bench.made (.ok a) = (.ok a, bench) := rfl

@[simp] theorem made_error (stop : Stop) :
    bench.made (.error stop : Made α) =
      (.error (.failed stop.failure), { bench with level := bench.level + stop.depth }) := rfl

theorem take_eq (result : Except Failure α) : take result bench = bench.made (here result) := by
  cases result with
  | ok a => rfl
  | error failure => simp [take_error]

/-- Steps of work go along with steps of what is made, of which the work gives a rendering. -/
theorem made_bind {x : Work α} {f : α → Work β} {result : Made γ} {view : γ → α} {g : γ → Made β}
    (hx : x bench = bench.made (result.map view))
    (hf : ∀ c, f (view c) bench = bench.made (g c)) :
    (x >>= f) bench = bench.made (result >>= g) := by
  cases result with
  | ok c => rw [bind_of_ok hx, hf, ok_bind]
  | error stop => rw [bind_of_error hx, error_bind, made_error]

/-- What is made between going in and out again fails one step deeper. -/
theorem made_inside {x : Work α} {f : α → Work β} {result : Made γ} {view : γ → α}
    {g : γ → Made β} (hx : x bench.deeper = bench.deeper.made (result.map view))
    (hf : ∀ c, f (view c) bench = bench.made (g c)) :
    (do
      enter
      let a ← x
      leave
      f a) bench = bench.made (within result >>= g) := by
  cases result with
  | ok c => rw [inside_of_ok hx, hf, within_ok, ok_bind]
  | error stop => rw [inside_of_error hx, within_error, error_bind, made_error]

theorem take_bind {result : Except Failure α} {f : α → Work β} {g : α → Made β}
    (hf : ∀ a, f a bench = bench.made (g a)) :
    (take result >>= f) bench = bench.made (here result >>= g) := by
  cases result with
  | ok a => exact (bind_of_ok (take_ok a bench)).trans (hf a)
  | error failure => exact bind_of_error (take_eq _)

@[simp] theorem map_ok (a : α) (view : α → β) :
    (Except.ok a : Made α).map view = .ok (view a) := rfl

theorem map_bind (x : Made α) (f : α → Made β) (view : β → γ) :
    (x >>= f).map view = x >>= fun a => (f a).map view := by
  cases x <;> rfl

end Steps

section Comments

variable {bench : Workbench} {v : Value} {n : Int}

theorem rendered_append (a b : List Line) :
    bench.rendered (a ++ b) = bench.rendered a ++ bench.rendered b := List.map_append

theorem rendered_deeper (lines : List Line) :
    bench.deeper.rendered lines = bench.rendered (lines.map Line.deeper) := by
  simp only [Workbench.rendered, List.map_map, Function.comp_def, render_deeper, Workbench.deeper]

theorem rendered_code_cons (text : String) (lines : List Line) :
    bench.rendered (Line.code text :: lines) =
      (margin bench.level ++ text) :: bench.rendered lines := by
  simp only [Workbench.rendered, List.map_cons, render_code]

theorem writeComments_of_asInt? (indentation : String) (m : Int) (hv : v.asInt? = some n) :
    writeComments indentation (.int m) v bench =
      (.ok ((commentsBetween bench.comments m n).map (indentation ++ ·)), bench) := by
  rw [writeComments, ask_bind, CommentTable.between_eq m hv, bind_of_ok (take_ok _ _), pure_apply]

theorem rendered_commentLines (m n : Int) :
    bench.rendered (commentLines bench.comments m n) =
      (commentsBetween bench.comments m n).map (margin bench.level ++ ·) := by
  simp only [commentLines, Workbench.rendered, List.map_map, Function.comp_def, render_comment]

theorem writeComments_eq (m : Int) (hv : v.asInt? = some n) :
    writeComments (margin bench.level) (.int m) v bench =
      (.ok (bench.rendered (commentLines bench.comments m n)), bench) := by
  rw [writeComments_of_asInt? _ m hv, rendered_commentLines]

theorem addRemarksOf_eq (hv : v.asInt? = some n) (lines : List Line) :
    addRemarksOf v (bench.rendered lines) bench =
      (.ok (bench.rendered (remarked bench.comments n lines)), bench) := by
  rw [addRemarksOf, Workbench.rendered, List.getLast?_map, remarked]
  cases hlast : lines.getLast? with
  | none =>
    obtain rfl := List.getLast?_eq_none_iff.mp hlast
    cases bench.comments.inline? n <;> rfl
  | some last =>
    rw [Option.map_some]
    dsimp only
    rw [ask_bind, CommentTable.remarksAt_eq hv, bind_of_ok (take_ok _ _)]
    cases bench.comments.inline? n with
    | none => rfl
    | some remarks =>
      simp only [pure_apply, remarkLast, hlast, Workbench.rendered, List.map_append,
        List.map_dropLast, List.map_singleton, render_remark]

/-- Lines at the level of a workbench, and the line of the script after them. -/
def Workbench.renderedTo (bench : Workbench) (made : List Line × Int) : List String × Value :=
  (bench.rendered made.1, .int made.2)

theorem settle_eq {fields : Fields} (h : fields.isNumbered = true) (body orelse : Suite)
    (lines : List Line) :
    settle fields (bench.rendered lines) bench =
      (.ok (bench.renderedTo (settled bench.comments (.record fields body orelse)
        (Fields.line? fields) lines)), bench) := by
  have hstart := startOr_of_numbered h (Value.asInt?_int 0)
  have hend := endOr_of_numbered h hstart
  rw [settle, bind_of_ok (addRemarksOf_eq hstart lines), Value.successor_of_asInt? hend]
  rfl

end Comments

/-- The lines of the instructions in a suite and the line that follows them in the script. -/
def suiteLines (scene : Scene) (cursor : Int) : Suite → Made (List Line × Int)
  | .absent => .ok ([], cursor)
  | .forms items => childrenLines scene cursor items
  | .other v => here (.error (.notIterable v.typeName))

/-- What stands below a header: the lines of a suite and the comments after them. -/
def belowLines (scene : Scene) (first last : Option Int) (suite : Suite) : Made (List Line) := do
  let (lines, cursor) ← suiteLines scene (first.getD 0 + 1) suite
  return lines ++ commentLines scene.comments cursor (last.getD cursor + 1)

theorem blockLines_eq (scene : Scene) (header : String) (first last : Option Int) (suite : Suite) :
    blockLines scene header first last suite =
      within (belowLines scene first last suite) >>= fun below =>
        .ok (Line.code header :: below.map Line.deeper) := by
  cases suite with
  | absent => rw [blockLines]; rfl
  | forms items =>
    rw [blockLines, belowLines, suiteLines]
    cases childrenLines scene (first.getD 0 + 1) items <;> rfl
  | other v => rw [blockLines]; rfl

section Blocks

variable {bench : Workbench} {fields : Fields} {suite : Suite}
  {children : String → Value → Work (List String × Value)}

theorem writeBelow_eq (h : fields.isNumbered = true) (body orelse : Suite)
    (hchildren : ∀ start : Int, children (margin bench.level) (.int start) bench =
      bench.made ((suiteLines bench.scene start suite).map bench.renderedTo)) :
    writeBelow (.record fields body orelse) children bench =
      bench.made ((belowLines bench.scene (Fields.line? fields) (Fields.lastLine? fields)
        suite).map bench.rendered) := by
  have hstart := startOr_of_numbered h (Value.asInt?_int 0)
  rw [writeBelow, indent_bind, recordFields, bind_of_ok (take_ok _ _),
    Value.successor_of_asInt? hstart, bind_of_ok (take_ok _ _), belowLines, map_bind]
  refine made_bind (hchildren _) fun made => ?_
  have hend := endOr_of_numbered h (Value.asInt?_int made.2)
  dsimp only [Workbench.renderedTo]
  rw [Value.successor_of_asInt? hend, bind_of_ok (take_ok _ _),
    bind_of_ok (writeComments_eq made.2 (Value.asInt?_int _)), pure_apply, ← rendered_append]
  rfl

theorem writeBlock_eq (header : String) (h : fields.isNumbered = true) (body orelse : Suite)
    (hchildren : ∀ start : Int, children (margin bench.deeper.level) (.int start) bench.deeper =
      bench.deeper.made ((suiteLines bench.scene start suite).map bench.deeper.renderedTo)) :
    writeBlock header (.record fields body orelse) children bench =
      bench.made ((blockLines bench.scene header (Fields.line? fields) (Fields.lastLine? fields)
        suite).map bench.rendered) := by
  rw [writeBlock, indent_bind, blockLines_eq, map_bind]
  refine made_inside (writeBelow_eq h body orelse hchildren) fun below => ?_
  rw [pure_apply, rendered_deeper, map_ok, made_ok, rendered_code_cons]

end Blocks

mutual

/-- An instruction is written as its lines at the level of the workbench. -/
theorem writeForm_eq : (form : Form) → formIsNumbered form = true → (bench : Workbench) →
    writeForm form bench = bench.made ((formLines bench.scene form).map bench.rendered)
  | .other v, _, bench => by
    rw [writeForm, take_eq, formLines]
    rfl
  | .record fields body orelse, h, bench => by
    simp only [formIsNumbered, Bool.and_eq_true] at h
    obtain ⟨⟨hfields, hbody⟩, horelse⟩ := h
    rw [writeForm, indent_bind]
    cases hheader : header? fields with
    | error failure =>
      rw [formLines_of_header_error bench.scene body orelse hheader]
      exact bind_of_error (take_eq _)
    | ok result =>
      rw [bind_of_ok (take_ok _ _)]
      cases result with
      | none =>
        rw [formLines_of_header_none bench.scene body orelse hheader, map_bind]
        refine (ask_bind _ _ _).trans (take_bind fun texts => ?_)
        simp only [pure_apply, map_ok, made_ok, Workbench.rendered, List.map_map,
          Function.comp_def, render_code]
      | some header =>
        rw [formLines_of_header_some bench.scene body orelse hheader, map_bind]
        refine made_bind (writeBlock_eq header.text hfields body orelse fun start =>
          writeSuite_eq body hbody start bench.deeper) fun main => ?_
        cases header with
        | loop text =>
          simp only [pure_apply, afterBlock, ok_bind, List.append_nil, map_ok, made_ok]
        | branch text =>
          rw [afterBlock, map_bind]
          refine made_bind (writeElse_eq orelse horelse bench) fun others => ?_
          simp only [pure_apply, map_ok, made_ok, rendered_append]
        | function text =>
          simp only [pure_apply, afterBlock, ok_bind, map_ok, made_ok, rendered_append]
          rfl

theorem writeSuite_eq : (suite : Suite) → suiteIsNumbered suite = true → (start : Int) →
    (bench : Workbench) →
    writeSuite (margin bench.level) (.int start) suite bench =
      bench.made ((suiteLines bench.scene start suite).map bench.renderedTo)
  | .absent, _, start, bench => by
    rw [writeSuite]
    rfl
  | .forms items, h, start, bench => by
    rw [writeSuite]
    exact writeChildren_eq items h start bench
  | .other v, _, start, bench => by
    rw [writeSuite, take_eq]
    rfl

theorem writeChildren_eq : (items : List Form) → areNumbered items = true → (line : Int) →
    (bench : Workbench) →
    writeChildren (margin bench.level) (.int line) items bench =
      bench.made ((childrenLines bench.scene line items).map bench.renderedTo)
  | [], _, line, bench => by
    rw [writeChildren, childrenLines]
    rfl
  | .other v :: rest, _, line, bench => by
    rw [writeChildren, childrenLines]
    exact bind_of_error (take_eq _)
  | .record fields body orelse :: rest, h, line, bench => by
    rw [areNumbered, Bool.and_eq_true] at h
    have hfields := isNumbered_of_form h.1
    have hstart := startOr_of_numbered hfields (Value.asInt?_int line)
    rw [writeChildren, recordFields, bind_of_ok (take_ok _ _),
      bind_of_ok (writeComments_eq line hstart), childrenLines, firstLineOf, here_ok, ok_bind,
      map_bind]
    refine made_bind (writeForm_eq (.record fields body orelse) h.1 bench) fun own => ?_
    rw [bind_of_ok (settle_eq hfields body orelse own), map_bind]
    refine made_bind (writeChildren_eq rest h.2 _ bench) fun others => ?_
    simp only [pure_apply, pure_eq_ok, map_ok, made_ok, Workbench.renderedTo, rendered_append]
    rfl

theorem writeElse_eq : (suite : Suite) → suiteIsNumbered suite = true → (bench : Workbench) →
    writeElse (margin bench.level) suite bench =
      bench.made ((elseLines bench.scene suite).map bench.rendered)
  | .absent, _, bench => by
    rw [writeElse, elseLines]
    rfl
  | .forms [], _, bench => by
    rw [writeElse, elseLines]
    rfl
  | .forms (form :: rest), h, bench => by
    rw [writeElse, elseLines, map_bind]
    refine made_inside (writePlain_eq (form :: rest) h bench.deeper) fun lines => ?_
    simp only [pure_apply, pure_eq_ok, map_ok, made_ok, rendered_deeper, rendered_code_cons]
  | .other v, _, bench => by
    rw [writeElse, elseLines]
    split
    · rfl
    · rfl

theorem writePlain_eq : (items : List Form) → areNumbered items = true → (bench : Workbench) →
    writePlain items bench = bench.made ((plainLines bench.scene items).map bench.rendered)
  | [], _, bench => by
    rw [writePlain, plainLines]
    rfl
  | form :: rest, h, bench => by
    rw [areNumbered, Bool.and_eq_true] at h
    rw [writePlain, plainLines, map_bind]
    refine made_bind (writeForm_eq form h.1 bench) fun lines => ?_
    rw [map_bind]
    refine made_bind (writePlain_eq rest h.2 bench) fun others => ?_
    simp only [pure_apply, pure_eq_ok, map_ok, made_ok, rendered_append]

end

theorem writeChild_eq {form : Form} (h : formIsNumbered form = true) (bench : Workbench) :
    writeChild form bench = bench.made ((childLines bench.scene form).map bench.renderedTo) := by
  cases form with
  | other v => exact bind_of_error (take_eq _)
  | record fields body orelse =>
    have hfields := isNumbered_of_form h
    rw [writeChild, recordFields, bind_of_ok (take_ok _ _), childLines, firstLineOf, here_ok,
      ok_bind, map_bind]
    refine made_bind (writeForm_eq _ h bench) fun own => ?_
    exact settle_eq hfields body orelse own

section Main

variable {bench : Workbench}

theorem writeCommentsUpTo_of_asInt? (hbench : bench.comments.InOrder) (indentation : String)
    {line : Int} (hline : 0 ≤ line) {v : Value} {n : Int} (hv : v.asInt? = some n) :
    writeCommentsUpTo indentation (.int line) v bench =
      (.ok ((commentsBetween bench.comments line n).map (indentation ++ ·),
        .int (passTo bench.comments line n)), bench) := by
  rw [writeCommentsUpTo, ask_bind, CommentTable.upTo_eq hbench hv hline, bind_of_ok (take_ok _ _)]
  rfl

theorem writeCommentsUpTo_eq (hbench : bench.comments.InOrder) {line : Int} (hline : 0 ≤ line)
    {v : Value} {n : Int} (hv : v.asInt? = some n) :
    writeCommentsUpTo (margin bench.level) (.int line) v bench =
      (.ok (bench.rendered (commentLines bench.comments line n),
        .int (passTo bench.comments line n)), bench) := by
  rw [writeCommentsUpTo_of_asInt? hbench _ hline hv, rendered_commentLines]

theorem writeMain_eq (hbench : bench.comments.InOrder) {forms : List Form}
    (hforms : areNumbered forms = true) {line : Int} (hline : 0 ≤ line) :
    writeMain (margin bench.level) (.int line) forms bench =
      bench.made ((mainLines bench.scene line forms).map bench.rendered) := by
  induction forms generalizing line with
  | nil =>
    rw [writeMain, ask_bind, bind_of_ok (writeCommentsUpTo_eq hbench hline (Value.asInt?_int _))]
    rfl
  | cons form rest ih =>
    rw [areNumbered, Bool.and_eq_true] at hforms
    cases form with
    | other v => exact bind_of_error (take_eq _)
    | record fields body orelse =>
      have hfields := isNumbered_of_form hforms.1
      have hstart := startOr_of_numbered hfields (Value.asInt?_int line)
      have hend := endOr_of_numbered hfields hstart
      rw [writeMain, recordFields, bind_of_ok (take_ok _ _)]
      dsimp only
      rw [bind_of_ok (writeCommentsUpTo_eq hbench hline hstart), mainLines, firstLineOf, here_ok,
        ok_bind, map_bind]
      refine made_bind (writeForm_eq _ hforms.1 bench) fun own => ?_
      rw [bind_of_ok (addRemarksOf_eq hstart own), Value.successor_of_asInt? hend,
        bind_of_ok (take_ok _ _), Value.larger_int, bind_of_ok (take_ok _ _), map_bind]
      have hnext : 0 ≤ max (passTo bench.comments line ((Fields.line? fields).getD line))
          ((Fields.lastLine? fields).getD ((Fields.line? fields).getD line) + 1) := by
        unfold passTo
        omega
      refine made_bind (ih hforms.2 hnext) fun others => ?_
      simp only [pure_apply, pure_eq_ok, map_ok, made_ok, rendered_append]
      rfl

end Main

section Order

theorem inOrder_trans (a b c : Form) (hab : inOrder a b = true) (hbc : inOrder b c = true) :
    inOrder a c = true := by
  simp only [inOrder, Bool.or_eq_true, Bool.and_eq_true, decide_eq_true_eq, beq_iff_eq] at hab hbc ⊢
  omega

theorem inOrder_total (a b : Form) : (inOrder a b || inOrder b a) = true := by
  simp only [inOrder, Bool.or_eq_true, Bool.and_eq_true, decide_eq_true_eq, beq_iff_eq]
  omega

/-- A form with its key, in which both lines are whole. -/
def Keyed (item : Value × Form) : Prop :=
  ∃ v w, item.1 = .tuple [v, w] ∧ v.asInt? = some (placeOf item.2).1 ∧
    w.asInt? = some (placeOf item.2).2

/-- Keys are compared as the places of the forms. -/
theorem keyed_compares : Compares Keyed (fun a b : Value × Form => inOrder a.2 b.2)
    (fun a b => Value.sizeHolds .less a.1 b.1) where
  trans a b c := inOrder_trans a.2 b.2 c.2
  total a b := inOrder_total a.2 b.2
  less_eq := by
    rintro ⟨_, a⟩ ⟨_, b⟩ ⟨v, w, rfl, hv, hw⟩ ⟨v', w', rfl, hv', hw'⟩
    dsimp only at hv hw hv' hw' ⊢
    simp only [Value.sizeHolds, Value.sizeHoldsAll, Value.equal_of_asInt? hv hv',
      Value.equal_of_asInt? hw hw', Value.sizeHolds_of_asInt? .less hv hv',
      Value.sizeHolds_of_asInt? .less hw hw', inOrder, beq_iff_eq, SizeTest.holds]
    generalize placeOf a = p, placeOf b = q
    split
    · rename_i hfirst
      split
      · rename_i hlast
        simp [hfirst, hlast]
      · rename_i hlast
        congr 1
        rw [Bool.eq_iff_iff]
        simp only [beq_iff_eq, Int.compare_eq_lt, hfirst, Bool.not_eq_true', Bool.or_eq_false_iff,
          Bool.and_eq_false_iff, decide_eq_false_iff_not]
        simp
    · rename_i hfirst
      congr 1
      rw [Bool.eq_iff_iff]
      simp only [beq_iff_eq, Int.compare_eq_lt, Bool.not_or, Bool.not_and, Bool.and_eq_true,
        Bool.not_eq_eq_eq_not, Bool.not_true, decide_eq_false_iff_not, Bool.or_eq_true,
        beq_eq_false_iff_ne]
      omega

/-- A record whose own line numbers are whole. -/
def IsPlaced (form : Form) : Prop :=
  ∃ fields body orelse, form = .record fields body orelse ∧ Fields.isNumbered fields = true

theorem keyed_eq {forms : List Form} (hforms : ∀ form ∈ forms, IsPlaced form) :
    ∃ items, keyed forms = .ok items ∧ items.map Prod.snd = forms ∧ ∀ item ∈ items, Keyed item := by
  induction forms with
  | nil => exact ⟨[], rfl, rfl, nofun⟩
  | cons form rest ih =>
    obtain ⟨⟨fields, body, orelse, rfl, hfields⟩, hrest⟩ := List.forall_mem_cons.mp hforms
    obtain ⟨items, hitems, hsnd, hkeyed⟩ := ih hrest
    refine ⟨(.tuple [Fields.startOr fields (.int lastPlace), Fields.endOr fields (.int lastPlace)],
      .record fields body orelse) :: items, ?_, ?_, List.forall_mem_cons.mpr ⟨?_, hkeyed⟩⟩
    · rw [keyed, keyOf, recordFields, ok_bind, pure_eq_ok, ok_bind, hitems, ok_bind, pure_eq_ok]
    · rw [List.map_cons, hsnd]
    · exact ⟨_, _, rfl, startOr_of_numbered hfields (Value.asInt?_int lastPlace),
        endOr_of_numbered hfields (Value.asInt?_int lastPlace)⟩

/-- Forms are put in the stable order of their places. -/
theorem arranged_eq {forms : List Form} (hforms : ∀ form ∈ forms, IsPlaced form) :
    arranged forms = .ok (forms.mergeSort inOrder) := by
  obtain ⟨items, hitems, rfl, hkeyed⟩ := keyed_eq hforms
  have hsnd : (items.mergeSort fun a b => inOrder a.2 b.2).map Prod.snd =
      (items.map Prod.snd).mergeSort inOrder := List.map_mergeSort fun _ _ _ _ => rfl
  rw [arranged, hitems, ok_bind, keyed_compares.sortBy_eq hkeyed, ok_bind, pure_eq_ok, hsnd]

end Order

section Programs

/-- Something that is no record is found out before the main function is written. -/
theorem placed_of_prelude {settings : Settings} {forms : List Form} {opening : List String}
    (hforms : areNumbered forms = true) (h : prelude settings forms = .ok opening) :
    ∀ form ∈ forms, IsPlaced form := by
  rw [prelude] at h
  obtain ⟨needs, hneeds, -⟩ := bind_eq_ok.mp h
  rw [needsOf] at hneeds
  obtain ⟨motors, hmotors, -⟩ := bind_eq_ok.mp hneeds
  clear h hneeds
  induction forms generalizing motors with
  | nil => exact nofun
  | cons form rest ih =>
    rw [areNumbered, Bool.and_eq_true] at hforms
    rw [usedMotors] at hmotors
    obtain ⟨own, hown, hmotors⟩ := bind_eq_ok.mp hmotors
    obtain ⟨others, hothers, -⟩ := bind_eq_ok.mp hmotors
    refine List.forall_mem_cons.mpr ⟨?_, ih hforms.2 others hothers⟩
    cases form with
    | record fields body orelse => exact ⟨fields, body, orelse, rfl, isNumbered_of_form hforms.1⟩
    | other v => cases hown

theorem writeBody_eq {bench : Workbench} (hbench : bench.comments.InOrder) {forms : List Form}
    (hforms : areNumbered forms = true)
    (hplaced : ∀ form ∈ forms, IsPlaced form) (opening : List String) :
    writeBody opening forms bench =
      bench.made ((bodyLines bench.scene forms).map fun body =>
        assembled opening (bench.rendered body)) := by
  have hsorted : areNumbered (forms.mergeSort inOrder) = true := by
    rw [areNumbered_iff] at hforms ⊢
    exact fun form h => hforms form (List.mem_mergeSort.mp h)
  rw [writeBody, indent_bind, arranged_eq hplaced, bind_of_ok (take_ok _ _)]
  have hbody := writeMain_eq hbench hsorted (Int.zero_le_ofNat 1)
  rw [bodyLines]
  cases hlines : mainLines bench.scene 1 (forms.mergeSort inOrder) with
  | ok body =>
    rw [hlines] at hbody
    exact bind_of_ok hbody
  | error stop =>
    rw [hlines] at hbody
    exact bind_of_error hbody

/-- A program is made from comments, an opening and a body; the first of them that fails is what
keeps it from being made. -/
theorem generate_eq (settings : Settings) {forms : List Form} (hforms : areNumbered forms = true)
    (script : String) :
    generate settings forms script =
      match CommentTable.ofScript script with
      | .error fault => .error (.comments fault)
      | .ok table =>
        match prelude settings forms with
        | .error failure => .error (.failed failure)
        | .ok opening =>
          match bodyLines ⟨settings, table⟩ forms with
          | .error stop => .error (.failed stop.failure)
          | .ok body => .ok (programText opening body) := by
  rw [generate, writeProgram_eq]
  cases htable : CommentTable.ofScript script with
  | error fault => rfl
  | ok table =>
    dsimp only [Workbench.new]
    cases hopening : prelude settings forms with
    | error failure => rfl
    | ok opening =>
      dsimp only
      have hbench : (⟨settings, 1, table⟩ : Workbench).comments.InOrder :=
        CommentTable.ofScript_inOrder htable
      rw [writeBody_eq hbench hforms (placed_of_prelude hforms hopening)]
      dsimp only [Workbench.scene]
      cases bodyLines ⟨settings, table⟩ forms with
      | error stop => rfl
      | ok body => rfl

theorem generate_eq_ok {settings : Settings} {forms : List Form} {script program : String}
    (hforms : areNumbered forms = true) (h : generate settings forms script = .ok program) :
    ∃ table opening body, CommentTable.ofScript script = .ok table ∧
      prelude settings forms = .ok opening ∧ bodyLines ⟨settings, table⟩ forms = .ok body ∧
      program = programText opening body := by
  rw [generate_eq settings hforms] at h
  split at h
  · cases h
  · rename_i table htable
    split at h
    · cases h
    · rename_i opening hopening
      split at h
      · cases h
      · rename_i body hbody
        exact ⟨table, opening, body, htable, hopening, hbody, (Except.ok.inj h).symm⟩

end Programs

section Tasks

variable (bench : Workbench) {form : Form}

theorem map_eq_bind {α β : Type} (result : Made α) (view : α → β) :
    result.map view = result >>= fun a => .ok (view a) := by
  cases result <;> rfl

theorem run_lines (h : formIsNumbered form = true) :
    bench.run (.lines form) =
      bench.made ((formLines bench.scene form).map fun lines => .lines (bench.rendered lines)) := by
  rw [Workbench.run, Workbench.work, map_eq_bind]
  exact made_bind (writeForm_eq form h bench) fun _ => rfl

theorem run_block (header : String) {fields : Fields} {body orelse : Suite}
    (h : formIsNumbered (.record fields body orelse) = true) :
    bench.run (.block header (.record fields body orelse) "body") =
      bench.made ((blockLines bench.scene header (Fields.line? fields) (Fields.lastLine? fields)
        body).map fun lines => .lines (bench.rendered lines)) := by
  simp only [formIsNumbered, Bool.and_eq_true] at h
  rw [Workbench.run, Workbench.work, map_eq_bind]
  exact made_bind (writeBlock_eq header h.1.1 body orelse fun start =>
    writeSuite_eq body h.1.2 start bench.deeper) fun _ => rfl

theorem run_child (h : formIsNumbered form = true) :
    bench.run (.child form) =
      bench.made ((childLines bench.scene form).map fun made =>
        .child (bench.rendered made.1) made.2) := by
  rw [Workbench.run, Workbench.work, map_eq_bind]
  exact made_bind (writeChild_eq h bench) fun _ => rfl

end Tasks

end HubScript.Hub
