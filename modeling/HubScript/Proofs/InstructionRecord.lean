import HubScript.Proofs.Reading
import HubScript.Proofs.WholeLines

/-!
# Instructions as records

The record of an instruction: the fields of its own kind, then its lines, and its parts.
-/
namespace HubScript

/-- The fields that come with every instruction. -/
def infoFields : List String := ["await", "lineno", "end_lineno"]

theorem lookup_append_info (fields : Hub.Fields) (info : Info) {name : String}
    (hname : name ∉ infoFields) : (fields ++ info.fields).lookup name = fields.lookup name := by
  have hinfo : info.fields.lookup name = none := by
    rw [List.lookup_eq_none_iff]
    rintro ⟨other, v⟩ hmem
    rw [bne_iff_ne]
    rintro rfl
    revert hmem hname
    rcases info with ⟨_ | _, _ | span⟩ <;> simp +contextual [Info.fields, infoFields]
  rw [List.lookup_append, hinfo, Option.or_none]

namespace Instruction

/-- The fields of an instruction apart from what all instructions have. -/
def ownFields : Instruction → Hub.Fields
  | .step act _ => act.fields
  | .block head _ _ => head.fields
  | .branch condition _ _ _ => [("type", .str "if"), ("condition", .str condition)]

def fields (i : Instruction) : Hub.Fields := i.ownFields ++ i.info.fields

/-- The body of an instruction as a suite. -/
def bodySuite (i : Instruction) : Suite :=
  if i.isCompound then .forms (formsOf i.body) else .absent

/-- The other part of an instruction as a suite, which is absent when it is empty. -/
def elseSuite (i : Instruction) : Suite :=
  match i.orelse with
  | [] => .absent
  | others => .forms (formsOf others)

theorem form_eq (i : Instruction) : i.form = .record i.fields i.bodySuite i.elseSuite := by
  cases i with
  | step act info => simp only [form]; rfl
  | block head body info => simp only [form]; rfl
  | branch condition body orelse info =>
    cases orelse <;> simp only [form] <;> rfl

theorem lookup_ownFields_line (i : Instruction) {name : String}
    (hname : name = "lineno" ∨ name = "end_lineno") : i.ownFields.lookup name = none := by
  rcases hname with rfl | rfl
  all_goals
    cases i with
    | step act info =>
      cases act with
      | startMotor _ operand | wait operand | print operand | assign _ operand
      | giveBack operand => cases operand <;> rfl
      | _ => rfl
    | block head body info => cases head <;> rfl
    | branch => rfl

theorem lookup_line {i : Instruction} {span : Span} (h : i.info.span = some span) :
    i.fields.lookup "lineno" = some (.int span.first) ∧
      i.fields.lookup "end_lineno" = some (.int span.last) := by
  have hinfo : i.info.fields.lookup "lineno" = some (.int span.first) ∧
      i.info.fields.lookup "end_lineno" = some (.int span.last) := by
    unfold Info.fields
    rw [h]
    cases i.info.awaited <;> exact ⟨rfl, rfl⟩
  have hfirst := i.lookup_ownFields_line (.inl rfl)
  have hlast := i.lookup_ownFields_line (.inr rfl)
  simp [fields, List.lookup_append, hfirst, hlast, hinfo.1, hinfo.2]

theorem line?_fields {i : Instruction} {span : Span} (h : i.info.span = some span) :
    Hub.Fields.line? i.fields = some (span.first : Int) := by
  rw [Hub.Fields.line?, Hub.lineField?, (lookup_line h).1]
  simp [Value.asInt?, Option.filter, Nat.ne_of_gt span.counted]

theorem lastLine?_fields {i : Instruction} {span : Span} (h : i.info.span = some span)
    (hle : span.first ≤ span.last) : Hub.Fields.lastLine? i.fields = some (span.last : Int) := by
  have hpos : 0 < span.last := Nat.lt_of_lt_of_le span.counted hle
  rw [Hub.Fields.lastLine?, Hub.lineField?, (lookup_line h).2]
  simp [Value.asInt?, Option.filter, Nat.ne_of_gt hpos]

theorem firstLineOf_form {i : Instruction} {span : Span} (h : i.info.span = some span) :
    Hub.firstLineOf i.form = .ok (some (span.first : Int)) := by
  rw [form_eq, Hub.firstLineOf, line?_fields h]

theorem lastLineOf_form {i : Instruction} {span : Span} (h : i.info.span = some span)
    (hle : span.first ≤ span.last) : Hub.lastLineOf i.form = some (span.last : Int) := by
  rw [form_eq, Hub.lastLineOf, lastLine?_fields h hle]

theorem placeOf_form {i : Instruction} {span : Span} (h : i.info.span = some span)
    (hle : span.first ≤ span.last) :
    Hub.placeOf i.form = ((span.first : Int), (span.last : Int)) := by
  rw [form_eq, Hub.placeOf, line?_fields h, lastLine?_fields h hle]
  rfl

/-- The lines of an instruction are whole numbers, where it has any. -/
theorem isNumbered_fields (i : Instruction) : Hub.Fields.isNumbered i.fields = true := by
  rw [Hub.Fields.isNumbered, List.all_eq_true]
  intro name hname
  have hline : name = "lineno" ∨ name = "end_lineno" := by simpa using hname
  have hlookup : i.fields.lookup name = i.info.fields.lookup name := by
    rw [fields, List.lookup_append, lookup_ownFields_line i hline, Option.none_or]
  have hwhole (info : Info) (v : Value) (hv : info.fields.lookup name = some v) :
      v.asInt?.isSome = true := by
    rcases hline with rfl | rfl <;> rcases info with ⟨_ | _, _ | span⟩ <;> cases hv <;> rfl
  rw [Hub.Fields.number?, hlookup, Option.all_eq_true]
  exact fun v hv => hwhole i.info v (Option.mem_filter_iff.mp hv).1

theorem isCompound_fields (i : Instruction) : Hub.Fields.isCompound i.fields = i.isCompound := by
  cases i with
  | step act info => cases act <;> rfl
  | block head body info => cases head <;> rfl
  | branch => rfl

theorem bodySuite_of_compound {i : Instruction} (h : i.isCompound = true) :
    i.bodySuite = .forms (formsOf i.body) := by
  rw [bodySuite, if_pos h]

/-- What is the same for an absent suite and an empty one can be asked of the forms of the other
part. -/
theorem apply_elseSuite {β : Type} {ofSuite : Suite → β} {ofForms : List Form → β}
    (habsent : ofSuite .absent = ofForms [])
    (hforms : ∀ items, ofSuite (.forms items) = ofForms items) (i : Instruction) :
    ofSuite i.elseSuite = ofForms (formsOf i.orelse) := by
  rw [elseSuite]
  cases i.orelse with
  | nil => exact habsent
  | cons => exact hforms _

theorem header_of_step (act : Step) (info : Info) :
    Hub.header? (step act info).fields = .ok none := by
  cases act <;> rfl

end Instruction

theorem formsOf_eq_map (instrs : List Instruction) :
    formsOf instrs = instrs.map Instruction.form := by
  induction instrs with
  | nil => rfl
  | cons i rest ih => rw [formsOf, ih, List.map_cons]

theorem areNumbered_formsOf (instrs : List Instruction) :
    Hub.areNumbered (formsOf instrs) = true := by
  refine Instruction.forest_induction (P := fun i => Hub.formIsNumbered i.form = true)
    (Q := fun instrs => Hub.areNumbered (formsOf instrs) = true) ?_ ?_ rfl ?_ instrs
  · intro act info
    have hfields := (Instruction.step act info).isNumbered_fields
    rw [Instruction.form_eq, Hub.formIsNumbered, hfields]
    rfl
  · intro i hcompound hbody horelse
    have helse : Hub.suiteIsNumbered i.elseSuite = Hub.areNumbered (formsOf i.orelse) :=
      i.apply_elseSuite rfl fun _ => rfl
    rw [i.form_eq, Hub.formIsNumbered, i.isNumbered_fields, i.bodySuite_of_compound hcompound,
      Hub.suiteIsNumbered, hbody, helse, horelse]
    rfl
  · intro i rest hfirst hrest
    rw [formsOf, Hub.areNumbered, hfirst, hrest]
    rfl

theorem Instruction.isNumbered_form (i : Instruction) : Hub.formIsNumbered i.form = true := by
  have hforms := areNumbered_formsOf [i]
  rw [formsOf, Hub.areNumbered, Bool.and_eq_true] at hforms
  exact hforms.1

theorem joinTexts_strings (position : Nat) (texts : List String) :
    Hub.joinTexts position (texts.map Value.str) = .ok texts := by
  induction texts generalizing position with
  | nil => rfl
  | cons text rest ih => simp [Hub.joinTexts, ih]

theorem Instruction.header_of_define (name : String) (params : List String)
    (body : List Instruction) (info : Info) :
    Hub.header? (block (.define name params) body info).fields =
      .ok (some (.function s!"async def {name}({Printer.commas params}):")) := by
  have hparams : Hub.parameters (.list (params.map Value.str)) = .ok (Printer.commas params) := by
    simp [Hub.parameters, Value.items?, joinTexts_strings]
  have hheader : Hub.header? (block (.define name params) body info).fields =
      Hub.parameters (.list (params.map Value.str)) >>= fun text =>
        .ok (some (.function s!"async def {name}({text}):")) := rfl
  rw [hheader, hparams]
  rfl

theorem Instruction.header_of_compound {i : Instruction} (h : i.isCompound) :
    ∃ header, Hub.header? i.fields = .ok (some header) := by
  cases i with
  | step => cases h
  | block head body info =>
    cases head with
    | forEach target source => exact ⟨_, rfl⟩
    | whileLoop condition => exact ⟨_, rfl⟩
    | define name params => exact ⟨_, header_of_define name params body info⟩
  | branch condition body orelse info => exact ⟨_, rfl⟩

end HubScript
