import HubScript.Proofs.InstructionRecord
import HubScript.Proofs.Layout

/-!
# Which lines instructions cover

A line belongs to the instructions whose lines it is among. An instruction without others inside it
hides the comments on its lines; the others give the depth of a comment. Instructions that are laid
out from one line up to another cover no line before the one or after the other, and sorting leaves
them where they are.
-/
namespace HubScript

namespace Instruction

/-- Whether a line is one of an instruction's. -/
def covers (i : Instruction) (l : Nat) : Bool :=
  i.info.span.any fun span => span.first ≤ l && l ≤ span.last

end Instruction

/-- Whether a line is within an instruction that holds no others. -/
def hidden (instrs : List Instruction) (l : Nat) : Bool :=
  (nestedAll instrs).any fun i => !i.isCompound && i.covers l

/-- How many of the instructions that hold others a line is within. -/
def depthAt (instrs : List Instruction) (l : Nat) : Nat :=
  (nestedAll instrs).countP fun i => i.isCompound && i.covers l

/-- A line outside all instructions. -/
def Clear (instrs : List Instruction) (l : Nat) : Prop := ∀ i ∈ nestedAll instrs, i.covers l = false

theorem clear_nil (l : Nat) : Clear [] l := by simp [Clear, nestedAll]

theorem clear_cons {i : Instruction} {rest : List Instruction} {l : Nat} :
    Clear (i :: rest) l ↔
      i.covers l = false ∧ Clear i.body l ∧ Clear i.orelse l ∧ Clear rest l :=
  forall_mem_nestedAll_cons

theorem hidden_of_clear {instrs : List Instruction} {l : Nat} (h : Clear instrs l) :
    hidden instrs l = false := by
  simp only [hidden, List.any_eq_false]
  intro i hi
  simp [h i hi]

theorem depthAt_of_clear {instrs : List Instruction} {l : Nat} (h : Clear instrs l) :
    depthAt instrs l = 0 := by
  simp only [depthAt, List.countP_eq_zero]
  intro i hi
  simp [h i hi]

@[simp] theorem hidden_nil (l : Nat) : hidden [] l = false := rfl

@[simp] theorem depthAt_nil (l : Nat) : depthAt [] l = 0 := rfl

theorem hidden_cons (i : Instruction) (rest : List Instruction) (l : Nat) :
    hidden (i :: rest) l =
      (!i.isCompound && i.covers l ||
        (hidden i.body l || (hidden i.orelse l || hidden rest l))) := by
  simp [hidden, nestedAll, Instruction.nested_eq]

theorem depthAt_cons (i : Instruction) (rest : List Instruction) (l : Nat) :
    depthAt (i :: rest) l =
      (if i.isCompound && i.covers l then 1 else 0) + depthAt i.body l + depthAt i.orelse l +
        depthAt rest l := by
  simp [depthAt, nestedAll, Instruction.nested_eq, List.countP_cons]
  omega

theorem Instruction.covers_eq {i : Instruction} {span : Span} (h : i.info.span = some span)
    (l : Nat) : i.covers l = (span.first ≤ l && l ≤ span.last) := by
  simp [covers, h]

/-- No instruction starts on one of some lines. -/
def StartsOff (lines : List Nat) (instrs : List Instruction) : Prop :=
  ∀ i ∈ nestedAll instrs, ∀ span, i.info.span = some span → span.first ∉ lines

theorem startsOff_cons {lines : List Nat} {i : Instruction} {rest : List Instruction} :
    StartsOff lines (i :: rest) ↔
      (∀ span, i.info.span = some span → span.first ∉ lines) ∧ StartsOff lines i.body ∧
        StartsOff lines i.orelse ∧ StartsOff lines rest :=
  forall_mem_nestedAll_cons

/-- Instructions start where statements do. -/
theorem Reads.startsOff {d : Dialect} {stmts : List Stmt} {instrs : List Instruction}
    {lines : List Nat} (hlines : d.keepsLines) (h : Reads d stmts instrs)
    (hapart : ∀ s ∈ stmtsNested stmts, s.span.first ∉ lines) : StartsOff lines instrs := by
  intro i hi span hspan
  obtain ⟨s, hs, heq⟩ := h.span_mem hlines hi
  obtain rfl := Option.some.inj (heq.symm.trans hspan)
  exact hapart s hs

namespace Instruction.Laid

variable {lo hi l : Nat} {instrs : List Instruction}

/-- The lines before instructions are outside them; so is the line from which they are laid out,
unless one of them starts there. -/
theorem clear_before {lines : List Nat} (h : Laid lo hi instrs) (hoff : StartsOff lines instrs)
    (hmem : l ∈ lines) (hl : l ≤ lo) : Clear instrs l := by
  induction h with
  | nil => exact clear_nil l
  | @cons _ _ _ _ _ span lines _ _ _ _ _ _ _ ihbody ihorelse ihrest =>
    obtain ⟨hfirst, hbody, horelse, hrest⟩ := startsOff_cons.mp hoff
    have hne : l ≠ span.first := by
      rintro rfl
      exact hfirst span lines hmem
    refine clear_cons.mpr ⟨?_, ihbody hbody (by omega), ihorelse horelse (by omega),
      ihrest hrest (by omega)⟩
    rw [covers_eq lines]
    simp
    omega

theorem clear_after (h : Laid lo hi instrs) (hl : hi < l) : Clear instrs l := by
  induction h with
  | nil => exact clear_nil l
  | cons lines _ _ _ _ _ _ _ ihbody ihorelse ihrest =>
    refine clear_cons.mpr ⟨?_, ihbody (by omega), ihorelse (by omega), ihrest hl⟩
    rw [covers_eq lines]
    simp
    omega

/-- The body of the first instruction of a row. -/
theorem body_laid {i : Instruction} {rest : List Instruction} {span : Span}
    (h : Laid lo hi (i :: rest)) (hspan : i.info.span = some span) :
    ∃ m, span.first ≤ m ∧ m ≤ span.last ∧ Laid span.first m i.body := by
  cases h with
  | @cons _ _ m _ _ span' lines start first_le le_last stop body orelse after =>
    obtain rfl := Option.some.inj (lines.symm.trans hspan)
    exact ⟨m, first_le, le_last, body⟩

/-- A row, from the line of its first instruction on, is that instruction and the rest after it. -/
theorem split {i : Instruction} {rest : List Instruction} {span : Span}
    (h : Laid lo hi (i :: rest)) (hspan : i.info.span = some span) :
    lo ≤ span.first ∧ span.first ≤ span.last ∧ Laid span.first span.last [i] ∧
      Laid span.first hi (i :: rest) ∧ Laid span.last hi rest := by
  cases h with
  | @cons _ _ m _ _ span' lines start first_le le_last stop body orelse after =>
    obtain rfl := Option.some.inj (lines.symm.trans hspan)
    refine ⟨start, Nat.le_trans first_le le_last, ?_, ?_, after⟩
    · exact .cons lines (Nat.le_refl _) first_le le_last (Nat.le_refl _) body orelse .nil
    · exact .cons lines (Nat.le_refl _) first_le le_last stop body orelse after

theorem span_of_mem (h : Laid lo hi instrs) {i : Instruction} (hmem : i ∈ instrs) :
    ∃ span, i.info.span = some span ∧ lo ≤ span.first ∧ span.first ≤ span.last := by
  induction instrs generalizing lo with
  | nil => cases hmem
  | cons j rest ih =>
    cases h with
    | @cons _ _ _ _ _ span lines start first_le le_last stop body orelse after =>
      rcases List.mem_cons.mp hmem with rfl | hmem
      · exact ⟨span, lines, start, by omega⟩
      · obtain ⟨span', lines', start', hle'⟩ := ih after hmem
        exact ⟨span', lines', by omega, hle'⟩

/-- Instructions that are laid out are in order already. -/
theorem mergeSort_formsOf (h : Laid lo hi instrs) :
    (formsOf instrs).mergeSort Hub.inOrder = formsOf instrs := by
  apply List.mergeSort_of_pairwise
  rw [formsOf_eq_map, List.pairwise_map]
  induction instrs generalizing lo with
  | nil => exact .nil
  | cons i rest ih =>
    cases h with
    | @cons _ _ _ _ _ span lines start first_le le_last stop body orelse after =>
      refine List.pairwise_cons.mpr ⟨?_, ih after⟩
      intro j hj
      obtain ⟨span', lines', start', hle'⟩ := after.span_of_mem hj
      rw [Hub.inOrder, placeOf_form lines (by omega), placeOf_form lines' hle']
      simp
      omega

end Instruction.Laid

end HubScript
