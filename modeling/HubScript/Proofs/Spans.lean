import HubScript.Proofs.Coverage
import HubScript.Proofs.Simulation
import HubScript.Reader.Current
import Mathlib.Data.List.Chain

/-!
# The lines of instructions

Statements follow one another in a script and hold one another within their lines; two that follow
one another can share a line. The instructions keep the lines of the statements they are read from,
so that their lines are arranged in the same way, however many statements are passed over at every
level. At the top level they are then in program order before they are sorted.
-/
namespace HubScript

/-- Each span ends before the next one starts, or on the line where it starts. -/
def Span.InSequence (spans : List Span) : Prop := spans.IsChain fun a b => a.last ≤ b.first

/-- The lines of something with two parts: the first is counted from one and not after the last,
each part is in sequence, both parts are inside, and the one comes before the other. -/
structure Span.Encloses (span : Span) (body orelse : List Span) : Prop where
  counted : 0 < span.first
  ordered : span.first ≤ span.last
  bodySequence : InSequence body
  elseSequence : InSequence orelse
  inside : ∀ part ∈ body ++ orelse, span.first ≤ part.first ∧ part.last ≤ span.last
  parted : ∀ a ∈ body, ∀ b ∈ orelse, a.last ≤ b.first

/-- The lines of instructions, in order. -/
def spansOf (instrs : List Instruction) : List Span := instrs.filterMap (·.info.span)

/-- Instructions that all have lines, which are in sequence and enclose those of their parts, at
every depth. -/
structure Instruction.Arranged (instrs : List Instruction) : Prop where
  sequence : Span.InSequence (spansOf instrs)
  nested : ∀ i ∈ nestedAll instrs,
    ∃ span, i.info.span = some span ∧ span.Encloses (spansOf i.body) (spansOf i.orelse)

theorem spansOf_cons {i : Instruction} {rest : List Instruction} {span : Span}
    (h : i.info.span = some span) : spansOf (i :: rest) = span :: spansOf rest := by
  simp [spansOf, h]

namespace Instruction.Laid

variable {lo hi : Nat} {instrs : List Instruction}

theorem spansOf_inside (h : Laid lo hi instrs) :
    ∀ span ∈ spansOf instrs, lo ≤ span.first ∧ span.last ≤ hi := by
  induction instrs generalizing lo with
  | nil => simp [spansOf]
  | cons i rest ih =>
    cases h with
    | @cons _ _ _ _ _ span lines start first_le le_last stop _ _ after =>
      rw [spansOf_cons lines]
      intro part hpart
      rcases List.mem_cons.mp hpart with rfl | hpart
      · exact ⟨start, stop⟩
      · have hafter := ih after part hpart
        exact ⟨by omega, hafter.2⟩

theorem spansOf_inSequence (h : Laid lo hi instrs) : Span.InSequence (spansOf instrs) := by
  induction instrs generalizing lo with
  | nil => exact .nil
  | cons i rest ih =>
    cases h with
    | @cons _ _ _ _ _ span lines _ _ _ _ _ _ after =>
      rw [spansOf_cons lines, Span.InSequence, List.isChain_cons]
      refine ⟨fun next hnext => ?_, ih after⟩
      exact (after.spansOf_inside next (List.mem_of_mem_head? hnext)).1

/-- Between the lines of two parts there is one where the first has ended and the second has not
started. -/
theorem encloses {span : Span} {m : Nat} {body orelse : List Instruction}
    (first_le : span.first ≤ m) (le_last : m ≤ span.last)
    (hbody : Laid span.first m body) (horelse : Laid m span.last orelse) :
    span.Encloses (spansOf body) (spansOf orelse) where
  counted := span.counted
  ordered := Nat.le_trans first_le le_last
  bodySequence := hbody.spansOf_inSequence
  elseSequence := horelse.spansOf_inSequence
  inside part hpart := by
    rcases List.mem_append.mp hpart with hpart | hpart
    · have hinside := hbody.spansOf_inside part hpart
      exact ⟨hinside.1, Nat.le_trans hinside.2 le_last⟩
    · have hinside := horelse.spansOf_inside part hpart
      exact ⟨Nat.le_trans first_le hinside.1, hinside.2⟩
  parted a ha b hb :=
    Nat.le_trans (hbody.spansOf_inside a ha).2 (horelse.spansOf_inside b hb).1

theorem arranged (h : Laid lo hi instrs) : Instruction.Arranged instrs := by
  refine ⟨h.spansOf_inSequence, ?_⟩
  induction h with
  | nil => simp [nestedAll]
  | @cons _ _ _ _ _ span lines _ first_le le_last _ body orelse _ ihbody ihorelse ihrest =>
    have hspan := encloses first_le le_last body orelse
    exact forall_mem_nestedAll_cons.mpr ⟨⟨span, lines, hspan⟩, ihbody, ihorelse, ihrest⟩

end Instruction.Laid

/-- Instructions of a forest are put in the stable order of their lines. -/
theorem arranged_formsOf (instrs : List Instruction) :
    Hub.arranged (formsOf instrs) = .ok ((formsOf instrs).mergeSort Hub.inOrder) := by
  refine Hub.arranged_eq fun form hform => ?_
  rw [formsOf_eq_map] at hform
  obtain ⟨i, -, rfl⟩ := List.mem_map.mp hform
  have hnumbered := Hub.isNumbered_of_form (i.form_eq ▸ i.isNumbered_form)
  exact ⟨_, _, _, i.form_eq, hnumbered⟩

/-- The lines of the instructions of a script are arranged at every depth when those of its
statements are, whatever is passed over. Sorting the instructions then changes nothing: those that
share a line stay in the order of the script. -/
theorem read_arranged {script : String} {instrs : List Instruction}
    (hlaid : ∀ stmts, readScript script = .ok stmts → ∃ hi, Stmt.Laid 0 hi stmts)
    (h : readInstructions Current.dialect script = .ok instrs) :
    Instruction.Arranged instrs ∧ (formsOf instrs).mergeSort Hub.inOrder = formsOf instrs ∧
      Hub.arranged (formsOf instrs) = .ok (formsOf instrs) := by
  obtain ⟨stmts, hstmts, hreads⟩ := readInstructions_eq_ok h
  obtain ⟨hi, hnested⟩ := hlaid stmts hstmts
  have hinstrs : Instruction.Laid 0 hi instrs := hreads.laid rfl hnested
  have hsorted := hinstrs.mergeSort_formsOf
  exact ⟨hinstrs.arranged, hsorted, by rw [arranged_formsOf, hsorted]⟩

/-- Statements that share lines, in a loop and in both parts of a branch; two of them are passed
over. -/
def crowdedScript : String :=
  "while x:\n    if y: go(); pass; go()\n    else:\n        import z; go(1,\n           2)\n"

theorem read_arranged_crowdedScript :
    ∃ instrs, (∀ stmts, readScript crowdedScript = .ok stmts → ∃ hi, Stmt.Laid 0 hi stmts) ∧
      readInstructions Current.dialect crowdedScript = .ok instrs ∧
      (nestedAll instrs).length = 5 ∧ Instruction.Arranged instrs ∧
      (formsOf instrs).mergeSort Hub.inOrder = formsOf instrs ∧
      Hub.arranged (formsOf instrs) = .ok (formsOf instrs) := by
  have hlayout : (readScript crowdedScript).toOption.any (Stmt.laidWithin 12 0 12) = true := by
    decide +kernel
  have hinstrs : (readInstructions Current.dialect crowdedScript).toOption.any
      (fun instrs => (nestedAll instrs).length == 5) = true := by
    decide +kernel
  obtain ⟨stmts, hstmts, hcheck⟩ := exists_of_any hlayout
  obtain ⟨instrs, hread, hcount⟩ := exists_of_any hinstrs
  have hlaid : ∀ stmts, readScript crowdedScript = .ok stmts → ∃ hi, Stmt.Laid 0 hi stmts := by
    intro stmts' hstmts'
    obtain rfl := Except.ok.inj (hstmts.symm.trans hstmts')
    exact ⟨12, Stmt.laid_of_laidWithin hcheck⟩
  exact ⟨instrs, hlaid, hread, eq_of_beq hcount, read_arranged hlaid hread⟩

end HubScript
