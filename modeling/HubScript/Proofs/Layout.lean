import HubScript.Proofs.Reading
import HubScript.Script.Comment

/-!
# The layout of a script

Statements follow one another in the script, and what is inside a statement stands within its
lines. Two statements can share a line, and so can a statement and the first one inside it. The
instructions read from statements are laid out in the same way, whatever is passed over.
-/
namespace HubScript

/-- Statements from a line on and up to another, in the order of the script and well nested. -/
inductive Stmt.Laid : Nat → Nat → List Stmt → Prop
  | nil {lo hi : Nat} : Laid lo hi []
  | cons {lo hi m : Nat} {s : Stmt} {rest : List Stmt}
      (start : lo ≤ s.span.first) (first_le : s.span.first ≤ m) (le_last : m ≤ s.span.last)
      (stop : s.span.last ≤ hi)
      (body : Laid s.span.first m s.body) (orelse : Laid m s.span.last s.orelse)
      (after : Laid s.span.last hi rest) : Laid lo hi (s :: rest)

/-- Instructions from a line on and up to another, in the order of the script and well nested. -/
inductive Instruction.Laid : Nat → Nat → List Instruction → Prop
  | nil {lo hi : Nat} : Laid lo hi []
  | cons {lo hi m : Nat} {i : Instruction} {rest : List Instruction} {span : Span}
      (lines : i.info.span = some span) (start : lo ≤ span.first)
      (first_le : span.first ≤ m) (le_last : m ≤ span.last) (stop : span.last ≤ hi)
      (body : Laid span.first m i.body) (orelse : Laid m span.last i.orelse)
      (after : Laid span.last hi rest) : Laid lo hi (i :: rest)

mutual

/-- A statement with all those inside it that are read with it. -/
def Stmt.nested : Stmt → List Stmt
  | .forEach span target source body => .forEach span target source body :: stmtsNested body
  | .whileLoop span test body => .whileLoop span test body :: stmtsNested body
  | .branch span test body orelse =>
    .branch span test body orelse :: (stmtsNested body ++ stmtsNested orelse)
  | .define span name params body => .define span name params body :: stmtsNested body
  | s => [s]

/-- All statements of a script that are read, at every depth. -/
def stmtsNested : List Stmt → List Stmt
  | [] => []
  | s :: rest => s.nested ++ stmtsNested rest

end

theorem Stmt.nested_eq (s : Stmt) :
    s.nested = s :: (stmtsNested s.body ++ stmtsNested s.orelse) := by
  cases s <;> simp [Stmt.nested, Stmt.body, Stmt.orelse, stmtsNested]

theorem forall_mem_stmtsNested_cons {p : Stmt → Prop} {s : Stmt} {rest : List Stmt} :
    (∀ t ∈ stmtsNested (s :: rest), p t) ↔
      p s ∧ (∀ t ∈ stmtsNested s.body, p t) ∧ (∀ t ∈ stmtsNested s.orelse, p t) ∧
        ∀ t ∈ stmtsNested rest, p t := by
  simp [stmtsNested, Stmt.nested_eq, or_imp, forall_and]

/-- The layout of a script that has been read: its statements are well nested, and none of them
starts on a line that holds nothing but a comment. -/
structure Stmt.LaidOut (script : String) (stmts : List Stmt) : Prop where
  nested : ∃ hi, Stmt.Laid 0 hi stmts
  apart : ∀ table, CommentTable.ofScript script = .ok table →
    ∀ s ∈ stmtsNested stmts, s.span.first ∉ table.alone

/-- Whether statements are laid out from a line on and up to another, as deep as the fuel allows. -/
def Stmt.laidWithin : Nat → Nat → Nat → List Stmt → Bool
  | _, _, _, [] => true
  | 0, _, _, _ :: _ => false
  | fuel + 1, lo, hi, s :: rest =>
    let m := (s.body.getLast?.map (·.span.last)).getD s.span.first
    lo ≤ s.span.first && s.span.first ≤ m && m ≤ s.span.last && s.span.last ≤ hi &&
      laidWithin fuel s.span.first m s.body && laidWithin fuel m s.span.last s.orelse &&
      laidWithin fuel s.span.last hi rest

theorem Stmt.laid_of_laidWithin {fuel lo hi : Nat} {stmts : List Stmt}
    (h : laidWithin fuel lo hi stmts = true) : Stmt.Laid lo hi stmts := by
  induction fuel generalizing lo hi stmts with
  | zero =>
    cases stmts with
    | nil => exact .nil
    | cons => cases h
  | succ fuel ih =>
    cases stmts with
    | nil => exact .nil
    | cons s rest =>
      simp only [laidWithin, Bool.and_eq_true, decide_eq_true_eq] at h
      obtain ⟨⟨⟨⟨⟨⟨hstart, hfirst⟩, hlast⟩, hstop⟩, hbody⟩, horelse⟩, hrest⟩ := h
      exact .cons hstart hfirst hlast hstop (ih hbody) (ih horelse) (ih hrest)

/-- Whether statements are laid out as in a script. -/
def Stmt.checkLayout (fuel : Nat) (script : String) (stmts : List Stmt) : Bool :=
  laidWithin fuel 0 fuel stmts && (CommentTable.ofScript script).toOption.all fun table =>
    (stmtsNested stmts).all fun s => !table.alone.contains s.span.first

theorem Stmt.laidOut_of_checkLayout {fuel : Nat} {script : String} {stmts : List Stmt}
    (h : checkLayout fuel script stmts = true) : Stmt.LaidOut script stmts := by
  obtain ⟨hnested, hapart⟩ := Bool.and_eq_true_iff.mp h
  refine ⟨⟨fuel, laid_of_laidWithin hnested⟩, fun table htable s hs hmem => ?_⟩
  rw [htable] at hapart
  have hnot := List.all_eq_true.mp hapart s hs
  rw [List.contains_iff_mem.mpr hmem] at hnot
  cases hnot

theorem Instruction.Laid.weaken {lo lo' hi : Nat} {instrs : List Instruction} (hlo : lo' ≤ lo)
    (h : Laid lo hi instrs) : Laid lo' hi instrs := by
  cases h with
  | nil => exact .nil
  | cons lines start first_le le_last stop body orelse after =>
    exact .cons lines (Nat.le_trans hlo start) first_le le_last stop body orelse after

/-- What is passed over has no statements inside it that are read. -/
theorem Dialect.parts_of_passed {d : Dialect} {s : Stmt} (h : d.statement s = .ok none) :
    s.body = [] ∧ s.orelse = [] := by
  cases s with
  | forEach span target source body =>
    rw [Dialect.statement] at h
    obtain ⟨_, _, h⟩ := bind_eq_ok.mp h
    obtain ⟨_, _, h⟩ := bind_eq_ok.mp h
    obtain ⟨_, _, h⟩ := bind_eq_ok.mp h
    cases h
  | whileLoop span test body =>
    rw [Dialect.statement] at h
    obtain ⟨_, _, h⟩ := bind_eq_ok.mp h
    obtain ⟨_, _, h⟩ := bind_eq_ok.mp h
    obtain ⟨_, _, h⟩ := bind_eq_ok.mp h
    cases h
  | branch span test body orelse =>
    rw [Dialect.statement] at h
    obtain ⟨_, _, h⟩ := bind_eq_ok.mp h
    obtain ⟨_, _, h⟩ := bind_eq_ok.mp h
    obtain ⟨_, _, h⟩ := bind_eq_ok.mp h
    obtain ⟨_, _, h⟩ := bind_eq_ok.mp h
    cases h
  | define span name params body =>
    rw [Dialect.statement] at h
    obtain ⟨_, _, h⟩ := bind_eq_ok.mp h
    cases h
  | expr | assign | stop | returns | other => exact ⟨rfl, rfl⟩

namespace Reads

variable {d : Dialect} {stmts : List Stmt} {instrs : List Instruction}

theorem span_eq {s : Stmt} {i : Instruction} (hlines : d.keepsLines)
    (h : d.statement s = .ok (some i)) : i.info.span = some s.span := by
  obtain ⟨⟨awaited, hinfo⟩, _⟩ := Dialect.statement_some h
  simp [hinfo, Dialect.info, hlines]

/-- The instructions of well laid out statements are well laid out. -/
theorem laid (hlines : d.keepsLines) (h : Reads d stmts instrs) {lo hi : Nat}
    (hlaid : Stmt.Laid lo hi stmts) : Instruction.Laid lo hi instrs := by
  induction h generalizing lo hi with
  | nil => exact .nil
  | skip _ _ ih =>
    cases hlaid with
    | cons start first_le le_last _ _ _ after => exact (ih after).weaken (by omega)
  | take found _ _ _ ihbody ihorelse ihrest =>
    cases hlaid with
    | cons start first_le le_last stop body orelse after =>
      exact .cons (span_eq hlines found) start first_le le_last stop (ihbody body)
        (ihorelse orelse) (ihrest after)

/-- The lines of an instruction are those of a statement. -/
theorem span_mem (hlines : d.keepsLines) (h : Reads d stmts instrs) {i : Instruction}
    (hi : i ∈ nestedAll instrs) : ∃ s ∈ stmtsNested stmts, i.info.span = some s.span := by
  induction h with
  | nil => simp [nestedAll] at hi
  | skip _ _ ih =>
    obtain ⟨s, hs, hspan⟩ := ih hi
    exact ⟨s, by simp [stmtsNested, hs], hspan⟩
  | @take s _ j _ found _ _ _ ihbody ihorelse ihrest =>
    simp only [nestedAll, Instruction.nested_eq, List.cons_append, List.mem_cons,
      List.mem_append] at hi
    rcases hi with rfl | (hi | hi) | hi
    · exact ⟨s, by simp [stmtsNested, Stmt.nested_eq], span_eq hlines found⟩
    · obtain ⟨t, ht, hspan⟩ := ihbody hi
      exact ⟨t, by simp [stmtsNested, Stmt.nested_eq, ht], hspan⟩
    · obtain ⟨t, ht, hspan⟩ := ihorelse hi
      exact ⟨t, by simp [stmtsNested, Stmt.nested_eq, ht], hspan⟩
    · obtain ⟨t, ht, hspan⟩ := ihrest hi
      exact ⟨t, by simp [stmtsNested, ht], hspan⟩

/-- Every statement inside those that are read is read itself, and its instruction, if it has one,
is among those that are read. -/
theorem forall_stmts (h : Reads d stmts instrs) :
    ∀ s ∈ stmtsNested stmts, ∃ found, d.statement s = .ok found ∧
      ∀ i ∈ found, i ∈ nestedAll instrs := by
  induction h with
  | nil => simp [stmtsNested]
  | @skip s stmts instrs passed rest ih =>
    obtain ⟨hbody, horelse⟩ := Dialect.parts_of_passed passed
    refine forall_mem_stmtsNested_cons.mpr ⟨⟨none, passed, nofun⟩, ?_, ?_, ih⟩
    · simp [hbody, stmtsNested]
    · simp [horelse, stmtsNested]
  | @take s stmts i instrs found body orelse rest ihbody ihorelse ihrest =>
    have hmem : ∀ j, j ∈ nestedAll i.body ∨ j ∈ nestedAll i.orelse ∨ j ∈ nestedAll instrs →
        j ∈ nestedAll (i :: instrs) := by
      intro j hj
      simpa [nestedAll, Instruction.nested_eq, or_assoc] using .inr hj
    refine forall_mem_stmtsNested_cons.mpr ⟨⟨some i, found, ?_⟩, ?_, ?_, ?_⟩
    · simp [nestedAll, Instruction.nested_eq]
    · intro t ht
      obtain ⟨found, hfound, hin⟩ := ihbody t ht
      exact ⟨found, hfound, fun j hj => hmem j (.inl (hin j hj))⟩
    · intro t ht
      obtain ⟨found, hfound, hin⟩ := ihorelse t ht
      exact ⟨found, hfound, fun j hj => hmem j (.inr (.inl (hin j hj)))⟩
    · intro t ht
      obtain ⟨found, hfound, hin⟩ := ihrest t ht
      exact ⟨found, hfound, fun j hj => hmem j (.inr (.inr (hin j hj)))⟩

end Reads

end HubScript
