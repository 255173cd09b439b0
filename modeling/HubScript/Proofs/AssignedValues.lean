import HubScript.Proofs.MotorSetup
import HubScript.Proofs.PhraseReplacement
import HubScript.Proofs.Segments
import Mathlib.Data.List.Infix
import Mathlib.Logic.Relation

/-!
# Values that are assigned

A value is taken for a call that has to be awaited if there is a round bracket in its text, unless
the text mentions one of a few words. Brackets come from more than calls: from operands that are
looser than their operator, from tuples, and from texts that hold one.
-/
namespace HubScript

open Hub

/-! ### Brackets in the text of an expression -/

namespace Hole

/-- One hole is within the expression of another, at any depth. -/
def Holds : Hole → Hole → Prop :=
  Relation.ReflTransGen fun outer inner => .hole inner ∈ outer.expr.segments

/-- An expression in a hole has a round bracket of its own. -/
def OpensBracket (p : Hole) : Prop :=
  p.expr.isLoose p.asked = true ∨ ∃ text, .own (.ok text) ∈ p.expr.segments ∧ '(' ∈ text.toList

theorem exists_holds_iff (p : Hole) (P : Hole → Prop) :
    (∃ q, p.Holds q ∧ P q) ↔
      P p ∨ ∃ inner, .hole inner ∈ p.expr.segments ∧ ∃ q, inner.Holds q ∧ P q := by
  constructor
  · rintro ⟨q, hholds, hq⟩
    rcases Relation.ReflTransGen.cases_head_iff.mp hholds with rfl | ⟨inner, hinner, hrest⟩
    · exact .inl hq
    · exact .inr ⟨inner, hinner, q, hrest, hq⟩
  · rintro (hp | ⟨inner, hinner, q, hrest, hq⟩)
    · exact ⟨p, .refl, hp⟩
    · exact ⟨q, .head hinner hrest, hq⟩

end Hole

theorem write_of_mem {segments : List Segment} {text : String}
    (h : segmentsText segments = .ok text) {s : Segment} (hs : s ∈ segments) :
    ∃ part, s.write = .ok part := by
  induction segments generalizing text with
  | nil => cases hs
  | cons first rest ih =>
    rw [segmentsText_cons] at h
    obtain ⟨part, hpart, h⟩ := bind_eq_ok.mp h
    obtain ⟨others, hothers, -⟩ := bind_eq_ok.mp h
    rcases List.mem_cons.mp hs with rfl | hs
    · exact ⟨part, hpart⟩
    · exact ih hothers hs

theorem mem_segmentsText {segments : List Segment} {text : String} {c : Char}
    (h : segmentsText segments = .ok text) :
    c ∈ text.toList ↔ ∃ s ∈ segments, ∃ part, s.write = .ok part ∧ c ∈ part.toList := by
  induction segments generalizing text with
  | nil =>
    obtain rfl := Except.ok.inj h
    simp
  | cons s rest ih =>
    rw [segmentsText_cons] at h
    obtain ⟨first, hfirst, h⟩ := bind_eq_ok.mp h
    obtain ⟨others, hothers, h⟩ := bind_eq_ok.mp h
    obtain rfl := Except.ok.inj h
    rw [String.toList_append, List.mem_append, ih hothers]
    simp [hfirst]

/-- The text of an expression in a hole has a bracket exactly if an expression at some depth has
one of its own. -/
theorem bracket_mem_iff {p : Hole} {text : String}
    (h : Printer.expr false p.asked p.expr = .ok text) :
    '(' ∈ text.toList ↔ ∃ q, p.Holds q ∧ q.OpensBracket := by
  induction hsize : sizeOf p.expr using Nat.strong_induction_on generalizing p text with
  | _ size ih =>
    rw [expr_eq] at h
    obtain ⟨inside, hinside, h⟩ := bind_eq_ok.mp h
    obtain rfl := Except.ok.inj h
    have hparts : '(' ∈ inside.toList ↔
        (∃ own, .own (.ok own) ∈ p.expr.segments ∧ '(' ∈ own.toList) ∨
          ∃ inner, .hole inner ∈ p.expr.segments ∧ ∃ q, inner.Holds q ∧ q.OpensBracket := by
      have hdeeper {inner : Hole} (hinner : .hole inner ∈ p.expr.segments) {part : String}
          (hpart : Printer.expr false inner.asked inner.expr = .ok part) :=
        ih _ (hsize ▸ p.expr.below_segments inner hinner) hpart rfl
      rw [mem_segmentsText hinside]
      constructor
      · rintro ⟨s, hs, part, hpart, hbracket⟩
        cases s with
        | own output => exact .inl ⟨part, hpart ▸ hs, hbracket⟩
        | hole inner => exact .inr ⟨inner, hs, (hdeeper hs hpart).mp hbracket⟩
      · rintro (⟨own, hown, hbracket⟩ | ⟨inner, hinner, hopens⟩)
        · exact ⟨_, hown, own, rfl, hbracket⟩
        · obtain ⟨part, hpart⟩ := write_of_mem hinside hinner
          exact ⟨_, hinner, part, hpart, (hdeeper hinner hpart).mpr hopens⟩
    rw [Hole.exists_holds_iff, Hole.OpensBracket, or_assoc, ← hparts]
    by_cases hloose : p.expr.isLoose p.asked = true
    · simp [hloose]
    · simp [hloose]

/-! ### Assignments -/

theorem bracket_mem_toHub (text : String) : '(' ∈ (toHub text).toList ↔ '(' ∈ text.toList := by
  have hold : ∀ p ∈ phrases, Text.occursIn ['('] p.1.toList = true := by decide
  have hnew : ∀ p ∈ phrases, '(' ∈ p.2.toList := by decide
  rw [toHub_eq, String.toList_ofList]
  constructor
  · intro h
    rw [← List.singleton_infix_iff]
    exact infix_of_translate (fun p hp => .inl (hold p hp)) ((List.singleton_infix_iff _ _).mpr h)
  · exact mem_translate hnew

/-- What is taken for a call in the hub has a bracket in the script and mentions none of the plain
calls in the hub. -/
theorem looksAwaited_iff (text : String) :
    looksAwaited (toHub text) = true ↔
      '(' ∈ text.toList ∧ ∀ word ∈ plainCalls, mentions (toHub text) word = false := by
  have hbracket : mentions (toHub text) "(" = true ↔ '(' ∈ text.toList := by
    rw [← bracket_mem_toHub, mentions, occursIn_iff]
    exact List.singleton_infix_iff _ _
  rw [looksAwaited, Bool.and_eq_true, hbracket]
  simp

/-- An assignment is read if its value can be written, and the workbench then writes one line for it
at every level: the value is not awaited if and only if it has no round bracket, not even in what it
is made of, or mentions a plain call in the hub. -/
theorem assigned_plainly_iff (span : Span) (target : String) (e : Expr) :
    Agree (fun found text => ∃ i sign, found = some i ∧
        (∀ bench : Workbench, bench.run (.lines i.form) =
          (.ok (.lines [margin bench.level ++ (target ++ sign ++ toHub text)]), bench)) ∧
        (sign = " = " ∨ sign = " = await ") ∧
        (sign = " = " ↔ (∀ hole, Hole.Holds ⟨Level.test, e⟩ hole → ¬hole.OpensBracket) ∨
          ∃ word ∈ plainCalls, mentions (toHub text) word = true))
      (Current.dialect.statement (.assign span [.name target] e)) e.text := by
  have hread : Current.dialect.statement (.assign span [.name target] e) = do
      let text ← e.text
      return some (.step (.assign target (.text text)) (Current.dialect.info false span)) := by
    simp [Dialect.statement, Current.dialect]
  rw [hread]
  cases htext : e.text with
  | error refusal => exact .error refusal
  | ok text =>
    have hbracket : '(' ∈ text.toList ↔
        ∃ hole, Hole.Holds ⟨Level.test, e⟩ hole ∧ hole.OpensBracket :=
      bracket_mem_iff (p := ⟨Level.test, e⟩) (Expr.text_eq_ok.mp htext)
    refine .ok ⟨_, _, rfl, fun bench => run_lines_step _ (assign_eq bench.settings target text),
      ?_, ?_⟩
    · split <;> simp
    · have hsign : (if looksAwaited (toHub text) then " = await " else " = ") = " = " ↔
          ¬looksAwaited (toHub text) = true := by
        split <;> simp [*]
      rw [hsign, looksAwaited_iff, hbracket, not_and_or]
      simp only [not_exists, not_and, not_forall, Bool.not_eq_false, exists_prop]

/-- A product of a sum. -/
def bracketedScript : String := "x = (1 + 2) * 3\n"

/-- The number is awaited. -/
theorem assigned_awaited_bracketedScript :
    ∃ instrs program, answerGenerate bracketedScript = .accepted instrs program ∧
      ∃ opening body, Composed .standard instrs bracketedScript program opening body ∧
        codeTexts body = ["x = await (1 + 2) * 3"] :=
  codeTexts_of_any (by decide +kernel)

end HubScript
