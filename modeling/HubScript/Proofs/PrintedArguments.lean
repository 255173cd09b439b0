import HubScript.Proofs.Segments
import HubScript.Service
import Mathlib.Data.List.Forall2

/-!
# What a print with several arguments shows

The arguments are joined by the text of a blank between plus signs. The arguments are one sum only
if none of them needs brackets as an operand of it: the texts are joined without brackets.
-/
namespace HubScript

/-! ### Joined texts -/

/-- Texts that grow are joined to a text that grows, and the joined text stays as it is only if
all of them do. -/
theorem intercalate_grown (separator : String) {texts grown : List String}
    (h : List.Forall₂ Grown texts grown) :
    Grown (separator.intercalate texts) (separator.intercalate grown) ∧
      (separator.intercalate texts = separator.intercalate grown ↔ texts = grown) := by
  induction h with
  | nil => exact ⟨.refl _, by simp⟩
  | @cons text text' rest rest' hfirst hrest ih =>
    cases hrest with
    | nil => simp [hfirst]
    | cons hnext hrest =>
      have hstart := hfirst.append (.refl separator)
      rw [String.intercalate_cons_cons, String.intercalate_cons_cons]
      refine ⟨hstart.append ih.1, ?_⟩
      rw [hstart.append_eq_iff ih.1, hfirst.append_eq_iff (.refl separator), ih.2]
      simp

/-! ### Sums of arguments -/

/-- The sum of expressions from the left, with a blank between any two of them. -/
def spacedSum (first : Expr) (others : List Expr) : Expr :=
  others.foldl (fun sum e => .binary .add (.binary .add sum (.literal (.text " " false))) e) first

theorem textAt_add {asked : Level} (hle : asked ≤ Level.arith) (left right : Expr) :
    (Expr.binary .add left right).textAt asked = do
      let left ← left.textAt Level.arith
      let right ← right.textAt Level.term
      return left ++ " " ++ "+" ++ " " ++ right :=
  textAt_binary hle left right

theorem textAt_spaced {asked : Level} (hle : asked ≤ Level.arith) (left right : Expr) :
    (Expr.binary .add (.binary .add left (.literal (.text " " false))) right).textAt asked = do
      let left ← left.textAt Level.arith
      let right ← right.textAt Level.term
      return left ++ " + ' ' + " ++ right := by
  have hblank : (Expr.literal (.text " " false)).textAt Level.term = .ok "' '" := rfl
  have hbetween : " + ' ' + " = " " ++ "+" ++ " " ++ "' '" ++ " " ++ "+" ++ " " := by decide
  rw [textAt_add hle, textAt_add (Nat.le_refl _), hblank, hbetween]
  simp only [bind_assoc, ok_bind, pure_bind, String.append_assoc]

/-- The operands of the sum have the brackets that they need there. -/
theorem textAt_spacedSum {asked : Level} (hle : asked ≤ Level.arith) (first second : Expr)
    (others : List Expr) : (spacedSum first (second :: others)).textAt asked = do
      let start ← first.textAt Level.arith
      let texts ← (second :: others).mapM (Expr.textAt Level.term)
      return " + ' ' + ".intercalate (start :: texts) := by
  induction others generalizing first second with
  | nil =>
    rw [spacedSum, List.foldl_cons, List.foldl_nil, textAt_spaced hle]
    simp
  | cons third others ih =>
    have hfold : spacedSum first (second :: third :: others) =
        spacedSum (.binary .add (.binary .add first (.literal (.text " " false))) second)
          (third :: others) := rfl
    rw [hfold, ih, textAt_spaced (Nat.le_refl _)]
    simp [String.append_assoc]

theorem mapM_textAt_agrees {asked : Level} (hle : Level.test ≤ asked) (items : List Expr) :
    Agree (fun texts inHoles => (texts = inHoles ↔ ∀ e ∈ items, e.losesBrackets asked = false) ∧
        List.Forall₂ Grown texts inHoles)
      (items.mapM Expr.text) (items.mapM (Expr.textAt asked)) := by
  induction items with
  | nil => exact .ok ⟨by simp, .nil⟩
  | cons e rest ih =>
    rw [List.mapM_cons, List.mapM_cons]
    refine (textAt_agrees hle e).bind fun text inHole htext => ?_
    refine ih.bind fun texts inHoles htexts => .ok ⟨?_, .cons htext.2 htexts.2⟩
    rw [List.cons.injEq, htext.1, htexts.1, List.forall_mem_cons]

/-- In every dialect, a print of several arguments is read if their sum with blanks between them
can be written, and it shows the text of the sum if and only if no argument loses brackets that it
has as an operand: the first where a sum may stand, the others where a product may. -/
theorem joined_arguments_iff (d : Dialect) (first second : Expr) (others : List Expr) :
    Agree (fun found sum => ∃ text, found = some (.print (.text text)) ∧
        (text = sum ↔ first.losesBrackets Level.arith = false ∧
          ∀ e ∈ second :: others, e.losesBrackets Level.term = false))
      (d.call (.name "print") (first :: second :: others))
      (spacedSum first (second :: others)).text := by
  have hcall : d.call (.name "print") (first :: second :: others) = do
      let start ← first.text
      let texts ← (second :: others).mapM Expr.text
      return some (.print (.text (" + ' ' + ".intercalate (start :: texts)))) := by
    simp [Dialect.call, Dialect.functionCall, Dialect.joinedContent]
  have hlow : Level.test ≤ Level.arith := by decide
  have hhigh : Level.test ≤ Level.term := by decide
  rw [hcall, text_eq_textAt (spacedSum _ _), textAt_spacedSum hlow]
  refine (textAt_agrees hlow first).bind fun start start' hstart => ?_
  refine (mapM_textAt_agrees hhigh (second :: others)).bind fun texts texts' htexts => .ok ?_
  have hjoined := (intercalate_grown " + ' ' + " (.cons hstart.2 htexts.2)).2
  exact ⟨_, rfl, by rw [hjoined, List.cons.injEq, hstart.1, htexts.1]⟩

/-- The text of the expression that an instruction prints. -/
def Instruction.printed? : Instruction → Option String
  | .step (.print (.text text)) _ => some text
  | _ => none

/-- A choice printed before another value. -/
def choiceScript : String := "print(a if b else c, d)\n"

/-- The choice loses its brackets: the blank and the second value are added to one branch of it. -/
theorem joined_arguments_choiceScript :
    (∃ instrs, readInstructions Current.dialect choiceScript = .ok instrs ∧
      instrs.map Instruction.printed? = [some "a if b else c + ' ' + d"]) ∧
      (spacedSum (.conditional (.name "b") (.name "a") (.name "c")) [.name "d"]).text =
        .ok "(a if b else c) + ' ' + d" := by
  have hread : (readInstructions Current.dialect choiceScript).toOption.any
      (fun instrs => instrs.map Instruction.printed? == [some "a if b else c + ' ' + d"]) =
        true := by
    decide +kernel
  obtain ⟨instrs, hinstrs, hprinted⟩ := exists_of_any hread
  exact ⟨⟨instrs, hinstrs, eq_of_beq hprinted⟩, rfl⟩

end HubScript
