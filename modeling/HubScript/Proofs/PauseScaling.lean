import HubScript.Proofs.NumericAmounts
import HubScript.Proofs.Provenance
import HubScript.Proofs.Segments
import HubScript.Proofs.SensorTranslation

/-!
# Pauses in milliseconds

A pause that is worked out is given in seconds and waited for in milliseconds. The factor is written
behind the text of the pause, so that it belongs to the whole pause unless this is a sum: there it
belongs to the last summand only.
-/
namespace HubScript

open Hub

/-! ### A factor behind a text -/

def thousand : Expr := .literal (.int 1000)

/-- A number without its fraction. -/
def wholePart (e : Expr) : Expr := .call (.name "int") [e] []

/-- A time in milliseconds, from one in seconds. -/
def milliseconds (seconds : Expr) : Expr := wholePart (.binary .mul seconds thousand)

namespace Expr

def isSum : Expr → Bool
  | .binary .add _ _ => true
  | .binary .sub _ _ => true
  | _ => false

/-- What an expression becomes if a factor is written behind it. -/
def followedBy (e factor : Expr) : Expr :=
  match e with
  | .binary .add left right => .binary .add left (.binary .mul right factor)
  | .binary .sub left right => .binary .sub left (.binary .mul right factor)
  | e => .binary .mul e factor

end Expr

theorem text_wholePart (e : Expr) : (wholePart e).text = do
    return "int(" ++ (← e.text) ++ ")" := by
  rw [text_eq_textAt, text_eq_textAt, Expr.textAt, Expr.textAt]
  simp only [wholePart, Printer.expr, Printer.exprs, Printer.keywords]
  cases Printer.expr false Level.test e <;> rfl

theorem textAt_mul {asked : Level} (hle : asked ≤ Level.term) (left right : Expr) :
    (Expr.binary .mul left right).textAt asked = do
      let left ← left.textAt Level.term
      let right ← right.textAt Level.factor
      return left ++ " " ++ "*" ++ " " ++ right :=
  textAt_binary hle left right

theorem textAt_thousandfold {asked : Level} (hle : asked ≤ Level.term) (e : Expr) :
    (Expr.binary .mul e thousand).textAt asked = do
      return (← e.textAt Level.term) ++ " * 1000" := by
  have hthousand : thousand.textAt Level.factor = .ok "1000" := rfl
  have hfactor : " * 1000" = " " ++ "*" ++ " " ++ "1000" := by decide
  rw [textAt_mul hle, hthousand, hfactor]
  simp only [ok_bind, String.append_assoc]

theorem textAt_of_not_loose {asked : Level} (hle : Level.test ≤ asked) {e : Expr}
    (h : e.isLoose asked = false) : e.textAt asked = e.text := by
  have halone : e.isLoose Level.test = false := by
    rw [Bool.eq_false_iff] at h ⊢
    exact fun hloose => h (isLoose_mono hle hloose)
  rw [text_eq_textAt, textAt_eq, textAt_eq, h, halone]

/-- The last summand of a sum takes the factor behind it. -/
theorem text_sum_followed {op : BinaryOp} (hlevel : op.level = Level.arith)
    (hoperands : op.operandLevels = (Level.arith, Level.term)) (left right : Expr) :
    (Expr.binary op left (.binary .mul right thousand)).text = do
      return (← (Expr.binary op left right).text) ++ " * 1000" := by
  have hle : Level.test ≤ op.level := by
    rw [hlevel]
    decide
  rw [text_eq_textAt, text_eq_textAt, textAt_binary hle, textAt_binary hle, hoperands,
    textAt_thousandfold (Nat.le_refl _)]
  simp only [bind_assoc, pure_bind, String.append_assoc]

/-- A factor behind the text of an expression. -/
theorem text_followedBy {e : Expr} (h : e.isLoose Level.term = e.isSum) :
    (e.followedBy thousand).text = do return (← e.text) ++ " * 1000" := by
  unfold Expr.followedBy
  split
  · exact text_sum_followed (show BinaryOp.level .add = _ from rfl) rfl _ _
  · exact text_sum_followed (show BinaryOp.level .sub = _ from rfl) rfl _ _
  · rename_i hadd hsub
    have hsum : e.isSum = false := by
      unfold Expr.isSum
      split
      · exact absurd rfl (hadd _ _)
      · exact absurd rfl (hsub _ _)
      · rfl
    rw [text_eq_textAt, textAt_thousandfold (by decide),
      textAt_of_not_loose (by decide) (h.trans hsum)]

theorem wait_eq (settings : Settings) (text : String) :
    statements settings (Step.wait (.text text)).fields =
      .ok ["await runloop.sleep_ms(" ++ ("int(" ++ (toHub text ++ " * 1000") ++ ")") ++ ")"] := by
  have hstatements : statements settings (Step.wait (.text text)).fields =
      .ok ["await runloop.sleep_ms(int(" ++ toHub text ++ " * 1000))"] := rfl
  have hopening : "await runloop.sleep_ms(int(" = "await runloop.sleep_ms(" ++ "int(" := by decide
  have hclosing : " * 1000))" = " * 1000" ++ ")" ++ ")" := by decide
  rw [hstatements, hopening, hclosing]
  simp only [String.append_assoc]

/-! ### Numbers in the hub -/

theorem sensorTree?_mem {function tree : Expr} (h : sensorTree? function = some tree) :
    ∃ phrase, (phrase, tree) ∈ sensorTrees := by
  obtain ⟨names, -, hlookup⟩ := Option.bind_eq_some_iff.mp h
  obtain ⟨before, after, hsplit, -⟩ := List.lookup_eq_some_iff.mp hlookup
  exact ⟨".".intercalate names ++ "()", by simp [hsplit]⟩

theorem shape_sensorTrees : ∀ p ∈ sensorTrees, p.2.level? = none ∧ p.2.isSum = false := by
  simp [sensorTrees, Expr.level?, Expr.isSum]

namespace Hub.Number

variable {e : Expr}

/-- A number in the hub is a sum if it is one in the script, and it needs brackets as a factor only
then. -/
theorem shape_inHub (h : Number e) :
    (inHub e).isLoose Level.term = e.isSum ∧ (inHub e).isSum = e.isSum ∧
      (inHub e).isLoose Level.test = false := by
  cases h with
  | literal | name | item => exact ⟨rfl, rfl, rfl⟩
  | @sign op operand inner isSign =>
    cases op with
    | plus | minus => exact ⟨rfl, rfl, rfl⟩
    | invert | not => cases isSign
  | @basic op left right isBasic first second =>
    cases op with
    | add | sub | mul | div => exact ⟨rfl, rfl, rfl⟩
    | _ => cases isBasic
  | @sensor function names arguments chain known inner =>
    cases arguments with
    | nil =>
      obtain ⟨tree, htree, -, -⟩ := sensorTree?_eq_some chain known
      obtain ⟨phrase, hmem⟩ := sensorTree?_mem htree
      obtain ⟨hlevel, hsum⟩ := shape_sensorTrees _ hmem
      rw [inHub_call_nil, htree]
      simp only [Option.getD_some, Expr.isLoose, hlevel, hsum]
      exact ⟨rfl, rfl, rfl⟩
    | cons e rest =>
      rw [inHub_call_cons]
      exact ⟨rfl, rfl, rfl⟩

theorem exprs_error {arguments : List Expr} {fault : PrintFault}
    (hnumbers : ∀ e ∈ arguments, Number e)
    (hfails : ∀ e ∈ arguments, ∀ asked, Printer.expr false asked e = .error fault →
      Printer.expr false asked (inHub e) = .error fault)
    (h : Printer.exprs false arguments = .error fault) :
    Printer.exprs false (allInHub arguments) = .error fault := by
  induction arguments with
  | nil => cases h
  | cons e rest ih =>
    rw [allInHub, Printer.exprs]
    rcases bind_eq_error.mp h with h | ⟨text, htext, h⟩
    · rw [hfails e (by simp) _ h]
      rfl
    · obtain ⟨text', htext', -⟩ := (hnumbers e (by simp)).follows _ text htext
      rcases bind_eq_error.mp h with h | ⟨texts, -, h⟩
      · have hothers := ih (fun d hd => hnumbers d (by simp [hd]))
          (fun d hd => hfails d (by simp [hd])) h
        rw [htext', hothers]
        rfl
      · cases h

/-- A number that cannot be written cannot be written in the hub either. -/
theorem expr_error (h : Number e) {asked : Level} {fault : PrintFault}
    (herror : Printer.expr false asked e = .error fault) :
    Printer.expr false asked (inHub e) = .error fault := by
  induction h generalizing asked with
  | literal | name => exact herror
  | sign inner isSign ih =>
    rw [Printer.expr] at herror
    rcases bind_eq_error.mp herror with herror | ⟨text, -, herror⟩
    · rw [inHub, Printer.expr, ih herror]
      rfl
    · cases herror
  | basic isBasic first second ihl ihr =>
    rw [Printer.expr] at herror
    rw [inHub, Printer.expr]
    rcases bind_eq_error.mp herror with herror | ⟨left, hleft, herror⟩
    · rw [ihl herror]
      rfl
    · obtain ⟨left', hleft', -⟩ := first.follows _ left hleft
      rcases bind_eq_error.mp herror with herror | ⟨right, -, herror⟩
      · rw [hleft', ihr herror]
        rfl
      · cases herror
  | item whole place iho ihi =>
    rw [Printer.expr] at herror
    rw [inHub, Printer.expr, indexLevel_inHub place]
    rcases bind_eq_error.mp herror with herror | ⟨object, hobject, herror⟩
    · rw [iho herror]
      rfl
    · obtain ⟨object', hobject', -⟩ := whole.follows _ object hobject
      rcases bind_eq_error.mp herror with herror | ⟨index, -, herror⟩
      · rw [hobject', ihi herror]
        rfl
      · cases herror
  | @sensor function names arguments chain known inner ih =>
    rw [Printer.expr, expr_dotted chain, ok_bind] at herror
    rcases bind_eq_error.mp herror with herror | ⟨texts, -, herror⟩
    · cases arguments with
      | nil => cases herror
      | cons e rest =>
        rw [inHub_call_cons, Printer.expr, expr_dotted chain, ok_bind,
          exprs_error inner (fun d hd asked => ih d hd) herror]
        rfl
    · cases herror

/-- Putting the hub's words into the text of a number is writing it in the hub. -/
theorem text_agrees (h : Number e) :
    Agree (fun text carried => carried = toHub text) e.text (inHub e).text := by
  unfold Expr.text Expr.print
  cases hprint : Printer.expr false Level.test e with
  | error fault =>
    rw [h.expr_error hprint]
    exact .error _
  | ok text =>
    obtain ⟨text', htext', hcarried, -⟩ := h.follows Level.test text hprint
    rw [htext']
    have hall := hcarried [] fun _ h => by cases h
    rw [translate_nil_text, List.append_nil, List.append_nil] at hall
    exact .ok (by rw [toHub_eq, hall, String.ofList_toList])

end Hub.Number

/-- A pause that is worked out is read if it can be written in milliseconds, and the workbench then
writes one line for it at every level. The time in this line is the pause with a factor behind it,
which is the pause in milliseconds if and only if the pause is no sum. -/
theorem pause_scaled_iff {s : Stmt} {e : Expr} (hasked : s.pause? = some e)
    (hnumeric : e.isNumeric = true) (hplain : e.isPlain = true) (hliteral : e.isLiteral = false) :
    Agree (fun found scaled => ∃ i time, found = some i ∧
        (wholePart ((inHub e).followedBy thousand)).text = .ok time ∧
        (∀ bench : Workbench, bench.run (.lines i.form) = (.ok (.lines
          [margin bench.level ++ ("await runloop.sleep_ms(" ++ time ++ ")")]), bench)) ∧
        (time = scaled ↔ e.isSum = false))
      (Current.dialect.statement s) (milliseconds (inHub e)).text := by
  have hnumber := number_of_isNumeric e hnumeric hplain
  obtain ⟨hloose, hsum, halone⟩ := hnumber.shape_inHub
  have hlevel : Level.test ≤ Level.term := by decide
  have htime : (wholePart ((inHub e).followedBy thousand)).text = do
      return "int(" ++ ((← (inHub e).text) ++ " * 1000") ++ ")" := by
    rw [text_wholePart, text_followedBy (hloose.trans hsum.symm), bind_assoc]
    rfl
  have hscaled : (milliseconds (inHub e)).text = do
      return "int(" ++ ((← (inHub e).textAt Level.term) ++ " * 1000") ++ ")" := by
    rw [milliseconds, text_wholePart, text_eq_textAt, textAt_thousandfold hlevel, bind_assoc]
    rfl
  obtain ⟨info, hread⟩ := Current.statement_of_pause hasked
  rw [Current.seconds_of_no_literal hliteral, if_pos hnumeric, bind_assoc] at hread
  cases htext : e.text with
  | error refusal =>
    have hfails := hnumber.text_agrees.of_error htext
    rw [hread, hscaled, htext, (textAt_agrees hlevel _).of_error hfails]
    exact .error refusal
  | ok text =>
    obtain ⟨alone, hinHub, rfl⟩ := hnumber.text_agrees.of_ok htext
    obtain ⟨inHole, hinHole, hsame, -⟩ := (textAt_agrees hlevel _).of_ok hinHub
    have hloses : (inHub e).losesBrackets Level.term = e.isSum := by
      simp [Expr.losesBrackets, hloose, halone]
    rw [hread, hscaled, htext, hinHole]
    refine .ok ⟨_, _, rfl, by rw [htime, hinHub]; rfl, fun bench => ?_, ?_⟩
    · exact run_lines_step info (wait_eq bench.settings text)
    · rw [← hloses, ← hsame]
      simp only [String.append_left_inj, String.append_right_inj]

/-- Half the distance that the robot sees. -/
def halfDistance : Expr :=
  .binary .div (.call (.attribute (.name "distance_sensor") "get_distance") [] [])
    (.literal (.int 2))

theorem pause_scaled_halfDistance :
    ∃ i, Current.dialect.statement
        (.expr (.of 1 1) (.await (.call (.name "wait") [halfDistance] []))) = .ok (some i) ∧
      halfDistance.isNumeric = true ∧ halfDistance.isPlain = true ∧
      (milliseconds (inHub halfDistance)).text = .ok "int(get_distance() / 2 * 1000)" ∧
      ∀ bench : Workbench, bench.run (.lines i.form) =
        (.ok (.lines [margin bench.level ++
          ("await runloop.sleep_ms(" ++ "int(get_distance() / 2 * 1000)" ++ ")")]), bench) := by
  have hread : ∃ i, Current.dialect.statement
      (.expr (.of 1 1) (.await (.call (.name "wait") [halfDistance] []))) = .ok (some i) := ⟨_, rfl⟩
  have htext : (milliseconds (inHub halfDistance)).text = .ok "int(get_distance() / 2 * 1000)" :=
    rfl
  obtain ⟨i, hi⟩ := hread
  have hnumeric : halfDistance.isNumeric = true := by decide
  have hplain : halfDistance.isPlain = true := by decide
  obtain ⟨scaled, hscaled, found, time, hfound, -, hlines, hsame⟩ :=
    (pause_scaled_iff rfl hnumeric hplain rfl).of_ok hi
  obtain rfl := Option.some.inj hfound
  obtain rfl := Except.ok.inj (htext.symm.trans hscaled)
  obtain rfl := hsame.mpr rfl
  exact ⟨i, hi, hnumeric, hplain, htext, hlines⟩

/-- A pause that is a sum. -/
def delayedScript : String := "wait(x + 1)\n"

/-- Only the last summand is turned into milliseconds. -/
theorem pause_scaled_delayedScript :
    (∃ instrs program, answerGenerate delayedScript = .accepted instrs program ∧
      ∃ opening body, Composed .standard instrs delayedScript program opening body ∧
        codeTexts body = ["await runloop.sleep_ms(int(x + 1 * 1000))"]) ∧
      (milliseconds (inHub (.binary .add (.name "x") (.literal (.int 1))))).text =
        .ok "int((x + 1) * 1000)" :=
  ⟨codeTexts_of_any (by decide +kernel), rfl⟩

end HubScript
