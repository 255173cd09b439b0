import HubScript.Proofs.Except
import HubScript.Proofs.NumeralText
import HubScript.Proofs.PhraseReplacement
import HubScript.Reader.Validation
import HubScript.Script.Word
import Mathlib.Data.List.Forall2

/-!
# Carrying sensor calls over to the hub

The words of the hub are put into the text of an expression. For the numbers that a robot can work
out this is the same as putting the hub's expressions into the tree: a phrase stands in the text of
a number only where one of its calls has that text, and brackets stay where they are.
-/
namespace HubScript

namespace Expr

mutual

/-- Whether names are words and calls have no named arguments, in all that a number is made of. -/
def isPlain : Expr → Bool
  | .name id => isWord id
  | .unary _ operand => isPlain operand
  | .binary _ left right => isPlain left && isPlain right
  | .subscript object index => isPlain object && isPlain index
  | .call _ arguments keywords => keywords.isEmpty && allPlain arguments
  | _ => true

def allPlain : List Expr → Bool
  | [] => true
  | e :: rest => isPlain e && allPlain rest

end

end Expr

namespace Hub

/-- The calls of a simulated robot, by their texts, with the expressions of the hub. -/
def sensorTrees : List (String × Expr) :=
  [("distance_sensor.get_distance()", .call (.name "get_distance") [] []),
    ("distance_sensor.get_distance_cm()", .call (.name "get_distance") [] []),
    ("color_sensor.get_reflected_light()",
      .call (.attribute (.name "color_sensor") "reflection") [.name "COLOR_SENSOR"] []),
    ("color_sensor.get_color()",
      .call (.attribute (.name "color_sensor") "color") [.name "COLOR_SENSOR"] []),
    ("ir_sensor.get_direction()",
      .subscript (.call (.attribute (.name "color_sensor") "rgbi") [.name "IR_SEEKER_PORT"] [])
        (.literal (.int 1))),
    ("ir_sensor.get_strength()",
      .subscript (.call (.attribute (.name "color_sensor") "rgbi") [.name "IR_SEEKER_PORT"] [])
        (.literal (.int 2))),
    ("gyro_sensor.get_angle()",
      .subscript (.call (.attribute (.name "motion_sensor") "tilt_angles") [] [])
        (.literal (.int 0))),
    ("gyro_sensor.get_rate()",
      .call (.attribute (.name "motion_sensor") "angular_velocity")
        [.attribute (.name "motion_sensor") "YAW"] [])]

/-- The expression of the hub for a call without arguments of a function. -/
def sensorTree? (function : Expr) : Option Expr := do
  let names ← function.dotted?
  sensorTrees.lookup (".".intercalate names ++ "()")

mutual

/-- The tree of a number with the hub's expressions in place of the sensor calls that it has words
for; a call with arguments stays, and only its arguments are carried over. -/
def inHub : Expr → Expr
  | .unary op operand => .unary op (inHub operand)
  | .binary op left right => .binary op (inHub left) (inHub right)
  | .subscript object index => .subscript (inHub object) (inHub index)
  | .call function [] [] => (sensorTree? function).getD (.call function [] [])
  | .call function arguments keywords => .call function (allInHub arguments) keywords
  | e => e

def allInHub : List Expr → List Expr
  | [] => []
  | e :: rest => inHub e :: allInHub rest

end

/-- Each tree is written as the words that stand for its call. -/
theorem expr_sensorTrees (asked : Level) :
    sensorTrees.map (fun p => (p.1, Printer.expr false asked p.2)) =
      phrases.map (fun p => (p.1, .ok p.2)) := by
  rfl

theorem orderly_phrases : Orderly phrases := by decide +kernel

/-- The characters with which a name, or a chain of attributes, can go on. -/
def continues (c : Char) : Bool := Numeral.isWordPart c || c == '.'

/-- One text becomes another wherever nothing after it makes its last name go on. -/
def Carried (text text' : String) : Prop :=
  ∀ rest, Shuns continues rest →
    translate phrases (text.toList ++ rest) = text'.toList ++ translate phrases rest

/-- A text starts with a character that is not of a kind. -/
def Begins (kind : Char → Bool) (text : String) : Prop :=
  ∃ c cs, text.toList = c :: cs ∧ kind c = false

/-- Whether a phrase can start with a character. -/
def isLoud (c : Char) : Bool := c ∈ ['d', 'c', 'i', 'g']

/-- Whether no phrase can start within a text. -/
def isQuiet (text : String) : Bool := text.toList.all (!isLoud ·)

theorem head_phrases : ∀ p ∈ phrases, p.1.toList.head?.any isLoud = true := by decide

theorem translate_quiet {text : String} (h : isQuiet text = true)
    (rest : List Char) :
    translate phrases (text.toList ++ rest) = text.toList ++ translate phrases rest := by
  refine translate_apart (fun p hp => ?_) rest
  have hhead := head_phrases p hp
  refine apart_of_head (fun hnil => by simp [hnil] at hhead) fun c hc heq => ?_
  have hquiet := List.all_eq_true.mp h c hc
  rw [heq, Option.any_some] at hhead
  rw [hhead] at hquiet
  cases hquiet

section Joining

variable {a a' b b' : String}

theorem Begins.shuns {kind : Char → Bool} (h : Begins kind a) (rest : List Char) :
    Shuns kind (a.toList ++ rest) := by
  obtain ⟨c, cs, ha, hc⟩ := h
  simpa [ha, Shuns] using hc

theorem Begins.append {kind : Char → Bool} (h : Begins kind a) (b : String) :
    Begins kind (a ++ b) := by
  obtain ⟨c, cs, ha, hc⟩ := h
  exact ⟨c, cs ++ b.toList, by simp [ha], hc⟩

theorem begins_bracketIf (h : Begins (· == ')') a) (asked own : Level) :
    Begins (· == ')') (Printer.bracketIf asked own a) := by
  rw [Printer.bracketIf]
  split
  · exact Begins.append (Begins.append ⟨'(', [], rfl, by decide⟩ _) _
  · exact h

theorem Carried.toHub (h : Carried a a') : toHub a = a' := by
  have hall := h [] fun _ hc => by cases hc
  rw [translate_nil_text, List.append_nil, List.append_nil] at hall
  rw [toHub_eq, hall, String.ofList_toList]

theorem carried_of_quiet (h : isQuiet a = true) : Carried a a :=
  fun rest _ => translate_quiet h rest

theorem Carried.append (ha : Carried a a') (hb : Carried b b') (hstart : Begins continues b) :
    Carried (a ++ b) (a' ++ b') := by
  intro rest hrest
  simp only [String.toList_append, List.append_assoc]
  rw [ha _ (hstart.shuns rest), hb rest hrest]

theorem Carried.quiet_append (hq : isQuiet b = true) (ha : Carried a a') :
    Carried (b ++ a) (b ++ a') := by
  intro rest hrest
  simp only [String.toList_append, List.append_assoc]
  rw [translate_quiet hq, ha rest hrest]

theorem Carried.append_quiet (ha : Carried a a') (hq : isQuiet b = true)
    (hstart : Begins continues b) : Carried (a ++ b) (a' ++ b) :=
  ha.append (carried_of_quiet hq) hstart

theorem Carried.bracketIf (h : Carried a a') (asked own : Level) :
    Carried (Printer.bracketIf asked own a) (Printer.bracketIf asked own a') := by
  rw [Printer.bracketIf, Printer.bracketIf]
  split
  · exact (h.quiet_append (by decide)).append_quiet (by decide) ⟨')', [], rfl, by decide⟩
  · exact h

end Joining

theorem dot_phrases :
    ∀ p ∈ phrases, (p.1.toList.dropWhile Numeral.isWordPart).head? = some '.' := by
  decide

theorem head_continues : ∀ p ∈ phrases, p.1.toList.head?.any continues = true := by decide

theorem keeps_continues {p : String × String} (hp : p ∈ phrases) : Keeps continues p := by
  intro text htext
  refine shuns_replaceAll (fun hstart => ?_) htext
  -- Every phrase starts with a letter, so it cannot stand where no name goes on.
  have hhead := head_continues p hp
  have hne : p.1.toList ≠ [] := fun hnil => by simp [hnil] at hhead
  obtain ⟨u, rfl⟩ := List.isPrefixOf_iff_prefix.mp hstart
  obtain ⟨c, old, hold⟩ := List.exists_cons_of_ne_nil hne
  simp [hold, htext c (by simp [hold])] at hhead

/-- A name is copied: a phrase that begins in it goes on with a letter or a dot. -/
theorem carried_word {id : String} (h : isWord id = true) : Carried id id := by
  intro rest hrest
  obtain ⟨-, hparts⟩ := Bool.and_eq_true_iff.mp h
  rw [List.all_eq_true] at hparts
  refine translate_append (fun p hp => ?_) (fun p hp c hc => ?_) (fun p hp => keeps_continues hp)
    hrest
  · rw [← Bool.not_eq_true]
    intro hin
    have hdot : '.' ∈ p.1.toList :=
      (List.dropWhile_sublist _).subset (List.mem_of_head? (dot_phrases p hp))
    exact absurd (hparts '.' (mem_of_occursIn hdot hin)) (by decide)
  · rcases joints_of_kind hparts hc with hpart | hnext
    · simp [continues, hpart]
    · obtain rfl := Option.some.inj ((dot_phrases p hp).symm.trans hnext)
      decide

theorem begins_word {id : String} (h : isWord id = true) : Begins (· == ')') id := by
  obtain ⟨hne, hparts⟩ := Bool.and_eq_true_iff.mp h
  cases hchars : id.toList with
  | nil => simp [hchars] at hne
  | cons c cs =>
    refine ⟨c, cs, hchars, beq_eq_false_iff_ne.mpr ?_⟩
    rintro rfl
    exact absurd (List.all_eq_true.mp hparts ')' (by simp [hchars])) (by decide)

theorem openings_apart : ∀ method ∈ sensorMethods, ∀ p ∈ phrases,
    Text.occursIn p.1.toList (method ++ "(").toList = false ∧
      (joints p.1.toList (method ++ "(").toList).all (· == ')') = true := by
  decide +kernel

theorem head_hubWords : ∀ p ∈ phrases, p.2.toList.head?.any (· != ')') = true := by decide

theorem keeps_bracket {p : String × String} (hp : p ∈ phrases) : Keeps (· == ')') p := by
  refine fun text => shuns_replaceAll fun _ => ?_
  have hhead := head_hubWords p hp
  cases hwords : p.2.toList with
  | nil => simp [hwords] at hhead
  | cons c cs => simpa [hwords, Shuns] using hhead

/-- A sensor method is copied with the bracket behind it, if there are arguments. -/
theorem translate_opening {method : String} (h : method ∈ sensorMethods) {rest : List Char}
    (hrest : Shuns (· == ')') rest) :
    translate phrases ((method ++ "(").toList ++ rest) =
      (method ++ "(").toList ++ translate phrases rest :=
  translate_append (fun p hp => (openings_apart method h p hp).1)
    (fun p hp => List.all_eq_true.mp (openings_apart method h p hp).2)
    (fun _ hp => keeps_bracket hp) hrest

theorem dotted?_ne_nil {function : Expr} {names : List String}
    (h : function.dotted? = some names) : names ≠ [] := by
  fun_induction Expr.dotted? function generalizing names with
  | case1 id =>
    obtain rfl := Option.some.inj h
    exact List.cons_ne_nil id []
  | case2 object field _ =>
    obtain ⟨first, -, rfl⟩ := Option.map_eq_some_iff.mp h
    simp
  | case3 => cases h

/-- A chain of attributes is written with dots. -/
theorem expr_dotted {function : Expr} {names : List String} {asked : Level}
    (h : function.dotted? = some names) :
    Printer.expr false asked function = .ok (".".intercalate names) := by
  fun_induction Expr.dotted? function generalizing names asked with
  | case1 id =>
    obtain rfl := Option.some.inj h
    rfl
  | case2 object field ih =>
    obtain ⟨first, hfirst, rfl⟩ := Option.map_eq_some_iff.mp h
    rw [String.intercalate_append_of_ne_nil (dotted?_ne_nil hfirst) (by simp), Printer.expr,
      ih hfirst]
    -- The blank before the dot of a whole number does not arise: a number is no chain.
    · simp [String.append_assoc]
    · rintro value rfl
      cases hfirst
    · rintro value rfl
      cases hfirst
  | case3 => cases h

/-! The expressions that are numbers, and what becomes of their texts. -/

/-- The numbers whose names are words and whose calls have no named arguments. -/
inductive Number : Expr → Prop
  | literal {value : Literal} (number : value.isNumber = true) : Number (.literal value)
  | name {id : String} (word : isWord id = true) : Number (.name id)
  | sign {op : UnaryOp} {operand : Expr} (inner : Number operand) (isSign : op.isSign = true) :
      Number (.unary op operand)
  | basic {op : BinaryOp} {left right : Expr} (isBasic : op.isBasic = true)
      (first : Number left) (second : Number right) : Number (.binary op left right)
  | item {object index : Expr} (whole : Number object) (place : Number index) :
      Number (.subscript object index)
  | sensor {function : Expr} {names : List String} {arguments : List Expr}
      (chain : function.dotted? = some names) (known : ".".intercalate names ∈ sensorMethods)
      (inner : ∀ e ∈ arguments, Number e) : Number (.call function arguments [])

theorem number_of_isNumeric (e : Expr) : e.isNumeric = true → e.isPlain = true → Number e := by
  refine Expr.isNumeric.induct (fun e => e.isNumeric = true → e.isPlain = true → Number e)
    (fun es => Expr.allNumeric es = true → Expr.allPlain es = true → ∀ e ∈ es, Number e)
    ?literal ?name ?sign ?basic ?item ?call ?other ?nil ?cons e
  case literal =>
    intro value h _
    exact .literal h
  case name =>
    intro id _ hplain
    exact .name hplain
  case sign =>
    intro op operand ih h hplain
    obtain ⟨hsign, hoperand⟩ := Bool.and_eq_true_iff.mp h
    exact .sign (ih hoperand hplain) hsign
  case basic =>
    intro op left right ihl ihr h hplain
    simp only [Expr.isNumeric, Expr.isPlain, Bool.and_eq_true] at h hplain
    exact .basic h.1.1 (ihl h.1.2 hplain.1) (ihr h.2 hplain.2)
  case item =>
    intro object index iho ihi h hplain
    simp only [Expr.isNumeric, Expr.isPlain, Bool.and_eq_true] at h hplain
    exact .item (iho h.1 hplain.1) (ihi h.2 hplain.2)
  case call =>
    intro function arguments keywords ih h hplain
    simp only [Expr.isNumeric, Expr.isPlain, Bool.and_eq_true, List.isEmpty_iff] at h hplain
    obtain ⟨rfl, harguments⟩ := hplain
    have hmethod := h.1.2
    rw [Expr.isSensorMethod] at hmethod
    split at hmethod
    · rename_i names hchain
      exact .sensor hchain (List.contains_iff_mem.mp hmethod) (ih h.2 harguments)
    · cases hmethod
  case other =>
    intro e hliteral hname hunary hbinary hsubscript hcall h _
    rw [Expr.isNumeric.eq_7 e hliteral hname hunary hbinary hsubscript hcall] at h
    cases h
  case nil =>
    intro _ _ e he
    cases he
  case cons =>
    intro e rest ihe ihrest h hplain
    simp only [Expr.allNumeric, Expr.allPlain, Bool.and_eq_true] at h hplain
    exact List.forall_mem_cons.mpr ⟨ihe h.1 hplain.1, ihrest h.2 hplain.2⟩

theorem quiet_of_isNumeral {text : String} (h : IsNumeral text.toList) :
    isQuiet text = true ∧ Begins (· == ')') text := by
  have hnone : (')' :: ['d', 'c', 'i', 'g']).all (!isNumeralChar ·) = true := by decide
  have hchar {c : Char} (hc : c ∈ ')' :: ['d', 'c', 'i', 'g']) : c ∉ text.toList := by
    intro hmem
    have hnot := List.all_eq_true.mp hnone c hc
    rw [h.2 c hmem] at hnot
    cases hnot
  obtain ⟨c, cs, htext⟩ := List.exists_cons_of_ne_nil h.1
  refine ⟨List.all_eq_true.mpr fun d hd => ?_, c, cs, htext, beq_eq_false_iff_ne.mpr ?_⟩
  · rw [isLoud, Bool.not_eq_true', decide_eq_false_iff_not]
    exact fun hloud => hchar (List.mem_cons_of_mem _ hloud) hd
  · rintro rfl
    exact hchar List.mem_cons_self (by simp [htext])

theorem literal_quiet {value : Literal} {text : String} (hvalue : value.isNumber = true)
    (h : Printer.literal false value = .ok text) :
    isQuiet text = true ∧ Begins (· == ')') text := by
  cases value with
  | bool value =>
    cases value with
    | false =>
      obtain rfl := Except.ok.inj h
      exact ⟨by decide, 'F', _, rfl, by decide⟩
    | true =>
      obtain rfl := Except.ok.inj h
      exact ⟨by decide, 'T', _, rfl, by decide⟩
  | int value =>
    rw [Printer.literal] at h
    split at h
    · rename_i digits hdigits
      obtain rfl := Except.ok.inj h
      rw [decimalText?] at hdigits
      split at hdigits
      · cases hdigits
      · obtain rfl := Option.some.inj hdigits
        rw [if_neg (by omega)]
        exact quiet_of_isNumeral (by simpa using isNumeral_toDigits value)
    · cases h
  | float value =>
    obtain rfl := Except.ok.inj h
    cases value with
    | finite negative mantissa exponent =>
      exact quiet_of_isNumeral (Binary64.isNumeral_text negative mantissa exponent)
    | infinite negative =>
      cases negative with
      | false => exact ⟨by decide, '1', _, rfl, by decide⟩
      | true => exact ⟨by decide, '-', _, rfl, by decide⟩
    | nan => exact ⟨by decide, '(', _, rfl, by decide⟩
  | _ => cases hvalue

/-- What becomes of the text of a number, which does not start with a closing bracket. -/
def Becomes (text text' : String) : Prop := Carried text text' ∧ Begins (· == ')') text

theorem Becomes.commas {texts texts' : List String} (h : List.Forall₂ Becomes texts texts')
    (hne : texts ≠ []) : Becomes (Printer.commas texts) (Printer.commas texts') := by
  induction h with
  | nil => exact absurd rfl hne
  | @cons text text' rest rest' hfirst hrest ih =>
    cases hrest with
    | nil => exact hfirst
    | @cons next next' rest rest' _ _ =>
      have hlater := ih (List.cons_ne_nil _ _)
      simp only [Printer.commas, String.intercalate_cons_cons, String.append_assoc]
      exact ⟨hfirst.1.append (hlater.1.quiet_append (by decide))
        (Begins.append ⟨',', [' '], rfl, by decide⟩ _), hfirst.2.append _⟩

theorem Becomes.bracketIf {text text' : String} (h : Becomes text text') (asked own : Level) :
    Becomes (Printer.bracketIf asked own text) (Printer.bracketIf asked own text') :=
  ⟨h.1.bracketIf asked own, begins_bracketIf h.2 asked own⟩

/-- What becomes of an expression wherever it is written. -/
def Follows (e e' : Expr) : Prop :=
  ∀ asked text, Printer.expr false asked e = .ok text →
    ∃ text', Printer.expr false asked e' = .ok text' ∧ Becomes text text'

theorem exprs_follow {arguments : List Expr} (h : ∀ e ∈ arguments, Follows e (inHub e))
    {texts : List String} (htexts : Printer.exprs false arguments = .ok texts) :
    ∃ texts', Printer.exprs false (allInHub arguments) = .ok texts' ∧
      List.Forall₂ Becomes texts texts' := by
  induction arguments generalizing texts with
  | nil =>
    obtain rfl := Except.ok.inj htexts
    exact ⟨[], rfl, .nil⟩
  | cons e rest ih =>
    obtain ⟨text, htext, htexts⟩ := bind_eq_ok.mp htexts
    obtain ⟨others, hothers, htexts⟩ := bind_eq_ok.mp htexts
    obtain rfl := Except.ok.inj htexts
    obtain ⟨text', htext', hbecomes⟩ := h e (by simp) _ text htext
    obtain ⟨others', hothers', hall⟩ := ih (fun e he => h e (by simp [he])) hothers
    refine ⟨text' :: others', ?_, .cons hbecomes hall⟩
    rw [allInHub, Printer.exprs, htext', hothers']
    rfl

section Follows

variable {a a' b b' : Expr}

theorem Follows.unary (ha : Follows a a') {op : UnaryOp} (hop : op.isSign = true) :
    Follows (.unary op a) (.unary op a') := by
  intro asked text h
  obtain ⟨operand, hoperand, h⟩ := bind_eq_ok.mp h
  obtain rfl := Except.ok.inj h
  obtain ⟨operand', hoperand', hcarried, -⟩ := ha _ operand hoperand
  have hsign : isQuiet op.text = true ∧ Begins (· == ')') op.text := by
    cases op with
    | plus => exact ⟨by decide, '+', [], rfl, by decide⟩
    | minus => exact ⟨by decide, '-', [], rfl, by decide⟩
    | invert => cases hop
    | not => cases hop
  refine ⟨_, by rw [Printer.expr, hoperand']; rfl, Becomes.bracketIf ⟨?_, ?_⟩ asked op.level⟩
  · exact hcarried.quiet_append hsign.1
  · exact hsign.2.append operand

theorem Follows.binary (ha : Follows a a') (hb : Follows b b') {op : BinaryOp}
    (hop : op.isBasic = true) : Follows (.binary op a b) (.binary op a' b') := by
  intro asked text h
  obtain ⟨left, hleft, h⟩ := bind_eq_ok.mp h
  obtain ⟨right, hright, h⟩ := bind_eq_ok.mp h
  obtain rfl := Except.ok.inj h
  obtain ⟨left', hleft', hcarried, hbegins⟩ := ha _ left hleft
  obtain ⟨right', hright', hcarriedRight, -⟩ := hb _ right hright
  have hquiet : isQuiet (" " ++ op.text ++ " ") = true := by
    revert hop
    cases op <;> decide
  refine ⟨_, by rw [Printer.expr, hleft', hright']; rfl,
    Becomes.bracketIf ⟨?_, ?_⟩ asked op.level⟩
  · have hall := hcarried.append (hcarriedRight.quiet_append hquiet)
      (((Begins.append ⟨' ', [], rfl, by decide⟩ _).append _).append _)
    simpa only [String.append_assoc] using hall
  · simpa only [String.append_assoc] using hbegins.append _

theorem Follows.subscript (ha : Follows a a') (hb : Follows b b')
    (hlevel : Printer.indexLevel b' = Printer.indexLevel b) :
    Follows (.subscript a b) (.subscript a' b') := by
  intro asked text h
  obtain ⟨object, hobject, h⟩ := bind_eq_ok.mp h
  obtain ⟨index, hindex, h⟩ := bind_eq_ok.mp h
  obtain rfl := Except.ok.inj h
  obtain ⟨object', hobject', hcarried, hbegins⟩ := ha _ object hobject
  obtain ⟨index', hindex', hcarriedIndex, -⟩ := hb _ index hindex
  refine ⟨_, by rw [Printer.expr, hobject', hlevel, hindex']; rfl, ?_, ?_⟩
  · have hopen := hcarriedIndex.quiet_append (b := "[") (by decide)
    have hinside := hopen.append_quiet (b := "]") (by decide) ⟨']', [], rfl, by decide⟩
    have hall := hcarried.append hinside
      ((Begins.append ⟨'[', [], rfl, by decide⟩ _).append _)
    simpa only [String.append_assoc] using hall
  · simpa only [String.append_assoc] using hbegins.append _

end Follows

theorem lookup_sensorTrees : ∀ method ∈ sensorMethods,
    (sensorTrees.lookup (method ++ "()")).isSome = true := by
  decide

theorem begins_sensorMethods {method : String} (h : method ∈ sensorMethods) :
    Begins (· == ')') method := by
  have hall : ∀ method ∈ sensorMethods, method.toList.head?.any (· != ')') = true := by decide
  have hhead := hall method h
  cases hchars : method.toList with
  | nil => simp [hchars] at hhead
  | cons c cs => exact ⟨c, cs, hchars, by simpa [hchars] using hhead⟩

theorem indexLevel_sensorTrees : ∀ p ∈ sensorTrees, Printer.indexLevel p.2 = Level.test := by
  simp [sensorTrees, Printer.indexLevel]

/-- The expression of the hub for a sensor call, and its text. -/
theorem sensorTree?_eq_some {function : Expr} {names : List String}
    (hchain : function.dotted? = some names) (hknown : ".".intercalate names ∈ sensorMethods) :
    ∃ tree, sensorTree? function = some tree ∧ Printer.indexLevel tree = Level.test ∧
      ∀ asked, ∃ p ∈ phrases, p.1 = ".".intercalate names ++ "()" ∧
        Printer.expr false asked tree = .ok p.2 := by
  obtain ⟨tree, htree⟩ := Option.isSome_iff_exists.mp (lookup_sensorTrees _ hknown)
  obtain ⟨before, after, hsplit, -⟩ := List.lookup_eq_some_iff.mp htree
  have hmem : (".".intercalate names ++ "()", tree) ∈ sensorTrees := by simp [hsplit]
  refine ⟨tree, ?_, indexLevel_sensorTrees _ hmem, fun asked => ?_⟩
  · rw [sensorTree?, hchain]
    exact htree
  · have hpair := List.mem_map_of_mem (f := fun p => (p.1, Printer.expr false asked p.2)) hmem
    rw [expr_sensorTrees, List.mem_map] at hpair
    obtain ⟨p, hp, hpq⟩ := hpair
    obtain ⟨hphrase, hwords⟩ := Prod.mk.inj hpq
    exact ⟨p, hp, hphrase, hwords.symm⟩

theorem inHub_call_nil (function : Expr) :
    inHub (.call function [] []) = (sensorTree? function).getD (.call function [] []) := by
  rw [inHub]

theorem inHub_call_cons (function e : Expr) (rest : List Expr) :
    inHub (.call function (e :: rest) []) = .call function (allInHub (e :: rest)) [] := by
  rw [inHub]
  simp

theorem indexLevel_inHub {e : Expr} (h : Number e) :
    Printer.indexLevel (inHub e) = Printer.indexLevel e := by
  cases h with
  | @sensor function names arguments chain known inner =>
    cases arguments with
    | nil =>
      obtain ⟨tree, htree, hlevel, -⟩ := sensorTree?_eq_some chain known
      rw [inHub_call_nil, htree]
      exact hlevel
    | cons e rest =>
      rw [inHub_call_cons]
      rfl
  | _ => rfl

theorem expr_call_eq_ok {function : Expr} {names : List String} {arguments : List Expr}
    {asked : Level} {text : String} (hchain : function.dotted? = some names) :
    Printer.expr false asked (.call function arguments []) = .ok text ↔
      ∃ texts, Printer.exprs false arguments = .ok texts ∧
        text = ".".intercalate names ++ "(" ++ Printer.commas texts ++ ")" := by
  rw [Printer.expr, expr_dotted hchain, ok_bind, bind_eq_ok]
  simp only [Printer.keywords, ok_bind, List.append_nil, pure_eq_ok, Except.ok.injEq, eq_comm]

/-- A sensor call without arguments becomes the words that stand for it. -/
theorem follows_sensor {function : Expr} {names : List String}
    (hchain : function.dotted? = some names) (hknown : ".".intercalate names ∈ sensorMethods) :
    Follows (.call function [] []) (inHub (.call function [] [])) := by
  intro asked text h
  obtain ⟨tree, htree, -, hprint⟩ := sensorTree?_eq_some hchain hknown
  obtain ⟨p, hp, hphrase, hwords⟩ := hprint asked
  obtain ⟨texts, htexts, rfl⟩ := (expr_call_eq_ok hchain).mp h
  obtain rfl := Except.ok.inj htexts
  have hcall : ".".intercalate names ++ "(" ++ Printer.commas [] ++ ")" = p.1 := by
    rw [hphrase, String.append_assoc, String.append_assoc]
    rfl
  refine ⟨p.2, by rw [inHub_call_nil, htree]; exact hwords, fun rest _ => ?_, ?_⟩
  · rw [hcall]
    exact translate_phrase orderly_phrases (by decide) hp rest
  · rw [hcall, hphrase]
    exact (begins_sensorMethods hknown).append _

/-- A sensor call with arguments stays, and its arguments are carried over. -/
theorem follows_arguments {function e : Expr} {names : List String} {rest : List Expr}
    (hchain : function.dotted? = some names) (hknown : ".".intercalate names ∈ sensorMethods)
    (h : ∀ d ∈ e :: rest, Follows d (inHub d)) :
    Follows (.call function (e :: rest) []) (inHub (.call function (e :: rest) [])) := by
  intro asked text htext
  obtain ⟨texts, htexts, rfl⟩ := (expr_call_eq_ok hchain).mp htext
  obtain ⟨texts', htexts', hall⟩ := exprs_follow h htexts
  have hne : texts ≠ [] := by
    obtain ⟨first, -, htexts⟩ := bind_eq_ok.mp htexts
    obtain ⟨others, -, htexts⟩ := bind_eq_ok.mp htexts
    obtain rfl := Except.ok.inj htexts
    exact List.cons_ne_nil first others
  have hinside := Becomes.commas hall hne
  have hend := hinside.1.append_quiet (b := ")") (by decide) ⟨')', [], rfl, by decide⟩
  rw [inHub_call_cons]
  refine ⟨_, (expr_call_eq_ok hchain).mpr ⟨texts', htexts', rfl⟩, fun after hafter => ?_, ?_⟩
  · have hfront := translate_opening hknown ((hinside.2.append ")").shuns after)
    rw [hend after hafter] at hfront
    simpa only [String.toList_append, List.append_assoc] using hfront
  · exact (((begins_sensorMethods hknown).append _).append _).append _

theorem Number.follows {e : Expr} (h : Number e) : Follows e (inHub e) := by
  induction h with
  | @literal value number =>
    intro asked text htext
    obtain ⟨hquiet, hbegins⟩ := literal_quiet number htext
    exact ⟨text, htext, carried_of_quiet hquiet, hbegins⟩
  | @name id word =>
    intro asked text htext
    obtain rfl := Except.ok.inj htext
    exact ⟨id, rfl, carried_word word, begins_word word⟩
  | sign inner isSign ih => exact ih.unary isSign
  | basic isBasic first second ihl ihr => exact ihl.binary ihr isBasic
  | item whole place iho ihi => exact iho.subscript ihi (indexLevel_inHub place)
  | @sensor function names arguments chain known inner ih =>
    cases arguments with
    | nil => exact follows_sensor chain known
    | cons e rest => exact follows_arguments chain known ih

/-- Putting the hub's words into the text of a number gives the text of its tree in the hub. -/
theorem print_inHub {e : Expr} {text : String} (hnumeric : e.isNumeric = true)
    (hplain : e.isPlain = true) (htext : e.print = .ok text) :
    (inHub e).print = .ok (toHub text) := by
  obtain ⟨text', htext', hcarried, -⟩ :=
    (number_of_isNumeric e hnumeric hplain).follows Level.test text htext
  have hall := hcarried [] fun _ h => by cases h
  rw [translate_nil_text, List.append_nil, List.append_nil] at hall
  rw [Expr.print, htext', toHub_eq, hall, String.ofList_toList]

/-- A product with a name that starts like a phrase and a sensor call that has arguments. -/
def sensorProduct : Expr :=
  .binary .mul (.unary .minus (.call (.attribute (.name "distance_sensor") "get_distance") [] []))
    (.binary .add (.name "distance_sensor")
      (.call (.attribute (.name "ir_sensor") "get_strength")
        [.call (.attribute (.name "gyro_sensor") "get_rate") [] [],
          .subscript (.name "color_sensor") (.literal (.int 2))] []))

theorem print_inHub_sensorProduct :
    sensorProduct.isNumeric = true ∧ sensorProduct.isPlain = true ∧
      sensorProduct.print = .ok ("-distance_sensor.get_distance() * (distance_sensor + " ++
        "ir_sensor.get_strength(gyro_sensor.get_rate(), color_sensor[2]))") ∧
      (inHub sensorProduct).print =
        .ok (toHub ("-distance_sensor.get_distance() * (distance_sensor + " ++
          "ir_sensor.get_strength(gyro_sensor.get_rate(), color_sensor[2]))")) := by
  have hprint : sensorProduct.print =
      .ok ("-distance_sensor.get_distance() * (distance_sensor + " ++
        "ir_sensor.get_strength(gyro_sensor.get_rate(), color_sensor[2]))") := by
    decide +kernel
  exact ⟨by decide, by decide, hprint, print_inHub (by decide) (by decide) hprint⟩

end Hub

end HubScript
