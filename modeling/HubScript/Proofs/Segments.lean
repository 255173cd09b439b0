import HubScript.Proofs.Except
import HubScript.Reader.Dialect

/-!
# Expressions segment by segment

The text of an expression is made of texts of its own and of the texts of expressions in holes,
each of which asks for a level of precedence. The segments of an expression say this in one list for
all kinds of expressions; an expression that is looser than its hole asks for stands in brackets.
A text with fields is one segment, because its fields are quoted with it.
-/
namespace HubScript

/-- A hole that asks for a level of precedence, with the expression in it. -/
structure Hole where
  asked : Level
  expr : Expr

/-- A segment of an expression: a text of its own, which may be impossible to write, or a hole. -/
inductive Segment where
  | own (text : Printer.Output)
  | hole (p : Hole)

namespace Segment

def text (s : String) : Segment := .own (.ok s)

def fill (asked : Level) (e : Expr) : Segment := .hole ⟨asked, e⟩

def write : Segment → Printer.Output
  | .own text => text
  | .hole p => Printer.expr false p.asked p.expr

/-- The segments of an expression that may be missing. -/
def optional (before : List Segment) : Option Expr → List Segment
  | none => []
  | some e => before ++ [fill Level.test e]

/-- Groups of segments with a text between them. -/
def between (separator : String) (groups : List (List Segment)) : List Segment :=
  [text separator].intercalate groups

def commas (groups : List (List Segment)) : List Segment := between ", " groups

end Segment

open Segment (fill)

/-- Operands of one operator, each asked for a tighter level than the one before it. -/
def risingGroups (level : Level) : List Expr → List (List Segment)
  | [] => []
  | e :: rest => [fill level.next e] :: risingGroups level.next rest

def itemGroups (items : List Expr) : List (List Segment) :=
  items.map fun e => [fill Level.test e]

def Link.segments : Link → List Segment
  | .mk op operand => [.text (" " ++ op.text ++ " "), fill Level.comparison.next operand]

def Keyword.segments : Keyword → List Segment
  | .mk (some name) value => [.text (name ++ "="), fill Level.test value]
  | .mk none value => [.text "**", fill Level.test value]

def Entry.segments : Entry → List Segment
  | .mk (some key) value => [fill Level.test key, .text ": ", fill Level.test value]
  | .mk none value => [.text "**", fill Level.bitOr value]

def guardSegments (e : Expr) : List Segment := [.text " if ", fill Level.test.next e]

def Clause.segments : Clause → List Segment
  | .mk isAsync target source conditions =>
    [.text (if isAsync then " async for " else " for "), fill Level.tuple target, .text " in ",
      fill Level.test.next source] ++ conditions.flatMap guardSegments

def Param.segments : Param → List Segment
  | .mk name hint default =>
    .text name :: (Segment.optional [.text ": "] hint ++ Segment.optional [.text "="] default)

/-- What stands between the parameters that can be given by position and those that cannot. -/
def starGroups (rest : Option Param) (named : List Param) : List (List Segment) :=
  match rest with
  | some p => [.text "*" :: p.segments]
  | none => if named.isEmpty then [] else [[.text "*"]]

/-- The parameters of a function in order, with the marks between their kinds. -/
def Params.groups : Params → List (List Segment)
  | .mk positionalOnly plain rest named mapping =>
    (if positionalOnly.isEmpty then [] else positionalOnly.map Param.segments ++ [[.text "/"]]) ++
      plain.map Param.segments ++ starGroups rest named ++ named.map Param.segments ++
      (mapping.map fun p => .text "**" :: p.segments).toList

/-- The blank before parameters, if anything is written for them. -/
def Params.gap (params : Params) : Printer.Output := do
  let text ← Printer.params false params
  return if text.isEmpty then "" else " "

def Collector.brackets : Collector → String × String
  | .list => ("[", "]")
  | .set => ("\x7b", "\x7d")
  | .generator => ("(", ")")

namespace Expr

/-- The blank between a number and the dot after it. -/
def dotGap : Expr → String
  | .literal (.int _) => " "
  | .literal (.bool _) => " "
  | _ => ""

/-- The level of precedence of an expression that can need brackets. -/
def level? : Expr → Option Level
  | .unary op _ => some op.level
  | .binary op _ _ => some op.level
  | .boolean op _ => some op.level
  | .compare _ _ => some Level.comparison
  | .conditional _ _ _ => some Level.test
  | .lambda _ _ => some Level.test
  | .tuple (_ :: _) => some Level.tuple
  | .assigned _ _ => some Level.named
  | .await _ => some Level.await
  | .yield _ => some Level.yield
  | .yieldFrom _ => some Level.yield
  | _ => none

/-- Whether an expression needs brackets in a hole that asks for a level. -/
def isLoose (asked : Level) (e : Expr) : Bool := e.level?.any (decide <| · < asked)

/-- The segments of an expression, brackets around it apart. -/
def segments : Expr → List Segment
  | .name id => [.text id]
  | .literal value => [.own (Printer.literal false value)]
  | .unary op operand => [.text op.text, fill op.level operand]
  | .binary op left right =>
    [fill op.operandLevels.1 left, .text (" " ++ op.text ++ " "),
      fill op.operandLevels.2 right]
  | .boolean op operands =>
    Segment.between (" " ++ op.text ++ " ") (risingGroups op.level operands)
  | .compare first links =>
    fill Level.comparison.next first :: links.flatMap Link.segments
  | .conditional test body orelse =>
    [fill Level.test.next body, .text " if ", fill Level.test.next test, .text " else ",
      fill Level.test orelse]
  | .lambda params body =>
    .text "lambda" :: .own params.gap :: Segment.commas params.groups ++
      [.text ": ", fill Level.test body]
  | .call function arguments keywords =>
    fill Level.atom function :: .text "(" ::
      Segment.commas (itemGroups arguments ++ keywords.map Keyword.segments) ++ [.text ")"]
  | .attribute object field =>
    [fill Level.atom object, .text (object.dotGap ++ "." ++ field)]
  | .subscript object index =>
    [fill Level.atom object, .text "[", fill (Printer.indexLevel index) index, .text "]"]
  | .slice lower upper step =>
    Segment.optional [] lower ++ .text ":" :: Segment.optional [] upper ++
      Segment.optional [.text ":"] step
  | .starred value => [.text "*", fill Level.bitOr value]
  | .list items => .text "[" :: Segment.commas (itemGroups items) ++ [.text "]"]
  | .tuple [] => [.text "()"]
  | .tuple [item] => [fill Level.test item, .text ","]
  | .tuple items => Segment.commas (itemGroups items)
  | .set [] => [.text "\x7b*()\x7d"]
  | .set items => .text "\x7b" :: Segment.commas (itemGroups items) ++ [.text "\x7d"]
  | .dict entries => .text "\x7b" :: Segment.commas (entries.map Entry.segments) ++ [.text "\x7d"]
  | .comprehension into element clauses =>
    .text into.brackets.1 :: fill Level.test element :: clauses.flatMap Clause.segments ++
      [.text into.brackets.2]
  | .dictComprehension key value clauses =>
    [.text "\x7b", fill Level.test key, .text ": ", fill Level.test value] ++
      clauses.flatMap Clause.segments ++ [.text "\x7d"]
  | .joined parts => [.own (Printer.expr false Level.test (.joined parts))]
  | .assigned target value =>
    [fill Level.atom target, .text " := ", fill Level.atom value]
  | .await value => [.text "await ", fill Level.atom value]
  | .yield none => [.text "yield"]
  | .yield (some value) => [.text "yield ", fill Level.atom value]
  | .yieldFrom value => [.text "yield from ", fill Level.atom value]

end Expr

/-- The text of segments. -/
def segmentsText (segments : List Segment) : Printer.Output := do
  return String.join (← segments.mapM Segment.write)

section SegmentsText

@[simp] theorem segmentsText_nil : segmentsText [] = .ok "" := rfl

@[simp] theorem segmentsText_append (a b : List Segment) :
    segmentsText (a ++ b) = do return (← segmentsText a) ++ (← segmentsText b) := by
  simp [segmentsText, List.mapM_append]

theorem segmentsText_cons (s : Segment) (rest : List Segment) :
    segmentsText (s :: rest) = do return (← s.write) ++ (← segmentsText rest) := by
  simp [segmentsText, List.mapM_cons]

@[simp] theorem segmentsText_own (output : Printer.Output) (rest : List Segment) :
    segmentsText (.own output :: rest) = do return (← output) ++ (← segmentsText rest) := by
  rw [segmentsText_cons]
  rfl

@[simp] theorem segmentsText_text (text : String) (rest : List Segment) :
    segmentsText (.text text :: rest) = do return text ++ (← segmentsText rest) := by
  rw [segmentsText_cons]
  rfl

@[simp] theorem segmentsText_fill (asked : Level) (e : Expr) (rest : List Segment) :
    segmentsText (fill asked e :: rest) = do
      return (← Printer.expr false asked e) ++ (← segmentsText rest) := by
  rw [segmentsText_cons]
  rfl

@[simp] theorem segmentsText_between (separator : String) (groups : List (List Segment)) :
    segmentsText (Segment.between separator groups) = do
      return separator.intercalate (← groups.mapM segmentsText) := by
  induction groups with
  | nil => rfl
  | cons group rest ih =>
    cases rest with
    | nil => simp [Segment.between, List.intercalate, bind_ok_right]
    | cons next rest =>
      simp only [Segment.between] at ih ⊢
      rw [List.intercalate_cons_cons, segmentsText_append, segmentsText_append, ih]
      simp

@[simp] theorem segmentsText_commas (groups : List (List Segment)) :
    segmentsText (Segment.commas groups) = do return Printer.commas (← groups.mapM segmentsText) :=
  segmentsText_between ", " groups

end SegmentsText

/-! ### The parts of an expression -/

section Parts

theorem exprs_eq (items : List Expr) :
    Printer.exprs false items = (itemGroups items).mapM segmentsText := by
  induction items with
  | nil => rfl
  | cons e rest ih =>
    rw [itemGroups] at ih ⊢
    simp [Printer.exprs, ih]

theorem rising_eq (level : Level) (items : List Expr) :
    Printer.rising false level items = (risingGroups level items).mapM segmentsText := by
  induction items generalizing level with
  | nil => rfl
  | cons e rest ih => simp [Printer.rising, risingGroups, ih]

theorem links_eq (links : List Link) :
    Printer.links false links = segmentsText (links.flatMap Link.segments) := by
  induction links with
  | nil => rfl
  | cons link rest ih =>
    obtain ⟨op, operand⟩ := link
    simp [Printer.links, Link.segments, ih, String.append_assoc]

theorem keywords_eq (keywords : List Keyword) :
    Printer.keywords false keywords = (keywords.map Keyword.segments).mapM segmentsText := by
  induction keywords with
  | nil => rfl
  | cons keyword rest ih =>
    obtain ⟨name, value⟩ := keyword
    cases name <;> simp [Printer.keywords, Keyword.segments, ih]

theorem entries_eq (entries : List Entry) :
    Printer.entries false entries = (entries.map Entry.segments).mapM segmentsText := by
  induction entries with
  | nil => rfl
  | cons entry rest ih =>
    obtain ⟨key, value⟩ := entry
    cases key <;> simp [Printer.entries, Entry.segments, ih, String.append_assoc]

theorem guards_eq (conditions : List Expr) :
    Printer.guards false conditions = segmentsText (conditions.flatMap guardSegments) := by
  induction conditions with
  | nil => rfl
  | cons e rest ih => simp [Printer.guards, guardSegments, ih, String.append_assoc]

theorem clauses_eq (clauses : List Clause) :
    Printer.clauses false clauses = segmentsText (clauses.flatMap Clause.segments) := by
  induction clauses with
  | nil => rfl
  | cons clause rest ih =>
    obtain ⟨isAsync, target, source, conditions⟩ := clause
    simp [Printer.clauses, Clause.segments, guards_eq, ih, String.append_assoc]

theorem optional_eq (before : String) (e : Option Expr) :
    segmentsText (Segment.optional [.text before] e) = do
      return ((← Printer.optional false e).map (before ++ ·)).getD "" := by
  cases e with
  | none => rfl
  | some e => simp [Segment.optional, Printer.optional]

theorem optional_nil_eq (e : Option Expr) :
    segmentsText (Segment.optional [] e) = do
      return (← Printer.optional false e).getD "" := by
  cases e with
  | none => rfl
  | some e => simp [Segment.optional, Printer.optional]

theorem param_eq (p : Param) : Printer.param false p = segmentsText p.segments := by
  obtain ⟨name, hint, default⟩ := p
  simp [Printer.param, Param.segments, optional_eq, String.append_assoc]

theorem paramTexts_eq (params : List Param) :
    Printer.paramTexts false params = (params.map Param.segments).mapM segmentsText := by
  induction params with
  | nil => rfl
  | cons p rest ih => simp [Printer.paramTexts, param_eq, ih]

theorem optionalParam_eq (mark : String) (p : Option Param) :
    (p.map fun p => .text mark :: p.segments).toList.mapM segmentsText = do
      return ((← Printer.optionalParam false p).map (mark ++ ·)).toList := by
  cases p with
  | none => rfl
  | some p => simp [Printer.optionalParam, param_eq]

theorem isEmpty_of_mapM {α β : Type} {f : α → Except PrintFault β} {items : List α}
    {results : List β} (h : items.mapM f = .ok results) : results.isEmpty = items.isEmpty := by
  cases items with
  | nil =>
    obtain rfl : [] = results := Except.ok.inj h
    rfl
  | cons item rest =>
    rw [List.mapM_cons] at h
    obtain ⟨result, -, h⟩ := bind_eq_ok.mp h
    obtain ⟨others, -, h⟩ := bind_eq_ok.mp h
    obtain rfl := Except.ok.inj h
    rfl

theorem isEmpty_paramTexts {params : List Param} {texts : List String}
    (h : Printer.paramTexts false params = .ok texts) : texts.isEmpty = params.isEmpty := by
  rw [paramTexts_eq] at h
  simpa using isEmpty_of_mapM h

theorem positionalOnly_eq (params : List Param) :
    (if params.isEmpty then [] else params.map Param.segments ++ [[.text "/"]]).mapM segmentsText =
      do
        let texts ← Printer.paramTexts false params
        return if texts.isEmpty then [] else texts ++ ["/"] := by
  cases params with
  | nil => rfl
  | cons p rest => simp [paramTexts_eq]

theorem starGroups_eq (rest : Option Param) (named : List Param) :
    (starGroups rest named).mapM segmentsText = do
      let text ← Printer.optionalParam false rest
      return match text with
        | some text => ["*" ++ text]
        | none => if named.isEmpty then [] else ["*"] := by
  cases rest with
  | none => cases named <;> simp [starGroups, Printer.optionalParam]
  | some p => simp [starGroups, Printer.optionalParam, param_eq]

theorem params_eq (params : Params) :
    Printer.params false params = segmentsText (Segment.commas params.groups) := by
  obtain ⟨positionalOnly, plain, rest, named, mapping⟩ := params
  simp only [Printer.params, Params.groups, segmentsText_commas, List.mapM_append,
    positionalOnly_eq, starGroups_eq, optionalParam_eq, ← paramTexts_eq, bind_assoc, pure_bind]
  refine bind_congr fun first => bind_congr fun middle => bind_congr fun star => ?_
  cases hnamed : Printer.paramTexts false named with
  | error fault => rfl
  | ok last =>
    cases star <;> simp only [ok_bind, Printer.paramList, isEmpty_paramTexts hnamed]

end Parts

/-- An expression is written segment by segment, with brackets if it is loose in its hole. -/
theorem expr_eq (asked : Level) (e : Expr) : Printer.expr false asked e = do
    let text ← segmentsText e.segments
    return if e.isLoose asked then "(" ++ text ++ ")" else text := by
  cases e with
  | name | literal | unary | binary | boolean | compare | conditional | call | subscript | slice
  | starred | list | dict | dictComprehension | joined | assigned | await | yieldFrom =>
    simp [Printer.expr, Expr.segments, Expr.isLoose, Expr.level?, Printer.bracketIf, rising_eq,
      links_eq, exprs_eq, keywords_eq, entries_eq, clauses_eq, optional_eq, optional_nil_eq,
      bind_ok_right, String.append_assoc]
  | lambda params body =>
    simp only [Printer.expr, Expr.segments, Expr.isLoose, Expr.level?, Printer.bracketIf,
      Params.gap, List.cons_append, segmentsText_text, segmentsText_own, segmentsText_append,
      segmentsText_fill, segmentsText_nil, ← params_eq]
    -- The parameters are written twice, once to see whether there is anything to keep apart.
    cases Printer.params false params with
    | error fault => rfl
    | ok text => by_cases hempty : text = "" <;> simp [hempty, String.append_assoc]
  | «attribute» object field =>
    have hprint : Printer.expr false asked (.attribute object field) = do
        return (← Printer.expr false Level.atom object) ++ object.dotGap ++ "." ++ field := by
      simp only [Printer.expr]
      rfl
    simp [hprint, Expr.segments, Expr.isLoose, Expr.level?, String.append_assoc]
  | tuple items =>
    cases items with
    | nil => simp [Printer.expr, Expr.segments, Expr.isLoose, Expr.level?]
    | cons item items =>
      cases items <;>
        simp [Printer.expr, Printer.exprs, Printer.tupleItems, Expr.segments, Expr.isLoose,
          Expr.level?, Printer.bracketIf, exprs_eq, itemGroups]
  | set items =>
    cases items <;>
      simp [Printer.expr, Expr.segments, Expr.isLoose, Expr.level?, exprs_eq, itemGroups,
        String.append_assoc]
  | comprehension into element clauses =>
    cases into <;>
      simp [Printer.expr, Expr.segments, Expr.isLoose, Expr.level?, Collector.brackets, clauses_eq,
        String.append_assoc]
  | yield value =>
    cases value <;>
      simp [Printer.expr, Expr.segments, Expr.isLoose, Expr.level?, Printer.bracketIf]

/-! ### Texts as they are read -/

section TextAt

/-- The text of an expression in a hole that asks for a level. -/
def Expr.textAt (asked : Level) (e : Expr) : Reading String :=
  (Printer.expr false asked e).mapError fun fault => .failed (.print fault)

/-- The text of an expression without brackets around it. -/
def Expr.bareText (e : Expr) : Reading String :=
  (segmentsText e.segments).mapError fun fault => .failed (.print fault)

theorem text_eq_textAt (e : Expr) : e.text = e.textAt Level.test := by
  unfold Expr.text Expr.textAt Expr.print
  cases Printer.expr false Level.test e <;> rfl

theorem textAt_eq (asked : Level) (e : Expr) : e.textAt asked = do
    let text ← e.bareText
    return if e.isLoose asked then "(" ++ text ++ ")" else text := by
  rw [Expr.textAt, expr_eq, mapError_bind]
  rfl

theorem isLoose_mono {low high : Level} (hle : low ≤ high) {e : Expr}
    (h : e.isLoose low = true) : e.isLoose high = true := by
  simp only [Expr.isLoose, Option.any_eq_true, decide_eq_true_eq] at h ⊢
  obtain ⟨own, hown, hlt⟩ := h
  exact ⟨own, hown, Nat.lt_of_lt_of_le hlt hle⟩

theorem textAt_binary {asked : Level} {op : BinaryOp} (hle : asked ≤ op.level)
    (left right : Expr) : (Expr.binary op left right).textAt asked = do
      let left ← left.textAt op.operandLevels.1
      let right ← right.textAt op.operandLevels.2
      return left ++ " " ++ op.text ++ " " ++ right := by
  have hbare (text : String) : Printer.bracketIf asked op.level text = text := by
    rw [Printer.bracketIf, if_neg (Nat.not_lt.mpr hle)]
  simp only [Expr.textAt, Printer.expr, mapError_bind, hbare]
  rfl

/-! An expression that has brackets in a hole and none alone is longer there. -/

/-- A text that stays as it is or becomes longer. -/
def Grown (before after : String) : Prop := before = after ∨ before.length < after.length

section Grown

variable {a a' b b' : String}

theorem Grown.refl (a : String) : Grown a a := .inl rfl

theorem Grown.length_le (h : Grown a a') : a.length ≤ a'.length := by
  rcases h with rfl | h
  · exact Nat.le_refl _
  · exact Nat.le_of_lt h

theorem Grown.append_eq_iff (ha : Grown a a') (hb : Grown b b') :
    a ++ b = a' ++ b' ↔ a = a' ∧ b = b' := by
  constructor
  · intro h
    have hlength := congrArg String.length h
    simp only [String.length_append] at hlength
    have hle := ha.length_le
    have hle' := hb.length_le
    constructor
    · exact ha.resolve_right (by omega)
    · exact hb.resolve_right (by omega)
  · rintro ⟨rfl, rfl⟩
    rfl

theorem Grown.append (ha : Grown a a') (hb : Grown b b') : Grown (a ++ b) (a' ++ b') := by
  have hle := ha.length_le
  have hle' := hb.length_le
  rcases ha with rfl | ha
  · rcases hb with rfl | hb
    · exact .refl _
    · exact .inr (by simpa using hb)
  · exact .inr (by simp only [String.length_append]; omega)

end Grown

/-- Whether an expression has brackets only because a hole asks for a level. -/
def Expr.losesBrackets (asked : Level) (e : Expr) : Bool :=
  e.isLoose asked && !e.isLoose Level.test

/-- The texts of an expression alone and in a hole: brackets may be the difference. -/
theorem textAt_agrees {asked : Level} (hle : Level.test ≤ asked) (e : Expr) :
    Agree (fun text inHole => (text = inHole ↔ e.losesBrackets asked = false) ∧ Grown text inHole)
      e.text (e.textAt asked) := by
  rw [text_eq_textAt, textAt_eq, textAt_eq]
  refine Agree.bind_same e.bareText fun text => .ok ?_
  by_cases hasked : e.isLoose asked = true
  · by_cases halone : e.isLoose Level.test = true
    · simp [Expr.losesBrackets, hasked, halone, Grown]
    · have hlonger : text.length < ("(" ++ text ++ ")").length := by
        have hbracket : "(".length = 1 := rfl
        simp only [String.length_append]
        omega
      have hne : text ≠ "(" ++ text ++ ")" := fun h => Nat.ne_of_lt hlonger (congrArg _ h)
      simp only [Expr.losesBrackets, hasked, halone, Bool.false_eq_true, if_true, if_false]
      exact ⟨by simpa using hne, .inr hlonger⟩
  · have halone : ¬e.isLoose Level.test = true := fun h => hasked (isLoose_mono hle h)
    simp [Expr.losesBrackets, hasked, halone, Grown]

end TextAt

/-! ### The size of what is in a hole -/

/-- The holes of segments hold expressions below a size. -/
def Below (n : Nat) (segments : List Segment) : Prop :=
  ∀ p, .hole p ∈ segments → sizeOf p.expr < n

section Below

variable {m n : Nat} {segments rest : List Segment}

@[simp] theorem below_nil : Below n [] := by
  simp [Below]

@[simp] theorem below_own (output : Printer.Output) :
    Below n (.own output :: rest) ↔ Below n rest := by
  simp [Below]

@[simp] theorem below_text (text : String) : Below n (.text text :: rest) ↔ Below n rest :=
  below_own (.ok text)

@[simp] theorem below_fill (asked : Level) (e : Expr) :
    Below n (fill asked e :: rest) ↔ sizeOf e < n ∧ Below n rest := by
  simp [Below, fill]

@[simp] theorem below_append : Below n (segments ++ rest) ↔ Below n segments ∧ Below n rest := by
  simp only [Below, List.mem_append, or_imp, forall_and]

theorem Below.mono (h : Below m segments) (hle : m ≤ n) : Below n segments :=
  fun p hp => Nat.lt_of_lt_of_le (h p hp) hle

theorem below_between (separator : String) {groups : List (List Segment)}
    (h : ∀ group ∈ groups, Below n group) : Below n (Segment.between separator groups) := by
  induction groups with
  | nil => exact below_nil
  | cons group others ih =>
    have hothers := ih fun other hother => h other (List.mem_cons_of_mem _ hother)
    cases others with
    | nil => simpa [Segment.between, List.intercalate] using h group
    | cons next others =>
      rw [Segment.between, List.intercalate_cons_cons, below_append, below_append]
      exact ⟨⟨h group (by simp), by simp⟩, hothers⟩

variable {α : Type} [SizeOf α] {f : α → List Segment}

theorem below_group (h : ∀ a, Below (sizeOf a) (f a)) {items : List α} {group : List Segment}
    (hgroup : group ∈ items.map f) : Below (sizeOf items) group := by
  obtain ⟨a, ha, rfl⟩ := List.mem_map.mp hgroup
  exact (h a).mono (Nat.le_of_lt (List.sizeOf_lt_of_mem ha))

theorem below_flatMap (h : ∀ a, Below (sizeOf a) (f a)) (items : List α) :
    Below (sizeOf items) (items.flatMap f) := by
  intro p hp
  obtain ⟨a, ha, hp⟩ := List.mem_flatMap.mp hp
  exact Nat.lt_trans (h a p hp) (List.sizeOf_lt_of_mem ha)

end Below

theorem below_optional (before : String) (e : Option Expr) :
    Below (sizeOf e) (Segment.optional [.text before] e) := by
  cases e <;> simp [Segment.optional]

theorem below_optional_nil (e : Option Expr) : Below (sizeOf e) (Segment.optional [] e) := by
  cases e <;> simp [Segment.optional]

theorem below_rising (level : Level) (items : List Expr) :
    ∀ group ∈ risingGroups level items, Below (sizeOf items) group := by
  induction items generalizing level with
  | nil => simp [risingGroups]
  | cons e rest ih =>
    simp only [risingGroups, List.forall_mem_cons, List.cons.sizeOf_spec]
    refine ⟨by simp; omega, fun group hgroup => (ih level.next group hgroup).mono (by omega)⟩

theorem below_item {items : List Expr} {group : List Segment} (h : group ∈ itemGroups items) :
    Below (sizeOf items) group := by
  obtain ⟨e, he, rfl⟩ := List.mem_map.mp h
  simpa using List.sizeOf_lt_of_mem he

theorem Link.below_segments : ∀ link : Link, Below (sizeOf link) link.segments
  | .mk op operand => by
    simp only [Link.segments, below_text, below_fill, below_nil, and_true, Link.mk.sizeOf_spec]
    omega

theorem Keyword.below_segments : ∀ keyword : Keyword, Below (sizeOf keyword) keyword.segments
  | .mk name value => by
    cases name <;>
      simp only [Keyword.segments, below_text, below_fill, below_nil, and_true,
        Keyword.mk.sizeOf_spec] <;> omega

theorem Entry.below_segments : ∀ entry : Entry, Below (sizeOf entry) entry.segments
  | .mk key value => by
    cases key <;>
      simp only [Entry.segments, below_text, below_fill, below_nil, and_true,
        Entry.mk.sizeOf_spec, Option.some.sizeOf_spec] <;> omega

theorem below_guards (conditions : List Expr) :
    Below (sizeOf conditions) (conditions.flatMap guardSegments) := by
  intro p hp
  obtain ⟨e, he, hp⟩ := List.mem_flatMap.mp hp
  have hp : p = ⟨Level.test.next, e⟩ := by simpa [guardSegments, Segment.text, fill] using hp
  simpa [hp] using List.sizeOf_lt_of_mem he

theorem Clause.below_segments : ∀ clause : Clause, Below (sizeOf clause) clause.segments
  | .mk isAsync target source conditions => by
    simp only [Clause.segments, Clause.mk.sizeOf_spec, below_append, below_text, below_fill,
      below_nil, and_true]
    exact ⟨by omega, (below_guards conditions).mono (by omega)⟩

theorem Param.below_segments : ∀ p : Param, Below (sizeOf p) p.segments
  | .mk name hint default => by
    simp only [Param.segments, Param.mk.sizeOf_spec, below_text, below_append]
    exact ⟨(below_optional ": " hint).mono (by omega),
      (below_optional "=" default).mono (by omega)⟩

theorem Params.below_groups :
    ∀ params : Params, ∀ group ∈ params.groups, Below (sizeOf params) group
  | .mk positionalOnly plain rest named mapping => by
    intro group hgroup
    rw [Params.mk.sizeOf_spec]
    simp only [Params.groups, List.mem_append] at hgroup
    rcases hgroup with (((hgroup | hgroup) | hgroup) | hgroup) | hgroup
    · split at hgroup
      · simp at hgroup
      · rcases List.mem_append.mp hgroup with hgroup | hgroup
        · exact (below_group Param.below_segments hgroup).mono (by omega)
        · obtain rfl : group = [.text "/"] := by simpa using hgroup
          simp
    · exact (below_group Param.below_segments hgroup).mono (by omega)
    · cases rest with
      | some p =>
        obtain rfl : group = .text "*" :: p.segments := by simpa [starGroups] using hgroup
        rw [below_text, Option.some.sizeOf_spec]
        exact p.below_segments.mono (by omega)
      | none =>
        obtain rfl : group = [.text "*"] := by
          simp only [starGroups] at hgroup
          split at hgroup
          · simp at hgroup
          · simpa using hgroup
        simp
    · exact (below_group Param.below_segments hgroup).mono (by omega)
    · cases mapping with
      | some p =>
        obtain rfl : group = .text "**" :: p.segments := by simpa using hgroup
        rw [below_text, Option.some.sizeOf_spec]
        exact p.below_segments.mono (by omega)
      | none => simp at hgroup

/-- What is in a hole of an expression is smaller than the expression. -/
theorem Expr.below_segments : ∀ e : Expr, Below (sizeOf e) e.segments
  | .name id | .literal value | .joined parts | .tuple [] | .set [] | .yield none => by
    simp [Expr.segments]
  | .unary op operand => by
    simp only [Expr.segments, below_text, below_fill, below_nil, and_true, Expr.unary.sizeOf_spec]
    omega
  | .binary op left right => by
    simp only [Expr.segments, below_text, below_fill, below_nil, and_true, Expr.binary.sizeOf_spec]
    omega
  | .boolean op operands => by
    rw [Expr.boolean.sizeOf_spec]
    exact (below_between _ (below_rising op.level operands)).mono (by omega)
  | .compare first links => by
    rw [Expr.segments, below_fill, Expr.compare.sizeOf_spec]
    exact ⟨by omega, (below_flatMap Link.below_segments links).mono (by omega)⟩
  | .conditional test body orelse => by
    simp only [Expr.segments, below_text, below_fill, below_nil, and_true,
      Expr.conditional.sizeOf_spec]
    omega
  | .lambda params body => by
    simp only [Expr.segments, List.cons_append, below_text, below_own, below_append, below_fill,
      below_nil, Expr.lambda.sizeOf_spec, and_true]
    exact ⟨(below_between _ params.below_groups).mono (by omega), by omega⟩
  | .call function arguments keywords => by
    simp only [Expr.segments, List.cons_append, below_text, below_append, below_fill,
      below_nil, Expr.call.sizeOf_spec, and_true]
    refine ⟨by omega, below_between _ fun group hgroup => ?_⟩
    rcases List.mem_append.mp hgroup with hgroup | hgroup
    · exact (below_item hgroup).mono (by omega)
    · exact (below_group Keyword.below_segments hgroup).mono (by omega)
  | .attribute object field => by
    simp only [Expr.segments, below_text, below_fill, below_nil, and_true,
      Expr.attribute.sizeOf_spec]
    omega
  | .subscript object index => by
    simp only [Expr.segments, below_text, below_fill, below_nil, and_true,
      Expr.subscript.sizeOf_spec]
    omega
  | .slice lower upper step => by
    simp only [Expr.segments, below_append, below_text, Expr.slice.sizeOf_spec]
    exact ⟨⟨(below_optional_nil lower).mono (by omega), (below_optional_nil upper).mono (by omega)⟩,
      (below_optional ":" step).mono (by omega)⟩
  | .starred value => by
    simp only [Expr.segments, below_text, below_fill, below_nil, and_true, Expr.starred.sizeOf_spec]
    omega
  | .list items => by
    simp only [Expr.segments, List.cons_append, below_text, below_append, below_nil, and_true,
      Expr.list.sizeOf_spec]
    exact below_between _ fun group hgroup => (below_item hgroup).mono (by omega)
  | .tuple [item] => by
    simp only [Expr.segments, below_text, below_fill, below_nil, and_true, Expr.tuple.sizeOf_spec,
      List.cons.sizeOf_spec]
    omega
  | .tuple (first :: second :: rest) => by
    rw [Expr.tuple.sizeOf_spec]
    exact below_between _ fun group hgroup => (below_item hgroup).mono (by omega)
  | .set (item :: items) => by
    simp only [Expr.segments, List.cons_append, below_text, below_append, below_nil, and_true,
      Expr.set.sizeOf_spec]
    exact below_between _ fun group hgroup => (below_item hgroup).mono (by omega)
  | .dict entries => by
    simp only [Expr.segments, List.cons_append, below_text, below_append, below_nil, and_true,
      Expr.dict.sizeOf_spec]
    exact below_between _ fun group hgroup =>
      (below_group Entry.below_segments hgroup).mono (by omega)
  | .comprehension into element clauses => by
    simp only [Expr.segments, List.cons_append, below_text, below_fill, below_append, below_nil,
      and_true, Expr.comprehension.sizeOf_spec]
    exact ⟨by omega, (below_flatMap Clause.below_segments clauses).mono (by omega)⟩
  | .dictComprehension key value clauses => by
    simp only [Expr.segments, List.cons_append, List.nil_append, below_text, below_fill,
      below_append, below_nil, and_true, Expr.dictComprehension.sizeOf_spec]
    exact ⟨by omega, by omega, (below_flatMap Clause.below_segments clauses).mono (by omega)⟩
  | .assigned target value => by
    simp only [Expr.segments, below_text, below_fill, below_nil, and_true,
      Expr.assigned.sizeOf_spec]
    omega
  | .await value => by
    simp only [Expr.segments, below_text, below_fill, below_nil, and_true, Expr.await.sizeOf_spec]
    omega
  | .yield (some value) => by
    simp only [Expr.segments, below_text, below_fill, below_nil, and_true, Expr.yield.sizeOf_spec,
      Option.some.sizeOf_spec]
    omega
  | .yieldFrom value => by
    simp only [Expr.segments, below_text, below_fill, below_nil, and_true,
      Expr.yieldFrom.sizeOf_spec]
    omega

end HubScript
