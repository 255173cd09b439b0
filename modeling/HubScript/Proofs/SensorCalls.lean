import HubScript.Proofs.AwaitedCalls
import HubScript.Proofs.MotorSetup
import HubScript.Proofs.SensorTranslation

/-!
# Sensor calls that are left

A sensor call is a number whatever its arguments, while the hub has words only for one without any.
So a speed or a pause keeps a call of the simulated robot exactly if one of its sensor calls has an
argument: behind the open bracket no phrase can begin or end, and where all brackets are closed at
once, every call becomes words of the hub.
-/
namespace HubScript

/-- Whether a call in a number has an argument. -/
def Expr.givesArguments : Expr → Bool
  | .unary _ operand => operand.givesArguments
  | .binary _ left right => left.givesArguments || right.givesArguments
  | .subscript object index => object.givesArguments || index.givesArguments
  | .call _ arguments keywords => !arguments.isEmpty || !keywords.isEmpty
  | _ => false

namespace Hub

section Left

/-- The characters that can stand before a call in a number. -/
def callEdges : List Char := [' ', '(', '[', '+', '-']

def isEdge (c : Char) : Bool := callEdges.contains c

/-- A sensor method is called in a text with an argument. -/
def CallsWith (text : String) : Prop :=
  ∃ method ∈ sensorMethods, ∃ front next rest,
    text.toList = front ++ ((method ++ "(").toList ++ next :: rest) ∧ next ≠ ')' ∧
      front.getLast?.all isEdge = true

variable {a b : String}

theorem CallsWith.append (h : CallsWith a) (b : String) : CallsWith (a ++ b) := by
  obtain ⟨method, hmethod, front, next, rest, ha, hnext, hfront⟩ := h
  exact ⟨method, hmethod, front, next, rest ++ b.toList, by simp [ha], hnext, hfront⟩

theorem CallsWith.behind (h : CallsWith b) (hedge : a.toList.getLast?.any isEdge = true) :
    CallsWith (a ++ b) := by
  obtain ⟨method, hmethod, front, next, rest, hb, hnext, hfront⟩ := h
  refine ⟨method, hmethod, a.toList ++ front, next, rest, by simp [hb], hnext, ?_⟩
  obtain ⟨c, hc, hedge⟩ := (Option.any_eq_true _ _).mp hedge
  rw [List.getLast?_append, hc]
  cases hlast : front.getLast? with
  | none => exact hedge
  | some d => rwa [hlast] at hfront

theorem edge_append (a : String) (h : b.toList.getLast?.any isEdge = true) :
    (a ++ b).toList.getLast?.any isEdge = true := by
  obtain ⟨c, hc, hedge⟩ := (Option.any_eq_true _ _).mp h
  rw [String.toList_append, List.getLast?_append, hc]
  exact hedge

theorem CallsWith.bracketIf (h : CallsWith a) (asked own : Level) :
    CallsWith (Printer.bracketIf asked own a) := by
  rw [Printer.bracketIf]
  split
  · exact (h.behind (by decide)).append _
  · exact h

variable {c : Char}

/-- No phrase begins before a call, and no name goes on there. -/
theorem edge_apart (h : isEdge c = true) :
    isLoud c = false ∧ Text.isNameContinue c = false ∧ c ≠ '.' := by
  have hall : callEdges.all (fun c =>
      !isLoud c && (!Text.isNameContinue c && c != '.')) = true := by
    decide
  simpa using List.all_eq_true.mp hall c (List.contains_iff_mem.mp h)

/-- No phrase reaches into the opening of a call. -/
theorem opening_unreached (h : isEdge c = true) {method : String}
    (hmethod : method ∈ sensorMethods) {p : String × String} (hp : p ∈ phrases) :
    reaches (c :: (method ++ "(").toList) p.1.toList.tail = false := by
  have hall : callEdges.all (fun c => sensorMethods.all fun method => phrases.all fun p =>
      !reaches (c :: (method ++ "(").toList) p.1.toList.tail) = true := by
    decide +kernel
  have hmethods := List.all_eq_true.mp hall c (List.contains_iff_mem.mp h)
  simpa using List.all_eq_true.mp (List.all_eq_true.mp hmethods method hmethod) p hp

/-- No phrase stands in the opening of a call, or begins in it unless the bracket is closed. -/
theorem opening_apart (h : isEdge c = true) {method : String} (hmethod : method ∈ sensorMethods)
    {p : String × String} (hp : p ∈ phrases) :
    Text.occursIn p.1.toList (c :: (method ++ "(").toList) = false ∧
      (joints p.1.toList (c :: (method ++ "(").toList)).all (· == ')') = true := by
  have hhead := head_phrases p hp
  have hne : p.1.toList ≠ [] := fun hnil => by simp [hnil] at hhead
  have hfirst : p.1.toList.head? ≠ some c := by
    intro heq
    rw [heq, Option.any_some, (edge_apart h).1] at hhead
    cases hhead
  obtain ⟨hfree, hjoints⟩ := cons_of_head hne hfirst (method ++ "(").toList
  rw [hfree, hjoints]
  exact openings_apart method hmethod p hp

theorem callsAfter_of_edge {front method : String}
    (hfront : front.toList.getLast?.all isEdge = true) (rest : String) :
    CallsAfter front method (front ++ method ++ "(" ++ rest) := by
  refine ⟨⟨rest, rfl⟩, fun c hc => ?_⟩
  rw [hc] at hfront
  exact (edge_apart hfront).2

/-- A call with an argument is left in the words of the hub. -/
theorem CallsWith.left (h : CallsWith a) :
    ∃ method ∈ sensorMethods, ∃ front, CallsAfter front method (toHub a) := by
  obtain ⟨method, hmethod, front, next, rest, ha, hnext, hfront⟩ := h
  have hrest : Shuns (· == ')') (next :: rest) := by simpa [Shuns] using hnext
  obtain ⟨before, hbefore, hwords⟩ : ∃ before : List Char, before.getLast?.all isEdge = true ∧
      translate phrases a.toList =
        before ++ ((method ++ "(").toList ++ translate phrases (next :: rest)) := by
    rw [ha]
    rcases List.eq_nil_or_concat front with rfl | ⟨others, c, rfl⟩
    · exact ⟨[], rfl, translate_opening hmethod hrest⟩
    · have hc : isEdge c = true := by simpa using hfront
      have hcopy := translate_behind (fun p hp => (opening_apart hc hmethod hp).1)
        (fun p hp => List.all_eq_true.mp (opening_apart hc hmethod hp).2)
        (fun p hp => opening_unreached hc hmethod hp) (fun _ hp => keeps_bracket hp) hrest others
      refine ⟨translate phrases others ++ [c], by simpa using hc, ?_⟩
      simpa only [List.concat_eq_append, List.append_assoc, List.cons_append,
        List.nil_append] using hcopy
  have hline : toHub a = String.ofList before ++ method ++ "(" ++
      String.ofList (translate phrases (next :: rest)) := by
    rw [toHub_eq, hwords]
    exact String.toList_inj.mp (by simp)
  rw [hline]
  exact ⟨method, hmethod, _, callsAfter_of_edge (by simpa using hbefore) _⟩

end Left

section Printed

theorem isSign_text {op : UnaryOp} (h : op.isSign = true) :
    Begins (· == ')') op.text ∧ op.text.toList.getLast?.any isEdge = true := by
  cases op with
  | plus => exact ⟨⟨'+', [], rfl, by decide⟩, by decide⟩
  | minus => exact ⟨⟨'-', [], rfl, by decide⟩, by decide⟩
  | invert | not => cases h

theorem begins_commas {text : String} (h : Begins (· == ')') text) (others : List String) :
    Begins (· == ')') (Printer.commas (text :: others)) := by
  cases others with
  | nil => exact h
  | cons next others =>
    rw [Printer.commas, String.intercalate_cons_cons, String.append_assoc]
    exact h.append _

theorem isSensorMethod_eq_true {function : Expr} (h : function.isSensorMethod = true) :
    ∃ names, function.dotted? = some names ∧ ".".intercalate names ∈ sensorMethods := by
  rw [Expr.isSensorMethod] at h
  split at h
  · rename_i names hchain
    exact ⟨names, hchain, List.contains_iff_mem.mp h⟩
  · cases h

/-- What is written for a sensor call: its method, and its arguments in brackets. -/
theorem expr_sensor {function : Expr} {arguments : List Expr} {keywords : List Keyword}
    {asked : Level} {text : String}
    (hnumeric : (Expr.call function arguments keywords).isNumeric = true)
    (h : Printer.expr false asked (.call function arguments keywords) = .ok text) :
    ∃ method ∈ sensorMethods, ∃ texts named, Printer.exprs false arguments = .ok texts ∧
      Printer.keywords false keywords = .ok named ∧
      text = method ++ "(" ++ (Printer.commas (texts ++ named) ++ ")") := by
  simp only [Expr.isNumeric, Bool.and_eq_true] at hnumeric
  obtain ⟨names, hchain, hknown⟩ := isSensorMethod_eq_true hnumeric.1.2
  rw [Printer.expr, expr_dotted hchain, ok_bind] at h
  obtain ⟨texts, htexts, h⟩ := bind_eq_ok.mp h
  obtain ⟨named, hnamed, h⟩ := bind_eq_ok.mp h
  obtain rfl := Except.ok.inj h
  exact ⟨_, hknown, texts, named, htexts, hnamed, String.append_assoc⟩

/-- No number begins with a closing bracket. -/
theorem begins_of_isNumeric (e : Expr) (hnumeric : e.isNumeric = true) (hworded : e.isWorded = true)
    {asked : Level} {text : String} (h : Printer.expr false asked e = .ok text) :
    Begins (· == ')') text := by
  induction e using Expr.givesArguments.induct generalizing asked text with
  | case1 op operand ih =>
    obtain ⟨inner, -, h⟩ := bind_eq_ok.mp h
    obtain rfl := Except.ok.inj h
    have hsign := isSign_text (Bool.and_eq_true_iff.mp hnumeric).1
    exact begins_bracketIf (hsign.1.append inner) _ _
  | case2 op left right ihl ihr =>
    simp only [Expr.isNumeric, Expr.isWorded, Bool.and_eq_true] at hnumeric hworded
    obtain ⟨first, hfirst, h⟩ := bind_eq_ok.mp h
    obtain ⟨second, -, h⟩ := bind_eq_ok.mp h
    obtain rfl := Except.ok.inj h
    simp only [String.append_assoc]
    exact begins_bracketIf ((ihl hnumeric.1.2 hworded.1 hfirst).append _) _ _
  | case3 object index iho ihi =>
    simp only [Expr.isNumeric, Expr.isWorded, Bool.and_eq_true] at hnumeric hworded
    obtain ⟨whole, hwhole, h⟩ := bind_eq_ok.mp h
    obtain ⟨place, -, h⟩ := bind_eq_ok.mp h
    obtain rfl := Except.ok.inj h
    simp only [String.append_assoc]
    exact (iho hnumeric.1 hworded.1 hwhole).append _
  | case4 function arguments keywords =>
    obtain ⟨method, hmethod, texts, named, -, -, rfl⟩ := expr_sensor hnumeric h
    exact ((begins_sensorMethods hmethod).append _).append _
  | case5 e hunary hbinary hsubscript hcall =>
    cases e with
    | literal value => exact (literal_quiet hnumeric h).2
    | name id =>
      obtain rfl := Except.ok.inj h
      exact begins_word hworded
    | unary op operand => exact absurd rfl (hunary op operand)
    | binary op left right => exact absurd rfl (hbinary op left right)
    | subscript object index => exact absurd rfl (hsubscript object index)
    | call function arguments keywords => exact absurd rfl (hcall function arguments keywords)
    | _ => cases hnumeric

/-- The arguments of a call do not begin with a closing bracket, if there are any. -/
theorem begins_arguments {arguments : List Expr} {keywords : List Keyword}
    (hnumeric : Expr.allNumeric arguments = true) (hworded : Expr.allWorded arguments = true)
    (hnames : keywords.all Keyword.isWorded = true)
    (hgives : (!arguments.isEmpty || !keywords.isEmpty) = true) {texts named : List String}
    (htexts : Printer.exprs false arguments = .ok texts)
    (hnamed : Printer.keywords false keywords = .ok named) :
    Begins (· == ')') (Printer.commas (texts ++ named)) := by
  cases arguments with
  | cons e rest =>
    obtain ⟨text, htext, htexts⟩ := bind_eq_ok.mp htexts
    obtain ⟨others, -, htexts⟩ := bind_eq_ok.mp htexts
    obtain rfl := Except.ok.inj htexts
    exact begins_commas (begins_of_isNumeric e (Bool.and_eq_true_iff.mp hnumeric).1
      (Bool.and_eq_true_iff.mp hworded).1 htext) _
  | nil =>
    obtain rfl := Except.ok.inj htexts
    cases keywords with
    | nil => cases hgives
    | cons keyword rest =>
      obtain ⟨name, value⟩ := keyword
      obtain ⟨text, -, hnamed⟩ := bind_eq_ok.mp hnamed
      obtain ⟨others, -, hnamed⟩ := bind_eq_ok.mp hnamed
      obtain rfl := Except.ok.inj hnamed
      refine begins_commas ?_ others
      cases name with
      | some id =>
        have hword : isWord id = true := (Bool.and_eq_true_iff.mp hnames).1
        exact ((begins_word hword).append _).append _
      | none => exact Begins.append ⟨'*', ['*'], rfl, by decide⟩ _

/-- A number in which a call has an argument is written with that call. -/
theorem callsWith_of_givesArguments (e : Expr) (hnumeric : e.isNumeric = true)
    (hworded : e.isWorded = true) (hgives : e.givesArguments = true) {asked : Level}
    {text : String} (h : Printer.expr false asked e = .ok text) : CallsWith text := by
  induction e using Expr.givesArguments.induct generalizing asked text with
  | case1 op operand ih =>
    obtain ⟨hsign, hoperand⟩ := Bool.and_eq_true_iff.mp hnumeric
    obtain ⟨inner, hinner, h⟩ := bind_eq_ok.mp h
    obtain rfl := Except.ok.inj h
    exact ((ih hoperand hworded hgives hinner).behind (isSign_text hsign).2).bracketIf _ _
  | case2 op left right ihl ihr =>
    simp only [Expr.isNumeric, Expr.isWorded, Bool.and_eq_true] at hnumeric hworded
    obtain ⟨first, hfirst, h⟩ := bind_eq_ok.mp h
    obtain ⟨second, hsecond, h⟩ := bind_eq_ok.mp h
    obtain rfl := Except.ok.inj h
    refine CallsWith.bracketIf ?_ _ _
    rcases Bool.or_eq_true_iff.mp hgives with hgives | hgives
    · simp only [String.append_assoc]
      exact (ihl hnumeric.1.2 hworded.1 hgives hfirst).append _
    · exact (ihr hnumeric.2 hworded.2 hgives hsecond).behind (edge_append _ (by decide))
  | case3 object index iho ihi =>
    simp only [Expr.isNumeric, Expr.isWorded, Bool.and_eq_true] at hnumeric hworded
    obtain ⟨whole, hwhole, h⟩ := bind_eq_ok.mp h
    obtain ⟨place, hplace, h⟩ := bind_eq_ok.mp h
    obtain rfl := Except.ok.inj h
    rcases Bool.or_eq_true_iff.mp hgives with hgives | hgives
    · simp only [String.append_assoc]
      exact (iho hnumeric.1 hworded.1 hgives hwhole).append _
    · exact ((ihi hnumeric.2 hworded.2 hgives hplace).behind (edge_append _ (by decide))).append _
  | case4 function arguments keywords =>
    obtain ⟨method, hmethod, texts, named, htexts, hnamed, rfl⟩ := expr_sensor hnumeric h
    simp only [Expr.isNumeric, Expr.isWorded, Bool.and_eq_true] at hnumeric hworded
    obtain ⟨next, rest, hnext, hne⟩ :=
      begins_arguments hnumeric.2 hworded.1.2 hworded.2 hgives htexts hnamed
    refine ⟨method, hmethod, [], next, rest ++ [')'], ?_, by simpa using hne, by simp⟩
    simp [hnext]
  | case5 e hunary hbinary hsubscript hcall =>
    rw [Expr.givesArguments.eq_5 e hunary hbinary hsubscript hcall] at hgives
    cases hgives

end Printed

section Free

/-- What all sensor methods have in their names, and no function of the hub. -/
def methodMark : String := ".get_"

/-- Whether no sensor method is named in a text. -/
def isCallFree (text : String) : Bool := !mentions text methodMark

variable {a b : String}

theorem isCallFree_iff {text : String} :
    isCallFree text = true ↔ ¬methodMark.toList <:+: text.toList := by
  rw [isCallFree, mentions, Bool.not_eq_true', ← Bool.not_eq_true, occursIn_iff]

theorem isCallFree_of_not_mem {c : Char} (hc : c ∈ methodMark.toList) (h : c ∉ a.toList) :
    isCallFree a = true :=
  isCallFree_iff.mpr fun hin => h (hin.subset hc)

theorem isCallFree_of_quiet (h : isQuiet a = true) : isCallFree a = true := by
  refine isCallFree_of_not_mem (by decide : 'g' ∈ methodMark.toList) fun hg => ?_
  cases List.all_eq_true.mp h 'g' hg

theorem isCallFree_of_word (h : isWord a = true) : isCallFree a = true := by
  refine isCallFree_of_not_mem (by decide : '.' ∈ methodMark.toList) fun hdot => ?_
  cases List.all_eq_true.mp (Bool.and_eq_true_iff.mp h).2 '.' hdot

/-- Texts without calls can be joined where no name goes on. -/
theorem isCallFree_append (ha : isCallFree a = true) (hb : isCallFree b = true)
    (hedge : a.toList.getLast?.any (!continues ·) = true ∨
      b.toList.head?.any (!continues ·) = true) :
    isCallFree (a ++ b) = true := by
  have hmark : ∀ c ∈ methodMark.toList, continues c = true :=
    List.all_eq_true.mp (by decide)
  rw [isCallFree_iff] at ha hb ⊢
  intro hin
  rw [String.toList_append, List.infix_append_iff] at hin
  rcases hin with hin | hin | ⟨front, back, hcut, hfront, hback⟩
  · exact ha hin
  · exact hb hin
  · rcases List.eq_nil_or_concat front with rfl | ⟨others, c, rfl⟩
    · exact hb (hcut ▸ hback.isInfix)
    · cases back with
      | nil =>
        rw [List.append_nil] at hcut
        exact ha (hcut ▸ hfront.isInfix)
      | cons d rest =>
        -- the mark would go on from one text to the other
        have hc : continues c = true := hmark c (by simp [hcut])
        have hd : continues d = true := hmark d (by simp [hcut])
        obtain ⟨before, hbefore⟩ := hfront
        obtain ⟨after, hafter⟩ := hback
        rw [← hbefore, ← hafter] at hedge
        simp [hc, hd] at hedge

/-- A text in which no sensor is called and at whose ends no name goes on. -/
structure Between (text : String) : Prop where
  free : isCallFree text = true
  first : text.toList.head?.any (!continues ·) = true
  last : text.toList.getLast?.any (!continues ·) = true

theorem isCallFree_between {middle : String} (ha : isCallFree a = true) (hb : isCallFree b = true)
    (hmiddle : Between middle) : isCallFree (a ++ (middle ++ b)) = true := by
  refine isCallFree_append ha (isCallFree_append hmiddle.free hb (.inl hmiddle.last)) (.inr ?_)
  obtain ⟨c, hc, hedge⟩ := (Option.any_eq_true _ _).mp hmiddle.first
  rw [String.toList_append, List.head?_append, hc, Option.some_or, Option.any_some]
  exact hedge

theorem isCallFree_bracketIf (h : isCallFree a = true) (asked own : Level) :
    isCallFree (Printer.bracketIf asked own a) = true := by
  rw [Printer.bracketIf]
  split
  · have hopened : isCallFree ("(" ++ a) = true :=
      isCallFree_append (isCallFree_of_quiet (by decide)) h (.inl (by decide))
    exact isCallFree_append hopened (isCallFree_of_quiet (by decide)) (.inr (by decide))
  · exact h

theorem not_callsAfter_of_isCallFree (h : isCallFree a = true) :
    ¬∃ method ∈ sensorMethods, ∃ front, CallsAfter front method a := by
  have hall : sensorMethods.all (mentions · methodMark) = true := by decide
  rintro ⟨method, hmethod, front, ⟨rest, rfl⟩, -⟩
  have hmark := occursIn_iff.mp (List.all_eq_true.mp hall method hmethod)
  exact isCallFree_iff.mp h (hmark.trans ⟨front.toList, ("(" ++ rest).toList, by simp⟩)

/-- A number without arguments has no call of the simulated robot in the hub. -/
theorem isCallFree_inHub {e : Expr} (h : Number e) (hbare : e.givesArguments = false)
    {asked : Level} {text : String} (htext : Printer.expr false asked (inHub e) = .ok text) :
    isCallFree text = true := by
  induction h generalizing asked text with
  | @literal value number => exact isCallFree_of_quiet (literal_quiet number htext).1
  | @name id word =>
    obtain rfl := Except.ok.inj htext
    exact isCallFree_of_word word
  | @sign op operand inner isSign ih =>
    obtain ⟨text, hinner, htext⟩ := bind_eq_ok.mp htext
    obtain rfl := Except.ok.inj htext
    have hsign : isQuiet op.text = true ∧ op.text.toList.getLast?.any (!continues ·) = true := by
      cases op with
      | plus | minus => decide
      | invert | not => cases isSign
    refine isCallFree_bracketIf ?_ _ _
    exact isCallFree_append (isCallFree_of_quiet hsign.1) (ih hbare hinner) (.inl hsign.2)
  | @basic op left right isBasic _ _ ihl ihr =>
    obtain ⟨hleft, hright⟩ := Bool.or_eq_false_iff.mp hbare
    obtain ⟨first, hfirst, htext⟩ := bind_eq_ok.mp htext
    obtain ⟨second, hsecond, htext⟩ := bind_eq_ok.mp htext
    obtain rfl := Except.ok.inj htext
    have hop : Between (" " ++ op.text ++ " ") := by
      cases op with
      | add | sub | mul | div => exact ⟨isCallFree_of_quiet (by decide), by decide, by decide⟩
      | _ => cases isBasic
    refine isCallFree_bracketIf ?_ _ _
    simpa only [String.append_assoc] using
      isCallFree_between (ihl hleft hfirst) (ihr hright hsecond) hop
  | @item object index _ _ iho ihi =>
    obtain ⟨hobject, hindex⟩ := Bool.or_eq_false_iff.mp hbare
    obtain ⟨whole, hwhole, htext⟩ := bind_eq_ok.mp htext
    obtain ⟨place, hplace, htext⟩ := bind_eq_ok.mp htext
    obtain rfl := Except.ok.inj htext
    have hopening : Between "[" := ⟨isCallFree_of_quiet (by decide), by decide, by decide⟩
    have hinside := isCallFree_between (iho hobject hwhole) (ihi hindex hplace) hopening
    rw [← String.append_assoc] at hinside
    exact isCallFree_append hinside (isCallFree_of_quiet (by decide)) (.inr (by decide))
  | @sensor function names arguments chain known _ _ =>
    have hempty : arguments = [] := by simpa [Expr.givesArguments] using hbare
    subst hempty
    obtain ⟨tree, htree, -, hprint⟩ := sensorTree?_eq_some chain known
    obtain ⟨p, hp, -, hwords⟩ := hprint asked
    rw [inHub_call_nil, htree, Option.getD_some, hwords] at htext
    obtain rfl := Except.ok.inj htext
    have hall : phrases.all (isCallFree ·.2) = true := by decide
    exact List.all_eq_true.mp hall p hp

end Free

section Lines

theorem isPlain_of_bare (e : Expr) (hworded : e.isWorded = true)
    (hbare : e.givesArguments = false) : e.isPlain = true := by
  induction e using Expr.givesArguments.induct with
  | case1 op operand ih => exact ih hworded hbare
  | case2 op left right ihl ihr | case3 left right ihl ihr =>
    obtain ⟨hleft, hright⟩ := Bool.and_eq_true_iff.mp hworded
    obtain ⟨hbareLeft, hbareRight⟩ := Bool.or_eq_false_iff.mp hbare
    exact Bool.and_eq_true_iff.mpr ⟨ihl hleft hbareLeft, ihr hright hbareRight⟩
  | case4 function arguments keywords =>
    simp only [Expr.givesArguments, Bool.or_eq_false_iff, Bool.not_eq_false',
      List.isEmpty_iff] at hbare
    obtain ⟨rfl, rfl⟩ := hbare
    rfl
  | case5 e hunary hbinary hsubscript hcall =>
    cases e with
    | name id => exact hworded
    | unary op operand => exact absurd rfl (hunary op operand)
    | binary op left right => exact absurd rfl (hbinary op left right)
    | subscript object index => exact absurd rfl (hsubscript object index)
    | call function arguments keywords => exact absurd rfl (hcall function arguments keywords)
    | _ => rfl

/-- Whether a sensor can be called only between two texts, of which the first ends in a bracket and
the second does not go on with a name. -/
def frames (head tail : String) : Bool :=
  isCallFree head && head.toList.getLast? == some '(' && isCallFree tail &&
    tail.toList.head?.any (!continues ·)

/-- A line with a number in it calls a sensor exactly if a call in the number has an argument. -/
theorem calls_left_iff {e : Expr} {text head tail : String} (hnumeric : e.isNumeric = true)
    (hworded : e.isWorded = true) (hprint : e.print = .ok text)
    (hframes : frames head tail = true) :
    (∃ method ∈ sensorMethods, ∃ front, CallsAfter front method (head ++ toHub text ++ tail)) ↔
      e.givesArguments = true := by
  simp only [frames, Bool.and_eq_true, beq_iff_eq] at hframes
  obtain ⟨⟨⟨hhead, hlast⟩, htail⟩, hedge⟩ := hframes
  constructor
  · intro hcalls
    by_contra hgives
    have hbare : e.givesArguments = false := Bool.eq_false_iff.mpr hgives
    have hnumber := number_of_isNumeric e hnumeric (isPlain_of_bare e hworded hbare)
    obtain ⟨words, hwords, hcarried, -⟩ := hnumber.follows Level.test text hprint
    have hfree : isCallFree (toHub text) = true := by
      rw [hcarried.toHub]
      exact isCallFree_inHub hnumber hbare hwords
    have hfront := isCallFree_append hhead hfree (.inl (by rw [hlast]; decide))
    exact not_callsAfter_of_isCallFree (isCallFree_append hfront htail (.inr hedge)) hcalls
  · intro hgives
    obtain ⟨method, hmethod, front, ⟨rest, hwords⟩, hfront⟩ :=
      (callsWith_of_givesArguments e hnumeric hworded hgives hprint).left
    refine ⟨method, hmethod, head ++ front, ⟨rest ++ tail, ?_⟩, fun c hc => ?_⟩
    · rw [hwords]
      simp only [String.append_assoc]
    · rw [String.toList_append, List.getLast?_append, hlast] at hc
      cases hend : front.toList.getLast? with
      | none =>
        rw [hend, Option.none_or, Option.mem_some] at hc
        subst hc
        decide
      | some d =>
        rw [hend, Option.some_or] at hc
        exact hfront c (hend ▸ hc)

variable {motor opening closing : String}

/-- The line of a motor frames its speed. -/
theorem motor_framed (h : motor ∈ Current.motors) (hopening : isCallFree opening = true)
    (hfirst : opening.toList.head? = some ',') (hlast : opening.toList.getLast? = some '(')
    (hclosing : Between closing) :
    frames ("motor.run(" ++ (Text.upper motor ++ opening))
      (closing ++ (Text.upper motor ++ "_REVERSED))")) = true := by
  have hname : isWord (Text.upper motor) = true := (capitals_shape h).2.2.2
  have hhead : isCallFree ("motor.run(" ++ (Text.upper motor ++ opening)) = true := by
    refine isCallFree_append (isCallFree_of_quiet (by decide)) ?_ (.inl (by decide))
    exact isCallFree_append (isCallFree_of_word hname) hopening (.inr (by rw [hfirst]; decide))
  have htail : isCallFree (closing ++ (Text.upper motor ++ "_REVERSED))")) = true := by
    refine isCallFree_append hclosing.free ?_ (.inl hclosing.last)
    refine isCallFree_of_not_mem (by decide : '.' ∈ methodMark.toList) fun hdot => ?_
    rcases List.mem_append.mp (String.toList_append ▸ hdot) with hdot | hdot
    · cases List.all_eq_true.mp (Bool.and_eq_true_iff.mp hname).2 '.' hdot
    · simp at hdot
  obtain ⟨c, hc, hedge⟩ := (Option.any_eq_true _ _).mp hclosing.first
  simp only [frames, hhead, htail, String.toList_append, List.getLast?_append, hlast,
    List.head?_append, hc, Option.some_or, Option.any_some, hedge]
  rfl

theorem startMotor_framed (settings : Settings) (h : motor ∈ Current.motors) (text : String)
    (info : Info) : ∃ head tail, frames head tail = true ∧
      (Instruction.step (.startMotor motor (.text text)) info).texts settings =
        [head ++ toHub text ++ tail] := by
  have htexts : (Instruction.step (.startMotor motor (.text text)) info).texts settings =
      [runLine settings motor (if settings.percentSpeeds then toHub text
        else "int(" ++ toHub text ++ ")")] := by
    rw [Instruction.texts, startMotor_eq, speedText, ok_bind]
    rfl
  rw [htexts]
  unfold runLine Settings.speedFunction
  split
  · have hopening : isCallFree (", " ++ "percent_to_dps" ++ "(") = true := by decide
    have hclosing : Between ", " := ⟨isCallFree_of_quiet (by decide), by decide, by decide⟩
    refine ⟨_, _, motor_framed h hopening (by decide) (by decide) hclosing, ?_⟩
    simp only [String.append_assoc]
  · have hopening : isCallFree (", " ++ "apply_direction" ++ "(" ++ "int(") = true := by decide
    have hclosing : Between (")" ++ ", ") := ⟨isCallFree_of_quiet (by decide), by decide, by decide⟩
    refine ⟨_, _, motor_framed h hopening (by decide) (by decide) hclosing, ?_⟩
    simp only [String.append_assoc]

theorem wait_framed (settings : Settings) (text : String) (info : Info) :
    ∃ head tail, frames head tail = true ∧
      (Instruction.step (.wait (.text text)) info).texts settings =
        [head ++ toHub text ++ tail] :=
  ⟨"await runloop.sleep_ms(int(", " * 1000))", by decide, rfl⟩

end Lines

section Sources

variable {e : Expr} {text : String}

/-- What is kept as a text is a number, and the text is its own. -/
theorem numeric_of_kept {refusal : Refusal}
    (h : (if e.isNumeric then e.text >>= fun text => pure (.text text) else throw refusal :
      Reading Operand) = .ok (.text text)) : e.isNumeric = true ∧ e.print = .ok text := by
  split at h
  · rename_i hnumeric
    obtain ⟨found, hfound, h⟩ := bind_eq_ok.mp h
    obtain rfl := Operand.text.inj (Except.ok.inj h)
    exact ⟨hnumeric, Expr.text_eq_ok.mp hfound⟩
  · cases h

theorem numeric_of_speed (h : Current.speed e = .ok (.text text)) :
    e.isNumeric = true ∧ e.print = .ok text := by
  unfold Current.speed at h
  split at h
  · cases h
  · split at h <;> cases h
  · exact numeric_of_kept h

theorem numeric_of_seconds (h : Current.seconds e = .ok (.text text)) :
    e.isNumeric = true ∧ e.print = .ok text := by
  unfold Current.seconds at h
  split at h
  · cases h
  · exact numeric_of_kept h

theorem isWorded_of_call {s : Stmt} {function : Expr} {arguments : List Expr}
    (hworded : s.isWorded = true) (h : s.call? = some (function, arguments)) :
    ∀ e ∈ arguments, e.isWorded = true := by
  rw [← Expr.allWorded_eq_true_iff]
  unfold Stmt.call? at h
  split at h
  · cases h
    exact (Bool.and_eq_true_iff.mp (Bool.and_eq_true_iff.mp hworded).1).2
  · cases h
    exact (Bool.and_eq_true_iff.mp (Bool.and_eq_true_iff.mp hworded).1).2
  · cases h

variable {i : Instruction} {k : KeptText}

theorem kept_amount (hk : k ∈ i.kept) (hposition : k.position = .speed ∨ k.position = .pause) :
    (∃ motor info, i = .step (.startMotor motor (.text k.text)) info) ∨
      ∃ info, i = .step (.wait (.text k.text)) info := by
  cases i with
  | step act info =>
    cases act with
    | startMotor motor speed =>
      cases speed with
      | known v => cases hk
      | text expression =>
        obtain rfl := List.mem_singleton.mp hk
        exact .inl ⟨motor, info, rfl⟩
    | wait seconds =>
      cases seconds with
      | known v => cases hk
      | text expression =>
        obtain rfl := List.mem_singleton.mp hk
        exact .inr ⟨info, rfl⟩
    | call function arguments =>
      obtain ⟨operand, -, hk⟩ := List.mem_flatMap.mp hk
      cases operand with
      | known v => cases hk
      | text expression =>
        obtain rfl := List.mem_singleton.mp hk
        simp at hposition
    | print operand | assign target operand | giveBack operand =>
      cases operand with
      | known v => cases hk
      | text expression =>
        obtain rfl := List.mem_singleton.mp hk
        simp at hposition
    | _ => cases hk
  | block head body info =>
    cases head with
    | define => cases hk
    | forEach | whileLoop =>
      obtain rfl := List.mem_singleton.mp hk
      simp at hposition
  | branch condition body orelse info =>
    obtain rfl := List.mem_singleton.mp hk
    simp at hposition

variable {settings : Settings} {script source program : String} {instrs : List Instruction}

/-- A speed or a pause that is kept comes from a number of the script. -/
theorem source_of_kept (hread : readInstructions Current.dialect script = .ok instrs)
    (hi : i ∈ nestedAll instrs) (hk : k ∈ i.kept)
    (hposition : k.position = .speed ∨ k.position = .pause) :
    ∃ stmts, readScript script = .ok stmts ∧ ∃ s ∈ stmtsNested stmts,
      ∃ e, (s.speed? = some e ∨ s.pause? = some e) ∧ e.isNumeric = true ∧ e.isWorded = true ∧
        e.print = .ok k.text := by
  rcases kept_amount hk hposition with ⟨motor, info, rfl⟩ | ⟨info, rfl⟩
  · obtain ⟨stmts, hstmts, s, hs, hworded, horders⟩ := orders_of_read hread hi
    cases horders with
    | @start _ e others _ called read =>
      obtain ⟨hnumeric, hprint⟩ := numeric_of_speed read
      have hcall := (Stmt.motorCall?_eq_some.mp called).1
      exact ⟨stmts, hstmts, s, hs, e, .inl (Stmt.speed?_eq_some.mpr ⟨motor, others, called⟩),
        hnumeric, isWorded_of_call hworded hcall e List.mem_cons_self, hprint⟩
  · obtain ⟨stmts, hstmts, s, hs, hworded, horders⟩ := orders_of_read hread hi
    cases horders with
    | @wait e _ asked read =>
      obtain ⟨hnumeric, hprint⟩ := numeric_of_seconds read
      obtain ⟨others, hcall⟩ := Stmt.pause?_eq_some.mp asked
      exact ⟨stmts, hstmts, s, hs, e, .inr asked, hnumeric,
        isWorded_of_call hworded hcall e List.mem_cons_self, hprint⟩

theorem framed_of_kept (settings : Settings)
    (hread : readInstructions Current.dialect script = .ok instrs) (hi : i ∈ nestedAll instrs)
    (hk : k ∈ i.kept) (hposition : k.position = .speed ∨ k.position = .pause) :
    ∃ head tail, frames head tail = true ∧ i.texts settings = [head ++ toHub k.text ++ tail] := by
  rcases kept_amount hk hposition with ⟨motor, info, rfl⟩ | ⟨info, rfl⟩
  · exact startMotor_framed settings (motor_known hread hi rfl) k.text info
  · exact wait_framed settings k.text info

/-- The lines for speeds and pauses that are worked out call a sensor of the simulated robot exactly
if a sensor call in their number has an argument. -/
theorem sensor_calls_left_iff (hread : readInstructions Current.dialect script = .ok instrs)
    (hmade : generate settings (formsOf instrs) source = .ok program) :
    ∃ stmts opening body, readScript script = .ok stmts ∧
      Composed settings instrs source program opening body ∧
      ∀ i ∈ nestedAll instrs, ∀ k ∈ i.kept, k.position = .speed ∨ k.position = .pause →
        ∃ s ∈ stmtsNested stmts, ∃ e, (s.speed? = some e ∨ s.pause? = some e) ∧
          e.isNumeric = true ∧ e.print = .ok k.text ∧
          ∃ line ∈ codeTexts body, i.texts settings = [line] ∧ k.ShownIn line ∧
            ((∃ method ∈ sensorMethods, ∃ front, CallsAfter front method line) ↔
              e.givesArguments = true) := by
  obtain ⟨stmts, hstmts, -⟩ := readInstructions_eq_ok hread
  obtain ⟨opening, body, hcomposed⟩ := composed_of_generate hmade
  refine ⟨stmts, opening, body, hstmts, hcomposed, fun i hi k hk hposition => ?_⟩
  obtain ⟨found, hfound, s, hs, e, hasked, hnumeric, hworded, hprint⟩ :=
    source_of_kept hread hi hk hposition
  obtain rfl := Except.ok.inj (hstmts.symm.trans hfound)
  obtain ⟨head, tail, hframes, htexts⟩ := framed_of_kept settings hread hi hk hposition
  obtain ⟨line, hline, hshown⟩ := Instruction.texts_show (hcomposed.written i hi) hk
  obtain rfl := List.singleton_inj.mp (hline.symm.trans htexts)
  refine ⟨s, hs, e, hasked, hnumeric, hprint, _, hcomposed.texts_mem hi ?_, hline, hshown,
    calls_left_iff hnumeric hworded hprint hframes⟩
  rw [hline]
  exact List.mem_singleton_self _

end Sources

/-- A speed with a sensor call, and a pause with one that has an argument. -/
def cautiousScript : String :=
  "while go:\n    motor_a.start(distance_sensor.get_distance() + 5)\n" ++
    "    wait(ir_sensor.get_strength(2))\n"

theorem sensor_calls_left_cautiousScript :
    ∃ instrs program, readInstructions Current.dialect cautiousScript = .ok instrs ∧
      generate .standard (formsOf instrs) cautiousScript = .ok program ∧
      ∃ opening body, Composed .standard instrs cautiousScript program opening body ∧
        "motor.run(MOTOR_A, percent_to_dps(get_distance() + 5, MOTOR_A_REVERSED))" ∈
          codeTexts body ∧
        "await runloop.sleep_ms(int(ir_sensor.get_strength(2) * 1000))" ∈ codeTexts body ∧
        (∃ e : Expr, e.print = .ok "distance_sensor.get_distance() + 5" ∧
          e.givesArguments = false) ∧
        ∃ e : Expr, e.print = .ok "ir_sensor.get_strength(2)" ∧ e.givesArguments = true := by
  have htests : (answerGenerate cautiousScript).any (fun instrs _ =>
      (nestedAll instrs).any (fun i =>
        i.kept.contains ⟨.speed, "distance_sensor.get_distance() + 5"⟩ && i.texts .standard ==
          ["motor.run(MOTOR_A, percent_to_dps(get_distance() + 5, MOTOR_A_REVERSED))"]) &&
      (nestedAll instrs).any fun i =>
        i.kept.contains ⟨.pause, "ir_sensor.get_strength(2)"⟩ && i.texts .standard ==
          ["await runloop.sleep_ms(int(ir_sensor.get_strength(2) * 1000))"]) = true := by
    decide +kernel
  obtain ⟨instrs, program, haccepted, htests⟩ := accepted_of_any htests
  obtain ⟨hread, hmade⟩ := answerGenerate_eq_accepted haccepted
  obtain ⟨hspeed, hpause⟩ := Bool.and_eq_true_iff.mp htests
  obtain ⟨stmts, opening, body, -, hcomposed, hleft⟩ := sensor_calls_left_iff hread hmade
  have hamount (k : KeptText) (line : String)
      (hposition : k.position = .speed ∨ k.position = .pause)
      (h : (nestedAll instrs).any
        (fun i => i.kept.contains k && i.texts .standard == [line]) = true) :
      line ∈ codeTexts body ∧ ∃ e : Expr, e.print = .ok k.text ∧
        ((∃ method ∈ sensorMethods, ∃ front, CallsAfter front method line) ↔
          e.givesArguments = true) := by
    obtain ⟨i, hi, hkept⟩ := List.any_eq_true.mp h
    obtain ⟨hk, htexts⟩ := Bool.and_eq_true_iff.mp hkept
    obtain ⟨s, -, e, -, -, hprint, found, hline, hfound, -, hcalls⟩ :=
      hleft i hi k (List.contains_iff_mem.mp hk) hposition
    obtain rfl := List.singleton_inj.mp (hfound.symm.trans (eq_of_beq htexts))
    exact ⟨hline, e, hprint, hcalls⟩
  obtain ⟨hfirst, e, he, hbare⟩ := hamount _ _ (.inl rfl) hspeed
  obtain ⟨hsecond, d, hd, hgives⟩ := hamount _ _ (.inr rfl) hpause
  have hfree : isCallFree
      "motor.run(MOTOR_A, percent_to_dps(get_distance() + 5, MOTOR_A_REVERSED))" = true := by
    decide +kernel
  refine ⟨instrs, program, hread, hmade, opening, body, hcomposed, hfirst, hsecond, ⟨e, he, ?_⟩,
    d, hd, hgives.mp ⟨"ir_sensor.get_strength", by decide, "await runloop.sleep_ms(int(",
      callsAfter_of_edge (by decide) "2) * 1000))"⟩⟩
  exact Bool.eq_false_iff.mpr fun hcalls => not_callsAfter_of_isCallFree hfree (hbare.mpr hcalls)

/-- A distance asked for with an argument. -/
def probeScript : String := "motor_a.start(distance_sensor.get_distance(5))\n"

/-- The sensor call is left in the line of the motor. -/
theorem sensor_call_left_probeScript :
    ∃ instrs program, answerGenerate probeScript = .accepted instrs program ∧
      ∃ opening body, Composed .standard instrs probeScript program opening body ∧
        codeTexts body = ["motor.run(MOTOR_A, percent_to_dps(distance_sensor.get_distance(5), " ++
          "MOTOR_A_REVERSED))"] ∧
        CallsAfter "motor.run(MOTOR_A, percent_to_dps(" "distance_sensor.get_distance"
          ("motor.run(MOTOR_A, percent_to_dps(distance_sensor.get_distance(5), " ++
            "MOTOR_A_REVERSED))") := by
  have htests : (answerGenerate probeScript).any (fun instrs _ =>
      (outlineAll .standard 0 (inProgramOrder instrs)).map CodeLine.text ==
        ["motor.run(MOTOR_A, percent_to_dps(distance_sensor.get_distance(5), " ++
          "MOTOR_A_REVERSED))"]) = true := by
    decide +kernel
  obtain ⟨instrs, program, haccepted, hbody⟩ := accepted_of_any htests
  obtain ⟨opening, body, hcomposed⟩ :=
    composed_of_generate (answerGenerate_eq_accepted haccepted).2
  exact ⟨instrs, program, haccepted, opening, body, hcomposed,
    hcomposed.codeTexts_eq.trans (eq_of_beq hbody),
    callsAfter_of_edge (by decide) "5), MOTOR_A_REVERSED))"⟩

end Hub

end HubScript
