import HubScript.Proofs.Segments
import HubScript.Proofs.SensorCalls
import Mathlib.Logic.Relation

/-!
# What expressions are made of

The parts of an expression are the expressions it is directly made of, whatever they are for: the
operands, the arguments and the values of named arguments, hints and defaults of parameters, and
the fields of texts. A number looks only at some of its parts: the values of named arguments go
unchecked, and a call of any function can stand there.
-/
namespace HubScript

mutual

/-- The expressions in the fields of a text, those of their formats among them. -/
def fieldsOf : List Part → List Expr
  | [] => []
  | .text _ :: rest => fieldsOf rest
  | .field value _ format :: rest => value :: (formatFields format ++ fieldsOf rest)

def formatFields : Option (List Part) → List Expr
  | none => []
  | some parts => fieldsOf parts

end

def Entry.children : Entry → List Expr
  | .mk key value => key.toList ++ [value]

def Clause.children : Clause → List Expr
  | .mk _ target source conditions => target :: source :: conditions

def Param.children : Param → List Expr
  | .mk _ hint default => hint.toList ++ default.toList

def Params.children : Params → List Expr
  | .mk positionalOnly plain rest named mapping =>
    (positionalOnly ++ plain ++ rest.toList ++ named ++ mapping.toList).flatMap Param.children

namespace Expr

/-- The expressions that an expression is directly made of. -/
def children : Expr → List Expr
  | .name _ => []
  | .literal _ => []
  | .unary _ operand => [operand]
  | .binary _ left right => [left, right]
  | .boolean _ operands => operands
  | .compare first links => first :: links.map Link.operand
  | .conditional test body orelse => [test, body, orelse]
  | .lambda params body => params.children ++ [body]
  | .call function arguments keywords => function :: (arguments ++ keywords.map Keyword.value)
  | .attribute object _ => [object]
  | .subscript object index => [object, index]
  | .slice lower upper step => lower.toList ++ upper.toList ++ step.toList
  | .starred value => [value]
  | .list items => items
  | .tuple items => items
  | .set items => items
  | .dict entries => entries.flatMap Entry.children
  | .comprehension _ element clauses => element :: clauses.flatMap Clause.children
  | .dictComprehension key value clauses => key :: value :: clauses.flatMap Clause.children
  | .joined parts => fieldsOf parts
  | .assigned target value => [target, value]
  | .await value => [value]
  | .yield value => value.toList
  | .yieldFrom value => [value]

/-- One expression is another one or stands within it, at any depth. -/
def Within (inner outer : Expr) : Prop :=
  Relation.ReflTransGen (fun whole part => part ∈ whole.children) outer inner

theorem Within.refl (e : Expr) : e.Within e := Relation.ReflTransGen.refl

theorem Within.of_child {d c e : Expr} (hd : d.Within c) (hc : c ∈ e.children) : d.Within e :=
  Relation.ReflTransGen.head hc hd

theorem within_iff {d e : Expr} : d.Within e ↔ d = e ∨ ∃ c ∈ e.children, d.Within c := by
  constructor
  · intro h
    rcases Relation.ReflTransGen.cases_head_iff.mp h with rfl | ⟨c, hc, hd⟩
    · exact .inl rfl
    · exact .inr ⟨c, hc, hd⟩
  · rintro (rfl | ⟨c, hc, hd⟩)
    · exact .refl d
    · exact hd.of_child hc

theorem exists_within_iff {p : Expr → Prop} {e : Expr} :
    (∃ d : Expr, d.Within e ∧ p d) ↔ p e ∨ ∃ c ∈ e.children, ∃ d : Expr, d.Within c ∧ p d := by
  constructor
  · rintro ⟨d, hd, hp⟩
    rcases within_iff.mp hd with rfl | ⟨c, hc, hd⟩
    · exact .inl hp
    · exact .inr ⟨c, hc, d, hd, hp⟩
  · rintro (hp | ⟨c, hc, d, hd, hp⟩)
    · exact ⟨e, .refl e, hp⟩
    · exact ⟨d, hd.of_child hc, hp⟩

theorem forall_within_iff {p : Expr → Prop} {e : Expr} :
    (∀ d : Expr, d.Within e → p d) ↔ p e ∧ ∀ c ∈ e.children, ∀ d : Expr, d.Within c → p d := by
  constructor
  · intro h
    exact ⟨h e (.refl e), fun c hc d hd => h d (hd.of_child hc)⟩
  · rintro ⟨hself, hparts⟩ d hd
    rcases within_iff.mp hd with rfl | ⟨c, hc, hd⟩
    · exact hself
    · exact hparts c hc d hd

/-- Whether a test holds of an expression and of all that it is made of, as deep as the fuel
allows. -/
def allWithin (p : Expr → Bool) : Nat → Expr → Bool
  | 0, _ => false
  | fuel + 1, e => p e && e.children.all (allWithin p fuel)

theorem forall_within_of_allWithin {p : Expr → Bool} {fuel : Nat} {e : Expr}
    (h : allWithin p fuel e = true) : ∀ d : Expr, d.Within e → p d = true := by
  induction fuel generalizing e with
  | zero => cases h
  | succ fuel ih =>
    obtain ⟨hself, hparts⟩ := Bool.and_eq_true_iff.mp h
    intro d hd
    rcases within_iff.mp hd with rfl | ⟨c, hc, hd⟩
    · exact hself
    · exact ih (List.all_eq_true.mp hparts c hc) d hd

end Expr

/-! ### Parts and holes -/

section Children

variable {q : Hole}

theorem mem_group_of_mem_between {separator : String} {groups : List (List Segment)}
    (h : .hole q ∈ Segment.between separator groups) : ∃ group ∈ groups, .hole q ∈ group := by
  induction groups with
  | nil => simp [Segment.between, List.intercalate] at h
  | cons group rest ih =>
    cases rest with
    | nil =>
      refine ⟨group, List.mem_cons_self, ?_⟩
      simpa [Segment.between, List.intercalate] using h
    | cons next rest =>
      rw [Segment.between, List.intercalate_cons_cons, List.append_assoc] at h
      rcases List.mem_append.mp h with h | h
      · exact ⟨group, List.mem_cons_self, h⟩
      · rcases List.mem_cons.mp h with h | h
        · cases h
        · obtain ⟨other, hother, hmem⟩ := ih h
          exact ⟨other, List.mem_cons_of_mem _ hother, hmem⟩

theorem mem_of_item {items : List Expr} {group : List Segment} (hgroup : group ∈ itemGroups items)
    (h : .hole q ∈ group) : q.expr ∈ items := by
  obtain ⟨e, he, rfl⟩ := List.mem_map.mp hgroup
  obtain rfl := Segment.hole.inj (List.mem_singleton.mp h)
  exact he

theorem mem_of_rising {level : Level} {items : List Expr} {group : List Segment}
    (hgroup : group ∈ risingGroups level items) (h : .hole q ∈ group) : q.expr ∈ items := by
  induction items generalizing level with
  | nil => cases hgroup
  | cons e rest ih =>
    rcases List.mem_cons.mp hgroup with rfl | hgroup
    · obtain rfl := Segment.hole.inj (List.mem_singleton.mp h)
      exact List.mem_cons_self
    · exact List.mem_cons_of_mem e (ih hgroup)

theorem mem_of_optional {w : String} {e : Option Expr}
    (h : .hole q ∈ Segment.optional [.text w] e) : q.expr ∈ e.toList := by
  cases e with
  | none => cases h
  | some e =>
    obtain rfl : q = ⟨Level.test, e⟩ := by
      simpa [Segment.optional, Segment.text, Segment.fill] using h
    exact List.mem_cons_self

theorem mem_of_optional_nil {e : Option Expr}
    (h : .hole q ∈ Segment.optional [] e) : q.expr ∈ e.toList := by
  cases e with
  | none => cases h
  | some e =>
    obtain rfl : q = ⟨Level.test, e⟩ := by simpa [Segment.optional, Segment.fill] using h
    exact List.mem_cons_self

theorem Clause.mem_children {clause : Clause} (h : .hole q ∈ clause.segments) :
    q.expr ∈ clause.children := by
  obtain ⟨isAsync, target, source, conditions⟩ := clause
  simp only [Clause.segments, Segment.text, Segment.fill, List.cons_append, List.nil_append,
    List.mem_cons, Segment.hole.injEq, reduceCtorEq, false_or, List.mem_flatMap] at h
  rcases h with rfl | rfl | ⟨e, he, h⟩
  · simp [Clause.children]
  · simp [Clause.children]
  · obtain rfl : q = ⟨Level.test.next, e⟩ := by
      simpa [guardSegments, Segment.text, Segment.fill] using h
    simp [Clause.children, he]

theorem Param.mem_children {p : Param} (h : .hole q ∈ p.segments) : q.expr ∈ p.children := by
  obtain ⟨name, hint, default⟩ := p
  simp only [Param.segments, Segment.text, List.mem_cons, reduceCtorEq, false_or,
    List.mem_append] at h
  rcases h with h | h
  · exact List.mem_append_left _ (mem_of_optional h)
  · exact List.mem_append_right _ (mem_of_optional h)

theorem Params.mem_children {params : Params} {group : List Segment}
    (hgroup : group ∈ params.groups) (h : .hole q ∈ group) : q.expr ∈ params.children := by
  obtain ⟨positionalOnly, plain, rest, named, mapping⟩ := params
  have hmarked {mark : String} {p : Param} (h : .hole q ∈ .text mark :: p.segments) :
      q.expr ∈ p.children :=
    Param.mem_children ((List.mem_cons.mp h).resolve_left nofun)
  simp only [Params.children, List.mem_flatMap, List.mem_append]
  simp only [Params.groups, List.mem_append] at hgroup
  rcases hgroup with (((hgroup | hgroup) | hgroup) | hgroup) | hgroup
  · split at hgroup
    · cases hgroup
    · rcases List.mem_append.mp hgroup with hgroup | hgroup
      · obtain ⟨p, hp, rfl⟩ := List.mem_map.mp hgroup
        exact ⟨p, by simp [hp], Param.mem_children h⟩
      · obtain rfl := List.mem_singleton.mp hgroup
        simp [Segment.text] at h
  · obtain ⟨p, hp, rfl⟩ := List.mem_map.mp hgroup
    exact ⟨p, by simp [hp], Param.mem_children h⟩
  · cases rest with
    | some p =>
      obtain rfl := List.mem_singleton.mp hgroup
      exact ⟨p, by simp, hmarked h⟩
    | none =>
      simp only [starGroups] at hgroup
      split at hgroup
      · cases hgroup
      · obtain rfl := List.mem_singleton.mp hgroup
        simp [Segment.text] at h
  · obtain ⟨p, hp, rfl⟩ := List.mem_map.mp hgroup
    exact ⟨p, by simp [hp], Param.mem_children h⟩
  · cases mapping with
    | some p =>
      obtain rfl := List.mem_singleton.mp hgroup
      exact ⟨p, by simp, hmarked h⟩
    | none => cases hgroup

/-- What is in a hole of an expression is one of its parts. -/
theorem Expr.mem_children {e : Expr} (h : .hole q ∈ e.segments) : q.expr ∈ e.children := by
  cases e with
  | name | literal | joined => simp [segments, Segment.text] at h
  | unary | binary | conditional | «attribute» | subscript | starred | assigned | await
  | yieldFrom =>
    simp only [segments, Segment.text, Segment.fill, List.mem_cons, List.not_mem_nil, or_false,
      Segment.hole.injEq, reduceCtorEq, false_or] at h
    grind [children]
  | boolean op operands =>
    obtain ⟨group, hgroup, hmem⟩ := mem_group_of_mem_between h
    exact mem_of_rising hgroup hmem
  | compare first links =>
    rcases List.mem_cons.mp h with h | h
    · obtain rfl := Segment.hole.inj h
      exact List.mem_cons_self
    · obtain ⟨⟨op, operand⟩, hlink, h⟩ := List.mem_flatMap.mp h
      obtain rfl : q = ⟨Level.comparison.next, operand⟩ := by
        simpa [Link.segments, Segment.text, Segment.fill] using h
      exact List.mem_cons_of_mem _ (List.mem_map.mpr ⟨_, hlink, rfl⟩)
  | lambda params body =>
    simp only [segments, Segment.text, Segment.fill, List.cons_append, List.mem_cons,
      List.mem_append, reduceCtorEq, false_or, List.not_mem_nil, or_false,
      Segment.hole.injEq] at h
    rcases h with h | rfl
    · obtain ⟨group, hgroup, hmem⟩ := mem_group_of_mem_between h
      exact List.mem_append_left _ (Params.mem_children hgroup hmem)
    · exact List.mem_append_right _ List.mem_cons_self
  | call function arguments keywords =>
    simp only [segments, Segment.text, Segment.fill, List.cons_append, List.mem_cons,
      List.mem_append, reduceCtorEq, false_or, List.not_mem_nil, or_false,
      Segment.hole.injEq] at h
    rcases h with rfl | h
    · exact List.mem_cons_self
    · obtain ⟨group, hgroup, hmem⟩ := mem_group_of_mem_between h
      refine List.mem_cons_of_mem _ (List.mem_append.mpr ?_)
      rcases List.mem_append.mp hgroup with hgroup | hgroup
      · exact .inl (mem_of_item hgroup hmem)
      · obtain ⟨⟨name, value⟩, hkeyword, rfl⟩ := List.mem_map.mp hgroup
        obtain rfl : q = ⟨Level.test, value⟩ := by
          cases name <;> simpa [Keyword.segments, Segment.text, Segment.fill] using hmem
        exact .inr (List.mem_map.mpr ⟨_, hkeyword, rfl⟩)
  | slice lower upper step =>
    simp only [segments, List.mem_append, List.mem_cons, Segment.text, reduceCtorEq, false_or] at h
    simp only [children, List.mem_append]
    rcases h with (h | h) | h
    · exact .inl (.inl (mem_of_optional_nil h))
    · exact .inl (.inr (mem_of_optional_nil h))
    · exact .inr (mem_of_optional h)
  | list items =>
    simp only [segments, Segment.text, List.cons_append, List.mem_cons, List.mem_append,
      reduceCtorEq, false_or, List.not_mem_nil, or_false] at h
    obtain ⟨group, hgroup, hmem⟩ := mem_group_of_mem_between h
    exact mem_of_item hgroup hmem
  | tuple items =>
    have hitem : (∃ item, items = [item] ∧ q = ⟨Level.test, item⟩) ∨
        .hole q ∈ Segment.commas (itemGroups items) := by
      cases items with
      | nil => simp [segments, Segment.text] at h
      | cons item rest =>
        cases rest with
        | nil => exact .inl ⟨item, rfl, by simpa [segments, Segment.text, Segment.fill] using h⟩
        | cons next rest => exact .inr h
    rcases hitem with ⟨item, rfl, rfl⟩ | h
    · exact List.mem_cons_self
    · obtain ⟨group, hgroup, hmem⟩ := mem_group_of_mem_between h
      exact mem_of_item hgroup hmem
  | set items =>
    cases items with
    | nil => simp [segments, Segment.text] at h
    | cons item rest =>
      simp only [segments, Segment.text, List.cons_append, List.mem_cons, List.mem_append,
        reduceCtorEq, false_or, List.not_mem_nil, or_false] at h
      obtain ⟨group, hgroup, hmem⟩ := mem_group_of_mem_between h
      exact mem_of_item hgroup hmem
  | dict entries =>
    simp only [segments, Segment.text, List.cons_append, List.mem_cons, List.mem_append,
      reduceCtorEq, false_or, List.not_mem_nil, or_false] at h
    obtain ⟨group, hgroup, hmem⟩ := mem_group_of_mem_between h
    obtain ⟨⟨key, value⟩, hentry, rfl⟩ := List.mem_map.mp hgroup
    refine List.mem_flatMap.mpr ⟨_, hentry, ?_⟩
    cases key <;> simp [Entry.segments, Segment.text, Segment.fill] at hmem <;>
      grind [Entry.children]
  | comprehension into element clauses =>
    simp only [segments, Segment.text, Segment.fill, List.cons_append, List.mem_cons,
      List.mem_append, reduceCtorEq, false_or, List.not_mem_nil, or_false,
      Segment.hole.injEq] at h
    rcases h with rfl | h
    · exact List.mem_cons_self
    · obtain ⟨clause, hclause, h⟩ := List.mem_flatMap.mp h
      exact List.mem_cons_of_mem _ (List.mem_flatMap.mpr ⟨clause, hclause, clause.mem_children h⟩)
  | dictComprehension key value clauses =>
    simp only [segments, Segment.text, Segment.fill, List.cons_append, List.nil_append,
      List.mem_cons, List.mem_append, reduceCtorEq, false_or, List.not_mem_nil, or_false,
      Segment.hole.injEq] at h
    rcases h with rfl | rfl | h
    · exact List.mem_cons_self
    · exact List.mem_cons_of_mem _ List.mem_cons_self
    · obtain ⟨clause, hclause, h⟩ := List.mem_flatMap.mp h
      refine List.mem_cons_of_mem _ (List.mem_cons_of_mem _ ?_)
      exact List.mem_flatMap.mpr ⟨clause, hclause, clause.mem_children h⟩
  | yield value =>
    cases value with
    | none => simp [segments, Segment.text] at h
    | some value =>
      obtain rfl : q = ⟨Level.atom, value⟩ := by
        simpa [segments, Segment.text, Segment.fill] using h
      exact List.mem_cons_self

end Children

namespace Expr

/-! ### The calls in a number -/

/-- Whether an expression is a call of something other than a sensor method. -/
def isFreeCall : Expr → Bool
  | .call function _ _ => !(function.isAttribute && function.isSensorMethod)
  | _ => false

/-- Every call in an expression, at any depth, is a call of a sensor method. -/
def CallsSensorsOnly (e : Expr) : Prop := ∀ d : Expr, d.Within e → d.isFreeCall = false

theorem callsSensorsOnly_iff {e : Expr} :
    e.CallsSensorsOnly ↔ e.isFreeCall = false ∧ ∀ c ∈ e.children, c.CallsSensorsOnly :=
  forall_within_iff

/-- A chain of attributes on a name holds no call. -/
theorem callsSensorsOnly_of_dotted {e : Expr} {names : List String} (h : e.dotted? = some names) :
    e.CallsSensorsOnly := by
  fun_induction dotted? e generalizing names with
  | case1 id => exact callsSensorsOnly_iff.mpr ⟨rfl, by simp [children]⟩
  | case2 object field ih =>
    obtain ⟨first, hfirst, -⟩ := Option.map_eq_some_iff.mp h
    exact callsSensorsOnly_iff.mpr ⟨rfl, by simpa [children] using ih hfirst⟩
  | case3 => cases h

mutual

/-- The values of named arguments in a number, those inside such a value apart. -/
def unchecked : Expr → List Expr
  | .unary _ operand => unchecked operand
  | .binary _ left right => unchecked left ++ unchecked right
  | .subscript object index => unchecked object ++ unchecked index
  | .call _ arguments keywords => allUnchecked arguments ++ keywords.map Keyword.value
  | _ => []

def allUnchecked : List Expr → List Expr
  | [] => []
  | e :: rest => unchecked e ++ allUnchecked rest

end

/-- All calls in a number are calls of sensor methods exactly if this holds of the values of its
named arguments, which are the only parts that are not checked. -/
theorem calls_checked_iff {e : Expr} (h : e.isNumeric = true) :
    e.CallsSensorsOnly ↔ ∀ value ∈ e.unchecked, value.CallsSensorsOnly := by
  revert h
  refine isNumeric.induct
    (fun e => e.isNumeric = true →
      (e.CallsSensorsOnly ↔ ∀ value ∈ e.unchecked, value.CallsSensorsOnly))
    (fun es => allNumeric es = true →
      ((∀ e ∈ es, e.CallsSensorsOnly) ↔ ∀ value ∈ allUnchecked es, value.CallsSensorsOnly))
    ?literal ?name ?sign ?basic ?item ?call ?other ?nil ?cons e
  case literal =>
    intro value _
    rw [callsSensorsOnly_iff]
    simp [isFreeCall, children, unchecked]
  case name =>
    intro id _
    rw [callsSensorsOnly_iff]
    simp [isFreeCall, children, unchecked]
  case sign =>
    intro op operand ih h
    have hoperand := ih (Bool.and_eq_true_iff.mp h).2
    rw [callsSensorsOnly_iff, unchecked, ← hoperand]
    simp [isFreeCall, children]
  case basic =>
    intro op left right ihl ihr h
    simp only [isNumeric, Bool.and_eq_true] at h
    have hleft := ihl h.1.2
    have hright := ihr h.2
    rw [callsSensorsOnly_iff, unchecked, List.forall_mem_append, ← hleft, ← hright]
    simp [isFreeCall, children]
  case item =>
    intro object index iho ihi h
    simp only [isNumeric, Bool.and_eq_true] at h
    have hobject := iho h.1
    have hindex := ihi h.2
    rw [callsSensorsOnly_iff, unchecked, List.forall_mem_append, ← hobject, ← hindex]
    simp [isFreeCall, children]
  case call =>
    intro function arguments keywords ih h
    simp only [isNumeric, Bool.and_eq_true] at h
    obtain ⟨⟨hattribute, hmethod⟩, harguments⟩ := h
    obtain ⟨names, hchain, -⟩ := Hub.isSensorMethod_eq_true hmethod
    have hfunction := callsSensorsOnly_of_dotted hchain
    rw [callsSensorsOnly_iff, unchecked, List.forall_mem_append, ← ih harguments]
    simp [isFreeCall, children, hattribute, hmethod, hfunction, or_imp, forall_and]
  case other =>
    intro e hliteral hname hunary hbinary hsubscript hcall h
    rw [isNumeric.eq_7 e hliteral hname hunary hbinary hsubscript hcall] at h
    cases h
  case nil =>
    intro _
    simp [allUnchecked]
  case cons =>
    intro e rest ihe ihrest h
    simp only [allNumeric, Bool.and_eq_true] at h
    rw [List.forall_mem_cons, allUnchecked, List.forall_mem_append, ihe h.1, ihrest h.2]

/-- The light that is reflected, as the place of an item. -/
def reflectedItem : Expr :=
  .subscript (.name "speeds")
    (.call (.attribute (.name "color_sensor") "get_reflected_light") [] [])

/-- A distance asked for with a sensor call in an argument and another in a named one. -/
def unitDistance : Expr :=
  .call (.attribute (.name "distance_sensor") "get_distance")
    [.binary .add (.literal (.int 2)) (.call (.attribute (.name "gyro_sensor") "get_rate") [] [])]
    [.mk (some "unit") reflectedItem]

theorem calls_checked_unitDistance :
    unitDistance.print = .ok ("distance_sensor.get_distance(2 + gyro_sensor.get_rate(), " ++
      "unit=speeds[color_sensor.get_reflected_light()])") ∧
    unitDistance.isNumeric = true ∧ unitDistance.unchecked = [reflectedItem] ∧
      unitDistance.CallsSensorsOnly := by
  have hunchecked : unitDistance.unchecked = [reflectedItem] := rfl
  have hitem : reflectedItem.CallsSensorsOnly := by
    rw [calls_checked_iff (by decide)]
    intro value hvalue
    cases hvalue
  refine ⟨by decide +kernel, by decide, hunchecked, ?_⟩
  rw [calls_checked_iff (by decide), hunchecked]
  exact List.forall_mem_singleton.mpr hitem

/-- A distance with a call of any function in a named argument. -/
def freeDistance : Expr :=
  .call (.attribute (.name "distance_sensor") "get_distance") []
    [.mk (some "unit") (.call (.name "f") [] [])]

/-- A number can hold a call that is not one of a sensor method. -/
theorem free_call_freeDistance :
    freeDistance.print = .ok "distance_sensor.get_distance(unit=f())" ∧
      freeDistance.isNumeric = true ∧ ¬freeDistance.CallsSensorsOnly := by
  refine ⟨by decide +kernel, by decide, fun hall => ?_⟩
  have hcall : (Expr.call (.name "f") [] []).Within freeDistance :=
    (Within.refl _).of_child (by simp [freeDistance, children, Keyword.value])
  cases hall _ hcall

end Expr

end HubScript
