import HubScript.Proofs.Subexpressions
import HubScript.Reader.Evaluation

/-!
# Forms of constants

Nothing in an expression depends on the run of the script exactly if no name, no call and no member
of an object stands anywhere in it. An expression has the form of a constant if it is made of
literals and displays by operators. The form is found without a look into the displays, so all that
the form leaves open is what they hold.
-/
namespace HubScript

/-! ### Parts are smaller -/

section Sizes

variable {c : Expr}

theorem sizeOf_lt_of_mem_option {e : Option Expr} (h : c ∈ e.toList) : sizeOf c < sizeOf e := by
  cases e with
  | none => cases h
  | some d =>
    obtain rfl := List.mem_singleton.mp h
    rw [Option.some.sizeOf_spec]
    omega

/-- What is part of a member of a list is smaller than the list. -/
theorem sizeOf_lt_of_mem_flatMap {α : Type} [SizeOf α] {parts : α → List Expr}
    (hparts : ∀ a, ∀ d ∈ parts a, sizeOf d < sizeOf a) {items : List α}
    (h : c ∈ items.flatMap parts) : sizeOf c < sizeOf items := by
  obtain ⟨a, ha, hc⟩ := List.mem_flatMap.mp h
  exact Nat.lt_trans (hparts a c hc) (List.sizeOf_lt_of_mem ha)

theorem Entry.sizeOf_children (entry : Entry) : ∀ d ∈ entry.children, sizeOf d < sizeOf entry := by
  obtain ⟨key, value⟩ := entry
  intro d hd
  rw [Entry.mk.sizeOf_spec]
  rcases List.mem_append.mp hd with hd | hd
  · have := sizeOf_lt_of_mem_option hd
    omega
  · obtain rfl := List.mem_singleton.mp hd
    omega

theorem Clause.sizeOf_children (clause : Clause) :
    ∀ d ∈ clause.children, sizeOf d < sizeOf clause := by
  obtain ⟨isAsync, target, source, conditions⟩ := clause
  intro d hd
  rw [Clause.mk.sizeOf_spec]
  simp only [Clause.children, List.mem_cons] at hd
  rcases hd with rfl | rfl | hd
  · omega
  · omega
  · have := List.sizeOf_lt_of_mem hd
    omega

theorem Param.sizeOf_children (p : Param) : ∀ d ∈ p.children, sizeOf d < sizeOf p := by
  obtain ⟨name, hint, default⟩ := p
  intro d hd
  rw [Param.mk.sizeOf_spec]
  rcases List.mem_append.mp hd with hd | hd
  all_goals
    have := sizeOf_lt_of_mem_option hd
    omega

theorem Params.sizeOf_children (params : Params) :
    ∀ d ∈ params.children, sizeOf d < sizeOf params := by
  obtain ⟨positionalOnly, plain, rest, named, mapping⟩ := params
  intro d hd
  have hoption {p : Option Param} (hd : d ∈ p.toList.flatMap Param.children) :
      sizeOf d < sizeOf p := by
    cases p with
    | none => cases hd
    | some p =>
      have := Param.sizeOf_children p d (by simpa using hd)
      rw [Option.some.sizeOf_spec]
      omega
  rw [Params.mk.sizeOf_spec]
  simp only [Params.children, List.flatMap_append, List.mem_append] at hd
  rcases hd with (((hd | hd) | hd) | hd) | hd
  · have := sizeOf_lt_of_mem_flatMap Param.sizeOf_children hd
    omega
  · have := sizeOf_lt_of_mem_flatMap Param.sizeOf_children hd
    omega
  · have := hoption hd
    omega
  · have := sizeOf_lt_of_mem_flatMap Param.sizeOf_children hd
    omega
  · have := hoption hd
    omega

theorem sizeOf_fieldsOf (parts : List Part) : ∀ d ∈ fieldsOf parts, sizeOf d < sizeOf parts := by
  refine fieldsOf.induct
    (fun parts => ∀ d ∈ fieldsOf parts, sizeOf d < sizeOf parts)
    (fun format => ∀ d ∈ formatFields format, sizeOf d < sizeOf format)
    ?nil ?text ?field ?none ?some parts
  case nil =>
    intro d hd
    simp [fieldsOf] at hd
  case text =>
    intro value rest ih d hd
    have := ih d (by simpa only [fieldsOf] using hd)
    rw [List.cons.sizeOf_spec]
    omega
  case field =>
    intro value conversion format rest ihformat ihrest d hd
    rw [List.cons.sizeOf_spec, Part.field.sizeOf_spec]
    simp only [fieldsOf, List.mem_cons, List.mem_append] at hd
    rcases hd with rfl | hd | hd
    · omega
    · have := ihformat d hd
      omega
    · have := ihrest d hd
      omega
  case none =>
    intro d hd
    simp [formatFields] at hd
  case some =>
    intro parts ih d hd
    have := ih d (by simpa only [formatFields] using hd)
    rw [Option.some.sizeOf_spec]
    omega

end Sizes

namespace Expr

/-- The expressions that an expression is directly made of are smaller. -/
theorem sizeOf_children {c e : Expr} (h : c ∈ e.children) : sizeOf c < sizeOf e := by
  cases e with
  | name | literal => cases h
  | unary | binary | conditional | «attribute» | subscript | starred | assigned | await
  | yieldFrom =>
    simp only [children, List.mem_cons, List.not_mem_nil, or_false] at h
    simp only [unary.sizeOf_spec, binary.sizeOf_spec, conditional.sizeOf_spec,
      «attribute».sizeOf_spec, subscript.sizeOf_spec, starred.sizeOf_spec, assigned.sizeOf_spec,
      await.sizeOf_spec, yieldFrom.sizeOf_spec]
    rcases h with rfl | rfl | rfl <;> omega
  | boolean | list | tuple | set =>
    have := List.sizeOf_lt_of_mem h
    simp only [children] at this
    simp only [boolean.sizeOf_spec, list.sizeOf_spec, tuple.sizeOf_spec, set.sizeOf_spec]
    omega
  | compare first links =>
    rw [compare.sizeOf_spec]
    rcases List.mem_cons.mp h with rfl | h
    · omega
    · obtain ⟨⟨op, operand⟩, hlink, rfl⟩ := List.mem_map.mp h
      have := List.sizeOf_lt_of_mem hlink
      rw [Link.mk.sizeOf_spec] at this
      rw [Link.operand]
      omega
  | lambda params body =>
    rw [lambda.sizeOf_spec]
    rcases List.mem_append.mp h with h | h
    · have := params.sizeOf_children c h
      omega
    · obtain rfl := List.mem_singleton.mp h
      omega
  | call function arguments keywords =>
    rw [call.sizeOf_spec]
    simp only [children, List.mem_cons, List.mem_append] at h
    rcases h with rfl | h | h
    · omega
    · have := List.sizeOf_lt_of_mem h
      omega
    · obtain ⟨⟨name, value⟩, hkeyword, rfl⟩ := List.mem_map.mp h
      have := List.sizeOf_lt_of_mem hkeyword
      rw [Keyword.mk.sizeOf_spec] at this
      rw [Keyword.value]
      omega
  | slice lower upper step =>
    rw [slice.sizeOf_spec]
    simp only [children, List.mem_append] at h
    rcases h with (h | h) | h
    all_goals
      have := sizeOf_lt_of_mem_option h
      omega
  | dict entries =>
    have := sizeOf_lt_of_mem_flatMap Entry.sizeOf_children h
    rw [dict.sizeOf_spec]
    omega
  | comprehension into element clauses =>
    rw [comprehension.sizeOf_spec]
    rcases List.mem_cons.mp h with rfl | h
    · omega
    · have := sizeOf_lt_of_mem_flatMap Clause.sizeOf_children h
      omega
  | dictComprehension key value clauses =>
    rw [dictComprehension.sizeOf_spec]
    simp only [children, List.mem_cons] at h
    rcases h with rfl | rfl | h
    · omega
    · omega
    · have := sizeOf_lt_of_mem_flatMap Clause.sizeOf_children h
      omega
  | joined parts =>
    have := sizeOf_fieldsOf parts c h
    rw [joined.sizeOf_spec]
    omega
  | yield value =>
    have := sizeOf_lt_of_mem_option h
    rw [yield.sizeOf_spec]
    omega

/-- Induction over expressions: what holds of an expression if it holds of its parts holds of all
expressions. -/
theorem parts_induction {P : Expr → Prop} (h : ∀ e : Expr, (∀ c ∈ e.children, P c) → P e)
    (e : Expr) : P e := by
  induction hsize : sizeOf e using Nat.strong_induction_on generalizing e with
  | _ size ih => exact h e fun c hc => ih _ (hsize ▸ sizeOf_children hc) c rfl

end Expr

/-! ### What depends on the run -/

section Safety

theorem allSafe_iff {items : List Expr} : allSafe items = true ↔ ∀ e ∈ items, e.isSafe = true := by
  induction items with
  | nil => simp [allSafe]
  | cons e rest ih => rw [allSafe, Bool.and_eq_true, ih, List.forall_mem_cons]

theorem optionalSafe_iff {e : Option Expr} :
    optionalSafe e = true ↔ ∀ d ∈ e.toList, d.isSafe = true := by
  cases e <;> simp [optionalSafe]

theorem linksSafe_iff {links : List Link} :
    linksSafe links = true ↔ ∀ e ∈ links.map Link.operand, e.isSafe = true := by
  induction links with
  | nil => simp [linksSafe]
  | cons link rest ih =>
    obtain ⟨op, operand⟩ := link
    rw [linksSafe, Bool.and_eq_true, ih, List.map_cons, List.forall_mem_cons, Link.operand]

theorem entriesSafe_iff {entries : List Entry} :
    entriesSafe entries = true ↔ ∀ e ∈ entries.flatMap Entry.children, e.isSafe = true := by
  induction entries with
  | nil => simp [entriesSafe]
  | cons entry rest ih =>
    obtain ⟨key, value⟩ := entry
    rw [entriesSafe, Bool.and_eq_true, Bool.and_eq_true, ih, optionalSafe_iff, List.flatMap_cons,
      List.forall_mem_append, Entry.children, List.forall_mem_append, List.forall_mem_singleton]

theorem clausesSafe_iff {clauses : List Clause} :
    clausesSafe clauses = true ↔ ∀ e ∈ clauses.flatMap Clause.children, e.isSafe = true := by
  induction clauses with
  | nil => simp [clausesSafe]
  | cons clause rest ih =>
    obtain ⟨isAsync, target, source, conditions⟩ := clause
    simp only [clausesSafe, Bool.and_eq_true, ih, allSafe_iff, List.flatMap_cons,
      List.forall_mem_append, Clause.children, List.forall_mem_cons, and_assoc]

theorem partsSafe_iff (parts : List Part) :
    partsSafe parts = true ↔ ∀ e ∈ fieldsOf parts, e.isSafe = true := by
  refine fieldsOf.induct
    (fun parts => partsSafe parts = true ↔ ∀ e ∈ fieldsOf parts, e.isSafe = true)
    (fun format => formatSafe format = true ↔ ∀ e ∈ formatFields format, e.isSafe = true)
    ?nil ?text ?field ?none ?some parts
  case nil => simp [partsSafe, fieldsOf]
  case text =>
    intro value rest ih
    rw [partsSafe, fieldsOf, ih]
  case field =>
    intro value conversion format rest ihformat ihrest
    rw [partsSafe, fieldsOf, Bool.and_eq_true, Bool.and_eq_true, ihformat, ihrest,
      List.forall_mem_cons, List.forall_mem_append, and_assoc]
  case none => simp [formatSafe, formatFields]
  case some =>
    intro parts ih
    rw [formatSafe, formatFields, ih]

theorem Param.isSafe_iff {p : Param} : p.isSafe = true ↔ ∀ e ∈ p.children, e.isSafe = true := by
  obtain ⟨name, hint, default⟩ := p
  rw [Param.isSafe, Bool.and_eq_true, optionalSafe_iff, optionalSafe_iff, Param.children,
    List.forall_mem_append]

theorem paramsSafe_iff {params : List Param} :
    paramsSafe params = true ↔ ∀ e ∈ params.flatMap Param.children, e.isSafe = true := by
  induction params with
  | nil => simp [paramsSafe]
  | cons p rest ih =>
    rw [paramsSafe, Bool.and_eq_true, ih, Param.isSafe_iff, List.flatMap_cons,
      List.forall_mem_append]

theorem optionalParamSafe_iff {p : Option Param} :
    optionalParamSafe p = true ↔ ∀ e ∈ p.toList.flatMap Param.children, e.isSafe = true := by
  cases p with
  | none => simp [optionalParamSafe]
  | some p => simp [optionalParamSafe, Param.isSafe_iff]

theorem Params.isSafe_iff {params : Params} :
    params.isSafe = true ↔ ∀ e ∈ params.children, e.isSafe = true := by
  obtain ⟨positionalOnly, plain, rest, named, mapping⟩ := params
  simp only [Params.isSafe, Bool.and_eq_true, paramsSafe_iff, optionalParamSafe_iff,
    Params.children, List.flatMap_append, List.forall_mem_append]

end Safety

namespace Expr

/-- Whether an expression itself is known only when the script runs: a name, a call, or a member of
an object. -/
def asksRun : Expr → Bool
  | .name _ => true
  | .call .. => true
  | .attribute .. => true
  | _ => false

/-- One step of the test: an expression is safe if it asks for nothing itself and its parts are
safe. -/
theorem isSafe_iff_children (e : Expr) :
    e.isSafe = true ↔ e.asksRun = false ∧ ∀ c ∈ e.children, c.isSafe = true := by
  cases e with
  | name | call | «attribute» => simp [isSafe, asksRun]
  -- Everything else is tested part by part, in the order in which the parts are written.
  | _ =>
    simp [isSafe, asksRun, children, allSafe_iff, optionalSafe_iff, linksSafe_iff, entriesSafe_iff,
      clausesSafe_iff, partsSafe_iff, Params.isSafe_iff, -List.mem_append, List.forall_mem_append,
      and_assoc]

/-- An expression is safe exactly if nothing in it, at any depth, is known only when the script
runs. -/
theorem isSafe_iff (e : Expr) :
    e.isSafe = true ↔ ∀ d : Expr, d.Within e → d.asksRun = false := by
  induction e using parts_induction with
  | h e ih =>
    rw [isSafe_iff_children, forall_within_iff]
    exact and_congr_right' (forall₂_congr ih)

/-! ### The form of a constant -/

/-- The items of the displays that an expression is made of by operators. The form of a constant
does not depend on them. -/
def displayed : Expr → List Expr
  | .unary _ operand => operand.displayed
  | .binary _ left right => left.displayed ++ right.displayed
  | .list items => items
  | .tuple items => items
  | .dict entries => entries.flatMap Entry.children
  | _ => []

theorem isSafe_iff_displayed {e : Expr} (h : e.isConstant = true) :
    e.isSafe = true ↔ ∀ item ∈ e.displayed, item.isSafe = true := by
  fun_induction isConstant e with
  | case1 value => simp [isSafe, displayed]
  | case2 items => rw [isSafe, allSafe_iff, displayed]
  | case3 items => rw [isSafe, allSafe_iff, displayed]
  | case4 entries => rw [isSafe, entriesSafe_iff, displayed]
  | case5 op operand ih => rw [isSafe, displayed, ih h]
  | case6 op left right ihl ihr =>
    obtain ⟨hleft, hright⟩ := Bool.and_eq_true_iff.mp h
    rw [isSafe, displayed, Bool.and_eq_true, ihl hleft, ihr hright, List.forall_mem_append]
  | case7 => cases h

/-- An expression with the form of a constant is safe, so that no name, no call and no member of an
object is in it at any depth, exactly if none is in the items of its displays, which are the only
parts that the form leaves open. -/
theorem constant_safe_iff {e : Expr} (h : e.isConstant = true) :
    (e.isSafe = true ↔ ∀ d : Expr, d.Within e → d.asksRun = false) ∧
      (e.isSafe = true ↔ ∀ item ∈ e.displayed, ∀ d : Expr, d.Within item → d.asksRun = false) := by
  refine ⟨isSafe_iff e, ?_⟩
  rw [isSafe_iff_displayed h]
  exact forall₂_congr fun item _ => isSafe_iff item

/-- Displays within displays, and operators around them: `-1 * [(2, {'k': [3]})] + [{4: 5}]`. -/
def nestedDisplays : Expr :=
  .binary .add
    (.binary .mul (.unary .minus (.literal (.int 1)))
      (.list [.tuple [.literal (.int 2),
        .dict [.mk (some (.literal (.text "k" false))) (.list [.literal (.int 3)])]]]))
    (.list [.dict [.mk (some (.literal (.int 4))) (.literal (.int 5))]])

theorem constant_safe_nestedDisplays :
    nestedDisplays.print = .ok "-1 * [(2, \x7b'k': [3]\x7d)] + [\x7b4: 5\x7d]" ∧
      nestedDisplays.isConstant = true ∧ nestedDisplays.isSafe = true := by
  refine ⟨by decide +kernel, by decide, ?_⟩
  rw [(constant_safe_iff (by decide)).2]
  have hitems : nestedDisplays.displayed.all (allWithin (!·.asksRun) 5) = true := by decide
  intro item hitem d hd
  simpa using forall_within_of_allWithin (List.all_eq_true.mp hitems item hitem) d hd

/-- A list with a name in it: `[x]`. -/
def namedItem : Expr := .list [.name "x"]

/-- What has the form of a constant can depend on the run. -/
theorem constant_unsafe_namedItem :
    namedItem.print = .ok "[x]" ∧ namedItem.isConstant = true ∧ namedItem.isSafe = false ∧
      (Expr.name "x").Within namedItem ∧ (Expr.name "x").asksRun = true ∧
      namedItem.constant? = none :=
  ⟨by decide +kernel, rfl, rfl, (Within.refl _).of_child (by simp [namedItem, children]), rfl, rfl⟩

end Expr

end HubScript
