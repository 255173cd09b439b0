import HubScript.Proofs.NumericAmounts
import HubScript.Proofs.Subexpressions
import HubScript.Reader.Evaluation

/-!
# Numbers that are computed while a script is read

An expression that passes for a number and depends on nothing in the run of the script is made of
numbers, signs, the four basic operations and items. What it is computed to is again a number, and
a truth value only where one is written. An item of a number has no value, and neither has an
operation with a result that is not defined or too large; nothing else keeps such an expression from
being computed.
-/
namespace HubScript

namespace Value

/-- Whether a value is a number other than a truth value, as the results of operations are. -/
def isIntOrFloat : Value → Bool
  | .int _ => true
  | .float _ => true
  | _ => false

theorem isNumber_of_isIntOrFloat {v : Value} (h : v.isIntOrFloat = true) : v.isNumber = true := by
  cases v with
  | int | float => rfl
  | _ => cases h

theorem isComplex_of_isNumber {v : Value} (h : v.isNumber = true) : v.isComplex = false := by
  cases v with
  | complex => cases h
  | _ => rfl

theorem unary_of_isNumber {op : UnaryOp} (hop : op.isSign = true) {v : Value}
    (hv : v.isNumber = true) : ∃ w, unary op v = some w ∧ w.isIntOrFloat = true := by
  cases op with
  | plus | minus =>
    cases v with
    | bool | int | float => exact ⟨_, rfl, rfl⟩
    | _ => cases hv
  | invert | not => cases hop

/-- An operation on numbers gives whole numbers and fractions if it does so on each kind. -/
theorem numberOp_of_isNumber {onInts : Int → Int → Option Value}
    {onReals : Binary64 → Binary64 → Option Value}
    {onComplex : Complex64 → Complex64 → Option Value}
    (hints : ∀ m n r, onInts m n = some r → r.isIntOrFloat = true)
    (hreals : ∀ x y r, onReals x y = some r → r.isIntOrFloat = true) {v w r : Value}
    (hv : v.isNumber = true) (hw : w.isNumber = true)
    (h : numberOp onInts onReals onComplex v w = some r) : r.isIntOrFloat = true := by
  rw [numberOp, isComplex_of_isNumber hv, isComplex_of_isNumber hw] at h
  split at h
  · exact hints _ _ _ h
  · obtain ⟨x, -, h⟩ := Option.bind_eq_some_iff.mp h
    obtain ⟨y, -, h⟩ := Option.bind_eq_some_iff.mp h
    exact hreals _ _ _ h

theorem concat_of_isNumber {v : Value} (h : v.isNumber = true) (w : Value) :
    concat v w = Option.none := by
  cases v with
  | bool | int | float => rfl
  | _ => cases h

theorem setOp_of_isNumber (op : List Value → List Value → List Value) {v : Value}
    (h : v.isNumber = true) (w : Value) : setOp op v w = Option.none := by
  cases v with
  | bool | int | float => rfl
  | _ => cases h

theorem repetition_of_isNumber {v w : Value} (hv : v.isNumber = true) (hw : w.isNumber = true) :
    repetition v w = Option.none := by
  have hnone (n : Int) {u : Value} (hu : u.isNumber = true) : repeatBy n u = Option.none := by
    cases u with
    | bool | int | float => rfl
    | _ => cases hu
  rw [repetition]
  split
  · exact hnone _ hv
  · exact Option.bind_eq_none_iff.mpr fun n _ => hnone n hw

theorem index_of_isNumber {v : Value} (h : v.isNumber = true) (key : Value) :
    v.index key = Option.none := by
  cases v with
  | bool | int | float => rfl
  | _ => cases h

/-- The results of the basic operations on numbers are whole numbers and fractions. -/
theorem binary_of_isNumber {op : BinaryOp} (hop : op.isBasic = true) {v w r : Value}
    (hv : v.isNumber = true) (hw : w.isNumber = true) (h : binary op v w = some r) :
    r.isIntOrFloat = true := by
  have hsome {r u : Value} (hr : u.isIntOrFloat = true) (h : some u = some r) :
      r.isIntOrFloat = true := Option.some.inj h ▸ hr
  cases op with
  | add =>
    rw [binary, concat_of_isNumber hv, Option.or_none] at h
    exact numberOp_of_isNumber (fun _ _ _ => hsome rfl) (fun _ _ _ => hsome rfl) hv hw h
  | sub =>
    rw [binary, setOp_of_isNumber _ hv, Option.or_none] at h
    exact numberOp_of_isNumber (fun _ _ _ => hsome rfl) (fun _ _ _ => hsome rfl) hv hw h
  | mul =>
    rw [binary, repetition_of_isNumber hv hw, Option.or_none] at h
    exact numberOp_of_isNumber (fun _ _ _ => hsome rfl) (fun _ _ _ => hsome rfl) hv hw h
  | div =>
    refine numberOp_of_isNumber (fun m n r hr => ?_) (fun x y r hr => ?_) hv hw h
    · split at hr
      · cases hr
      · obtain ⟨x, -, rfl⟩ := Option.map_eq_some_iff.mp hr
        rfl
    · split at hr
      · cases hr
      · exact hsome rfl hr
  | _ => cases hop

end Value

namespace Expr

open Evaluation (evaluate)

/-- The numbers that depend on nothing in the run of the script. -/
inductive FixedNumber : Expr → Prop
  | literal {value : Literal} (number : value.isNumber = true) : FixedNumber (.literal value)
  | sign {op : UnaryOp} {operand : Expr} (isSign : op.isSign = true)
      (inner : FixedNumber operand) : FixedNumber (.unary op operand)
  | basic {op : BinaryOp} {left right : Expr} (isBasic : op.isBasic = true)
      (first : FixedNumber left) (second : FixedNumber right) : FixedNumber (.binary op left right)
  | item {object index : Expr} (whole : FixedNumber object) (place : FixedNumber index) :
      FixedNumber (.subscript object index)

theorem fixedNumber_of_isNumeric (e : Expr) :
    e.isNumeric = true → e.isSafe = true → FixedNumber e := by
  refine isNumeric.induct (fun e => e.isNumeric = true → e.isSafe = true → FixedNumber e)
    (fun _ => True) ?literal ?name ?sign ?basic ?item ?call ?other trivial
    (fun _ _ _ _ => trivial) e
  case literal =>
    intro value h _
    exact .literal h
  case name =>
    intro id _ hsafe
    cases hsafe
  case sign =>
    intro op operand ih h hsafe
    obtain ⟨hsign, hoperand⟩ := Bool.and_eq_true_iff.mp h
    exact .sign hsign (ih hoperand hsafe)
  case basic =>
    intro op left right ihl ihr h hsafe
    simp only [isNumeric, isSafe, Bool.and_eq_true] at h hsafe
    exact .basic h.1.1 (ihl h.1.2 hsafe.1) (ihr h.2 hsafe.2)
  case item =>
    intro object index iho ihi h hsafe
    simp only [isNumeric, isSafe, Bool.and_eq_true] at h hsafe
    exact .item (iho h.1 hsafe.1) (ihi h.2 hsafe.2)
  case call =>
    intro function arguments keywords _ _ hsafe
    cases hsafe
  case other =>
    intro e hliteral hname hunary hbinary hsubscript hcall h _
    rw [isNumeric.eq_7 e hliteral hname hunary hbinary hsubscript hcall] at h
    cases h

namespace FixedNumber

variable {e : Expr}

theorem isSafe (h : FixedNumber e) : e.isSafe = true := by
  induction h with
  | literal => rfl
  | sign _ _ ih => exact ih
  | basic _ _ _ ihl ihr => exact Bool.and_eq_true_iff.mpr ⟨ihl, ihr⟩
  | item _ _ iho ihi => exact Bool.and_eq_true_iff.mpr ⟨iho, ihi⟩

theorem allowed (h : FixedNumber e) : Evaluation.allowed false e = true := by
  induction h with
  | literal => rfl
  | sign _ _ ih => exact ih
  | basic _ _ _ ihl ihr => exact Bool.and_eq_true_iff.mpr ⟨ihl, ihr⟩
  | item _ _ iho ihi => exact Bool.and_eq_true_iff.mpr ⟨iho, ihi⟩

theorem constant?_eq (h : FixedNumber e) : e.constant? = evaluate e := by
  rw [constant?, h.isSafe, h.allowed]
  rfl

end FixedNumber

/-- Whether an expression is an item of another one. -/
def isItem : Expr → Bool
  | .subscript .. => true
  | _ => false

/-- An expression that has no value by itself: an item, or an operation without a result on the
values of its operands. -/
inductive Fails : Expr → Prop
  | item {e : Expr} (isItem : e.isItem = true) : Fails e
  | operation {op : BinaryOp} {left right : Expr} {v w : Value} (first : left.constant? = some v)
      (second : right.constant? = some w) (undefined : Value.binary op v w = none) :
      Fails (.binary op left right)

/-- A value that a number can be computed to: a truth value only if it is the number itself. -/
inductive Computed : Expr → Value → Prop
  | truth (b : Bool) : Computed (.literal (.bool b)) (.bool b)
  | number {e : Expr} {v : Value} (isIntOrFloat : v.isIntOrFloat = true) : Computed e v

theorem Computed.isNumber {e : Expr} {v : Value} (h : Computed e v) : v.isNumber = true := by
  cases h with
  | truth b => rfl
  | number h => exact Value.isNumber_of_isIntOrFloat h

namespace FixedNumber

variable {e object index left right : Expr} {op : UnaryOp} {operator : BinaryOp}

/-- An index that is a number is no cut. -/
theorem evaluate_item (h : FixedNumber index) : evaluate (.subscript object index) =
    (evaluate object).bind fun v => (evaluate index).bind v.index := by
  cases h <;> rfl

theorem evaluate_item_eq_none (hobject : ∀ v, evaluate object = some v → v.isNumber = true)
    (hindex : FixedNumber index) : evaluate (.subscript object index) = none := by
  rw [evaluate_item hindex]
  refine Option.bind_eq_none_iff.mpr fun v hv => Option.bind_eq_none_iff.mpr fun key _ => ?_
  exact Value.index_of_isNumber (hobject v hv) key

theorem computed (h : FixedNumber e) {v : Value} (hv : evaluate e = some v) : Computed e v := by
  induction h generalizing v with
  | @literal value number =>
    obtain rfl := Option.some.inj hv
    cases value with
    | bool b => exact .truth b
    | int | float => exact .number rfl
    | _ => cases number
  | sign isSign _ ih =>
    obtain ⟨operand, hoperand, hv⟩ := Option.bind_eq_some_iff.mp hv
    obtain ⟨w, hw, hresult⟩ := Value.unary_of_isNumber isSign (ih hoperand).isNumber
    obtain rfl := Option.some.inj (hw.symm.trans hv)
    exact .number hresult
  | basic isBasic _ _ ihl ihr =>
    obtain ⟨left, hleft, hv⟩ := Option.bind_eq_some_iff.mp hv
    obtain ⟨right, hright, hv⟩ := Option.bind_eq_some_iff.mp hv
    exact .number (Value.binary_of_isNumber isBasic (ihl hleft).isNumber (ihr hright).isNumber hv)
  | item _ place iho _ =>
    rw [evaluate_item_eq_none (fun w hw => (iho hw).isNumber) place] at hv
    cases hv

theorem isNumber (h : FixedNumber e) : ∀ v, evaluate e = some v → v.isNumber = true :=
  fun _ hv => (h.computed hv).isNumber

/-- A sign can be put before every number. -/
theorem evaluate_sign_eq_none_iff (hop : op.isSign = true) (h : FixedNumber e) :
    evaluate (.unary op e) = none ↔ evaluate e = none := by
  rw [evaluate, Option.bind_eq_bind, Option.bind_eq_none_iff]
  constructor
  · intro hnone
    refine Option.eq_none_iff_forall_ne_some.mpr fun v hv => ?_
    obtain ⟨w, hw, -⟩ := Value.unary_of_isNumber hop (h.isNumber v hv)
    cases hw.symm.trans (hnone v hv)
  · intro hnone v hv
    cases hnone.symm.trans hv

theorem fails_binary_iff (hleft : FixedNumber left) (hright : FixedNumber right) :
    (Expr.binary operator left right).Fails ↔ ∃ v w, evaluate left = some v ∧
      evaluate right = some w ∧ Value.binary operator v w = none := by
  rw [← hleft.constant?_eq, ← hright.constant?_eq]
  constructor
  · intro hfails
    cases hfails with
    | item h => cases h
    | operation first second undefined => exact ⟨_, _, first, second, undefined⟩
  · rintro ⟨v, w, hv, hw, hnone⟩
    exact .operation hv hw hnone

/-- Nothing is computed exactly if something in the expression fails. -/
theorem evaluate_eq_none_iff (h : FixedNumber e) :
    evaluate e = none ↔ ∃ d : Expr, d.Within e ∧ d.Fails := by
  induction h with
  | literal number =>
    rw [exists_within_iff]
    refine iff_of_false (fun hnone => ?_) ?_
    · cases hnone
    · rintro (hfails | ⟨c, hc, -⟩)
      · cases hfails with
        | item h => cases h
      · cases hc
  | @sign op operand isSign inner ih =>
    have hself : ¬(Expr.unary op operand).Fails := by
      intro hfails
      cases hfails with
      | item h => cases h
    rw [exists_within_iff, evaluate_sign_eq_none_iff isSign inner, ih]
    simp [hself, children]
  | @basic op left right isBasic first second ihl ihr =>
    rw [exists_within_iff, fails_binary_iff first second]
    simp only [children, List.mem_cons, List.not_mem_nil, or_false, exists_eq_or_imp,
      exists_eq_left, ← ihl, ← ihr]
    rw [evaluate, Option.bind_eq_bind]
    cases evaluate left <;> cases evaluate right <;> simp
  | item whole place =>
    exact iff_of_true (evaluate_item_eq_none whole.isNumber place) ⟨_, .refl _, .item rfl⟩

end FixedNumber

/-- What becomes of a number that is computed while a script is read. -/
structure FoldsToNumber (e : Expr) : Prop where
  number : ∀ v, e.constant? = some v → v.isNumber = true
  truth : ∀ b, e.constant? = some (.bool b) ↔ e = .literal (.bool b)
  item : (∃ d : Expr, d.Within e ∧ d.isItem = true) → e.constant? = none
  nothing : e.constant? = none ↔ ∃ d : Expr, d.Within e ∧ d.Fails

/-- An expression that passes for a number and depends on nothing in the run of the script is
computed to a number or to nothing: to a truth value only if it is one, and to nothing exactly if it
holds an item or an operation without a result. -/
theorem folds_to_number {e : Expr} (hnumeric : e.isNumeric = true) (hsafe : e.isSafe = true) :
    e.FoldsToNumber := by
  have hfixed := fixedNumber_of_isNumeric e hnumeric hsafe
  have hnothing : e.constant? = none ↔ ∃ d : Expr, d.Within e ∧ d.Fails := by
    rw [hfixed.constant?_eq, hfixed.evaluate_eq_none_iff]
  have hcomputed {v : Value} (hv : e.constant? = some v) : Computed e v :=
    hfixed.computed (hfixed.constant?_eq ▸ hv)
  refine ⟨fun v hv => (hcomputed hv).isNumber, fun b => ⟨fun hv => ?_, ?_⟩, ?_, hnothing⟩
  · cases hcomputed hv with
    | truth b => rfl
    | number h => cases h
  · rintro rfl
    rfl
  · rintro ⟨d, hd, hitem⟩
    exact hnothing.mpr ⟨d, hd, .item hitem⟩

/-- A truth value counts as a number: `-(3 - True) * 4`. -/
def signedProduct : Expr :=
  .binary .mul
    (.unary .minus (.binary .sub (.literal (.int 3)) (.literal (.bool true)))) (.literal (.int 4))

/-- A sum with an item of a number: `1 + 3[0]`. -/
def itemSum : Expr :=
  .binary .add (.literal (.int 1)) (.subscript (.literal (.int 3)) (.literal (.int 0)))

theorem folds_to_number_signedProduct :
    signedProduct.isNumeric = true ∧ signedProduct.isSafe = true ∧ signedProduct.FoldsToNumber ∧
      signedProduct.constant? = some (.int (-8)) ∧
      itemSum.isNumeric = true ∧ itemSum.isSafe = true ∧ itemSum.constant? = none := by
  have hitem : (Expr.subscript (.literal (.int 3)) (.literal (.int 0))).Within itemSum :=
    (Within.refl _).of_child (by simp [itemSum, children])
  have hsum : itemSum.FoldsToNumber := folds_to_number (by decide) (by decide)
  exact ⟨by decide, by decide, folds_to_number (by decide) (by decide), rfl, by decide, by decide,
    hsum.item ⟨_, hitem, rfl⟩⟩

end Expr

end HubScript
