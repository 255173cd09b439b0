import HubScript.Script.Printer

/-!
# The characters of numerals

A numeral is written with digits, a point, signs and the mark of an exponent. This holds of every
number, whichever digits are found for it.
-/
namespace HubScript

/-- The characters that numerals are written with. -/
def isNumeralChar (c : Char) : Bool := c.isDigit || c ∈ ['.', 'e', '+', '-']

/-- A text that is not empty and written with the characters of numerals. -/
def IsNumeral (cs : List Char) : Prop := cs ≠ [] ∧ ∀ c ∈ cs, isNumeralChar c = true

theorem isNumeralChar_of_isDigit {c : Char} (h : c.isDigit = true) : isNumeralChar c = true := by
  simp [isNumeralChar, h]

theorem isNumeral_toDigits (n : Nat) : IsNumeral (Nat.toDigits 10 n) :=
  ⟨Nat.toDigits_ne_nil, fun _ hc =>
    isNumeralChar_of_isDigit (Nat.isDigit_of_mem_toDigits (by decide) (by decide) hc)⟩

theorem IsNumeral.cons {c : Char} {cs : List Char} (hc : isNumeralChar c = true)
    (hcs : ∀ d ∈ cs, isNumeralChar d = true) : IsNumeral (c :: cs) :=
  ⟨List.cons_ne_nil c cs, List.forall_mem_cons.mpr ⟨hc, hcs⟩⟩

namespace Decimal

theorem mem_dropZeros {c : Char} {cs : List Char} (h : c ∈ dropZeros cs) : c ∈ cs := by
  rw [dropZeros, List.mem_reverse] at h
  exact List.mem_reverse.mp ((List.dropWhile_sublist _).subset h)

theorem digits_readBack? {x : Binary64} {num den count : Nat} {d : Decimal}
    (h : readBack? x num den count = some d) : ∃ units, d.digits = Nat.toDigits 10 units := by
  obtain ⟨units, -, rfl⟩ := Option.map_eq_some_iff.mp h
  exact ⟨units, rfl⟩

/-- The shortest decimal of a number is written with digits. -/
theorem digits_shortest {x : Binary64} {num den : Nat} {c : Char}
    (h : c ∈ (shortest x num den).digits) : c.isDigit = true := by
  have hmem := mem_dropZeros h
  cases hfound : (List.range 17).findSome? fun k => readBack? x num den (k + 1) with
  | none =>
    rw [hfound] at hmem
    exact Nat.isDigit_of_mem_toDigits (by decide) (by decide) (List.mem_of_mem_take hmem)
  | some d =>
    obtain ⟨k, -, hk⟩ := List.exists_of_findSome?_eq_some hfound
    obtain ⟨units, hunits⟩ := digits_readBack? hk
    rw [hfound, Option.getD_some, hunits] at hmem
    exact Nat.isDigit_of_mem_toDigits (by decide) (by decide) hmem

theorem isNumeral_exponentText (n : Int) : IsNumeral (exponentText n) := by
  have hdigits := (isNumeral_toDigits n.natAbs).2
  refine IsNumeral.cons (by split <;> decide) fun c hc => ?_
  split at hc
  · rcases List.mem_cons.mp hc with rfl | hc
    · decide
    · exact hdigits c hc
  · exact hdigits c hc

variable {d : Decimal} (hd : ∀ c ∈ d.digits, isNumeralChar c = true)
include hd

theorem isNumeral_scientific : IsNumeral (d.scientific 'e') := by
  have hexponent := (isNumeral_exponentText (d.point - 1)).2
  rw [scientific]
  split
  · exact ⟨by simp, by simp [isNumeralChar]⟩
  · rename_i c hdigits
    refine IsNumeral.cons (hd c (by simp [hdigits])) ?_
    exact List.forall_mem_cons.mpr ⟨by decide, hexponent⟩
  · rename_i c rest _ hdigits
    rw [hdigits, List.forall_mem_cons] at hd
    rw [List.cons_append, List.cons_append]
    refine IsNumeral.cons hd.1 fun x hx => ?_
    simp only [List.mem_cons, List.mem_append] at hx
    rcases hx with rfl | hx | rfl | hx
    · decide
    · exact hd.2 x hx
    · decide
    · exact hexponent x hx

theorem isNumeral_positional : IsNumeral d.positional := by
  have hzeros (n : Nat) : ∀ c ∈ List.replicate n '0', isNumeralChar c = true := by
    intro c hc
    rw [List.eq_of_mem_replicate hc]
    decide
  rw [positional]
  split
  · rw [List.cons_append, List.cons_append]
    refine IsNumeral.cons (by decide) ?_
    rw [List.forall_mem_cons, List.forall_mem_append]
    exact ⟨by decide, hzeros _, hd⟩
  · split
    · refine ⟨by simp, ?_⟩
      simp only [List.forall_mem_append]
      exact ⟨⟨hd, hzeros _⟩, by simp [isNumeralChar]⟩
    · refine ⟨by simp, ?_⟩
      rw [List.forall_mem_append, List.forall_mem_cons]
      exact ⟨fun c hc => hd c (List.mem_of_mem_take hc), by decide,
        fun c hc => hd c (List.mem_of_mem_drop hc)⟩

end Decimal

/-- The text of a number that is neither infinite nor undefined. -/
theorem Binary64.isNumeral_text (negative : Bool) (mantissa : Nat) (exponent : Int) :
    IsNumeral (Binary64.finite negative mantissa exponent).text.toList := by
  have hbody (body : List Char) (h : IsNumeral body) :
      IsNumeral (String.ofList (if negative then '-' :: body else body)).toList := by
    rw [String.toList_ofList]
    split
    · exact IsNumeral.cons (by decide) h.2
    · exact h
  apply hbody
  split
  · exact ⟨by simp, by simp [isNumeralChar]⟩
  · have hdigits {x : Binary64} {num den : Nat} :
        ∀ c ∈ (Decimal.shortest x num den).digits, isNumeralChar c = true :=
      fun c hc => isNumeralChar_of_isDigit (Decimal.digits_shortest hc)
    dsimp only
    split
    · exact Decimal.isNumeral_scientific hdigits
    · exact Decimal.isNumeral_positional hdigits

end HubScript
