import HubScript.Proofs.DecimalReading
import HubScript.Script.Constant
import HubScript.Script.Numeral
import HubScript.Value.Text

/-!
# Numerals are read as the numbers that they were written for

A numeral has whole digits and perhaps digits behind a point and a power of ten: its `Figures`.
Every text of a number that is not infinite is the text of such figures, the scanner of numbers
takes such a text as a whole, and what is read from it is the rational that the figures stand for.
-/
namespace HubScript

open Text Binary64

/-- The parts of a numeral. Without a point there are no digits behind it. -/
structure Figures where
  whole : List Char
  part : List Char
  power : Option ℤ

namespace Figures

def pointText : List Char → List Char
  | [] => []
  | c :: part => '.' :: c :: part

def powerText : Option ℤ → List Char
  | none => []
  | some n => 'e' :: Decimal.exponentText n

/-- The numeral with these parts. -/
def chars (f : Figures) : List Char := f.whole ++ (pointText f.part ++ powerText f.power)

/-- All digits as one natural. -/
def units (f : Figures) : ℕ := Nat.ofDigitChars 10 (f.whole ++ f.part) 0

/-- The power of ten that the natural is multiplied by. -/
def exponent (f : Figures) : ℤ := f.power.getD 0 - f.part.length

/-- The rational that the numeral stands for. -/
def value (f : Figures) : ℚ := f.units * 10 ^ f.exponent

/-- The form of numerals: digits only, at least one before the point, and no zero before others. -/
structure IsRegular (f : Figures) : Prop where
  isDigit : ∀ c ∈ f.whole ++ f.part, isDigit c = true
  ne_nil : f.whole ≠ []
  leading : ∀ rest, f.whole = '0' :: rest → rest = []

variable {f : Figures}

/-! ## The parts of a numeral -/

/-- An exponent is a sign and at least two digits. -/
theorem exists_exponentText (n : ℤ) :
    ∃ ds, Decimal.exponentText n = (if n < 0 then '-' else '+') :: ds ∧ 2 ≤ ds.length ∧
      (∀ c ∈ ds, isDigit c = true) ∧ Nat.ofDigitChars 10 ds 0 = n.natAbs := by
  have hdigits (c : Char) (hc : c ∈ Nat.toDigits 10 n.natAbs) : isDigit c = true :=
    isDigit_of_mem_toDigits hc
  by_cases hshort : (Nat.toDigits 10 n.natAbs).length < 2
  · refine ⟨'0' :: Nat.toDigits 10 n.natAbs, ?_, ?_, ?_, ?_⟩
    · exact congrArg _ (if_pos hshort)
    · have := Nat.length_toDigits_pos (b := 10) (n := n.natAbs)
      simp only [List.length_cons]
      omega
    · exact List.forall_mem_cons.mpr ⟨rfl, hdigits⟩
    · exact Nat.ofDigitChars_ten_toDigits
  · exact ⟨Nat.toDigits 10 n.natAbs, congrArg _ (if_neg hshort), not_lt.mp hshort, hdigits,
      Nat.ofDigitChars_ten_toDigits⟩

theorem span_digits {ds rest : List Char} (hds : ∀ c ∈ ds, Text.isDigit c = true)
    (hrest : ∀ c ∈ rest.head?, Text.isDigit c = false) :
    (ds ++ rest).span Text.isDigit = (ds, rest) := by
  have hstop : rest.takeWhile Text.isDigit = [] ∧ rest.dropWhile Text.isDigit = rest := by
    cases rest with
    | nil => exact ⟨rfl, rfl⟩
    | cons c rest => simp [hrest c rfl]
  rw [List.span_eq_takeWhile_dropWhile, List.takeWhile_append_of_pos hds,
    List.dropWhile_append_of_pos hds, hstop.1, hstop.2, List.append_nil]

theorem head?_powerText (power : Option ℤ) (c : Char) (h : c ∈ (powerText power).head?) :
    c = 'e' := by
  cases power with
  | none => cases h
  | some n => exact (Option.some.inj h).symm

theorem head?_tail (part : List Char) (power : Option ℤ) (c : Char)
    (h : c ∈ (pointText part ++ powerText power).head?) : c = '.' ∨ c = 'e' := by
  cases part with
  | nil => exact Or.inr (head?_powerText power c h)
  | cons d part => exact Or.inl (Option.some.inj h).symm

/-! ## Reading a numeral -/

/-- The digits behind a point, and what follows them. -/
def takePart : List Char → List Char × List Char
  | '.' :: rest => rest.span Text.isDigit
  | rest => ([], rest)

/-- Whether an exponent is negative, and its digits. -/
def takeSign : List Char → Bool × List Char
  | '-' :: ds => (true, ds)
  | '+' :: ds => (false, ds)
  | ds => (false, ds)

def readPower? : List Char → Option ℤ
  | [] => some 0
  | e :: rest =>
    if e == 'e' || e == 'E' then
      let (negative, ds) := takeSign rest
      if ds.isEmpty || !ds.all Text.isDigit then none
      else some (if negative then -(Nat.ofDigitChars 10 ds 0 : ℤ) else Nat.ofDigitChars 10 ds 0)
    else none

/-- A numeral is read part by part. -/
theorem read?_eq (cs : List Char) : Decimal.read? cs =
    (let (whole, rest) := cs.span Text.isDigit
     let (part, rest) := takePart rest
     if whole.isEmpty && part.isEmpty then none
     else (readPower? rest).map fun n =>
       (Nat.ofDigitChars 10 (whole ++ part) 0, n - part.length)) :=
  rfl

theorem takePart_tail {part : List Char} (h : ∀ c ∈ part, Text.isDigit c = true)
    (power : Option ℤ) :
    takePart (pointText part ++ powerText power) = (part, powerText power) := by
  cases part with
  | nil => cases power <;> rfl
  | cons d part =>
    apply span_digits h
    intro c hc
    rw [head?_powerText power c hc]
    rfl

theorem readPower?_powerText (power : Option ℤ) :
    readPower? (powerText power) = some (power.getD 0) := by
  cases power with
  | none => rfl
  | some n =>
    obtain ⟨ds, htext, hlen, hds, hvalue⟩ := exists_exponentText n
    have hempty : ds.isEmpty = false := by
      cases ds with
      | nil => simp at hlen
      | cons c ds => rfl
    have hall : ds.all Text.isDigit = true := List.all_eq_true.mpr hds
    rw [powerText, htext, Option.getD_some]
    by_cases hn : n < 0
    · rw [if_pos hn]
      simp only [readPower?, takeSign, hempty, hall, hvalue]
      exact congrArg some (show -(n.natAbs : ℤ) = n by omega)
    · rw [if_neg hn]
      simp only [readPower?, takeSign, hempty, hall, hvalue]
      exact congrArg some (show (n.natAbs : ℤ) = n by omega)

/-- What is read from a numeral: its digits as one natural, and the power of ten. -/
theorem read?_chars (h : f.IsRegular) : Decimal.read? f.chars = some (f.units, f.exponent) := by
  obtain ⟨hwhole, hpart⟩ := List.forall_mem_append.mp h.isDigit
  have hspan : f.chars.span Text.isDigit = (f.whole, pointText f.part ++ powerText f.power) := by
    apply span_digits hwhole
    intro c hc
    rcases head?_tail f.part f.power c hc with rfl | rfl <;> rfl
  have hne : f.whole.isEmpty = false := List.isEmpty_eq_false_iff.mpr h.ne_nil
  rw [read?_eq, hspan]
  dsimp only
  rw [takePart_tail hpart]
  dsimp only
  rw [readPower?_powerText, hne]
  rfl

/-! ## Scanning a numeral -/

open Numeral

theorem digitsTail_cons {c : Char} (h : Text.isDigit c = true) (cs : List Char) :
    digitsTail (c :: cs) = digitsTail cs := by
  have hc : c ≠ '_' := by
    rintro rfl
    exact absurd h (by decide)
  rw [digitsTail.eq_def]
  split
  next heq => exact absurd (List.cons.inj heq).1 hc
  next heq => exact absurd (List.cons.inj heq).1 hc
  next d rest heq =>
    obtain ⟨rfl, rfl⟩ := List.cons.inj heq
    rw [if_pos h]
  next heq => cases heq

/-- What may follow the digits of a numeral on its last stretches. -/
def endsDigits (c : Char) : Bool := c == '.' || c == 'e' || c == 'j'

theorem digitsTail_append {ds rest : List Char} (hds : ∀ c ∈ ds, Text.isDigit c = true)
    (hrest : ∀ c ∈ rest.head?, endsDigits c = true) : digitsTail (ds ++ rest) = .ok rest := by
  induction ds with
  | nil =>
    cases rest with
    | nil => rfl
    | cons c rest =>
      have hc := hrest c rfl
      simp only [endsDigits, Bool.or_eq_true, beq_iff_eq] at hc
      rcases hc with (rfl | rfl) | rfl <;> rfl
  | cons c ds ih =>
    obtain ⟨hc, hds⟩ := List.forall_mem_cons.mp hds
    rw [List.cons_append, digitsTail_cons hc]
    exact ih hds

/-- A numeral ends with its digits or with the mark of an imaginary number. -/
def markText (imaginary : Bool) : List Char := if imaginary then ['j'] else []

theorem head?_markText (imaginary : Bool) (c : Char) (h : c ∈ (markText imaginary).head?) :
    endsDigits c = true := by
  cases imaginary with
  | false => cases h
  | true =>
    rw [← Option.some.inj h]
    rfl

theorem imaginaryTail_markText (imaginary : Bool) :
    imaginaryTail (markText imaginary) = .ok [] := by
  cases imaginary <;> rfl

theorem scaleTail_powerText (power : Option ℤ) (imaginary : Bool) :
    scaleTail (powerText power ++ markText imaginary) = .ok [] := by
  cases power with
  | none => cases imaginary <;> rfl
  | some n =>
    obtain ⟨ds, htext, hlen, hds, -⟩ := exists_exponentText n
    cases ds with
    | nil => simp at hlen
    | cons d ds =>
      obtain ⟨hd, hds⟩ := List.forall_mem_cons.mp hds
      have hscan : (digitsTail (ds ++ markText imaginary) >>= imaginaryTail) = .ok [] := by
        rw [digitsTail_append hds (head?_markText imaginary)]
        exact imaginaryTail_markText imaginary
      have hsign : ((if n < 0 then '-' else '+') == '+' || (if n < 0 then '-' else '+') == '-') =
          true := by
        split <;> rfl
      rw [powerText, htext]
      simp only [List.cons_append, scaleTail, exponentTail, hsign, hd, if_true]
      exact hscan

theorem head?_end (part : List Char) (power : Option ℤ) (imaginary : Bool) (c : Char)
    (h : c ∈ (pointText part ++ powerText power ++ markText imaginary).head?) :
    endsDigits c = true := by
  rw [List.head?_append] at h
  cases hhead : (pointText part ++ powerText power).head? with
  | none =>
    rw [hhead, Option.none_or] at h
    exact head?_markText imaginary c h
  | some d =>
    rw [hhead, Option.some_or] at h
    rw [← Option.some.inj h]
    rcases head?_tail part power d hhead with rfl | rfl <;> rfl

theorem wholeTail_end {part : List Char} (h : ∀ c ∈ part, Text.isDigit c = true)
    (power : Option ℤ) (imaginary : Bool) :
    wholeTail (pointText part ++ powerText power ++ markText imaginary) = .ok [] := by
  have hscale := scaleTail_powerText power imaginary
  cases part with
  | nil =>
    rw [pointText, List.nil_append]
    cases power with
    | none => cases imaginary <;> rfl
    | some n => exact hscale
  | cons d part =>
    obtain ⟨hd, hpart⟩ := List.forall_mem_cons.mp h
    have hdigits : digitsTail (part ++ (powerText power ++ markText imaginary)) =
        .ok (powerText power ++ markText imaginary) := by
      apply digitsTail_append hpart
      intro c hc
      exact head?_end [] power imaginary c hc
    simp only [pointText, List.cons_append, wholeTail, fractionTail, hd, if_true,
      List.append_assoc, hdigits]
    exact hscale

/-- The scanner takes a whole number or one with a fraction to the end of it. -/
theorem scan_of_wholeTail {whole rest : List Char} (hdigit : ∀ c ∈ whole, Text.isDigit c = true)
    (hne : whole ≠ []) (hleading : ∀ tail, whole = '0' :: tail → tail = [])
    (hrest : ∀ c ∈ rest.head?, endsDigits c = true) (hscan : wholeTail rest = .ok []) :
    scan (whole ++ rest) = .ok [] := by
  cases whole with
  | nil => exact absurd rfl hne
  | cons c whole =>
    obtain ⟨hc, hwhole⟩ := List.forall_mem_cons.mp hdigit
    by_cases hzero : c = '0'
    · subst hzero
      obtain rfl := hleading whole rfl
      cases rest with
      | nil => rfl
      | cons d rest =>
        have hd := hrest d rfl
        simp only [endsDigits, Bool.or_eq_true, beq_iff_eq] at hd
        rcases hd with (rfl | rfl) | rfl <;> exact hscan
    · have hdigits := digitsTail_append hwhole hrest
      have hfirst : scan (c :: (whole ++ rest)) = digitsTail (whole ++ rest) >>= wholeTail := by
        rw [scan]
        all_goals
          intros
          simp_all
      rw [List.cons_append, hfirst, hdigits]
      exact hscan

/-- The scanner takes a numeral as a whole. -/
theorem scan_chars (h : f.IsRegular) (imaginary : Bool) :
    scan (f.chars ++ markText imaginary) = .ok [] := by
  obtain ⟨hwhole, hpart⟩ := List.forall_mem_append.mp h.isDigit
  rw [chars, List.append_assoc]
  exact scan_of_wholeTail hwhole h.ne_nil h.leading (head?_end f.part f.power imaginary)
    (wholeTail_end hpart f.power imaginary)

/-! ## The number of a numeral -/

/-- After a leading zero stands what may follow digits. -/
theorem second_of_leading {whole rest cs : List Char} {c : Char}
    (hleading : ∀ tail, whole = '0' :: tail → tail = []) (hne : whole ≠ [])
    (hrest : ∀ c ∈ rest.head?, endsDigits c = true) (h : whole ++ rest = '0' :: c :: cs) :
    endsDigits c = true := by
  cases whole with
  | nil => exact absurd rfl hne
  | cons d whole =>
    obtain ⟨rfl, htail⟩ := List.cons.inj h
    obtain rfl := hleading whole rfl
    exact hrest c (by rw [show rest = c :: cs from htail]; rfl)

/-- Without underscores and a base mark a numeral is read as a decimal. -/
theorem ofNumeral_decimal {cs : List Char} (hplain : ∀ c ∈ cs, c ≠ '_')
    (hsecond : ∀ c rest, cs = '0' :: c :: rest → endsDigits c = true) :
    Literal.ofNumeral (String.ofList cs) =
      if cs.all Text.isDigit then
        if cs.length > digitLimit && cs.any (· != '0') then .error (.tooManyDigits cs.length)
        else .ok (Literal.ofBase 10 cs)
      else
        let imaginary := cs.getLast? == some 'j' || cs.getLast? == some 'J'
        let real := if imaginary then cs.dropLast else cs
        let value := (Decimal.read? real).elim .nan fun r => ofDecimal false r.1 r.2
        .ok (if imaginary then .imaginary value else .float value) := by
  have hfilter : cs.filter (· != '_') = cs :=
    List.filter_eq_self.mpr fun c hc => bne_iff_ne.mpr (hplain c hc)
  rw [Literal.ofNumeral, String.toList_ofList, hfilter]
  split
  next => exact absurd (hsecond _ _ rfl) (by decide)
  next => exact absurd (hsecond _ _ rfl) (by decide)
  next => exact absurd (hsecond _ _ rfl) (by decide)
  next => exact absurd (hsecond _ _ rfl) (by decide)
  next => exact absurd (hsecond _ _ rfl) (by decide)
  next => exact absurd (hsecond _ _ rfl) (by decide)
  next =>
    dsimp only
    generalize (if (cs.getLast? == some 'j' || cs.getLast? == some 'J') = true then cs.dropLast
      else cs) = real
    cases Decimal.read? real <;> rfl

theorem isNumeralChar_of_mem {c : Char} (h : f.IsRegular) (hc : c ∈ f.chars) :
    isNumeralChar c = true := by
  obtain ⟨hwhole, hpart⟩ := List.forall_mem_append.mp h.isDigit
  simp only [chars, List.mem_append] at hc
  rcases hc with hc | hc | hc
  · exact isNumeralChar_of_isDigit (hwhole c hc)
  · cases hp : f.part with
    | nil =>
      rw [hp] at hc
      cases hc
    | cons d part =>
      rw [hp] at hc hpart
      rcases List.mem_cons.mp hc with rfl | hc
      · rfl
      · exact isNumeralChar_of_isDigit (hpart c hc)
  · cases hp : f.power with
    | none =>
      rw [hp] at hc
      cases hc
    | some n =>
      rw [hp] at hc
      rcases List.mem_cons.mp hc with rfl | hc
      · rfl
      · exact (Decimal.isNumeral_exponentText n).2 c hc

theorem mem_chars_markText {c : Char} {imaginary : Bool} (h : f.IsRegular)
    (hc : c ∈ f.chars ++ markText imaginary) : isNumeralChar c = true ∨ c = 'j' := by
  rcases List.mem_append.mp hc with hc | hc
  · exact Or.inl (isNumeralChar_of_mem h hc)
  · cases imaginary with
    | false => cases hc
    | true => exact Or.inr (List.mem_singleton.mp hc)

/-- A point, an exponent or the mark of an imaginary number is more than digits. -/
theorem all_isDigit_chars {imaginary : Bool}
    (hform : f.part ≠ [] ∨ f.power ≠ none ∨ imaginary = true) :
    (f.chars ++ markText imaginary).all Text.isDigit = false := by
  rw [List.all_eq_false]
  rcases hform with hpart | hpower | rfl
  · refine ⟨'.', ?_, by decide⟩
    cases hp : f.part with
    | nil => exact absurd hp hpart
    | cons d part => simp [chars, hp, pointText]
  · refine ⟨'e', ?_, by decide⟩
    cases hp : f.power with
    | none => exact absurd hp hpower
    | some n => simp [chars, hp, powerText]
  · exact ⟨'j', by simp [markText], by decide⟩

theorem getLast?_chars_markText (h : f.IsRegular) (imaginary : Bool) :
    ((f.chars ++ markText imaginary).getLast? == some 'j' ||
      (f.chars ++ markText imaginary).getLast? == some 'J') = imaginary := by
  cases imaginary with
  | true => simp [markText]
  | false =>
    rw [markText, if_neg Bool.false_ne_true, List.append_nil, Bool.or_eq_false_iff,
      beq_eq_false_iff_ne, beq_eq_false_iff_ne]
    constructor
    all_goals
      intro hlast
      exact absurd (isNumeralChar_of_mem h (List.mem_of_getLast? hlast)) (by decide)

/-- A numeral with a point, an exponent or the mark of an imaginary number is read as the number
nearest to the rational that it stands for. -/
theorem ofNumeral_chars (h : f.IsRegular) (imaginary : Bool)
    (hform : f.part ≠ [] ∨ f.power ≠ none ∨ imaginary = true) :
    Literal.ofNumeral (String.ofList (f.chars ++ markText imaginary)) =
      .ok (if imaginary then .imaginary (ofDecimal false f.units f.exponent)
        else .float (ofDecimal false f.units f.exponent)) := by
  have hplain : ∀ c ∈ f.chars ++ markText imaginary, c ≠ '_' := by
    rintro c hc rfl
    rcases mem_chars_markText h hc with hc | hc
    · exact absurd hc (by decide)
    · exact absurd hc (by decide)
  have hsecond (c : Char) (rest : List Char)
      (heq : f.chars ++ markText imaginary = '0' :: c :: rest) : endsDigits c = true := by
    rw [chars, List.append_assoc] at heq
    exact second_of_leading h.leading h.ne_nil (head?_end f.part f.power imaginary) heq
  have hreal : (if imaginary then (f.chars ++ markText imaginary).dropLast
      else f.chars ++ markText imaginary) = f.chars := by
    cases imaginary <;> simp [markText]
  rw [ofNumeral_decimal hplain hsecond, all_isDigit_chars hform, if_neg Bool.false_ne_true]
  dsimp only
  rw [getLast?_chars_markText h, hreal, read?_chars h]
  rfl

/-! ## Whole numbers -/

/-- The figures of a whole number. -/
def ofNat (n : ℕ) : Figures := ⟨Nat.toDigits 10 n, [], none⟩

theorem chars_ofNat (n : ℕ) : (ofNat n).chars = Nat.toDigits 10 n := List.append_nil _

theorem isRegular_ofNat (n : ℕ) : (ofNat n).IsRegular where
  isDigit c hc := by
    rw [ofNat, List.append_nil] at hc
    exact isDigit_of_mem_toDigits hc
  ne_nil := Nat.toDigits_ne_nil
  leading rest h := by
    rcases Nat.eq_zero_or_pos n with rfl | hn
    · exact (List.cons.inj h).2.symm
    · exact absurd h (toDigits_ne_zero_cons hn rest)

theorem foldl_hexValue {cs : List Char} (h : ∀ c ∈ cs, Text.isDigit c = true) (m : ℕ) :
    cs.foldl (fun n c => n * 10 + (hexValue? c).getD 0) m = Nat.ofDigitChars 10 cs m := by
  induction cs generalizing m with
  | nil => rfl
  | cons c cs ih =>
    obtain ⟨hc, hcs⟩ := List.forall_mem_cons.mp h
    have hvalue : hexValue? c = some (c.toNat - '0'.toNat) := if_pos hc
    rw [List.foldl_cons, ih hcs, Nat.ofDigitChars_cons, hvalue, Option.getD_some, mul_comm]

theorem ofBase_toDigits (n : ℕ) : Literal.ofBase 10 (Nat.toDigits 10 n) = .int n := by
  rw [Literal.ofBase, foldl_hexValue fun c hc => isDigit_of_mem_toDigits hc,
    Nat.ofDigitChars_ten_toDigits]

/-- The digits of a whole number within the limit are read as the number. -/
theorem ofNumeral_toDigits {n : ℕ} (h : (Nat.toDigits 10 n).length ≤ digitLimit) :
    Literal.ofNumeral (String.ofList (Nat.toDigits 10 n)) = .ok (.int n) := by
  have hregular := isRegular_ofNat n
  have hplain : ∀ c ∈ Nat.toDigits 10 n, c ≠ '_' := by
    rintro c hc rfl
    exact absurd (isDigit_of_mem_toDigits hc) (by decide)
  have hsecond (c : Char) (rest : List Char) (heq : Nat.toDigits 10 n = '0' :: c :: rest) :
      endsDigits c = true := by
    cases hregular.leading _ heq
  have hall : (Nat.toDigits 10 n).all Text.isDigit = true :=
    List.all_eq_true.mpr fun c hc => isDigit_of_mem_toDigits hc
  have hlimit : (decide ((Nat.toDigits 10 n).length > digitLimit) &&
      (Nat.toDigits 10 n).any (· != '0')) = false := by
    rw [decide_eq_false (not_lt.mpr h), Bool.false_and]
  rw [ofNumeral_decimal hplain hsecond, if_pos hall, hlimit, if_neg Bool.false_ne_true,
    ofBase_toDigits]

end Figures

/-! ## The numeral of a number -/

/-- Figures with few enough digits for the nearest number to be read from them, which is the given
one. -/
structure Figures.StandsFor (f : Figures) (x : Binary64) : Prop where
  isRegular : f.IsRegular
  units_lt : f.units < 10 ^ 40
  nearest_value : nearest false f.value = x

theorem Figures.StandsFor.ofDecimal_eq {f : Figures} {x : Binary64} (h : f.StandsFor x) :
    ofDecimal false f.units f.exponent = x :=
  (ofDecimal_eq_nearest false h.units_lt f.exponent).trans h.nearest_value

namespace Decimal

open Figures

/-- The figures that a decimal is set out with. -/
def figures (d : Decimal) : Figures :=
  if usesExponent d.point then ⟨d.digits.take 1, d.digits.drop 1, some (d.point - 1)⟩
  else if d.point ≤ 0 then ⟨['0'], List.replicate (-d.point).toNat '0' ++ d.digits, none⟩
  else if d.digits.length ≤ d.point.toNat then
    ⟨d.digits ++ List.replicate (d.point.toNat - d.digits.length) '0', ['0'], none⟩
  else ⟨d.digits.take d.point.toNat, d.digits.drop d.point.toNat, none⟩

variable {d : Decimal}

theorem pointText_of_ne_nil {part : List Char} (h : part ≠ []) : pointText part = '.' :: part := by
  cases part with
  | nil => exact absurd rfl h
  | cons c part => rfl

/-- The figures are what the text of a number shows. -/
theorem chars_figures (h : d.digits ≠ []) :
    d.figures.chars = if usesExponent d.point then d.scientific 'e' else d.positional := by
  unfold figures
  split
  next =>
    rw [scientific]
    cases hd : d.digits with
    | nil => exact absurd hd h
    | cons c rest => cases rest <;> rfl
  next =>
    rw [positional]
    split
    next =>
      rw [chars, pointText_of_ne_nil (by simp [h])]
      simp [powerText]
    next hpoint =>
      split
      next => simp [chars, pointText, powerText]
      next hlen =>
        have hdrop : d.digits.drop d.point.toNat ≠ [] := by
          rw [Ne, List.drop_eq_nil_iff]
          omega
        rw [chars, pointText_of_ne_nil hdrop]
        simp [powerText]

/-- Figures stand for the decimal with the same digits whose point agrees with their exponent. -/
theorem value_eq_value {f : Figures} (point : ℤ)
    (h : f.exponent = point - (f.whole ++ f.part).length) :
    f.value = (⟨f.whole ++ f.part, point⟩ : Decimal).value := by
  rw [Figures.value, h]
  rfl

theorem value_figures (h : d.digits ≠ []) : d.figures.value = d.value := by
  have hpos := List.length_pos_iff.mpr h
  unfold figures
  split
  next =>
    rw [value_eq_value d.point, List.take_append_drop]
    rw [exponent, List.take_append_drop, Option.getD_some, List.length_drop]
    omega
  next =>
    split
    next hpoint =>
      -- Zeros in front add to the digits behind the point, not to the natural.
      have hunits : Nat.ofDigitChars 10
          (['0'] ++ (List.replicate (-d.point).toNat '0' ++ d.digits)) 0 =
            Nat.ofDigitChars 10 d.digits 0 := by
        rw [← List.append_assoc, Nat.ofDigitChars_append,
          show ['0'] ++ List.replicate (-d.point).toNat '0' =
            List.replicate ((-d.point).toNat + 1) '0' from rfl,
          Nat.ofDigitChars_replicate_zero, mul_zero]
      have hexponent : (0 : ℤ) - (List.replicate (-d.point).toNat '0' ++ d.digits).length =
          d.point - d.digits.length := by
        rw [List.length_append, List.length_replicate]
        omega
      rw [Figures.value, units, hunits, exponent, Option.getD_none, hexponent]
      rfl
    next hpoint =>
      split
      next hlen =>
        have hzeros : List.replicate (d.point.toNat - d.digits.length) '0' ++ ['0'] =
            List.replicate (d.point.toNat - d.digits.length + 1) '0' :=
          List.replicate_succ'.symm
        rw [value_eq_value d.point, List.append_assoc, hzeros, value_append_zeros]
        rw [exponent, Option.getD_none, List.append_assoc, hzeros, List.length_append,
          List.length_replicate, List.length_singleton]
        omega
      next hlen =>
        rw [value_eq_value d.point, List.take_append_drop]
        rw [exponent, List.take_append_drop, Option.getD_none, List.length_drop]
        omega

theorem figures_form (h : d.digits ≠ []) : d.figures.part ≠ [] ∨ d.figures.power ≠ none := by
  unfold figures
  split
  next => exact Or.inr (Option.some_ne_none _)
  next =>
    left
    split
    next => simp [h]
    next =>
      split
      next => exact List.cons_ne_nil _ _
      next hlen =>
        rw [Ne, List.drop_eq_nil_iff]
        exact hlen

variable {x : Binary64} (h : d.IsShortest x)
include h

theorem isRegular_figures : d.figures.IsRegular := by
  have hpos := List.length_pos_iff.mpr h.ne_nil
  have htake (n : ℕ) (hn : 0 < n) : d.digits.take n ≠ [] := by
    rw [Ne, List.take_eq_nil_iff]
    rintro (rfl | heq)
    · exact hn.ne rfl
    · exact h.ne_nil heq
  have hfirst (n : ℕ) (rest : List Char) (heq : d.digits.take n = '0' :: rest) : rest = [] := by
    refine absurd ?_ (h.ne_zero_cons (rest ++ d.digits.drop n))
    rw [← List.cons_append, ← heq, List.take_append_drop]
  have hzeros (n : ℕ) : ∀ c ∈ List.replicate n '0', Text.isDigit c = true := by
    intro c hc
    rw [List.eq_of_mem_replicate hc]
    rfl
  unfold figures
  split
  next =>
    exact ⟨by rw [List.take_append_drop]; exact h.isDigit, htake 1 Nat.one_pos, hfirst 1⟩
  next =>
    split
    next =>
      refine ⟨?_, List.cons_ne_nil _ _, fun rest heq => (List.cons.inj heq).2.symm⟩
      simp only [List.forall_mem_append]
      exact ⟨hzeros 1, hzeros _, h.isDigit⟩
    next hpoint =>
      split
      next =>
        refine ⟨?_, by simp [h.ne_nil], fun rest heq => ?_⟩
        · simp only [List.forall_mem_append]
          exact ⟨⟨h.isDigit, hzeros _⟩, hzeros 1⟩
        · cases hd : d.digits with
          | nil => exact absurd hd h.ne_nil
          | cons c cs =>
            rw [hd, List.cons_append] at heq
            obtain ⟨rfl, -⟩ := List.cons.inj heq
            exact absurd hd (h.ne_zero_cons cs)
      next =>
        exact ⟨by rw [List.take_append_drop]; exact h.isDigit, htake _ (by omega), hfirst _⟩

/-- The figures are few enough for the nearest number to be read from them. -/
theorem units_figures_lt : d.figures.units < 10 ^ 40 := by
  have hdigit := (isRegular_figures h).isDigit
  refine (ofDigitChars_lt hdigit).trans_le (Nat.pow_le_pow_right (by decide) ?_)
  have hlen := h.length_le
  unfold figures
  split
  next => rw [List.take_append_drop]; omega
  next hexponent =>
    have hrange : -4 < d.point ∧ d.point ≤ 16 := by
      simp only [usesExponent, Bool.or_eq_true, decide_eq_true_eq, not_or, not_le,
        not_lt] at hexponent
      exact hexponent
    split
    next =>
      simp only [List.length_append, List.length_replicate, List.length_singleton]
      omega
    next =>
      split
      next =>
        simp only [List.length_append, List.length_replicate, List.length_singleton]
        omega
      next => rw [List.take_append_drop]; omega

theorem standsFor_figures : d.figures.StandsFor x where
  isRegular := isRegular_figures h
  units_lt := units_figures_lt h
  nearest_value := (congrArg (nearest false) (value_figures h.ne_nil)).trans h.nearest_value

end Decimal

namespace Binary64

open Figures

/-- The text of a number that is neither infinite nor negative is a numeral of the number. -/
theorem exists_figures_text {mantissa : ℕ} {exponent : ℤ} (h : IsCanonical mantissa exponent) :
    ∃ f : Figures, (Binary64.finite false mantissa exponent).text.toList = f.chars ∧
      f.StandsFor (.finite false mantissa exponent) ∧ (f.part ≠ [] ∨ f.power ≠ none) := by
  rcases Nat.eq_zero_or_pos mantissa with rfl | hmantissa
  · refine ⟨⟨['0'], ['0'], none⟩, String.toList_ofList, ⟨?_, by decide, ?_⟩,
      Or.inl (List.cons_ne_nil _ _)⟩
    · exact ⟨by simp [Text.isDigit], List.cons_ne_nil _ _,
        fun rest heq => (List.cons.inj heq).2.symm⟩
    · rw [h.normal (by decide)]
      exact if_pos (zero_mul _)
  · have hshort := Decimal.isShortest_shortest hmantissa h
    refine ⟨_, ?_, Decimal.standsFor_figures hshort, Decimal.figures_form hshort.ne_nil⟩
    rw [Decimal.chars_figures hshort.ne_nil, text]
    dsimp only
    rw [if_neg hmantissa.ne', if_neg Bool.false_ne_true, String.toList_ofList]

/-- Only a fraction of a single zero makes a numeral end in a point and a zero. -/
theorem eq_zero_part {f : Figures} (h : f.IsRegular) {cs : List Char}
    (hend : f.chars = cs ++ ['.', '0']) : f.whole = cs ∧ f.part = ['0'] ∧ f.power = none := by
  obtain ⟨whole, part, power⟩ := f
  obtain ⟨hwhole, hpart⟩ := List.forall_mem_append.mp h.isDigit
  have hpoint {ds : List Char} (hds : ∀ c ∈ ds, Text.isDigit c = true) : '.' ∉ ds :=
    fun hmem => absurd (hds _ hmem) (by decide)
  cases power with
  | some n =>
    -- The exponent has two digits at the end of the numeral.
    obtain ⟨ds, htext, hlen, hds, -⟩ := exists_exponentText n
    have hsuffix : ds <:+ cs ++ ['.', '0'] := by
      rw [← hend, chars, powerText, htext]
      exact ((((List.suffix_refl ds).trans (List.suffix_cons _ _)).trans
        (List.suffix_cons _ _)).trans (List.suffix_append _ _)).trans (List.suffix_append _ _)
    have hmem := (List.suffix_of_suffix_length_le (List.suffix_append cs ['.', '0']) hsuffix
      hlen).subset List.mem_cons_self
    exact absurd hmem (hpoint hds)
  | none =>
    cases part with
    | nil =>
      rw [chars, pointText, powerText, List.append_nil, List.append_nil] at hend
      exact absurd (hend ▸ List.mem_append_right cs List.mem_cons_self) (hpoint hwhole)
    | cons d part =>
      rw [chars, pointText, powerText, List.append_nil] at hend
      rcases List.append_eq_append_iff.mp hend with ⟨mid, hcs, hmid⟩ | ⟨mid, hcs, hmid⟩
      · cases mid with
        | nil => exact ⟨hcs ▸ (List.append_nil _).symm, (List.cons.inj hmid).2, rfl⟩
        | cons c mid =>
          have hmem : '.' ∈ d :: part := by
            rw [(List.cons.inj hmid).2]
            exact List.mem_append_right mid List.mem_cons_self
          exact absurd hmem (hpoint hpart)
      · cases mid with
        | nil => exact ⟨hcs ▸ List.append_nil _, (List.cons.inj hmid).2.symm, rfl⟩
        | cons c mid =>
          have hmem : '.' ∈ whole := by
            rw [show whole = cs ++ c :: mid from hcs, ← (List.cons.inj hmid).1]
            exact List.mem_append_right cs List.mem_cons_self
          exact absurd hmem (hpoint hwhole)

/-- Leaving out a fraction of zero changes neither the form nor the number. -/
theorem standsFor_whole {whole : List Char} {x : Binary64}
    (h : (⟨whole, ['0'], none⟩ : Figures).StandsFor x) :
    (⟨whole, [], none⟩ : Figures).StandsFor x := by
  have hunits : (⟨whole, ['0'], none⟩ : Figures).units =
      10 * (⟨whole, [], none⟩ : Figures).units := by
    rw [units, units, Nat.ofDigitChars_append, List.append_nil]
    exact Nat.ofDigitChars_cons
  refine ⟨⟨?_, h.isRegular.ne_nil, h.isRegular.leading⟩, ?_, ?_⟩
  · intro c hc
    rw [List.append_nil] at hc
    exact h.isRegular.isDigit c (List.mem_append_left _ hc)
  · have := h.units_lt
    omega
  · rw [← h.nearest_value, Figures.value, Figures.value, hunits]
    congr 1
    simp only [exponent, Option.getD_none, List.length_nil, List.length_singleton]
    norm_num
    ring

/-- The text of an imaginary part is a numeral of the number too. -/
theorem exists_figures_writePart {mantissa : ℕ} {exponent : ℤ}
    (h : IsCanonical mantissa exponent) :
    ∃ f : Figures, (Value.writePart (.finite false mantissa exponent)).toList = f.chars ∧
      f.StandsFor (.finite false mantissa exponent) := by
  obtain ⟨f, htext, hstands, -⟩ := exists_figures_text h
  rw [Value.writePart]
  split
  next hend =>
    rw [← String.endsWith_toSlice, String.Slice.endsWith_string_iff, String.copy_toSlice] at hend
    obtain ⟨cs, hcs⟩ := hend
    obtain ⟨whole, part, power⟩ := f
    obtain ⟨rfl, rfl, rfl⟩ := eq_zero_part hstands.isRegular (htext.symm.trans hcs.symm)
    refine ⟨⟨whole, [], none⟩, ?_, standsFor_whole hstands⟩
    rw [String.toList_ofList, ← hcs]
    simp [chars, pointText, powerText]
  next => exact ⟨f, htext, hstands⟩

end Binary64

end HubScript
