import HubScript.Proofs.FunctionInterfaces
import HubScript.Proofs.LiteralReading

/-!
# Literals that are written and read again

A literal that is printed, given back or passed to a function is written as its value shows itself,
which is not how the printer of expressions writes it. The text still reads as the same constant,
whatever characters, bytes or digits it is made of. Only numbers beyond the format are lost: they
are written as words, and a word reads as a name.
-/
namespace HubScript

open Hub Text

/-! ### Literals and constants -/

namespace Literal

/-- The number with a fraction that a literal stands for, or its multiple of the imaginary unit. -/
def fraction? : Literal → Option Binary64
  | .float x => some x
  | .imaginary x => some x
  | _ => Option.none

/-- A literal is no number beyond the format. -/
def isFinite (v : Literal) : Bool := v.fraction?.all Binary64.isFinite

/-- A whole number is not too long to be written in decimal digits. -/
def isShort : Literal → Bool
  | .int n => (Nat.toDigits 10 n).length ≤ digitLimit
  | _ => true

/-- A number with a fraction is one that a numeral stands for. -/
def IsRead (v : Literal) : Prop := v.fraction?.isSome → ∃ numeral, ofNumeral numeral = .ok v

end Literal

/-- The constant that an expression is where no names are defined but the built-in ones. -/
def Expr.denoted? : Expr → Option Literal
  | .literal v => some v
  | .name "Ellipsis" => some .ellipsis
  | _ => none

/-- A text reads as an expression that is a given constant, or none. -/
def ReadsAs (text : String) (found : Option Value) : Prop :=
  ∃ e, readExpr text = .ok e ∧ e.denoted?.map Value.ofLiteral = found

theorem readsAs_literal {text : String} {v : Literal} (h : readExpr text = .ok (.literal v)) :
    ReadsAs text (some (.ofLiteral v)) := ⟨_, h, rfl⟩

theorem readsAs_word {text : String} (found : Option Literal)
    (h : (readExpr text).toOption.any (·.denoted? == found) = true) :
    ReadsAs text (found.map Value.ofLiteral) := by
  obtain ⟨e, he, hfound⟩ := exists_of_any h
  exact ⟨e, he, by rw [eq_of_beq hfound]⟩

/-! ### Numbers -/

section Numbers

open Binary64 Figures

theorem readExpr_figures {f : Figures} {v : Literal} (h : f.IsRegular) (imaginary : Bool)
    (hvalue : Literal.ofNumeral (String.ofList (f.chars ++ markText imaginary)) = .ok v) :
    readExpr (String.ofList (f.chars ++ markText imaginary)) = .ok (.literal v) := by
  have hvisible : ∀ c ∈ f.chars ++ markText imaginary, isVisible c = true := by
    intro c hc
    rcases mem_chars_markText h hc with hc | rfl
    · exact isVisible_of_isNumeralChar hc
    · decide
  obtain ⟨c, whole, hwhole⟩ := List.exists_cons_of_ne_nil h.ne_nil
  have hchars : ∃ rest, f.chars ++ markText imaginary = c :: rest := by
    rw [Figures.chars, hwhole]
    exact ⟨_, rfl⟩
  obtain ⟨rest, hrest⟩ := hchars
  have hdigit : isDigit c = true := h.isDigit c (by simp [hwhole])
  refine readExpr_numeral ?_ (by simp [hrest]) hvisible (f.scan_chars h imaginary) hvalue
  rw [hrest]
  intro d hd
  exact Option.some.inj hd ▸ hdigit

theorem readsAs_int {n : ℕ} (h : (Literal.int n).isShort = true) :
    ∃ text, (Value.ofLiteral (.int n)).write = .ok text ∧
      ReadsAs text (some (.ofLiteral (.int n))) := by
  have hlength : (Nat.toDigits 10 n).length ≤ digitLimit := of_decide_eq_true h
  have hchars : (Figures.ofNat n).chars ++ markText false = Nat.toDigits 10 n := by
    rw [chars_ofNat]
    exact List.append_nil _
  have hread := readExpr_figures (isRegular_ofNat n) false (hchars ▸ ofNumeral_toDigits hlength)
  rw [hchars] at hread
  refine ⟨String.ofList (Nat.toDigits 10 n), ?_, readsAs_literal hread⟩
  have htext : decimalText? n = some (String.ofList (Nat.toDigits 10 n)) := by
    rw [decimalText?, Int.natAbs_natCast, if_neg (Nat.not_lt.mpr hlength), if_neg (by omega)]
  simp only [Value.ofLiteral, Value.write, Value.writeInt, htext]

/-- What numerals with a fraction are read as. -/
inductive IsNumeralValue : Binary64 → Prop
  | nan : IsNumeralValue .nan
  | infinite : IsNumeralValue (.infinite false)
  | finite {mantissa : ℕ} {exponent : ℤ} (h : IsCanonical mantissa exponent) :
      IsNumeralValue (.finite false mantissa exponent)

theorem isNumeralValue_round (num : ℕ) {den : ℕ} (hden : 0 < den) :
    IsNumeralValue (round false num den) := by
  rw [round_eq_nearest false num hden]
  rcases nearest_cases false (q := num / den) (by positivity) with h | ⟨mantissa, exponent, h, hc⟩
  · exact h ▸ .infinite
  · exact h ▸ .finite hc

theorem isNumeralValue_ofDecimal (digits : ℕ) (exponent : ℤ) :
    IsNumeralValue (ofDecimal false digits exponent) := by
  have hzero : IsNumeralValue (zero false) := isNumeralValue_round 0 Nat.one_pos
  unfold ofDecimal
  dsimp only
  split_ifs
  · exact hzero
  · exact .infinite
  · exact hzero
  · exact isNumeralValue_round _ Nat.one_pos
  · exact isNumeralValue_round _ (Nat.pow_pos (by decide))

theorem isNumeralValue_of_ofNumeral {numeral : String} {v : Literal} {x : Binary64}
    (h : Literal.ofNumeral numeral = .ok v) (hx : v.fraction? = some x) :
    IsNumeralValue x := by
  have hbase (base : ℕ) (ds : List Char) : Literal.ofBase base ds ≠ v := by
    rintro rfl
    cases hx
  unfold Literal.ofNumeral at h
  dsimp only at h
  split at h
  iterate 6 exact absurd (Except.ok.inj h) (hbase _ _)
  split at h
  · split at h
    · cases h
    · exact absurd (Except.ok.inj h) (hbase _ _)
  · generalize Decimal.read? _ = found at h
    obtain rfl := Except.ok.inj h
    cases found with
    | none =>
      have hnan : Binary64.nan = x := by split at hx <;> exact Option.some.inj hx
      exact hnan ▸ .nan
    | some parts =>
      have hdecimal : ofDecimal false parts.1 parts.2 = x := by
        split at hx <;> exact Option.some.inj hx
      exact hdecimal ▸ isNumeralValue_ofDecimal _ _

theorem readsAs_float {x : Binary64} (h : IsNumeralValue x) :
    ReadsAs x.text (if x.isFinite then some (.ofLiteral (.float x)) else none) := by
  cases h with
  | nan => exact readsAs_word none (by decide +kernel)
  | infinite => exact readsAs_word none (by decide +kernel)
  | finite hcanonical =>
    obtain ⟨f, htext, hstands, hform⟩ := exists_figures_text hcanonical
    have hvalue := ofNumeral_chars hstands.isRegular false (hform.imp_right .inl)
    rw [hstands.ofDecimal_eq] at hvalue
    have hread := readExpr_figures hstands.isRegular false hvalue
    rw [← htext, markText, if_neg Bool.false_ne_true, List.append_nil,
      String.ofList_toList] at hread
    exact readsAs_literal hread

theorem readsAs_imaginary {x : Binary64} (h : IsNumeralValue x) :
    ReadsAs (Value.writePart x ++ "j")
      (if x.isFinite then some (.ofLiteral (.imaginary x)) else none) := by
  cases h with
  | nan => exact readsAs_word none (by decide +kernel)
  | infinite => exact readsAs_word none (by decide +kernel)
  | finite hcanonical =>
    obtain ⟨f, htext, hstands⟩ := exists_figures_writePart hcanonical
    have hvalue := ofNumeral_chars hstands.isRegular true (.inr (.inr rfl))
    rw [hstands.ofDecimal_eq] at hvalue
    have hread := readExpr_figures hstands.isRegular true hvalue
    rw [← htext, markText, if_pos rfl, String.ofList_append, String.ofList_toList] at hread
    exact readsAs_literal hread

end Numbers

/-! ### Texts and bytes -/

theorem readsAs_quoted (s : String) : ReadsAs (quoted s) (some (.str s)) := by
  have hquote := quoteFor_cases s.toList
  have hread : readExpr (quoted s) = .ok (.literal (.text (String.ofList s.toList) false)) :=
    readExpr_quotes hquote fun c _ => inQuotes_text hquote c
  rw [String.ofList_toList] at hread
  exact readsAs_literal hread

/-- An ASCII character is shown by ASCII characters. -/
theorem InQuotes.isAscii {quote c : Char} {shown : List Char} (h : InQuotes quote c shown)
    (hc : isAscii c = true) : ∀ d ∈ shown, isAscii d = true := by
  intro d hd
  cases h with
  | plain =>
    obtain rfl := List.mem_singleton.mp hd
    exact hc
  | letter hletter hvisible hascii =>
    rcases List.mem_pair.mp hd with rfl | rfl
    · rfl
    · exact hascii
  | code => exact (mem_codeEscape hd).1

/-- Bytes are shown by ASCII characters. -/
theorem isAscii_of_mem_byte {quote : Char} (hquote : quote = '\'' ∨ quote = '"') {c d : Char}
    (hd : d ∈ if c == quote then ['\\', c] else if isAscii c then escaped c else codeEscape c) :
    isAscii d = true := by
  by_cases hc : isAscii c = true
  · exact (inQuotes_byte hquote c).isAscii hc d hd
  · have hne : (c == quote) = false := by
      rw [beq_eq_false_iff_ne]
      rintro rfl
      rcases hquote with rfl | rfl <;> exact hc rfl
    rw [hne, if_neg Bool.false_ne_true, if_neg hc] at hd
    exact (mem_codeEscape hd).1

theorem toNat_charOfByte (b : UInt8) : (Char.ofNat b.toNat).toNat = b.toNat := by
  have hvalid : b.toNat.isValidChar := .inl (b.toNat_lt.trans (by decide))
  rw [Char.ofNat, dif_pos hvalid]
  rfl

theorem readsAs_quotedBytes (bytes : List UInt8) :
    ReadsAs (quotedBytes bytes) (some (.bytes bytes)) := by
  have hquote := quoteFor_cases (bytes.map fun b => Char.ofNat b.toNat)
  have hbytes : ∀ c ∈ bytes.map fun b => Char.ofNat b.toNat, c.toNat < 256 := by
    intro c hc
    obtain ⟨b, -, rfl⟩ := List.mem_map.mp hc
    rw [toNat_charOfByte]
    exact b.toNat_lt
  have hsame : (bytes.map fun b => Char.ofNat b.toNat).map Escape.byteOf = bytes := by
    rw [List.map_map]
    refine (List.map_congr_left fun b _ => ?_).trans (List.map_id bytes)
    rw [Function.comp_apply, Escape.byteOf, toNat_charOfByte, UInt8.ofNat_toNat, id]
  have hread : readExpr (quotedBytes bytes) = .ok (.literal (.bytes _)) :=
    readExpr_byteQuotes hquote (fun c _ => inQuotes_byte hquote c) hbytes
      (List.all_eq_true.mpr fun d hd => by
        obtain ⟨c, -, hd⟩ := List.mem_flatMap.mp hd
        exact isAscii_of_mem_byte hquote hd)
  rw [hsame] at hread
  exact readsAs_literal hread

/-- Every literal that a script can hold is written, unless it is a whole number that is too long,
and then read as the constant that it is, unless it is a number beyond the format. -/
theorem readsAs_write {v : Literal} (hread : v.IsRead) (hshort : v.isShort = true) :
    ∃ text, (Value.ofLiteral v).write = .ok text ∧
      ReadsAs text (if v.isFinite then some (.ofLiteral v) else none) := by
  have hnumeral {x : Binary64} (hx : v.fraction? = some x) : IsNumeralValue x := by
    obtain ⟨numeral, hvalue⟩ := hread (by rw [hx]; rfl)
    exact isNumeralValue_of_ofNumeral hvalue hx
  cases v with
  | none => exact ⟨_, rfl, readsAs_word (some .none) (by decide +kernel)⟩
  | bool b =>
    cases b with
    | false => exact ⟨_, rfl, readsAs_word (some (.bool false)) (by decide +kernel)⟩
    | true => exact ⟨_, rfl, readsAs_word (some (.bool true)) (by decide +kernel)⟩
  | int n => exact readsAs_int hshort
  | float x => exact ⟨_, rfl, readsAs_float (hnumeral rfl)⟩
  | imaginary x => exact ⟨_, rfl, readsAs_imaginary (hnumeral rfl)⟩
  | text s marked => exact ⟨_, rfl, readsAs_quoted s⟩
  | bytes bs => exact ⟨_, rfl, readsAs_quotedBytes bs⟩
  | ellipsis => exact ⟨_, rfl, readsAs_word (some .ellipsis) (by decide +kernel)⟩

/-! ### Statements that keep a literal -/

/-- A statement is read, and the workbench writes one line for it at every level. -/
def Stmt.WrittenAs (s : Stmt) (line : String) : Prop :=
  ∃ i, Current.dialect.statement s = .ok (some i) ∧ ∀ bench : Workbench,
    bench.run (.lines i.form) = (.ok (.lines [margin bench.level ++ line]), bench)

/-- A statement keeps a literal as it is: as all that is printed, as what is given back, or as an
argument among others. The line of the statement depends on the text of the literal. -/
inductive Literal.KeptBy (v : Literal) : Stmt → (String → String) → Prop
  | printed {s : Stmt} {keywords : List Keyword}
      (call : s.functionCall? = some ("print", [.literal v], keywords)) :
      KeptBy v s fun text => s!"print({text})"
  | returned (span : Span) :
      KeptBy v (.returns span (some (.literal v))) fun text =>
        if v = .none then "return" else s!"return {text}"
  | passed {s : Stmt} {function : String} {before after : List Expr} {keywords : List Keyword}
      {front back : List String}
      (call : s.functionCall? = some (function, before ++ .literal v :: after, keywords))
      (plain : function ≠ "print" ∧ function ≠ "wait")
      (passedBefore : List.Forall₂ Expr.PassedAs before front)
      (passedAfter : List.Forall₂ Expr.PassedAs after back) :
      KeptBy v s fun text => s!"await {function}({Printer.commas (front ++ text :: back)})"

theorem writtenAs_step {s : Stmt} {act : Step} {info : Info} {line : String}
    (hread : Current.dialect.statement s = .ok (some (.step act info)))
    (hline : ∀ settings, statements settings act.fields = .ok [line]) : s.WrittenAs line :=
  ⟨_, hread, fun bench => run_lines_step info (hline bench.settings)⟩

theorem writtenAs_call {s : Stmt} {function : String} {arguments : List Expr}
    {keywords : List Keyword} {act : Step} {line : String}
    (hcall : s.functionCall? = some (function, arguments, keywords))
    (hread : Current.dialect.functionCall function arguments = .ok act)
    (hline : ∀ settings, statements settings act.fields = .ok [line]) : s.WrittenAs line := by
  obtain ⟨info, hstatement⟩ :=
    Current.dialect.statement_of_call (Stmt.call?_of_functionCall? hcall)
  have hstep : Current.dialect.statement s = .ok (some (.step act info)) := by
    rw [hstatement, Dialect.call, hread]
    rfl
  exact writtenAs_step hstep hline

/-- Arguments that are passed as texts are read as operands that are written so. -/
theorem operands_of_passedAs {arguments : List Expr} {items : List String}
    (h : List.Forall₂ Expr.PassedAs arguments items) :
    ∃ operands, arguments.mapM Current.operand = .ok operands ∧
      (operands.map Operand.argument).mapM argument = .ok items := by
  induction h with
  | nil => exact ⟨[], rfl, rfl⟩
  | @cons e item rest items hpassed _ ih =>
    obtain ⟨operands, hread, hitems⟩ := ih
    have hfirst : ∃ operand, Current.operand e = .ok operand ∧
        argument operand.argument = .ok item := by
      cases hpassed with
      | constant hwritten => exact ⟨_, rfl, (argument_known _).trans hwritten⟩
      | expression hother hprinted =>
        refine ⟨_, ?_, argument_text _⟩
        rw [Current.operand_of_no_literal hother, Expr.text_eq_ok.mpr hprinted]
        rfl
    obtain ⟨operand, hoperand, hitem⟩ := hfirst
    refine ⟨operand :: operands, ?_, ?_⟩
    · rw [List.mapM_cons, hoperand, hread]
      rfl
    · rw [List.map_cons, List.mapM_cons, hitem, hitems]
      rfl

theorem statements_call {function : String} {operands : List Operand} {items : List String}
    (h : (operands.map Operand.argument).mapM argument = .ok items) (settings : Settings) :
    statements settings (Step.call function operands).fields =
      .ok [s!"await {function}({Printer.commas items})"] := by
  change ((operands.map Operand.argument).mapM argument >>= fun items =>
    .ok [s!"await {function}({Printer.commas items})"]) = _
  rw [h]
  rfl

theorem statements_print {value : Value} {text : String} (h : value.write = .ok text)
    (settings : Settings) :
    statements settings (Step.print (.known value)).fields = .ok [s!"print({text})"] := by
  change (value.write >>= fun text => .ok [s!"print({text})"]) = _
  rw [h]
  rfl

/-- Nothing is given back by a bare return. -/
theorem statements_giveBack {v : Literal} {text : String}
    (h : (Value.ofLiteral v).write = .ok text) (settings : Settings) :
    statements settings (Step.giveBack (.known (.ofLiteral v))).fields =
      .ok [if v = .none then "return" else s!"return {text}"] := by
  cases v with
  | none => rfl
  | _ =>
    change ((Value.ofLiteral _).write >>= fun text => .ok [s!"return {text}"]) = _
    rw [h]
    rfl

/-- The line of a statement that keeps a literal holds its text. -/
theorem Literal.KeptBy.writtenAs {v : Literal} {s : Stmt} {line : String → String} {text : String}
    (h : v.KeptBy s line) (htext : (Value.ofLiteral v).write = .ok text) :
    s.WrittenAs (line text) := by
  cases h with
  | printed call => exact writtenAs_call call rfl (statements_print htext)
  | returned span => exact writtenAs_step rfl (statements_giveBack htext)
  | passed call plain passedBefore passedAfter =>
    obtain ⟨operands, hread, hitems⟩ := operands_of_passedAs
      (List.rel_append passedBefore (.cons (.constant htext) passedAfter))
    refine writtenAs_call call ?_ (statements_call hitems)
    rcases Dialect.functionCall_cases _ _ with ⟨_, _, hwait, -⟩ | ⟨_, hprint, -⟩ |
      ⟨hprint, -⟩ | ⟨-, -, hcall⟩
    · exact absurd hwait plain.2
    · exact absurd hprint plain.1
    · exact absurd hprint plain.1
    · rw [hcall, show Current.dialect.argument = Current.operand from rfl, hread]
      rfl

/-- A literal that is printed, given back or passed on is written into the line of its statement,
and its text reads as an expression. This is the same constant if and only if the literal is no
number beyond the format. -/
theorem literal_kept_iff {v : Literal} (hread : v.IsRead) (hshort : v.isShort = true) :
    ∃ text e, (Value.ofLiteral v).write = .ok text ∧
      (∀ s line, v.KeptBy s line → s.WrittenAs (line text)) ∧ readExpr text = .ok e ∧
      (e.denoted?.map Value.ofLiteral = some (.ofLiteral v) ↔ v.isFinite = true) := by
  obtain ⟨text, htext, e, he, hconstant⟩ := readsAs_write hread hshort
  refine ⟨text, e, htext, fun s line hkept => hkept.writtenAs htext, he, ?_⟩
  rw [hconstant]
  split <;> simp [*]

/-- The least number above zero. -/
def leastFloat : Literal := .float (.finite false 1 (-1074))

/-- It is passed on behind another argument, and given back. -/
theorem literal_kept_leastFloat :
    ∃ text e, (Stmt.expr (.of 1 1) (.await (.call (.name "log") [.name "x", .literal leastFloat]
        []))).WrittenAs ("await log(" ++ Printer.commas ["x", text] ++ ")") ∧
      (Stmt.returns (.of 2 2) (some (.literal leastFloat))).WrittenAs s!"return {text}" ∧
      readExpr text = .ok e ∧ e.denoted?.map Value.ofLiteral = some (.ofLiteral leastFloat) := by
  have hread : leastFloat.IsRead := fun _ => ⟨"5e-324", by decide +kernel⟩
  obtain ⟨text, e, -, hkept, he, hconstant⟩ := literal_kept_iff hread rfl
  have hname : (Expr.name "x").PassedAs (toHub "x") := .expression rfl rfl
  rw [show toHub "x" = "x" by decide +kernel] at hname
  have hcall : (Stmt.expr (.of 1 1) (.await (.call (.name "log") [.name "x", .literal leastFloat]
      []))).functionCall? = some ("log", [.name "x"] ++ .literal leastFloat :: [], []) := rfl
  exact ⟨text, e, hkept _ _ (.passed hcall (by decide) (.cons hname .nil) .nil),
    hkept _ _ (.returned _), he, hconstant.mpr rfl⟩

/-- A number beyond the format is printed. -/
def beyondScript : String := "print(1e999)\n"

/-- It is written as a word, which is no constant. -/
theorem literal_lost_beyondScript :
    ReadsAs "1e999" (some (.float (.infinite false))) ∧ ReadsAs "inf" none ∧
      ∃ instrs program, answerGenerate beyondScript = .accepted instrs program ∧
        ∃ opening body, Composed .standard instrs beyondScript program opening body ∧
          codeTexts body = ["print(inf)"] :=
  ⟨readsAs_word (some (.float (.infinite false))) (by decide +kernel),
    readsAs_word none (by decide +kernel), codeTexts_of_any (by decide +kernel)⟩

end HubScript
