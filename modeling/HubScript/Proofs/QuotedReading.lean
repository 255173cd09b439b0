import HubScript.Script.Constant
import HubScript.Script.Lexer
import HubScript.Text.Quoted
import Mathlib.Algebra.Group.Nat.Defs
import Mathlib.Data.List.Basic

/-!
# Quoted texts are read as the texts that were quoted

Between quotes every character is shown in one of three ways: as itself, as a backslash with a
letter, or as a backslash with a mark and the digits of its code. `InQuotes` says so of a single
character, for texts and for bytes alike. Each step of reading is then followed once per way: the
lexer finds the closing quote behind such characters, and decoding gives the characters back.
-/
namespace HubScript

open Text Escape

/-! ## Codes in hexadecimal digits -/

/-- The natural that hexadecimal digits are written for, behind others that gave `n`. -/
def hexFold (n : Nat) (cs : List Char) : Nat :=
  cs.foldl (fun n c => n * 16 + (hexValue? c).getD 0) n

theorem hexValue?_digitChar {n : Nat} (h : n < 16) : hexValue? n.digitChar = some n := by
  have hall : (List.range 16).all fun n => hexValue? n.digitChar == some n := by decide
  exact beq_iff_eq.mp (List.all_eq_true.mp hall n (List.mem_range.mpr h))

/-- Hexadecimal digits of a given count that are written for a natural. -/
structure IsHexOf (cs : List Char) (width n : Nat) : Prop where
  length_eq : cs.length = width
  isSome : ∀ c ∈ cs, (hexValue? c).isSome = true
  hexFold_eq : hexFold 0 cs = n

theorem toDigits_isHexOf (n : Nat) :
    IsHexOf (Nat.toDigits 16 n) (Nat.toDigits 16 n).length n := by
  induction n using Nat.strongRecOn with
  | ind n ih =>
    by_cases h : n < 16
    · rw [Nat.toDigits_of_lt_base h]
      refine ⟨rfl, ?_, ?_⟩
      · intro c hc
        rw [List.mem_singleton.mp hc, hexValue?_digitChar h]
        rfl
      · simp [hexFold, hexValue?_digitChar h]
    · have hlast : n % 16 < 16 := Nat.mod_lt n (by decide)
      obtain ⟨-, hsome, hfold⟩ := ih (n / 16) (by omega)
      rw [Nat.toDigits_of_base_le (by decide) (Nat.le_of_not_lt h)]
      refine ⟨rfl, ?_, ?_⟩
      · intro c hc
        rcases List.mem_append.mp hc with hc | hc
        · exact hsome c hc
        · rw [List.mem_singleton.mp hc, hexValue?_digitChar hlast]
          rfl
      · rw [hexFold, List.foldl_append]
        change hexFold 0 (Nat.toDigits 16 (n / 16)) * 16 + (hexValue? (n % 16).digitChar).getD 0 = n
        rw [hfold, hexValue?_digitChar hlast, Option.getD_some]
        omega

theorem hexFold_replicate_zero (n : Nat) : hexFold 0 (List.replicate n '0') = 0 := by
  induction n with
  | zero => rfl
  | succ n ih => exact ih

theorem hexDigits_isHexOf {width n : Nat} (hwidth : 0 < width) (h : n < 16 ^ width) :
    IsHexOf (hexDigits width n) width n := by
  obtain ⟨-, hsome, hfold⟩ := toDigits_isHexOf n
  have hlen := (Nat.length_toDigits_le_iff (b := 16) (by decide) hwidth).mpr h
  refine ⟨?_, ?_, ?_⟩
  · rw [hexDigits, List.length_append, List.length_replicate]
    omega
  · intro c hc
    rcases List.mem_append.mp hc with hc | hc
    · rw [List.eq_of_mem_replicate hc]
      rfl
    · exact hsome c hc
  · rw [hexDigits, hexFold, List.foldl_append]
    change hexFold (hexFold 0 (List.replicate _ '0')) (Nat.toDigits 16 n) = n
    rw [hexFold_replicate_zero, hfold]

theorem toNat_le (c : Char) : c.toNat ≤ 0x10FFFF := by
  have hvalid : c.toNat.isValidChar := c.valid
  rw [Nat.isValidChar] at hvalid
  omega

/-- A property of the ASCII characters can be checked one by one. -/
theorem forall_ascii (P : Char → Bool)
    (hall : ((List.range 128).all fun n => P (Char.ofNat n)) = true) {c : Char}
    (hc : c.toNat < 128) : P c = true := by
  have hcode := List.all_eq_true.mp hall c.toNat (List.mem_range.mpr hc)
  rwa [Char.ofNat_toNat] at hcode

/-- A hexadecimal digit is an ASCII character that is shown as it stands. -/
theorem isHexDigit_facts {c : Char} (h : (hexValue? c).isSome = true) :
    isAscii c = true ∧ isVisible c = true ∧ c ≠ '\\' ∧ c ≠ '\'' ∧ c ≠ '"' := by
  have hascii : c.toNat < 128 := by
    rw [hexValue?, isDigit] at h
    simp only [Bool.and_eq_true, decide_eq_true_eq, Char.le_def, UInt32.le_iff_toNat_le] at h
    have h9 : '9'.val.toNat = 57 := rfl
    have hf : 'f'.val.toNat = 102 := rfl
    have hF : 'F'.val.toNat = 70 := rfl
    change c.val.toNat < 128
    split at h
    · omega
    · split at h
      · omega
      · split at h
        · omega
        · cases h
  have hc := forall_ascii (fun c => !(hexValue? c).isSome || isVisible c && c != '\\' &&
    c != '\'' && c != '"') (by decide) hascii
  simp only [h] at hc
  simp only [Bool.not_true, Bool.false_or, Bool.and_eq_true, bne_iff_ne] at hc
  exact ⟨decide_eq_true hascii, hc.1.1.1, hc.1.1.2, hc.1.2, hc.2⟩

theorem charOf_toNat (c : Char) : charOf c.toNat = c := by
  have hvalid : c.toNat.isValidChar := c.valid
  rw [charOf, dif_pos hvalid]
  rfl

/-! ## How a character is shown -/

/-- The marks of codes and the counts of their digits. -/
def codeWidth? (mark : Char) : Option Nat :=
  if mark == 'x' then some 2 else if mark == 'u' then some 4 else if mark == 'U' then some 8
  else none

theorem codeWidth?_cases {mark : Char} {width : Nat} (h : codeWidth? mark = some width) :
    (mark = 'x' ∧ width = 2) ∨ (mark = 'u' ∧ width = 4) ∨ (mark = 'U' ∧ width = 8) := by
  simp only [codeWidth?, beq_iff_eq] at h
  split at h
  · exact Or.inl ⟨‹_›, (Option.some.inj h).symm⟩
  · split at h
    · exact Or.inr (Or.inl ⟨‹_›, (Option.some.inj h).symm⟩)
    · split at h
      · exact Or.inr (Or.inr ⟨‹_›, (Option.some.inj h).symm⟩)
      · cases h

theorem codeMark_facts {mark : Char} {width : Nat} (h : codeWidth? mark = some width) :
    0 < width ∧ isAscii mark = true ∧ isVisible mark = true := by
  rcases codeWidth?_cases h with ⟨rfl, rfl⟩ | ⟨rfl, rfl⟩ | ⟨rfl, rfl⟩ <;> decide

/-- How a character may stand between quotes. -/
inductive InQuotes (quote : Char) : Char → List Char → Prop where
  | plain {c : Char} (hvisible : isVisible c = true) (hescape : c ≠ '\\') (hquote : c ≠ quote) :
    InQuotes quote c [c]
  | letter {c d : Char} (hsimple : simple? d = some c) (hvisible : isVisible d = true)
    (hascii : isAscii d = true) : InQuotes quote c ['\\', d]
  | code {c : Char} : InQuotes quote c (codeEscape c)

/-- The escape of a code has a mark that leaves room for the code. -/
theorem exists_codeEscape (c : Char) :
    ∃ mark width, codeEscape c = '\\' :: mark :: hexDigits width c.toNat ∧
      codeWidth? mark = some width ∧ c.toNat < 16 ^ width := by
  rw [codeEscape]
  split
  next h => exact ⟨'x', 2, rfl, rfl, h⟩
  next =>
    split
    next h => exact ⟨'u', 4, rfl, rfl, h⟩
    next =>
      have hlimit := toNat_le c
      exact ⟨'U', 8, rfl, rfl, by omega⟩

theorem inQuotes_escaped {quote c : Char} (h : c ≠ quote) : InQuotes quote c (escaped c) := by
  rw [escaped]
  by_cases hbackslash : c = '\\'
  · subst hbackslash
    exact .letter rfl rfl rfl
  by_cases hfeed : c = '\n'
  · subst hfeed
    exact .letter rfl rfl rfl
  by_cases hreturn : c = '\r'
  · subst hreturn
    exact .letter rfl rfl rfl
  by_cases htab : c = '\t'
  · subst htab
    exact .letter rfl rfl rfl
  simp only [beq_iff_eq, hbackslash, hfeed, hreturn, htab, if_false]
  split
  next hvisible => exact .plain hvisible hbackslash h
  next => exact .code

/-- The characters of an escape by code are ASCII characters that are shown as they stand. -/
theorem mem_codeEscape {c d : Char} (h : d ∈ codeEscape c) :
    isAscii d = true ∧ isVisible d = true := by
  obtain ⟨mark, width, heq, hmark, hsize⟩ := exists_codeEscape c
  rw [heq] at h
  rcases List.mem_cons.mp h with rfl | h
  · decide
  obtain ⟨hwidth, hfacts⟩ := codeMark_facts hmark
  rcases List.mem_cons.mp h with rfl | h
  · exact hfacts
  · obtain ⟨hascii, hvisible, -⟩ := isHexDigit_facts ((hexDigits_isHexOf hwidth hsize).isSome d h)
    exact ⟨hascii, hvisible⟩

theorem InQuotes.isVisible {quote c : Char} {shown : List Char} (h : InQuotes quote c shown) :
    ∀ d ∈ shown, isVisible d = true := by
  intro d hd
  cases h with
  | plain hvisible => exact List.mem_singleton.mp hd ▸ hvisible
  | letter _ hvisible =>
    rcases List.mem_cons.mp hd with rfl | hd
    · decide
    · exact List.mem_singleton.mp hd ▸ hvisible
  | code => exact (mem_codeEscape hd).2

/-! ## The closing quote -/

section Closing

variable {quote : Char} {total line : Nat}

theorem closeText_cons {c : Char} (hescape : c ≠ '\\') (hquote : c ≠ quote) (hfeed : c ≠ '\n')
    (rest : List Char) :
    Lexer.closeText quote total line (c :: rest) = Lexer.closeText quote total line rest := by
  rw [Lexer.closeText.eq_def]
  split
  next heq => cases heq
  next heq => exact absurd (List.cons.inj heq).1 hescape
  next heq => exact absurd (List.cons.inj heq).1 hescape
  next heq =>
    obtain ⟨rfl, rfl⟩ := List.cons.inj heq
    rw [if_neg (mt beq_iff_eq.mp hquote), if_neg (mt beq_iff_eq.mp hfeed)]

theorem closeText_quote (hquote : quote ≠ '\\') (rest : List Char) :
    Lexer.closeText quote total line (quote :: rest) = .ok (line, rest) := by
  rw [Lexer.closeText.eq_def]
  split
  next heq => cases heq
  next heq => exact absurd (List.cons.inj heq).1 hquote
  next heq => exact absurd (List.cons.inj heq).1 hquote
  next heq =>
    obtain ⟨rfl, rfl⟩ := List.cons.inj heq
    rw [if_pos (beq_self_eq_true _)]

theorem closeText_escape {d : Char} (h : d ≠ '\n') (rest : List Char) :
    Lexer.closeText quote total line ('\\' :: d :: rest) =
      Lexer.closeText quote total line rest := by
  rw [Lexer.closeText, if_neg (mt beq_iff_eq.mp h)]

theorem ne_feed_of_isVisible {c : Char} (h : isVisible c = true) : c ≠ '\n' := by
  rintro rfl
  exact absurd h (by decide)

theorem closeText_hex (hquote : quote = '\'' ∨ quote = '"') {ds : List Char}
    (h : ∀ c ∈ ds, (hexValue? c).isSome = true) (rest : List Char) :
    Lexer.closeText quote total line (ds ++ rest) = Lexer.closeText quote total line rest := by
  induction ds with
  | nil => rfl
  | cons c ds ih =>
    obtain ⟨hc, hds⟩ := List.forall_mem_cons.mp h
    obtain ⟨-, hvisible, hescape, hsingle, hdouble⟩ := isHexDigit_facts hc
    have hne : c ≠ quote := by
      rcases hquote with rfl | rfl
      · exact hsingle
      · exact hdouble
    rw [List.cons_append, closeText_cons hescape hne (ne_feed_of_isVisible hvisible)]
    exact ih hds

/-- No character that is shown closes the text. -/
theorem InQuotes.closeText_append (hquote : quote = '\'' ∨ quote = '"') {c : Char}
    {shown : List Char} (h : InQuotes quote c shown) (rest : List Char) :
    Lexer.closeText quote total line (shown ++ rest) = Lexer.closeText quote total line rest := by
  cases h with
  | plain hvisible hescape hne =>
    exact closeText_cons hescape hne (ne_feed_of_isVisible hvisible) rest
  | letter hsimple hvisible hascii => exact closeText_escape (ne_feed_of_isVisible hvisible) rest
  | code =>
    obtain ⟨mark, width, heq, hmark, hsize⟩ := exists_codeEscape c
    obtain ⟨hwidth, -, hvisible⟩ := codeMark_facts hmark
    rw [heq, List.cons_append, List.cons_append, closeText_escape (ne_feed_of_isVisible hvisible)]
    exact closeText_hex hquote (hexDigits_isHexOf hwidth hsize).isSome rest

/-- The lexer finds the closing quote behind the characters of a text. -/
theorem closeText_flatMap (hquote : quote = '\'' ∨ quote = '"') {cs : List Char}
    {shape : Char → List Char} (h : ∀ c ∈ cs, InQuotes quote c (shape c)) (rest : List Char) :
    Lexer.closeText quote total line (cs.flatMap shape ++ quote :: rest) = .ok (line, rest) := by
  induction cs with
  | nil =>
    refine closeText_quote ?_ rest
    rcases hquote with rfl | rfl <;> decide
  | cons c cs ih =>
    obtain ⟨hc, hcs⟩ := List.forall_mem_cons.mp h
    rw [List.flatMap_cons, List.append_assoc, hc.closeText_append hquote]
    exact ih hcs

end Closing

/-! ## Decoding a text -/

theorem asciiForm_cons {c : Char} (hascii : isAscii c = true) (hescape : c ≠ '\\')
    (rest : List Char) : asciiForm (c :: rest) = c :: asciiForm rest := by
  rw [asciiForm.eq_def]
  split
  next heq => cases heq
  next heq => exact absurd (List.cons.inj heq).1 hescape
  next heq => exact absurd (List.cons.inj heq).1 hescape
  next heq =>
    obtain ⟨rfl, rfl⟩ := List.cons.inj heq
    rw [if_pos hascii]

theorem asciiForm_cons_wide {c : Char} (hascii : ¬isAscii c = true) (rest : List Char) :
    asciiForm (c :: rest) = wideEscape c ++ asciiForm rest := by
  have hescape : c ≠ '\\' := by
    rintro rfl
    exact hascii rfl
  rw [asciiForm.eq_def]
  split
  next heq => cases heq
  next heq => exact absurd (List.cons.inj heq).1 hescape
  next heq => exact absurd (List.cons.inj heq).1 hescape
  next heq =>
    obtain ⟨rfl, rfl⟩ := List.cons.inj heq
    rw [if_neg hascii]

theorem asciiForm_escape {d : Char} (h : isAscii d = true) (rest : List Char) :
    asciiForm ('\\' :: d :: rest) = '\\' :: d :: asciiForm rest := by
  rw [asciiForm, if_pos h]

theorem asciiForm_hex {ds : List Char} (h : ∀ c ∈ ds, (hexValue? c).isSome = true)
    (rest : List Char) : asciiForm (ds ++ rest) = ds ++ asciiForm rest := by
  induction ds with
  | nil => rfl
  | cons c ds ih =>
    obtain ⟨hc, hds⟩ := List.forall_mem_cons.mp h
    obtain ⟨hascii, -, hescape, -⟩ := isHexDigit_facts hc
    rw [List.cons_append, asciiForm_cons hascii hescape, ih hds]
    rfl

/-- One step of the decoder, and then the rest. -/
theorem decodeFrom_step {progress next : Progress} {pos : Nat} {c : Char}
    {yielded rest decoded : List Char} (hstep : advance progress pos c = .ok (yielded, next))
    (hrest : decodeFrom next (pos + 1) rest = .ok decoded) :
    decodeFrom progress pos (c :: rest) = .ok (yielded ++ decoded) := by
  rw [decodeFrom, hstep]
  change (decodeFrom next (pos + 1) rest >>= fun tail => .ok (yielded ++ tail)) = _
  rw [hrest]
  rfl

theorem decodeFrom_plain {c : Char} (h : c ≠ '\\') (pos : Nat) {rest decoded : List Char}
    (hrest : decodeFrom .plain (pos + 1) rest = .ok decoded) :
    decodeFrom .plain pos (c :: rest) = .ok (c :: decoded) := by
  have hplain : advance .plain pos c = .ok ([c], .plain) := if_neg (mt beq_iff_eq.mp h)
  exact decodeFrom_step hplain hrest

theorem decodeFrom_letter {c d : Char} (h : simple? d = some c) (pos : Nat)
    {rest decoded : List Char} (hrest : decodeFrom .plain (pos + 2) rest = .ok decoded) :
    decodeFrom .plain pos ('\\' :: d :: rest) = .ok (c :: decoded) := by
  have hletter : advance (.opened pos) (pos + 1) d = .ok ([c], .plain) := by
    rw [advance, afterBackslash, h]
  have hopened : advance .plain pos '\\' = .ok ([], .opened pos) := rfl
  exact decodeFrom_step hopened (decodeFrom_step hletter hrest)

/-- The digits of a code are taken one by one, and the last of them yields the character. -/
theorem decodeFrom_hex {ds : List Char} (hne : ds ≠ [])
    (hds : ∀ c ∈ ds, (hexValue? c).isSome = true) {start value pos : Nat} {short : EscapeFault}
    (hsize : hexFold value ds ≤ 0x10FFFF) {rest decoded : List Char}
    (hrest : decodeFrom .plain (pos + ds.length) rest = .ok decoded) :
    decodeFrom (.hex start ds.length value short) pos (ds ++ rest) =
      .ok (charOf (hexFold value ds) :: decoded) := by
  induction ds generalizing value pos with
  | nil => exact absurd rfl hne
  | cons c ds ih =>
    obtain ⟨hc, hds⟩ := List.forall_mem_cons.mp hds
    obtain ⟨digit, hdigit⟩ := Option.isSome_iff_exists.mp hc
    have hfold : hexFold value (c :: ds) = hexFold (value * 16 + digit) ds := by
      rw [hexFold, List.foldl_cons, hdigit]
      rfl
    rw [hfold] at hsize ⊢
    cases ds with
    | nil =>
      have hstep : advance (.hex start 1 value short) pos c =
          .ok ([charOf (value * 16 + digit)], .plain) := by
        rw [advance, hdigit]
        exact if_neg (Nat.not_lt.mpr hsize)
      exact decodeFrom_step hstep hrest
    | cons d ds =>
      have hstep : advance (.hex start (c :: d :: ds).length value short) pos c =
          .ok ([], .hex start (d :: ds).length (value * 16 + digit) short) := by
        rw [advance, hdigit]
        exact if_neg (by simp)
      have hend : decodeFrom .plain (pos + 1 + (d :: ds).length) rest = .ok decoded := by
        rw [← hrest, List.length_cons (a := c), Nat.add_right_comm, Nat.add_assoc]
      exact decodeFrom_step hstep (ih (List.cons_ne_nil d ds) hds hsize hend)

theorem decodeFrom_code {c mark : Char} {width : Nat} (hmark : codeWidth? mark = some width)
    (hsize : c.toNat < 16 ^ width) (pos : Nat) {rest decoded : List Char}
    (hrest : ∀ pos, decodeFrom .plain pos rest = .ok decoded) :
    decodeFrom .plain pos ('\\' :: mark :: (hexDigits width c.toNat ++ rest)) =
      .ok (c :: decoded) := by
  obtain ⟨short, hmarked⟩ : ∃ short : EscapeFault,
      advance (.opened pos) (pos + 1) mark = .ok ([], .hex pos width 0 short) := by
    rcases codeWidth?_cases hmark with ⟨rfl, rfl⟩ | ⟨rfl, rfl⟩ | ⟨rfl, rfl⟩
    · exact ⟨.shortHex, rfl⟩
    · exact ⟨.shortUnicode, rfl⟩
    · exact ⟨.longUnicode, rfl⟩
  have hwidth := (codeMark_facts hmark).1
  obtain ⟨hlength, hsome, hfold⟩ := hexDigits_isHexOf hwidth hsize
  have hne : hexDigits width c.toNat ≠ [] := by
    apply List.ne_nil_of_length_pos
    rw [hlength]
    exact hwidth
  have hlimit : hexFold 0 (hexDigits width c.toNat) ≤ 0x10FFFF := by
    rw [hfold]
    exact toNat_le c
  have hcode : decodeFrom (.hex pos (hexDigits width c.toNat).length 0 short) (pos + 2)
      (hexDigits width c.toNat ++ rest) = .ok (charOf (hexFold 0 (hexDigits width c.toNat)) ::
        decoded) :=
    decodeFrom_hex hne hsome hlimit (hrest _)
  rw [hlength, hfold, charOf_toNat] at hcode
  have hopened : advance .plain pos '\\' = .ok ([], .opened pos) := rfl
  exact decodeFrom_step hopened (decodeFrom_step hmarked hcode)

/-- A character that is shown is decoded, whatever follows it. -/
theorem InQuotes.decodeFrom_append {quote c : Char} {shown : List Char} (h : InQuotes quote c shown)
    {rest decoded : List Char}
    (hrest : ∀ pos, decodeFrom .plain pos (asciiForm rest) = .ok decoded) (pos : Nat) :
    decodeFrom .plain pos (asciiForm (shown ++ rest)) = .ok (c :: decoded) := by
  cases h with
  | plain hvisible hescape hne =>
    by_cases hascii : isAscii c = true
    · rw [List.singleton_append, asciiForm_cons hascii hescape]
      exact decodeFrom_plain hescape pos (hrest (pos + 1))
    · rw [List.singleton_append, asciiForm_cons_wide hascii]
      have hmark : codeWidth? 'U' = some 8 := rfl
      have hlimit := toNat_le c
      exact decodeFrom_code hmark (by omega) pos hrest
  | letter hsimple hvisible hascii =>
    rw [List.cons_append, List.singleton_append, asciiForm_escape hascii]
    exact decodeFrom_letter hsimple pos (hrest (pos + 2))
  | code =>
    obtain ⟨mark, width, heq, hmark, hsize⟩ := exists_codeEscape c
    obtain ⟨hwidth, hascii, -⟩ := codeMark_facts hmark
    rw [heq, List.cons_append, List.cons_append, asciiForm_escape hascii,
      asciiForm_hex (hexDigits_isHexOf hwidth hsize).isSome]
    exact decodeFrom_code hmark hsize pos hrest

section Inside

variable {quote : Char} {cs : List Char} {shape : Char → List Char}
  (h : ∀ c ∈ cs, InQuotes quote c (shape c))
include h

theorem decodeFrom_flatMap (pos : Nat) :
    decodeFrom .plain pos (asciiForm (cs.flatMap shape)) = .ok cs := by
  induction cs generalizing pos with
  | nil => rfl
  | cons c cs ih =>
    obtain ⟨hc, hcs⟩ := List.forall_mem_cons.mp h
    rw [List.flatMap_cons]
    exact hc.decodeFrom_append (ih hcs) pos

/-- Where nothing is escaped, every character stands for itself. -/
theorem flatMap_of_not_mem (hescape : '\\' ∉ cs.flatMap shape) : cs.flatMap shape = cs := by
  induction cs with
  | nil => rfl
  | cons c cs ih =>
    obtain ⟨hc, hcs⟩ := List.forall_mem_cons.mp h
    rw [List.flatMap_cons, List.mem_append, not_or] at hescape
    have hplain : shape c = [c] := by
      generalize shape c = shown at hc hescape
      cases hc with
      | plain => rfl
      | letter => exact absurd List.mem_cons_self hescape.1
      | code =>
        obtain ⟨mark, width, heq, -⟩ := exists_codeEscape c
        rw [heq] at hescape
        exact absurd List.mem_cons_self hescape.1
    rw [List.flatMap_cons, hplain, ih hcs hescape.2]
    rfl

/-- What stands between quotes is decoded to the text. -/
theorem unescape_flatMap : unescape false (cs.flatMap shape) = .ok cs := by
  rw [unescape]
  by_cases hescape : '\\' ∈ cs.flatMap shape
  · have hcontains : (cs.flatMap shape).contains '\\' = true := List.contains_iff_mem.mpr hescape
    rw [hcontains, if_neg (by decide), decodeText, decodeFrom_flatMap h]
  · have hcontains : (cs.flatMap shape).contains '\\' = false :=
      Bool.eq_false_iff.mpr (mt List.contains_iff_mem.mp hescape)
    rw [hcontains, if_pos (by decide), flatMap_of_not_mem h hescape]

theorem isVisible_of_mem_flatMap {d : Char} (hd : d ∈ cs.flatMap shape) : isVisible d = true := by
  obtain ⟨c, hc, hd⟩ := List.mem_flatMap.mp hd
  exact (h c hc).isVisible d hd

end Inside

/-! ## Decoding bytes -/

theorem decodeBytesFrom_plain {c : Char} (h : c ≠ '\\') (fuel pos : Nat) {rest : List Char}
    {decoded : List UInt8} (hrest : decodeBytesFrom fuel (pos + 1) rest = .ok decoded) :
    decodeBytesFrom (fuel + 1) pos (c :: rest) = .ok (byteOf c :: decoded) := by
  rw [decodeBytesFrom.eq_def]
  split
  next heq => exact absurd heq (Nat.succ_ne_zero fuel)
  next heq _ => cases heq
  next heq => exact absurd (List.cons.inj heq).1 h
  next hfuel heq =>
    obtain ⟨rfl, rfl⟩ := List.cons.inj heq
    obtain rfl := Nat.succ.inj hfuel
    rw [hrest]
    rfl

theorem decodeBytesFrom_letter {c d : Char} (h : simple? d = some c) (fuel pos : Nat)
    {rest : List Char} {decoded : List UInt8}
    (hrest : decodeBytesFrom fuel (pos + 2) rest = .ok decoded) :
    decodeBytesFrom (fuel + 1) pos ('\\' :: d :: rest) = .ok (byteOf c :: decoded) := by
  rw [decodeBytesFrom.eq_def]
  split
  next heq => exact absurd heq (Nat.succ_ne_zero fuel)
  next heq _ => cases heq
  next hfuel heq =>
    obtain ⟨rfl, rfl⟩ := List.cons.inj (List.cons.inj heq).2
    obtain rfl := Nat.succ.inj hfuel
    rw [h]
    dsimp only
    rw [hrest]
    rfl
  next hpair _ heq =>
    obtain ⟨rfl, rfl⟩ := List.cons.inj heq
    exact absurd rfl (hpair d rest rfl)

theorem decodeBytesFrom_code {c : Char} (h : c.toNat < 256) (fuel pos : Nat)
    {rest : List Char} {decoded : List UInt8}
    (hrest : decodeBytesFrom fuel (pos + 4) rest = .ok decoded) :
    decodeBytesFrom (fuel + 1) pos (codeEscape c ++ rest) = .ok (byteOf c :: decoded) := by
  have hcode : codeEscape c = '\\' :: 'x' :: hexDigits 2 c.toNat := if_pos h
  obtain ⟨hlength, hsome, hfold⟩ := hexDigits_isHexOf Nat.two_pos h
  obtain ⟨high, low, hdigits⟩ := List.length_eq_two.mp hlength
  rw [hdigits] at hsome hfold
  obtain ⟨m, hm⟩ := Option.isSome_iff_exists.mp (hsome high (by simp))
  obtain ⟨n, hn⟩ := Option.isSome_iff_exists.mp (hsome low (by simp))
  have hvalue : m * 16 + n = c.toNat := by
    simpa [hexFold, hm, hn] using hfold
  have hpair : decodeBytesFrom (fuel + 1) pos ('\\' :: 'x' :: high :: low :: rest) =
      .ok (UInt8.ofNat (m * 16 + n) :: decoded) := by
    rw [decodeBytesFrom.eq_def]
    split
    next heq => exact absurd heq (Nat.succ_ne_zero fuel)
    next heq _ => cases heq
    next hfuel heq =>
      obtain ⟨rfl, rfl⟩ := List.cons.inj (List.cons.inj heq).2
      obtain rfl := Nat.succ.inj hfuel
      simp only [simple?, hm, hn, hrest]
      rfl
    next hpair _ heq =>
      obtain ⟨rfl, rfl⟩ := List.cons.inj heq
      exact absurd rfl (hpair 'x' (high :: low :: rest) rfl)
  rw [hcode, hdigits]
  rw [hvalue] at hpair
  exact hpair

/-- Bytes that are shown are decoded, whatever follows them. -/
theorem InQuotes.decodeBytesFrom_append {quote c : Char} {shown : List Char}
    (h : InQuotes quote c shown)
    (hbyte : c.toNat < 256) (fuel : Nat) {rest : List Char} {decoded : List UInt8}
    (hrest : ∀ pos, decodeBytesFrom fuel pos rest = .ok decoded) (pos : Nat) :
    decodeBytesFrom (fuel + 1) pos (shown ++ rest) = .ok (byteOf c :: decoded) := by
  cases h with
  | plain hvisible hescape => exact decodeBytesFrom_plain hescape fuel pos (hrest _)
  | letter hsimple => exact decodeBytesFrom_letter hsimple fuel pos (hrest _)
  | code => exact decodeBytesFrom_code hbyte fuel pos (hrest _)

theorem InQuotes.length_pos {quote c : Char} {shown : List Char} (h : InQuotes quote c shown) :
    0 < shown.length := by
  cases h with
  | plain | letter => exact Nat.succ_pos _
  | code =>
    obtain ⟨mark, width, heq, -⟩ := exists_codeEscape c
    rw [heq]
    exact Nat.succ_pos _

section Bytes

variable {quote : Char} {cs : List Char} {shape : Char → List Char}
  (h : ∀ c ∈ cs, InQuotes quote c (shape c))
include h

theorem length_le_flatMap : cs.length ≤ (cs.flatMap shape).length := by
  induction cs with
  | nil => exact Nat.le_refl 0
  | cons c cs ih =>
    obtain ⟨hc, hcs⟩ := List.forall_mem_cons.mp h
    have hpos := hc.length_pos
    have hle := ih hcs
    rw [List.flatMap_cons, List.length_append, List.length_cons]
    omega

theorem decodeBytesFrom_flatMap (hbytes : ∀ c ∈ cs, c.toNat < 256) {fuel : Nat}
    (hfuel : cs.length ≤ fuel) (pos : Nat) :
    decodeBytesFrom fuel pos (cs.flatMap shape) = .ok (cs.map byteOf) := by
  induction cs generalizing fuel pos with
  | nil => cases fuel <;> rfl
  | cons c cs ih =>
    obtain ⟨hc, hcs⟩ := List.forall_mem_cons.mp h
    obtain ⟨hbyte, hbytes⟩ := List.forall_mem_cons.mp hbytes
    cases fuel with
    | zero => exact absurd hfuel (Nat.not_succ_le_zero _)
    | succ fuel =>
      rw [List.flatMap_cons]
      exact hc.decodeBytesFrom_append hbyte fuel
        (fun pos => ih hcs hbytes (Nat.le_of_succ_le_succ hfuel) pos) pos

/-- What stands between the quotes of bytes is decoded to the bytes. -/
theorem unescapeBytes_flatMap (hbytes : ∀ c ∈ cs, c.toNat < 256) :
    unescapeBytes false (cs.flatMap shape) = .ok (cs.map byteOf) := by
  rw [unescapeBytes]
  by_cases hescape : '\\' ∈ cs.flatMap shape
  · have hcontains : (cs.flatMap shape).contains '\\' = true := List.contains_iff_mem.mpr hescape
    have hfuel := Nat.le_succ_of_le (length_le_flatMap h)
    rw [hcontains, if_neg (by decide), decodeBytes, decodeBytesFrom_flatMap h hbytes hfuel]
  · have hcontains : (cs.flatMap shape).contains '\\' = false :=
      Bool.eq_false_iff.mpr (mt List.contains_iff_mem.mp hescape)
    rw [hcontains, if_pos (by decide), flatMap_of_not_mem h hescape]

end Bytes

/-! ## Texts and bytes between their quotes -/

theorem quoteFor_cases (cs : List Char) : quoteFor cs = '\'' ∨ quoteFor cs = '"' := by
  rw [quoteFor]
  split
  · exact Or.inr rfl
  · exact Or.inl rfl

theorem inQuotes_quote {quote : Char} (hquote : quote = '\'' ∨ quote = '"') :
    InQuotes quote quote ['\\', quote] := by
  rcases hquote with rfl | rfl
  · exact .letter rfl rfl rfl
  · exact .letter rfl rfl rfl

/-- The characters of a text are shown between its quotes. -/
theorem inQuotes_text {quote : Char} (hquote : quote = '\'' ∨ quote = '"') (c : Char) :
    InQuotes quote c (if c == quote then ['\\', c] else escaped c) := by
  split
  next h =>
    obtain rfl := beq_iff_eq.mp h
    exact inQuotes_quote hquote
  next h => exact inQuotes_escaped (mt beq_iff_eq.mpr h)

/-- The characters of bytes are shown between their quotes. -/
theorem inQuotes_byte {quote : Char} (hquote : quote = '\'' ∨ quote = '"') (c : Char) :
    InQuotes quote c (if c == quote then ['\\', c] else if isAscii c then escaped c
      else codeEscape c) := by
  split
  next h =>
    obtain rfl := beq_iff_eq.mp h
    exact inQuotes_quote hquote
  next h =>
    split
    · exact inQuotes_escaped (mt beq_iff_eq.mpr h)
    · exact .code

theorem InQuotes.head_ne {quote c a : Char} (hquote : quote = '\'' ∨ quote = '"') {rest : List Char}
    (h : InQuotes quote c (a :: rest)) : a ≠ quote := by
  have hbackslash : '\\' ≠ quote := by
    rcases hquote with rfl | rfl <;> decide
  generalize hshown : a :: rest = shown at h
  cases h with
  | plain hvisible hescape hne =>
    obtain ⟨rfl, -⟩ := List.cons.inj hshown
    exact hne
  | letter =>
    obtain ⟨rfl, -⟩ := List.cons.inj hshown
    exact hbackslash
  | code =>
    obtain ⟨mark, width, heq, -⟩ := exists_codeEscape c
    rw [heq] at hshown
    obtain ⟨rfl, -⟩ := List.cons.inj hshown
    exact hbackslash

theorem unquote_of_ne {quote a : Char} (h : a ≠ quote) (body : List Char) :
    unquote (quote :: (a :: body ++ [quote])) = a :: body := by
  have htest : (a == quote) = false := beq_eq_false_iff_ne.mpr h
  cases body with
  | nil =>
    rw [List.singleton_append, unquote, htest, Bool.false_and, Bool.false_and,
      if_neg Bool.false_ne_true]
    rfl
  | cons b body =>
    rw [List.cons_append, List.cons_append, unquote, htest, Bool.false_and, Bool.false_and,
      if_neg Bool.false_ne_true, ← List.cons_append, ← List.cons_append, List.dropLast_concat]

/-- What stands between the quotes does not start with a quote. -/
theorem head_flatMap_ne {quote a : Char} (hquote : quote = '\'' ∨ quote = '"')
    {cs body : List Char} {shape : Char → List Char} (h : ∀ c ∈ cs, InQuotes quote c (shape c))
    (hbody : cs.flatMap shape = a :: body) : a ≠ quote := by
  cases cs with
  | nil => cases hbody
  | cons c cs =>
    have hc := h c List.mem_cons_self
    rw [List.flatMap_cons] at hbody
    cases hshape : shape c with
    | nil =>
      rw [hshape] at hc
      exact absurd hc.length_pos (Nat.lt_irrefl 0)
    | cons d rest =>
      rw [hshape] at hc hbody
      rw [← (List.cons.inj hbody).1]
      exact hc.head_ne hquote

/-- Taking the quotes off leaves what stands between them. -/
theorem unquote_flatMap {quote : Char} (hquote : quote = '\'' ∨ quote = '"') {cs : List Char}
    {shape : Char → List Char} (h : ∀ c ∈ cs, InQuotes quote c (shape c)) :
    unquote (quote :: (cs.flatMap shape ++ [quote])) = cs.flatMap shape := by
  cases hbody : cs.flatMap shape with
  | nil => rfl
  | cons a body => exact unquote_of_ne (head_flatMap_ne hquote h hbody) body

end HubScript
