import HubScript.Proofs.LoneToken
import HubScript.Proofs.NumeralReading
import HubScript.Proofs.QuotedReading

/-!
# Literals are read as the constants that they were written for

The text of a constant is one token: a numeral, or a text between quotes. The lexer takes it as a
whole, since it holds no character that breaks a line, and the grammar reads the expression of the
lone token as a literal. Together with what is known of numerals and of quoted texts this gives
back the number, the text or the bytes.
-/
namespace HubScript

open Text

/-! ## A line with one token -/

theorem unifyEnds_of_not_mem {cs : List Char} (h : '\r' ∉ cs) : Lexer.unifyEnds false cs = cs := by
  induction cs with
  | nil => rfl
  | cons c cs ih =>
    rw [List.mem_cons, not_or] at h
    rw [Lexer.unifyEnds, if_neg (mt beq_iff_eq.mp (Ne.symm h.1)), Bool.false_and,
      if_neg Bool.false_ne_true, ih h.2]

theorem lineCount_of_not_mem {cs : List Char} (hne : cs ≠ []) (h : '\n' ∉ cs) :
    Lexer.lineCount cs = 1 := by
  have hfeeds : cs.countP (· == '\n') = 0 := by
    rw [List.countP_eq_zero]
    intro c hc heq
    exact h (beq_iff_eq.mp heq ▸ hc)
  have hlast : (cs.getLast hne == '\n') = false := by
    rw [beq_eq_false_iff_ne]
    intro heq
    exact h (heq ▸ List.getLast_mem hne)
  rw [Lexer.lineCount, List.getLast?_eq_some_getLast hne, hfeeds]
  simp only [hlast]
  rfl

/-- A character that starts a token of its own, without blanks before it. -/
def leads (c : Char) : Bool := isVisible c && c != ' ' && c != '\\' && c != '#'

theorem leads_ne {c : Char} (h : leads c = true) {d : Char} (hd : leads d = false) : c ≠ d := by
  rintro rfl
  exact Bool.false_ne_true (hd.symm.trans h)

section Line

variable {c : Char} {rest : List Char}

theorem measure_cons (h : leads c = true) (m : Lexer.Margin) (line : Nat) :
    Lexer.measure m line (c :: rest) = .ok m (c :: rest) line := by
  rw [Lexer.measure.eq_def]
  split
  next heq => exact absurd (List.cons.inj heq).1 (leads_ne h rfl)
  next heq => exact absurd (List.cons.inj heq).1 (leads_ne h rfl)
  next heq => exact absurd (List.cons.inj heq).1 (leads_ne h rfl)
  next heq => exact absurd (List.cons.inj heq).1 (leads_ne h rfl)
  next heq => exact absurd (List.cons.inj heq).1 (leads_ne h rfl)
  next heq => exact absurd (List.cons.inj heq).1 (leads_ne h rfl)
  next heq => rfl

theorem skipGap_cons (h : leads c = true) : Lexer.skipGap (c :: rest) = c :: rest := by
  have hgap : Lexer.isGap c = false := by
    simp only [Lexer.isGap, Bool.or_eq_false_iff, beq_eq_false_iff_ne]
    exact ⟨⟨leads_ne h rfl, leads_ne h rfl⟩, leads_ne h rfl⟩
  rw [Lexer.skipGap, List.dropWhile_cons_of_neg (by simp [hgap])]
  split
  next heq => exact absurd (List.cons.inj heq).1 (leads_ne h rfl)
  next => rfl

/-- The state in front of a line without indentation. -/
def lineState (cs : List Char) (atLineStart : Bool) : Lexer.State := ⟨cs, 1, atLineStart, [], []⟩

theorem step_line (h : leads c = true) :
    Lexer.step 1 (lineState (c :: rest) true) =
      Lexer.within 1 false (lineState (c :: rest) false) := by
  have hcomment : (c == '#') = false := beq_eq_false_iff_ne.mpr (leads_ne h rfl)
  have hfeed : (c == '\n') = false := beq_eq_false_iff_ne.mpr (leads_ne h rfl)
  simp only [Lexer.step, lineState, measure_cons h, List.head?_cons, Option.some_beq_some, hcomment,
    hfeed]
  rfl

/-- The step at a character that starts a token, by the kind of the character. -/
def leadStep (s : Lexer.State) (c : Char) (rest : List Char) : Lexer.Step :=
  if Lexer.startsWord c then Lexer.word s 1
  else if isDigit c then
    match Numeral.scan (c :: rest) with
    | .ok rest => s.token .number rest
    | .error cause => s.fault cause s.line true
  else if Lexer.isQuote c then Lexer.text s 1 c rest
  else Lexer.mark s c rest

theorem within_lead (h : leads c = true) (hpoint : c ≠ '.') :
    Lexer.within 1 false (lineState (c :: rest) false) =
      leadStep (lineState (c :: rest) false) c rest := by
  rw [Lexer.within]
  simp only [lineState, skipGap_cons h]
  split
  next heq => cases heq
  next heq => exact absurd (List.cons.inj heq).1 (leads_ne h rfl)
  next heq => exact absurd (List.cons.inj heq).1 (leads_ne h rfl)
  next heq => exact absurd (List.cons.inj heq).1 hpoint
  next heq =>
    obtain ⟨rfl, rfl⟩ := List.cons.inj heq
    rfl

/-- A line that is read as one token. -/
def IsOneToken (cs : List Char) (kind : TokenKind) : Prop :=
  Lexer.within 1 false (lineState cs false) =
    .go [⟨kind, String.ofList cs, 1, 1, 0⟩] (lineState [] false)

theorem ofChars_of_isOneToken {kind : TokenKind} (hlead : leads c = true)
    (hvisible : ∀ d ∈ c :: rest, isVisible d = true) (h : IsOneToken (c :: rest) kind) :
    TokenStream.ofChars .expression 1 (c :: rest) =
      ⟨#[⟨kind, String.ofList (c :: rest), 1, 1, 0⟩, ⟨.scriptEnd, "", 1, 1, 0⟩], none⟩ := by
  have hreturn : '\r' ∉ c :: rest := fun hmem => absurd (hvisible _ hmem) (by decide)
  have hfeed : '\n' ∉ c :: rest := fun hmem => absurd (hvisible _ hmem) (by decide)
  have hprepare : Lexer.prepare .expression (c :: rest) = c :: rest :=
    unifyEnds_of_not_mem hreturn
  have hfirst : Lexer.step 1 (lineState (c :: rest) true) =
      .go [⟨kind, String.ofList (c :: rest), 1, 1, 0⟩] (lineState [] false) :=
    (step_line hlead).trans h
  have hlast : Lexer.step 1 (lineState [] false) = .done ⟨.scriptEnd, "", 1, 1, 0⟩ := rfl
  rw [TokenStream.ofChars, hprepare, lineCount_of_not_mem (List.cons_ne_nil c rest) hfeed]
  change Lexer.run 1 (2 * (c :: rest).length + 4) (lineState (c :: rest) true) #[] = _
  rw [Lexer.run, hfirst]
  dsimp only
  rw [Lexer.run, hlast]
  rfl

/-- An expression of one token is what the grammar reads from the token. -/
theorem readExpr_of_isOneToken {kind : TokenKind} {node : Grammar.Node} (hlead : leads c = true)
    (hvisible : ∀ d ∈ c :: rest, isVisible d = true) (h : IsOneToken (c :: rest) kind)
    (hmark : kind ≠ .mark) (hword : kind ≠ .word)
    (hatom : ∀ stream, Grammar.IsLone stream ⟨kind, String.ofList (c :: rest), 1, 1, 0⟩
      ⟨.scriptEnd, "", 1, 1, 0⟩ → ∀ depth, Grammar.OpensAt stream (depth + 1) Grammar.atom node) :
    readExpr (String.ofList (c :: rest)) = .ok node.expr := by
  have hnull : (c :: rest).contains '\x00' = false :=
    Bool.eq_false_iff.mpr fun hmem =>
      absurd (hvisible _ (List.contains_iff_mem.mp hmem)) (by decide)
  have hlone : Grammar.IsLone ⟨#[⟨kind, String.ofList (c :: rest), 1, 1, 0⟩,
      ⟨.scriptEnd, "", 1, 1, 0⟩], none⟩ ⟨kind, String.ofList (c :: rest), 1, 1, 0⟩
      ⟨.scriptEnd, "", 1, 1, 0⟩ := ⟨rfl, rfl, hmark, hword, rfl⟩
  obtain ⟨depth, hdepth⟩ : ∃ depth, Grammar.rulesPerToken * ((c :: rest).length + 10) =
      depth + 1 + 13 := by
    refine ⟨Grammar.rulesPerToken * ((c :: rest).length + 10) - 14, ?_⟩
    rw [Grammar.rulesPerToken]
    omega
  rw [readExpr, Grammar.read, String.toList_ofList, hnull, if_neg Bool.false_ne_true, hdepth,
    ofChars_of_isOneToken hlead hvisible h]
  dsimp only
  rw [hlone.attempt_onlyExpression (hatom _ hlone depth)]
  rfl

end Line

/-! ## Numbers -/

theorem isDigit_facts {c : Char} (h : isDigit c = true) :
    leads c = true ∧ Lexer.startsWord c = false := by
  have hascii : c.toNat < 128 := by
    simp only [isDigit, Bool.and_eq_true, decide_eq_true_eq, Char.le_def,
      UInt32.le_iff_toNat_le] at h
    have h9 : '9'.val.toNat = 57 := rfl
    change c.val.toNat < 128
    omega
  have hc := forall_ascii (fun c => !isDigit c || leads c && !Lexer.startsWord c) (by decide) hascii
  simpa [h] using hc

theorem isVisible_of_leads {c : Char} (h : leads c = true) : isVisible c = true := by
  simp only [leads, Bool.and_eq_true] at h
  exact h.1.1.1

theorem isVisible_of_isNumeralChar {c : Char} (h : isNumeralChar c = true) :
    isVisible c = true := by
  rw [isNumeralChar, Bool.or_eq_true, decide_eq_true_eq] at h
  rcases h with h | h
  · exact isVisible_of_leads (isDigit_facts h).1
  · simp only [List.mem_cons, List.not_mem_nil, or_false] at h
    rcases h with rfl | rfl | rfl | rfl <;> decide

theorem isOneToken_number {c : Char} {rest : List Char} (hdigit : isDigit c = true)
    (hscan : Numeral.scan (c :: rest) = .ok []) : IsOneToken (c :: rest) .number := by
  obtain ⟨hlead, hword⟩ := isDigit_facts hdigit
  have htoken : (lineState (c :: rest) false).token .number [] =
      .go [⟨.number, String.ofList (c :: rest), 1, 1, 0⟩] (lineState [] false) := by
    simp [Lexer.State.token, lineState]
  have hpoint : c ≠ '.' := by
    rintro rfl
    exact absurd hdigit (by decide)
  rw [IsOneToken, ← htoken, within_lead hlead hpoint, leadStep, hword,
    if_neg Bool.false_ne_true, if_pos hdigit, hscan]

/-- A numeral is read as the literal of its number. -/
theorem readExpr_numeral {cs : List Char} {value : Literal}
    (hfirst : ∀ c ∈ cs.head?, isDigit c = true) (hne : cs ≠ [])
    (hvisible : ∀ c ∈ cs, isVisible c = true) (hscan : Numeral.scan cs = .ok [])
    (hvalue : Literal.ofNumeral (String.ofList cs) = .ok value) :
    readExpr (String.ofList cs) = .ok (.literal value) := by
  cases cs with
  | nil => exact absurd rfl hne
  | cons c rest =>
    have hdigit := hfirst c rfl
    exact readExpr_of_isOneToken (isDigit_facts hdigit).1 hvisible
      (isOneToken_number hdigit hscan) (by decide) (by decide)
      fun stream hlone depth => Grammar.opensAt_number hlone rfl hvalue

/-! ## Texts and bytes -/

/-- A text without the mark `u` starts without anything. -/
theorem start_of_ne {c : Char} (h : c ≠ 'u') (rest : List Char) :
    Texts.start [⟨.text, String.ofList (c :: rest), 1, 1, 0⟩] = ⟨false, none, false, [], []⟩ := by
  have hmark : (String.ofList (c :: rest)).startsWith "u" = false := by
    rw [String.startsWith_string_eq_false_iff, String.toList_ofList (l := c :: rest)]
    rintro ⟨tail, heq⟩
    exact h (List.cons.inj heq).1.symm
  rw [Texts.start]
  simp only [hmark]

/-- Without a part the text is empty. -/
theorem expr_text (s : String) :
    (⟨false, some false, false, [], if s.isEmpty then [] else [.text s]⟩ : Texts).expr =
      .literal (.text s false) := by
  by_cases hempty : s.isEmpty = true
  · rw [if_pos hempty, String.isEmpty_iff.mp hempty]
    rfl
  · rw [if_neg hempty]
    rfl

section Quotes

variable {quote : Char} (hquote : quote = '\'' ∨ quote = '"') {cs : List Char}
  {shape : Char → List Char} (h : ∀ c ∈ cs, InQuotes quote c (shape c))
include hquote

theorem quote_facts : leads quote = true ∧ Lexer.startsWord quote = false ∧
    isDigit quote = false ∧ Lexer.isQuote quote = true ∧ isAsciiLetter quote = false := by
  rcases hquote with rfl | rfl <;> decide

include h

theorem take_two_ne : ((cs.flatMap shape ++ [quote]).take 2 == [quote, quote]) = false := by
  rw [beq_eq_false_iff_ne]
  cases hbody : cs.flatMap shape with
  | nil => exact fun heq => Nat.succ_ne_succ_iff.mpr Nat.zero_ne_one (congrArg List.length heq)
  | cons a body =>
    intro heq
    exact head_flatMap_ne hquote h hbody (List.cons.inj heq).1

/-- The lexer takes a text up to its closing quote. -/
theorem text_flatMap (all : List Char) :
    Lexer.text (lineState all false) 1 quote (cs.flatMap shape ++ [quote]) =
      .go [⟨.text, String.ofList all, 1, 1, 0⟩] (lineState [] false) := by
  rw [Lexer.text, take_two_ne hquote h, if_neg Bool.false_ne_true,
    closeText_flatMap hquote h]
  simp [lineState]

theorem isOneToken_text : IsOneToken (quote :: (cs.flatMap shape ++ [quote])) .text := by
  obtain ⟨hlead, hword, hdigit, hisQuote, -⟩ := quote_facts hquote
  have hpoint : quote ≠ '.' := by
    rcases hquote with rfl | rfl <;> decide
  rw [IsOneToken, ← text_flatMap hquote h, within_lead hlead hpoint, leadStep, hword, hdigit,
    if_neg Bool.false_ne_true, if_neg Bool.false_ne_true, if_pos hisQuote]

theorem isOneToken_bytes : IsOneToken ('b' :: quote :: (cs.flatMap shape ++ [quote])) .text := by
  obtain ⟨-, -, -, hisQuote, -⟩ := quote_facts hquote
  have hmark : (Lexer.isQuote quote && Lexer.isTextMark ['b']) = true := by
    rw [hisQuote]
    decide
  rw [IsOneToken, ← text_flatMap hquote h, within_lead (by decide) (by decide), leadStep,
    if_pos (by decide)]
  exact if_pos hmark

/-- The text of a token without a mark. -/
theorem ofToken_text :
    TextToken.ofToken ⟨.text, String.ofList (quote :: (cs.flatMap shape ++ [quote])), 1, 1, 0⟩ =
      ⟨false, false, false, cs.flatMap shape, 1⟩ := by
  obtain ⟨-, -, -, -, hletter⟩ := quote_facts hquote
  simp only [TextToken.ofToken, String.toList_ofList,
    List.takeWhile_cons_of_neg (p := isAsciiLetter) (Bool.eq_false_iff.mp hletter),
    List.dropWhile_cons_of_neg (p := isAsciiLetter) (Bool.eq_false_iff.mp hletter),
    unquote_flatMap hquote h]
  rfl

theorem ofToken_bytes :
    TextToken.ofToken
        ⟨.text, String.ofList ('b' :: quote :: (cs.flatMap shape ++ [quote])), 1, 1, 0⟩ =
      ⟨true, false, false, cs.flatMap shape, 1⟩ := by
  obtain ⟨-, -, -, -, hletter⟩ := quote_facts hquote
  have hmark : isAsciiLetter 'b' = true := by decide
  simp only [TextToken.ofToken, String.toList_ofList,
    List.takeWhile_cons_of_pos (p := isAsciiLetter) hmark,
    List.dropWhile_cons_of_pos (p := isAsciiLetter) hmark,
    List.takeWhile_cons_of_neg (p := isAsciiLetter) (Bool.eq_false_iff.mp hletter),
    List.dropWhile_cons_of_neg (p := isAsciiLetter) (Bool.eq_false_iff.mp hletter),
    unquote_flatMap hquote h]
  rfl

theorem readTexts_text (read : Joined.Read) :
    readTexts read [⟨.text, String.ofList (quote :: (cs.flatMap shape ++ [quote])), 1, 1, 0⟩] =
      .ok ⟨false, some false, false, [],
        if (String.ofList cs).isEmpty then [] else [.text (String.ofList cs)]⟩ := by
  have hmark : quote ≠ 'u' := by
    rcases hquote with rfl | rfl <;> decide
  rw [readTexts, List.foldlM_cons, start_of_ne hmark]
  simp only [Texts.add, ofToken_text hquote h, unescape_flatMap h]
  rfl

theorem readTexts_bytes (hbytes : ∀ c ∈ cs, c.toNat < 256)
    (hascii : (cs.flatMap shape).all isAscii = true) (read : Joined.Read) :
    readTexts read
        [⟨.text, String.ofList ('b' :: quote :: (cs.flatMap shape ++ [quote])), 1, 1, 0⟩] =
      .ok ⟨false, some true, false, cs.map Escape.byteOf, []⟩ := by
  rw [readTexts, List.foldlM_cons, start_of_ne (by decide)]
  simp only [Texts.add, ofToken_bytes hquote h, unescapeBytes_flatMap h hbytes, hascii]
  rfl

theorem isVisible_of_mem_quotes {d : Char} (hd : d ∈ quote :: (cs.flatMap shape ++ [quote])) :
    isVisible d = true := by
  obtain ⟨hlead, -⟩ := quote_facts hquote
  rcases List.mem_cons.mp hd with rfl | hd
  · exact isVisible_of_leads hlead
  rcases List.mem_append.mp hd with hd | hd
  · exact isVisible_of_mem_flatMap h hd
  · exact List.mem_singleton.mp hd ▸ isVisible_of_leads hlead

/-- A text between quotes is read as the text. -/
theorem readExpr_quotes :
    readExpr (String.ofList (quote :: (cs.flatMap shape ++ [quote]))) =
      .ok (.literal (.text (String.ofList cs) false)) := by
  have hread := readExpr_of_isOneToken (quote_facts hquote).1
    (fun d => isVisible_of_mem_quotes hquote h) (isOneToken_text hquote h) (by decide) (by decide)
    fun stream hlone depth => Grammar.opensAt_text hlone rfl (readTexts_text hquote h)
  rw [hread]
  exact congrArg Except.ok (expr_text (String.ofList cs))

/-- Bytes between quotes are read as the bytes. -/
theorem readExpr_byteQuotes (hbytes : ∀ c ∈ cs, c.toNat < 256)
    (hascii : (cs.flatMap shape).all isAscii = true) :
    readExpr (String.ofList ('b' :: quote :: (cs.flatMap shape ++ [quote]))) =
      .ok (.literal (.bytes (cs.map Escape.byteOf))) := by
  have hvisible : ∀ d ∈ 'b' :: quote :: (cs.flatMap shape ++ [quote]), isVisible d = true :=
    List.forall_mem_cons.mpr ⟨by decide, fun d => isVisible_of_mem_quotes hquote h⟩
  exact readExpr_of_isOneToken (by decide) hvisible (isOneToken_bytes hquote h) (by decide)
    (by decide) fun stream hlone depth =>
      Grammar.opensAt_text hlone rfl (readTexts_bytes hquote h hbytes hascii)

end Quotes

end HubScript
