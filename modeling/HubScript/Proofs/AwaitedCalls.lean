import HubScript.Proofs.Layout
import HubScript.Proofs.Outline
import HubScript.Proofs.StatementParts

/-!
# Calls that are awaited

Functions of a script become functions that have to be awaited. A call that is a statement is
awaited always. Of the calls inside an expression, only one at its front can be, if the expression
is assigned and looks like a call; every other call is awaited just as it is in the script.
-/
namespace HubScript

open Hub (toHub looksAwaited)

/-- The word before a call that is waited for. -/
def awaitWord : List Char := "await ".toList

/-- Whether a text ends in one word to await a call, and not in two. -/
def awaitedOnce (before : String) : Bool :=
  awaitWord.isSuffixOf before.toList && !(awaitWord ++ awaitWord).isSuffixOf before.toList

theorem awaitedOnce_iff {before : String} : awaitedOnce before = true ↔
    ∃ front, before.toList = front ++ awaitWord ∧ ¬awaitWord <:+ front := by
  simp only [awaitedOnce, Bool.and_eq_true, Bool.not_eq_true', ← Bool.not_eq_true,
    List.isSuffixOf_iff_suffix]
  constructor
  · rintro ⟨⟨front, hfront⟩, hnot⟩
    refine ⟨front, hfront.symm, ?_⟩
    rintro ⟨others, rfl⟩
    exact hnot ⟨others, by rw [← hfront, List.append_assoc]⟩
  · rintro ⟨front, hfront, hnot⟩
    refine ⟨⟨front, hfront.symm⟩, ?_⟩
    rintro ⟨others, hothers⟩
    rw [hfront, ← List.append_assoc] at hothers
    exact hnot ⟨others, List.append_cancel_right hothers⟩

/-- A text that does not end within the word. -/
def EndsApart (before : List Char) : Prop := ∀ c ∈ before.getLast?, c ∉ "await".toList

theorem suffix_append_iff {before text : List Char} (hbefore : EndsApart before) :
    awaitWord <:+ before ++ text ↔ awaitWord <:+ text ∨ text = [] ∧ awaitWord <:+ before := by
  constructor
  · intro h
    rcases List.suffix_or_suffix_of_suffix h (List.suffix_append before text) with hin | hover
    · exact .inl hin
    · obtain ⟨front, hfront⟩ := hover
      rw [← hfront] at h
      have hend : front <:+ before := by
        obtain ⟨others, hothers⟩ := h
        rw [← List.append_assoc] at hothers
        exact ⟨others, List.append_cancel_right hothers⟩
      rcases List.eq_nil_or_concat front with rfl | ⟨others, c, rfl⟩
      · exact .inl (hfront ▸ List.suffix_rfl)
      · rcases List.eq_nil_or_concat text with rfl | ⟨rest, d, rfl⟩
        · rw [List.append_nil] at hfront
          exact .inr ⟨rfl, hfront ▸ hend⟩
        · -- The word would go on behind the text that stands before.
          obtain ⟨start, rfl⟩ := hend
          have hinside := congrArg List.dropLast hfront
          simp only [List.concat_eq_append, ← List.append_assoc, List.dropLast_concat] at hinside
          have hc : c ∈ "await".toList := by
            have hword : awaitWord.dropLast = "await".toList := rfl
            rw [← hword, ← hinside]
            simp
          exact absurd hc (hbefore c (by simp))
  · rintro (h | ⟨rfl, h⟩)
    · exact h.trans (List.suffix_append before text)
    · rwa [List.append_nil]

/-- A call behind a text that does not end within the word is awaited once as the text says, if it
follows right after it, or as what stands between them says. -/
theorem awaitedOnce_append {before text : String} (hbefore : EndsApart before.toList) :
    awaitedOnce (before ++ text) = true ↔
      text = "" ∧ awaitedOnce before = true ∨
        awaitedOnce text = true ∧ (awaitWord <:+ before.toList → text ≠ "await ") := by
  rw [awaitedOnce_iff, String.toList_append]
  constructor
  · rintro ⟨front, hfront, hnot⟩
    rcases (suffix_append_iff hbefore).mp ⟨front, hfront.symm⟩ with ⟨between, hbetween⟩ | ⟨hnil, -⟩
    · right
      rw [← hbetween, ← List.append_assoc] at hfront
      obtain rfl := List.append_cancel_right hfront
      rw [suffix_append_iff hbefore, not_or, not_and] at hnot
      refine ⟨awaitedOnce_iff.mpr ⟨between, hbetween.symm, hnot.1⟩, ?_⟩
      rintro hends rfl
      exact hnot.2 (List.append_left_eq_self.mp hbetween) hends
    · left
      rw [hnil, List.append_nil] at hfront
      exact ⟨String.toList_eq_nil_iff.mp hnil, awaitedOnce_iff.mpr ⟨front, hfront, hnot⟩⟩
  · rintro (⟨rfl, h⟩ | ⟨h, hdiffers⟩)
    · simpa using awaitedOnce_iff.mp h
    · obtain ⟨between, hbetween, hnot⟩ := awaitedOnce_iff.mp h
      refine ⟨before.toList ++ between, by rw [hbetween, List.append_assoc], ?_⟩
      rw [suffix_append_iff hbefore]
      rintro (hin | ⟨rfl, hends⟩)
      · exact hnot hin
      · exact hdiffers hends (String.toList_inj.mp hbetween)

/-- Whether an expression is awaited as a whole. -/
def KeptText.isAwaited (k : KeptText) : Bool :=
  k.position == .assigned && looksAwaited (toHub k.text)

theorem endsApart_append (front : List Char) {word : List Char}
    (hword : word.getLast?.any (!"await".toList.contains ·) = true) :
    EndsApart (front ++ word) := by
  obtain ⟨last, hlast, hapart⟩ := (Option.any_eq_true _ _).mp hword
  intro c hc
  rw [List.getLast?_append, hlast, Option.some_or, Option.mem_some] at hc
  subst hc
  simpa using hapart

theorem not_suffix_append (front : List Char) {word : List Char} (hin : ¬awaitWord <:+ word)
    (hover : ¬word <:+ awaitWord) : ¬awaitWord <:+ front ++ word := by
  intro h
  rcases List.suffix_or_suffix_of_suffix h (List.suffix_append front word) with h | h
  · exact hin h
  · exact hover h

/-- What stands before an expression ends in the word exactly if the expression is awaited as a
whole, and then once. -/
theorem KeptText.Introduced.awaits {k : KeptText} {before : String} (h : k.Introduced before) :
    EndsApart before.toList ∧ (awaitWord <:+ before.toList ↔ k.isAwaited = true) ∧
      (awaitedOnce before = true ↔ k.isAwaited = true) := by
  -- Where the word does not stand before the expression, it cannot stand there once.
  have hnever (front : String) {word : String} (hin : ¬awaitWord <:+ word.toList)
      (hover : ¬word.toList <:+ awaitWord)
      (hlast : word.toList.getLast?.any (!"await".toList.contains ·) = true)
      (hwhole : k.isAwaited = false) :
      EndsApart (front ++ word).toList ∧
        (awaitWord <:+ (front ++ word).toList ↔ k.isAwaited = true) ∧
        (awaitedOnce (front ++ word) = true ↔ k.isAwaited = true) := by
    have hfalse : k.isAwaited ≠ true := by simp [hwhole]
    rw [awaitedOnce_iff, String.toList_append]
    have hnot : ¬awaitWord <:+ front.toList ++ word.toList := not_suffix_append _ hin hover
    refine ⟨endsApart_append _ hlast, iff_of_false hnot hfalse, iff_of_false ?_ hfalse⟩
    rintro ⟨others, hothers, -⟩
    exact hnot ⟨others, hothers.symm⟩
  cases h with
  | assigned target text =>
    cases hlooks : looksAwaited (toHub text) with
    | true =>
      have hwhole : KeptText.isAwaited ⟨.assigned, text⟩ = true := by simp [isAwaited, hlooks]
      have hsplit : (target ++ " = await ").toList =
          target.toList ++ " = ".toList ++ awaitWord := by
        rw [String.toList_append, List.append_assoc]
        rfl
      have hassign : ¬awaitWord <:+ target.toList ++ " = ".toList :=
        not_suffix_append _ (by decide) (by decide)
      rw [if_pos rfl]
      refine ⟨?_, iff_of_true ?_ hwhole, iff_of_true ?_ hwhole⟩
      · rw [String.toList_append]
        exact endsApart_append _ (by decide)
      · exact ⟨_, hsplit.symm⟩
      · exact awaitedOnce_iff.mpr ⟨_, hsplit, hassign⟩
    | false =>
      rw [if_neg Bool.false_ne_true]
      exact hnever target (by decide) (by decide) (by decide) (by simp [isAwaited, hlooks])
  | @other k word unassigned front known =>
    have hwords : ∀ word ∈ introductions, ¬awaitWord <:+ word.toList ∧
        ¬word.toList <:+ awaitWord ∧
        word.toList.getLast?.any (!"await".toList.contains ·) = true := by decide
    obtain ⟨hin, hover, hlast⟩ := hwords word known
    exact hnever front hin hover hlast (by simp [isAwaited, unassigned])

/-- A call in an expression is awaited once exactly if it is the front of an expression that is
awaited as a whole, or if the expression itself awaits it and is not awaited once more. -/
theorem KeptText.Introduced.awaitedOnce_iff {k : KeptText} {before : String}
    (h : k.Introduced before) (text : String) :
    awaitedOnce (before ++ text) = true ↔
      text = "" ∧ k.isAwaited = true ∨
        awaitedOnce text = true ∧ (k.isAwaited = true → text ≠ "await ") := by
  obtain ⟨hends, hword, honce⟩ := h.awaits
  rw [awaitedOnce_append hends, hword, honce]

/-- A function is called in a text behind another one: its name follows, not as the end of a longer
name and not as that of a method, and then a bracket. -/
def CallsAfter (before function text : String) : Prop :=
  (∃ rest, text = before ++ function ++ "(" ++ rest) ∧
    ∀ c ∈ before.toList.getLast?, Text.isNameContinue c = false ∧ c ≠ '.'

section Statements

variable {stmts : List Stmt} {instrs : List Instruction}

/-- A function of the script that is called by a statement is called by its instruction, with the
same arguments. -/
theorem read_of_call (h : Reads Current.dialect stmts instrs) {s : Stmt}
    (hs : s ∈ stmtsNested stmts) {function : String} {arguments : List Expr}
    (hcall : s.call? = some (.name function, arguments)) (hprint : function ≠ "print")
    (hwait : function = "wait" → arguments = []) :
    ∃ operands info, arguments.mapM Current.operand = .ok operands ∧
      Current.dialect.statement s = .ok (some (.step (.call function operands) info)) ∧
      .step (.call function operands) info ∈ nestedAll instrs := by
  obtain ⟨found, hfound, hmem⟩ := h.forall_stmts s hs
  obtain ⟨info, hread⟩ := Dialect.statement_of_call Current.dialect hcall
  rw [hread] at hfound ⊢
  obtain ⟨act, hact, hgiven⟩ := bind_eq_ok.mp hfound
  obtain ⟨step, hstep, hact⟩ := bind_eq_ok.mp hact
  obtain rfl := Except.ok.inj hact
  obtain rfl := Except.ok.inj hgiven
  rcases Dialect.functionCall_cases function arguments with
    ⟨seconds, others, rfl, rfl⟩ | ⟨content, rfl, -⟩ | ⟨rfl, -⟩ | ⟨-, -, hother⟩
  · cases hwait rfl
  · exact absurd rfl hprint
  · exact absurd rfl hprint
  · rw [hother] at hstep
    obtain ⟨operands, hoperands, hstep⟩ := bind_eq_ok.mp hstep
    obtain rfl := Except.ok.inj hstep
    exact ⟨operands, info, hoperands, hfound, hmem _ rfl⟩

theorem call_of_statement (h : Reads Current.dialect stmts instrs) {s : Stmt}
    (hs : s ∈ stmtsNested stmts) {function : String} {arguments : List Expr}
    (hcall : s.call? = some (.name function, arguments)) (hprint : function ≠ "print")
    (hwait : function = "wait" → arguments = []) :
    ∃ operands info, .step (.call function operands) info ∈ nestedAll instrs := by
  obtain ⟨operands, info, -, -, hmem⟩ := read_of_call h hs hcall hprint hwait
  exact ⟨operands, info, hmem⟩

/-- A function of the script is defined by an instruction with the names of its plain parameters. -/
theorem read_of_define (h : Reads Current.dialect stmts instrs) {span : Span} {name : String}
    {params : Params} {inner : List Stmt}
    (hs : .define span name params inner ∈ stmtsNested stmts) :
    ∃ body info, Current.dialect.statement (.define span name params inner) =
        .ok (some (.block (.define name (params.plain.map Param.name)) body info)) ∧
      .block (.define name (params.plain.map Param.name)) body info ∈ nestedAll instrs := by
  obtain ⟨found, hfound, hmem⟩ := h.forall_stmts _ hs
  rw [Dialect.statement] at hfound ⊢
  obtain ⟨body, hbody, hgiven⟩ := bind_eq_ok.mp hfound
  obtain rfl := Except.ok.inj hgiven
  exact ⟨body, _, hfound, hmem _ rfl⟩

theorem define_of_statement (h : Reads Current.dialect stmts instrs) {span : Span} {name : String}
    {params : Params} {inner : List Stmt}
    (hs : .define span name params inner ∈ stmtsNested stmts) :
    ∃ body info,
      .block (.define name (params.plain.map Param.name)) body info ∈ nestedAll instrs := by
  obtain ⟨body, info, -, hmem⟩ := read_of_define h hs
  exact ⟨body, info, hmem⟩

end Statements

/-- In a program, functions have to be awaited, and a call that is a statement is. A call inside an
expression is awaited once exactly if it is the front of an expression that is assigned and looks
like a call, or if the script awaits it and the program does not do so once more. -/
theorem calls_awaited_iff {script program : String} {instrs : List Instruction}
    (h : answerGenerate script = .accepted instrs program) :
    ∃ stmts opening body, readScript script = .ok stmts ∧ Assembled instrs program opening body ∧
      (∀ span name params inner, .define span name params inner ∈ stmtsNested stmts →
        ∃ depth, (depth, s!"async def {name}({Printer.commas (params.plain.map Param.name)}):") ∈
          Hub.codeOf 0 (Hub.wholeLines body)) ∧
      (∀ s ∈ stmtsNested stmts, ∀ function arguments,
        s.call? = some (.name function, arguments) → function ≠ "print" →
        (function = "wait" → arguments = []) →
        ∃ depth rest, (depth, "await " ++ function ++ "(" ++ rest) ∈
          Hub.codeOf 0 (Hub.wholeLines body)) ∧
      ∀ i ∈ nestedAll instrs, ∀ k ∈ i.kept, ∃ depth before after,
        i.texts .standard = [before ++ toHub k.text ++ after] ∧
        (depth, before ++ toHub k.text ++ after) ∈ Hub.codeOf 0 (Hub.wholeLines body) ∧
        ∀ front function, CallsAfter front function (toHub k.text) →
          (awaitedOnce (before ++ front) = true ↔
            front = "" ∧ k.isAwaited = true ∨
              awaitedOnce front = true ∧ (k.isAwaited = true → front ≠ "await ")) := by
  obtain ⟨hread, -⟩ := answerGenerate_eq_accepted h
  obtain ⟨stmts, hstmts, hreads⟩ := readInstructions_eq_ok hread
  obtain ⟨opening, body, hprogram⟩ := assembled_of_accepted h
  refine ⟨stmts, opening, body, hstmts, hprogram, ?_, ?_, ?_⟩
  · intro span name params inner hdefine
    obtain ⟨parts, info, hi⟩ := define_of_statement hreads hdefine
    exact hprogram.texts_mem hi List.mem_cons_self
  · intro s hs function arguments hcall hprint hwait
    obtain ⟨operands, info, hi⟩ := call_of_statement hreads hs hcall hprint hwait
    obtain ⟨texts, htexts⟩ := hprogram.written _ hi
    obtain ⟨items, -, rfl⟩ := Hub.call_eq_ok htexts
    have hline : "await " ++ function ++ "(" ++ Printer.commas items ++ ")" ∈
        (Instruction.step (.call function operands) info).texts .standard := by
      rw [Instruction.texts, htexts]
      exact List.mem_singleton_self _
    obtain ⟨depth, hmem⟩ := hprogram.texts_mem hi hline
    exact ⟨depth, Printer.commas items ++ ")", by rwa [← String.append_assoc]⟩
  · intro i hi k hk
    obtain ⟨depth, _, htexts, hmem, before, after, rfl, hbefore⟩ := hprogram.shows hi hk
    exact ⟨depth, before, after, htexts, hmem, fun front _ _ => hbefore.awaitedOnce_iff front⟩

/-- The result of a function is assigned. -/
def tallyScript : String := "while go:\n    def f():\n        return 1\n    x = f()\n"

theorem calls_awaited_tallyScript :
    ∃ instrs program, answerGenerate tallyScript = .accepted instrs program ∧
      ∃ opening body, Assembled instrs program opening body ∧
        CallsAfter "" "f" (toHub "f()") ∧
        ∃ depth before after,
          (depth, before ++ toHub "f()" ++ after) ∈ Hub.codeOf 0 (Hub.wholeLines body) ∧
          awaitedOnce before = true := by
  have hanswer : (answerGenerate tallyScript).any (fun instrs _ =>
      (nestedAll instrs).any fun i => i.kept.contains ⟨.assigned, "f()"⟩) = true := by
    decide +kernel
  obtain ⟨instrs, program, haccepted, hkept⟩ := accepted_of_any hanswer
  obtain ⟨i, hi, hk⟩ := List.any_eq_true.mp hkept
  obtain ⟨stmts, opening, body, -, hprogram, -, -, hcalls⟩ := calls_awaited_iff haccepted
  obtain ⟨depth, before, after, -, hmem, hawaited⟩ :=
    hcalls i hi ⟨.assigned, "f()"⟩ (List.contains_iff_mem.mp hk)
  have hcall : CallsAfter "" "f" (toHub "f()") := ⟨⟨")", by decide +kernel⟩, by simp⟩
  have hwhole : KeptText.isAwaited ⟨.assigned, "f()"⟩ = true := by decide +kernel
  have honce := (hawaited "" "f" hcall).mpr (.inl ⟨rfl, hwhole⟩)
  rw [String.append_empty] at honce
  exact ⟨instrs, program, haccepted, opening, body, hprogram, hcall, depth, before, after, hmem,
    honce⟩

/-- The result of a function is printed. -/
def showScript : String := "while go:\n    def f():\n        return 1\n    print(f())\n"

/-- The function has to be awaited, and its call is not. -/
theorem call_unawaited_showScript :
    ∃ instrs program, answerGenerate showScript = .accepted instrs program ∧
      ∃ opening body, Assembled instrs program opening body ∧
        Hub.codeOf 0 (Hub.wholeLines body) = [(0, "async def main():"), (1, "while go:"),
          (2, "async def f():"), (3, "return 1"), (2, "print(f())"), (0, "runloop.run(main())")] ∧
        CallsAfter "print(" "f" "print(f())" ∧ awaitedOnce "print(" = false := by
  have hanswer : (answerGenerate showScript).any (fun instrs _ =>
      (programOutline .standard instrs).map CodeLine.seen ==
        [(0, "async def main():"), (1, "while go:"), (2, "async def f():"), (3, "return 1"),
          (2, "print(f())"), (0, "runloop.run(main())")]) = true := by
    decide +kernel
  obtain ⟨instrs, program, haccepted, hcode⟩ := accepted_of_any hanswer
  obtain ⟨opening, body, hprogram⟩ := assembled_of_accepted haccepted
  have hcall : CallsAfter "print(" "f" "print(f())" := by
    refine ⟨⟨"))", by decide +kernel⟩, ?_⟩
    have hbracket : Text.isNameContinue '(' = false := by decide +kernel
    simp [hbracket]
  exact ⟨instrs, program, haccepted, opening, body, hprogram,
    hprogram.code.trans (eq_of_beq hcode), hcall, by decide⟩

end HubScript
