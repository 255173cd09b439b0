import HubScript.Proofs.SegmentSeams

/-!
# Where phrases stand in expressions

A phrase in the text of an expression stands in a constant, in a text with fields, or at the end of
a call without arguments, whose brackets belong to it. It stands nowhere else: what an expression is
put together from does not run on into a phrase.
-/
namespace HubScript

open Hub Text

/-! ### Constants and texts with fields -/

/-- A text that no phrase starts with, between ends that are not brackets facing outwards. -/
structure Enclosed (cs : List Char) : Prop where
  front : cs.head?.any (fun c => !isLoud c && c != ')') = true
  back : cs.getLast?.any (· != '(') = true

instance (cs : List Char) : Decidable (Enclosed cs) :=
  decidable_of_iff (cs.head?.any (fun c => !isLoud c && c != ')') = true ∧
    cs.getLast?.any (· != '(') = true) ⟨fun h => ⟨h.1, h.2⟩, fun h => ⟨h.front, h.back⟩⟩

theorem Enclosed.firm {cs : List Char} (h : Enclosed cs) : Firm cs where
  filled hnil := by
    have hfront := h.front
    rw [hnil] at hfront
    cases hfront
  front hclose := by
    have hfront := h.front
    rw [hclose] at hfront
    cases hfront
  back hopen := by
    have hback := h.back
    rw [hopen] at hback
    cases hback

section Enclosed

theorem enclosed_of_isNumeral {cs : List Char} (h : IsNumeral cs) : Enclosed cs := by
  have hends : (['d', 'c', 'i', 'g', '(', ')'].all (!isNumeralChar ·)) = true := by decide
  have hout {c : Char} (hc : c ∈ ['d', 'c', 'i', 'g', '(', ')']) : c ∉ cs := by
    intro hmem
    have hnot := List.all_eq_true.mp hends c hc
    rw [h.2 c hmem] at hnot
    cases hnot
  obtain ⟨first, rest, rfl⟩ := List.exists_cons_of_ne_nil h.1
  refine ⟨?_, ?_⟩
  · rw [List.head?_cons, Option.any_some, Bool.and_eq_true, Bool.not_eq_true', bne_iff_ne,
      isLoud, decide_eq_false_iff_not]
    refine ⟨fun hloud => hout (List.mem_append_left ['(', ')'] hloud) List.mem_cons_self, ?_⟩
    rintro rfl
    exact hout (by decide) List.mem_cons_self
  · rw [List.getLast?_eq_some_getLast (List.cons_ne_nil first rest), Option.any_some, bne_iff_ne]
    intro hopen
    refine hout (c := '(') (by decide) ?_
    rw [← hopen]
    exact List.getLast_mem _

theorem enclosed_of_ends {first last : Char} (hfirst : (!isLoud first && first != ')') = true)
    (hlast : last ≠ '(') (inside : List Char) : Enclosed (first :: inside ++ [last]) where
  front := hfirst
  back := by
    rw [List.getLast?_concat, Option.any_some, bne_iff_ne]
    exact hlast

theorem quoteFor_ends (cs : List Char) :
    (!isLoud (quoteFor cs) && quoteFor cs != ')') = true ∧ quoteFor cs ≠ '(' := by
  rw [quoteFor]
  split <;> decide

theorem enclosed_floatText (x : Binary64) : Enclosed (Printer.floatText x).toList := by
  cases x with
  | finite negative mantissa exponent =>
    exact enclosed_of_isNumeral (Binary64.isNumeral_text negative mantissa exponent)
  | infinite negative => cases negative <;> decide
  | nan => decide

theorem prefix_floatText (x : Binary64) :
    (Printer.wholeText x).toList <+: (Printer.floatText x).toList := by
  rw [Printer.wholeText]
  split
  · rw [String.toList_ofList]
    exact (List.dropLast_prefix _).trans (List.dropLast_prefix _)
  · exact List.prefix_rfl

theorem enclosed_literal {value : Literal} {text : String}
    (h : Printer.literal false value = .ok text) : Enclosed text.toList := by
  cases value with
  | none | ellipsis =>
    obtain rfl := Except.ok.inj h
    decide
  | bool value =>
    cases value <;>
    · obtain rfl := Except.ok.inj h
      decide
  | int value =>
    rw [Printer.literal] at h
    split at h
    · rename_i digits hdigits
      obtain rfl := Except.ok.inj h
      rw [decimalText?] at hdigits
      split at hdigits
      · cases hdigits
      · obtain rfl := Option.some.inj hdigits
        rw [if_neg (by omega)]
        exact enclosed_of_isNumeral (by simpa using isNumeral_toDigits value)
    · cases h
  | float value =>
    obtain rfl := Except.ok.inj h
    exact enclosed_floatText value
  | imaginary value =>
    obtain rfl := Except.ok.inj h
    refine ⟨?_, by simp⟩
    rw [String.toList_append]
    cases hwhole : (Printer.wholeText value).toList with
    | nil => decide
    | cons c rest =>
      have hfront := (enclosed_floatText value).front
      obtain ⟨dropped, hdropped⟩ := prefix_floatText value
      rw [← hdropped, hwhole] at hfront
      exact hfront
  | text value marked =>
    obtain rfl := Except.ok.inj h
    obtain ⟨hfirst, hlast⟩ := quoteFor_ends value.toList
    cases marked with
    | false =>
      have hall := enclosed_of_ends hfirst hlast (quotedBody (quoteFor value.toList) value.toList)
      simpa [quoted, quotedChars] using hall
    | true =>
      have hmark : (!isLoud 'u' && 'u' != ')') = true := by decide
      have hall := enclosed_of_ends hmark hlast
        (quoteFor value.toList :: quotedBody (quoteFor value.toList) value.toList)
      simpa [quoted, quotedChars] using hall
  | bytes value =>
    obtain rfl := Except.ok.inj h
    rw [quotedBytes, String.toList_ofList]
    exact enclosed_of_ends (by decide) (quoteFor_ends _).2 (_ :: _)

/-- Whether a text consists of quotes. -/
def isQuote (quote : String) : Bool :=
  !quote.toList.isEmpty && quote.toList.all fun c => c == '\'' || c == '"'

theorem isQuote_sparingText {quotes : List String} (h : ∀ q ∈ quotes, isQuote q = true)
    (escapeBlanks : Bool) (s : String) :
    ∀ q ∈ (Printer.sparingText quotes escapeBlanks s).2, isQuote q = true := by
  intro q hq
  rw [Printer.sparingText] at hq
  have hfitting {p : String → Bool} {triple : Bool}
      (hmem : q ∈ (if triple = true then quotes.filter Printer.isTriple else quotes).filter p) :
      isQuote q = true := by
    have hmem := List.mem_of_mem_filter hmem
    split at hmem
    · exact h q (List.mem_of_mem_filter hmem)
    · exact h q hmem
  dsimp only at hq
  split at hq
  · -- no quote fits as the text is: the one that is escaped is chosen
    have hhead : (quotedChars s.toList).headD '\'' = quoteFor s.toList := rfl
    rw [hhead, List.mem_singleton] at hq
    rw [hq]
    cases hfound : quotes.find? fun q => q.toList.contains (quoteFor s.toList) with
    | some other => exact h other (List.mem_of_find?_eq_some hfound)
    | none =>
      rw [Option.getD_none, quoteFor]
      split <;> decide
  · split at hq
    · exact hfitting hq
    · rcases List.mem_append.mp hq with hq | hq
      · exact hfitting (List.mem_of_mem_filter hq)
      · exact hfitting (List.mem_of_mem_filter hq)

theorem isQuote_go {pieces : List Printer.Piece} {quotes chosen done parts : List String}
    (h : ∀ q ∈ quotes, isQuote q = true)
    (hgo : Printer.joinPieces.go pieces quotes done = some (chosen, parts)) :
    ∀ q ∈ chosen, isQuote q = true := by
  induction pieces generalizing quotes done with
  | nil =>
    obtain ⟨rfl, -⟩ := Prod.mk.inj (Option.some.inj hgo)
    exact h
  | cons piece rest ih =>
    obtain ⟨text, isPlain⟩ := piece
    have hfitting := isQuote_sparingText h isPlain text
    rw [Printer.joinPieces.go] at hgo
    dsimp only at hgo
    split at hgo
    · exact ih hfitting hgo
    · cases hgo

theorem getLast?_joinPieces (pieces : List Printer.Piece) :
    (Printer.joinPieces pieces).toList.getLast?.any (· != '(') = true := by
  have hquotes : ∀ q ∈ Printer.allQuotes, isQuote q = true := by decide
  have hback {front quote : String} (h : isQuote quote = true) :
      (front ++ quote).toList.getLast?.any (· != '(') = true := by
    simp only [isQuote, Bool.and_eq_true, Bool.not_eq_true', List.isEmpty_eq_false_iff,
      List.all_eq_true] at h
    rw [String.toList_append, List.getLast?_append_of_ne_nil _ h.1,
      List.getLast?_eq_some_getLast h.1, Option.any_some, bne_iff_ne]
    intro hopen
    have hlast := h.2 _ (List.getLast_mem h.1)
    rw [hopen] at hlast
    cases hlast
  rw [Printer.joinPieces]
  split
  · rename_i chosen parts hgo
    refine hback ?_
    cases chosen with
    | nil => decide
    | cons quote others => exact isQuote_go hquotes hgo quote List.mem_cons_self
  · exact hback (by decide)

/-- The text of a constant or of a text with fields. -/
theorem enclosed_of_isQuotable {e : Expr} (h : e.isQuotable = true) {text : String}
    (htext : segmentsText e.segments = .ok text) : Enclosed text.toList := by
  cases e with
  | literal value =>
    have hliteral : Printer.literal false value = .ok text := by
      simpa [Expr.segments, bind_ok_right] using htext
    exact enclosed_literal hliteral
  | joined parts =>
    have hjoined : Printer.expr false Level.test (.joined parts) = .ok text := by
      simpa [Expr.segments, bind_ok_right] using htext
    rw [Printer.expr] at hjoined
    obtain ⟨pieces, -, hjoined⟩ := bind_eq_ok.mp hjoined
    obtain rfl := Except.ok.inj hjoined
    have hback := getLast?_joinPieces pieces
    refine ⟨by rw [String.toList_append]; rfl, ?_⟩
    rw [String.toList_append, List.getLast?_append_of_ne_nil]
    · exact hback
    · intro hnil
      rw [hnil] at hback
      cases hback
  | _ => cases h

end Enclosed

/-! ### Phrases in the text of an expression -/

/-- What all phrases have in common: a name with a dot in it and a pair of brackets behind it. -/
structure IsPhrase (word : List Char) : Prop where
  chain : word.IsChain fun c d => runsOn c d = true
  closed : ['(', ')'] <:+ word
  dotted : '.' ∈ word

theorem isPhrase_of_mem {p : String × String} (h : p ∈ phrases) : IsPhrase p.1.toList where
  chain := runsOn_phrases p h
  closed := suffix_phrases p h
  dotted := (List.dropWhile_sublist _).subset (List.mem_of_head? (dot_phrases p h))

/-- A word stands in an expression as a whole: in a constant or a text with fields, or at the end of
a call without arguments. -/
def Expr.Shows (word : List Char) (e : Expr) : Prop :=
  (e.isQuotable = true ∧ ∃ text, segmentsText e.segments = .ok text ∧ word <:+: text.toList) ∨
    ∃ function text, e = .call function [] [] ∧
      Printer.expr false Level.atom function = .ok text ∧ word <:+ text.toList ++ ['(', ')']

section Inside

variable {word : List Char} {text : String}

theorem not_infix_singleton (hword : IsPhrase word) {c : Char} (hc : c ≠ '.') :
    ¬word <:+: [c] := by
  intro hin
  exact hc (List.mem_singleton.mp (hin.subset hword.dotted)).symm

theorem infix_closed_iff (hword : IsPhrase word) {cs : List Char} (h : Firm cs) :
    word <:+: cs ++ [')'] ↔ word <:+: cs := by
  rw [infix_append_iff_of_apart hword.chain,
    or_iff_left (not_infix_singleton hword (by decide))]
  intro c hc d hd
  obtain rfl := Option.some.inj hd
  exact runsOn_close fun heq => h.back (heq ▸ hc)

/-- A phrase does not run over an opening bracket with something firm behind it. -/
theorem infix_opened_iff (hword : IsPhrase word) (front : List Char) {cs : List Char}
    (h : Firm cs) :
    word <:+: (front ++ ['(']) ++ (cs ++ [')']) ↔ word <:+: front ∨ word <:+: cs := by
  have hseam : ∀ c ∈ (front ++ ['(']).getLast?, ∀ d ∈ (cs ++ [')']).head?,
      runsOn c d = false := by
    intro c hc d hd
    rw [List.getLast?_concat] at hc
    obtain rfl := Option.some.inj hc
    rw [List.head?_append_of_ne_nil _ h.filled] at hd
    exact runsOn_open fun heq => h.front (heq ▸ hd)
  have hopen : word <:+: front ++ ['('] ↔ word <:+: front :=
    infix_append_iff_of_unclosed hword.closed (by decide)
  rw [infix_append_iff_of_apart hword.chain hseam, hopen, infix_closed_iff hword h]

theorem infix_bracketed_iff (hword : IsPhrase word) {cs : List Char} (h : Firm cs) :
    word <:+: ['('] ++ (cs ++ [')']) ↔ word <:+: cs := by
  have hnil : ¬word <:+: [] := fun hin => absurd (hin.subset hword.dotted) List.not_mem_nil
  have hall := infix_opened_iff hword [] h
  rwa [List.nil_append, or_iff_right hnil] at hall

/-- The brackets of a call without arguments belong to a phrase at its end. -/
theorem infix_append_brackets_iff (hword : IsPhrase word) (cs : List Char) :
    word <:+: cs ++ ['(', ')'] ↔ word <:+: cs ∨ word <:+ cs ++ ['(', ')'] := by
  have hsplit : cs ++ ['(', ')'] = (cs ++ ['(']) ++ [')'] := by simp
  have hopen : word <:+: cs ++ ['('] ↔ word <:+: cs :=
    infix_append_iff_of_unclosed hword.closed (by decide)
  rw [hsplit, List.infix_concat_iff, hopen, or_comm]

theorem segmentsText_call_eq_ok {function : Expr} {arguments : List Expr} {keywords : List Keyword}
    (h : segmentsText (Expr.call function arguments keywords).segments = .ok text) :
    ∃ first inside, Printer.expr false Level.atom function = .ok first ∧
      segmentsText (Segment.commas (itemGroups arguments ++ keywords.map Keyword.segments)) =
        .ok inside ∧ text.toList = (first.toList ++ ['(']) ++ (inside.toList ++ [')']) := by
  rw [Expr.segments, List.cons_append, List.cons_append] at h
  obtain ⟨first, behind, hfirst, hbehind, htext⟩ := segmentsText_cons_eq_ok h
  obtain ⟨opening, rest, hopening, hrest, hsplit⟩ := segmentsText_cons_eq_ok hbehind
  obtain rfl : "(" = opening := Except.ok.inj hopening
  rw [segmentsText_append] at hrest
  obtain ⟨inside, hinside, hrest⟩ := bind_eq_ok.mp hrest
  obtain rfl := Except.ok.inj hrest
  refine ⟨first, inside, hfirst, hinside, ?_⟩
  rw [htext, hsplit, String.toList_append, List.append_assoc]
  rfl

/-- Behind the word `lambda` there is a blank, or a colon if there are no parameters. -/
theorem segmentsText_lambda_eq_ok {params : Params} {body : Expr}
    (h : segmentsText (Expr.lambda params body).segments = .ok text) :
    ∃ first rest : String, text.toList = first.toList ++ rest.toList ∧
      (first = "lambda" ∧ rest.toList.head? = some ':' ∨ first = "lambda ") ∧
      segmentsText (Segment.commas params.groups ++ [.text ": ", .fill Level.test body]) =
        .ok rest := by
  rw [Expr.segments, List.cons_append, List.cons_append] at h
  obtain ⟨start, behind, hstart, hbehind, htext⟩ := segmentsText_cons_eq_ok h
  obtain rfl : "lambda" = start := Except.ok.inj hstart
  obtain ⟨gap, rest, hgap, hrest, hsplit⟩ := segmentsText_cons_eq_ok hbehind
  have hgap : params.gap = .ok gap := hgap
  obtain ⟨inside, hinside, hgap⟩ := bind_eq_ok.mp hgap
  obtain rfl := Except.ok.inj hgap
  by_cases hempty : inside.isEmpty = true
  · rw [if_pos hempty] at hsplit
    refine ⟨"lambda", rest, by simp [htext, hsplit], .inl ⟨rfl, ?_⟩, hrest⟩
    -- nothing is written for the parameters
    rw [segmentsText_append, ← params_eq, hinside, ok_bind, String.isEmpty_iff.mp hempty] at hrest
    obtain ⟨others, hothers, hrest⟩ := bind_eq_ok.mp hrest
    obtain rfl := Except.ok.inj hrest
    obtain ⟨colon, after, hcolon, -, hsplit⟩ := segmentsText_cons_eq_ok hothers
    obtain rfl : ": " = colon := Except.ok.inj hcolon
    simp [hsplit]
  · rw [if_neg hempty] at hsplit
    refine ⟨"lambda ", rest, ?_, .inr rfl, hrest⟩
    rw [htext, hsplit, ← List.append_assoc]
    rfl

theorem isWord_of_isSpelled {e : Expr} (h : e.isSpelled = true) :
    ∀ id ∈ e.ownNames, isWord id = true :=
  List.all_eq_true.mp (Bool.and_eq_true_iff.mp h).1

theorem sound_lambda {params : Params} {body : Expr}
    (h : (Expr.lambda params body).isSpelled = true) :
    Sound (Segment.commas params.groups ++ [.text ": ", .fill Level.test body]) := by
  have hbody := sound_fill Level.test body
  have hnames : ∀ id ∈ params.names, isWord id = true := isWord_of_isSpelled h
  by_cases hne : params.groups = []
  · rw [hne]
    exact hbody.cons_wall (by decide)
  · exact (sound_commas hne (Params.sound_groups hnames)).append_wall hbody (by decide)

theorem sound_arguments {function : Expr} {arguments : List Expr} {keywords : List Keyword}
    (h : (Expr.call function arguments keywords).isSpelled = true)
    (hne : itemGroups arguments ++ keywords.map Keyword.segments ≠ []) :
    Sound (Segment.commas (itemGroups arguments ++ keywords.map Keyword.segments)) := by
  have hnames : ∀ id ∈ keywords.filterMap Keyword.name, isWord id = true := isWord_of_isSpelled h
  refine sound_commas hne fun group hgroup => ?_
  rcases List.mem_append.mp hgroup with hgroup | hgroup
  · exact sound_item hgroup
  · obtain ⟨keyword, hkeyword, rfl⟩ := List.mem_map.mp hgroup
    exact Keyword.sound_segments fun id hid =>
      hnames id (List.mem_filterMap.mpr ⟨keyword, hkeyword, hid⟩)

theorem segmentsText_attribute_eq_ok {object : Expr} {field : String}
    (h : segmentsText (Expr.attribute object field).segments = .ok text) :
    ∃ first, Printer.expr false Level.atom object = .ok first ∧
      text.toList = first.toList ++ (object.dotGap ++ "." ++ field).toList := by
  obtain ⟨first, rest, hfirst, hrest, htext⟩ := segmentsText_cons_eq_ok h
  obtain ⟨dotted, others, hdotted, hothers, hsplit⟩ := segmentsText_cons_eq_ok hrest
  obtain rfl : object.dotGap ++ "." ++ field = dotted := Except.ok.inj hdotted
  rw [segmentsText_nil] at hothers
  obtain rfl := Except.ok.inj hothers
  exact ⟨first, hfirst, by simpa [hsplit] using htext⟩

/-- The text of an expression is firm if what is written in its holes is. -/
theorem firm_inside {e : Expr} (h : e.isSpelled = true) (hholes : FirmHoles e.segments)
    (htext : segmentsText e.segments = .ok text) : Firm text.toList := by
  by_cases hquotable : e.isQuotable = true
  · exact (enclosed_of_isQuotable hquotable htext).firm
  · by_cases htight : e.isTight = true
    · cases e with
      | lambda params body =>
        obtain ⟨first, rest, hsplit, hfirst, hrest⟩ := segmentsText_lambda_eq_ok htext
        have hfirm : Firm first.toList := by
          rcases hfirst with ⟨rfl, -⟩ | rfl <;> decide
        rw [hsplit]
        refine hfirm.append ((sound_lambda h).firm (fun q hq => hholes q ?_) hrest)
        exact List.mem_cons_of_mem _ (List.mem_cons_of_mem _ hq)
      | call function arguments keywords =>
        obtain ⟨first, inside, hfirst, -, hsplit⟩ := segmentsText_call_eq_ok htext
        have hfirm := hholes _ List.mem_cons_self first hfirst
        rw [hsplit, List.append_assoc]
        refine hfirm.append_back ?_
        rw [← List.append_assoc, List.getLast?_concat]
        decide
      | «attribute» object field =>
        obtain ⟨first, hfirst, hsplit⟩ := segmentsText_attribute_eq_ok htext
        have hfirm := hholes _ List.mem_cons_self first hfirst
        have hfield := (firm_of_isWord (isWord_of_isSpelled h field List.mem_cons_self)).1
        rw [hsplit]
        refine hfirm.append_back ?_
        rw [String.toList_append, List.getLast?_append_of_ne_nil _ hfield.filled]
        exact hfield.back
      | _ => cases htight
    · exact (Expr.sound_segments h (Bool.eq_false_iff.mpr hquotable)
        (Bool.eq_false_iff.mpr htight)).firm hholes htext

/-- A phrase in a call: around its brackets or within what is called or given. -/
theorem infix_call_iff (hword : IsPhrase word) {function : Expr} {arguments : List Expr}
    {keywords : List Keyword} (h : (Expr.call function arguments keywords).isSpelled = true)
    (hholes : FirmHoles (Expr.call function arguments keywords).segments)
    (htext : segmentsText (Expr.call function arguments keywords).segments = .ok text) :
    word <:+: text.toList ↔ (Expr.call function arguments keywords).Shows word ∨
      Passes word (Expr.call function arguments keywords).segments := by
  obtain ⟨first, inside, hfirst, hinside, hsplit⟩ := segmentsText_call_eq_ok htext
  have hshows : (Expr.call function arguments keywords).Shows word ↔
      (arguments = [] ∧ keywords = []) ∧ word <:+ first.toList ++ ['(', ')'] := by
    constructor
    · rintro (⟨hquotable, -⟩ | ⟨other, text', heq, hother, hend⟩)
      · cases hquotable
      · obtain ⟨rfl, rfl, rfl⟩ := Expr.call.inj heq
        obtain rfl := Except.ok.inj (hfirst.symm.trans hother)
        exact ⟨⟨rfl, rfl⟩, hend⟩
    · rintro ⟨⟨rfl, rfl⟩, hend⟩
      exact .inr ⟨function, first, rfl, hfirst, hend⟩
  have hpasses : Passes word (Expr.call function arguments keywords).segments ↔
      word <:+: first.toList ∨
        Passes word (Segment.commas (itemGroups arguments ++ keywords.map Keyword.segments)) := by
    rw [Expr.segments, List.cons_append, List.cons_append, Segment.fill, passes_hole hfirst]
    simp
  rw [hsplit, hshows, hpasses]
  by_cases hnone : arguments = [] ∧ keywords = []
  · obtain ⟨rfl, rfl⟩ := hnone
    obtain rfl : "" = inside := Except.ok.inj hinside
    have hnothing : ¬Passes word (Segment.commas (itemGroups [] ++ [].map Keyword.segments)) :=
      passes_nil
    have hbrackets : (first.toList ++ ['(']) ++ ("".toList ++ [')']) =
        first.toList ++ ['(', ')'] := by
      simp
    rw [hbrackets, infix_append_brackets_iff hword, or_iff_left hnothing, or_comm]
    simp
  · have hgroups : itemGroups arguments ++ keywords.map Keyword.segments ≠ [] := by
      intro hnil
      simp only [itemGroups, List.append_eq_nil_iff, List.map_eq_nil_iff] at hnil
      exact hnone hnil
    have harguments := sound_arguments h hgroups
    have hinner : FirmHoles
        (Segment.commas (itemGroups arguments ++ keywords.map Keyword.segments)) := by
      intro q hq
      refine hholes q ?_
      rw [Expr.segments]
      simp [hq]
    rw [infix_opened_iff hword _ (harguments.firm hinner hinside),
      infix_segmentsText_iff hword.chain hword.dotted harguments.chain harguments.plain hinner
        hinside]
    simp [hnone]

theorem infix_lambda_iff (hword : IsPhrase word) {params : Params} {body : Expr}
    (h : (Expr.lambda params body).isSpelled = true)
    (hholes : FirmHoles (Expr.lambda params body).segments)
    (htext : segmentsText (Expr.lambda params body).segments = .ok text) :
    word <:+: text.toList ↔ Passes word (Expr.lambda params body).segments := by
  obtain ⟨first, rest, hsplit, hfirst, hrest⟩ := segmentsText_lambda_eq_ok htext
  have hsound := sound_lambda h
  have hinner : FirmHoles
      (Segment.commas params.groups ++ [.text ": ", .fill Level.test body]) :=
    fun q hq => hholes q (List.mem_cons_of_mem _ (List.mem_cons_of_mem _ hq))
  have hseam : ∀ c ∈ first.toList.getLast?, ∀ d ∈ rest.toList.head?, runsOn c d = false := by
    intro c hc d hd
    rcases hfirst with ⟨-, hcolon⟩ | rfl
    · obtain rfl := Option.some.inj (hcolon.symm.trans hd)
      exact runsOn_of_outer (.inr (by decide))
    · obtain rfl : ' ' = c := Option.some.inj hc
      exact runsOn_of_outer (.inl (by decide))
  have hfree : ¬word <:+: first.toList := by
    have hdot : '.' ∉ first.toList := by
      rcases hfirst with ⟨rfl, -⟩ | rfl <;> decide
    exact fun hin => hdot (hin.subset hword.dotted)
  have hpasses : Passes word (Expr.lambda params body).segments ↔
      Passes word (Segment.commas params.groups ++ [.text ": ", .fill Level.test body]) := by
    rw [Expr.segments, List.cons_append, List.cons_append, passes_text, passes_own]
  rw [hsplit, infix_append_iff_of_apart hword.chain hseam, or_iff_right hfree, hpasses]
  exact infix_segmentsText_iff hword.chain hword.dotted hsound.chain hsound.plain hinner hrest

theorem infix_attribute_iff (hword : IsPhrase word) {object : Expr} {field : String}
    (h : (Expr.attribute object field).isSpelled = true)
    (htext : segmentsText (Expr.attribute object field).segments = .ok text) :
    word <:+: text.toList ↔ Passes word (Expr.attribute object field).segments := by
  obtain ⟨first, hfirst, hsplit⟩ := segmentsText_attribute_eq_ok htext
  have hclose : ')' ∉ (object.dotGap ++ "." ++ field).toList := by
    have hfield := isWord_of_isSpelled h field List.mem_cons_self
    have hparts := List.all_eq_true.mp (Bool.and_eq_true_iff.mp hfield).2
    have hgap : ')' ∉ object.dotGap.toList := by
      rw [Expr.dotGap.eq_def]
      split <;> decide
    rw [String.toList_append, String.toList_append]
    simp only [List.mem_append, not_or]
    refine ⟨⟨hgap, by decide⟩, fun hmem => ?_⟩
    exact absurd (hparts ')' hmem) (by decide)
  rw [hsplit, infix_append_iff_of_unclosed hword.closed hclose, Expr.segments, Segment.fill,
    passes_hole hfirst, passes_text]
  simp

/-- A phrase in the text of an expression stands in it as a whole or in one of its holes. -/
theorem infix_inside_iff (hword : IsPhrase word) {e : Expr} (h : e.isSpelled = true)
    (hholes : FirmHoles e.segments) (htext : segmentsText e.segments = .ok text) :
    word <:+: text.toList ↔ e.Shows word ∨ Passes word e.segments := by
  have hcall (hno : ∀ function, e ≠ .call function [] []) (hquotable : e.isQuotable = false) :
      ¬e.Shows word := by
    rintro (⟨hyes, -⟩ | ⟨function, -, heq, -⟩)
    · rw [hquotable] at hyes
      cases hyes
    · exact hno function heq
  by_cases hquotable : e.isQuotable = true
  · have hpasses : ¬Passes word e.segments := by
      cases e with
      | literal | joined => simp [Expr.segments]
      | _ => cases hquotable
    rw [or_iff_left hpasses]
    constructor
    · exact fun hin => .inl ⟨hquotable, text, htext, hin⟩
    · rintro (⟨-, text', htext', hin⟩ | ⟨function, -, rfl, -⟩)
      · obtain rfl := Except.ok.inj (htext.symm.trans htext')
        exact hin
      · cases hquotable
  · rw [Bool.not_eq_true] at hquotable
    by_cases htight : e.isTight = true
    · cases e with
      | lambda params body =>
        have hno : ∀ function, Expr.lambda params body ≠ .call function [] [] := by
          intro function heq
          cases heq
        rw [infix_lambda_iff hword h hholes htext, or_iff_right (hcall hno hquotable)]
      | call function arguments keywords => exact infix_call_iff hword h hholes htext
      | «attribute» object field =>
        have hno : ∀ function, Expr.attribute object field ≠ .call function [] [] := by
          intro function heq
          cases heq
        rw [infix_attribute_iff hword h htext, or_iff_right (hcall hno hquotable)]
      | _ => cases htight
    · rw [Bool.not_eq_true] at htight
      have hsound := Expr.sound_segments h hquotable htight
      have hno : ∀ function, e ≠ .call function [] [] := by
        rintro function rfl
        cases htight
      rw [or_iff_right (hcall hno hquotable)]
      exact infix_segmentsText_iff hword.chain hword.dotted hsound.chain hsound.plain hholes htext

theorem Expr.Spelled.of_hole {e : Expr} (h : e.Spelled) {q : Hole} (hq : .hole q ∈ e.segments) :
    q.expr.Spelled :=
  fun d hd => h d (hd.of_child (Expr.mem_children hq))

theorem firm_expr {e : Expr} (h : e.Spelled) {asked : Level}
    (htext : Printer.expr false asked e = .ok text) : Firm text.toList := by
  induction hsize : sizeOf e using Nat.strong_induction_on generalizing e asked text with
  | _ size ih =>
    have hholes : FirmHoles e.segments := fun q hq part hpart =>
      ih _ (hsize ▸ e.below_segments q hq) (h.of_hole hq) hpart rfl
    rw [expr_eq] at htext
    obtain ⟨inside, hinside, htext⟩ := bind_eq_ok.mp htext
    obtain rfl := Except.ok.inj htext
    have hfirm := firm_inside (h e (.refl e)) hholes hinside
    split
    · refine ⟨by simp, by simp, ?_⟩
      rw [String.toList_append, List.getLast?_append_of_ne_nil _ (by decide)]
      decide
    · exact hfirm

theorem firmHoles_of_spelled {e : Expr} (h : e.Spelled) : FirmHoles e.segments :=
  fun _ hq _ hpart => firm_expr (h.of_hole hq) hpart

/-- A phrase stands in the text of an expression exactly if it stands as a whole in one of the
expressions at some depth. -/
theorem infix_expr_iff (hword : IsPhrase word) {p : Hole} (h : p.expr.Spelled)
    (htext : Printer.expr false p.asked p.expr = .ok text) :
    word <:+: text.toList ↔ ∃ q, p.Holds q ∧ q.expr.Shows word := by
  induction hsize : sizeOf p.expr using Nat.strong_induction_on generalizing p text with
  | _ size ih =>
    have hholes := firmHoles_of_spelled h
    rw [expr_eq] at htext
    obtain ⟨inside, hinside, htext⟩ := bind_eq_ok.mp htext
    obtain rfl := Except.ok.inj htext
    have hspelled := h p.expr (.refl p.expr)
    have hbrackets : word <:+: (if p.expr.isLoose p.asked = true then "(" ++ inside ++ ")"
        else inside).toList ↔ word <:+: inside.toList := by
      split
      · have hall := infix_bracketed_iff hword (firm_inside hspelled hholes hinside)
        rw [String.toList_append, String.toList_append, List.append_assoc]
        exact hall
      · exact Iff.rfl
    have hpasses : Passes word p.expr.segments ↔
        ∃ inner, .hole inner ∈ p.expr.segments ∧ ∃ q, inner.Holds q ∧ q.expr.Shows word := by
      have hdeeper {inner : Hole} (hinner : .hole inner ∈ p.expr.segments) {part : String}
          (hpart : Printer.expr false inner.asked inner.expr = .ok part) :=
        ih _ (hsize ▸ p.expr.below_segments inner hinner) (h.of_hole hinner) hpart rfl
      constructor
      · rintro ⟨inner, part, hinner, hpart, hin⟩
        exact ⟨inner, hinner, (hdeeper hinner hpart).mp hin⟩
      · rintro ⟨inner, hinner, hshows⟩
        obtain ⟨part, hpart⟩ := write_of_mem hinside hinner
        exact ⟨inner, part, hinner, hpart, (hdeeper hinner hpart).mpr hshows⟩
    rw [hbrackets, infix_inside_iff hword hspelled hholes hinside, hpasses]
    exact (Hole.exists_holds_iff p fun q => q.expr.Shows word).symm

end Inside

end HubScript
