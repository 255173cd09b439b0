import HubScript.Proofs.AwaitedCalls
import HubScript.Proofs.Provenance
import HubScript.Proofs.Segments
import Mathlib.Data.List.Forall2

/-!
# Function interfaces

A function keeps the names of its plain parameters, and a call keeps its positional arguments. So
the interface of a function is kept if it has plain parameters without defaults only, and a call of
it is kept if it names no argument.
-/
namespace HubScript

open Hub

/-! ### The length of lists with commas -/

/-- The length of texts with two characters behind each. -/
def bulk : List String → Nat
  | [] => 0
  | text :: rest => text.length + 2 + bulk rest

@[simp] theorem bulk_append (a b : List String) : bulk (a ++ b) = bulk a + bulk b := by
  induction a with
  | nil => simp [bulk]
  | cons text rest ih =>
    rw [List.cons_append, bulk, bulk, ih]
    omega

theorem length_commas (texts : List String) : (Printer.commas texts).length = bulk texts - 2 := by
  rw [Printer.commas]
  induction texts with
  | nil => rfl
  | cons text rest ih =>
    cases rest with
    | nil => simp [bulk]
    | cons next rest =>
      have hcomma : ", ".length = 2 := rfl
      rw [String.intercalate_cons_cons, String.length_append, String.length_append, ih, hcomma]
      simp only [bulk]
      omega

/-- Lists with commas differ if the second is bulkier and not a list of one empty text. -/
theorem commas_ne {texts others : List String} (hlt : bulk texts < bulk others)
    (hpos : 3 ≤ bulk others) : Printer.commas texts ≠ Printer.commas others := by
  intro h
  have hlength := congrArg String.length h
  rw [length_commas, length_commas] at hlength
  omega

/-! ### Parameters -/

/-- The name and the parameters of the function that a statement defines. -/
def Stmt.interface? : Stmt → Option (String × Params)
  | .define _ name params _ => some (name, params)
  | _ => none

theorem Stmt.interface?_eq_some {s : Stmt} {name : String} {params : Params}
    (h : s.interface? = some (name, params)) :
    ∃ span inner, s = .define span name params inner := by
  cases s with
  | define span found given inner =>
    cases h
    exact ⟨span, inner, rfl⟩
  | _ => cases h

/-- A parameter without its type. -/
def Param.unhinted : Param → Param
  | .mk name _ default => .mk name none default

/-- Parameters without their types. -/
def Params.unhinted : Params → Params
  | .mk positionalOnly plain rest named mapping =>
    .mk (positionalOnly.map Param.unhinted) (plain.map Param.unhinted) (rest.map Param.unhinted)
      (named.map Param.unhinted) (mapping.map Param.unhinted)

/-- Whether all parameters are plain and without a default. -/
def Params.isBare : Params → Bool
  | .mk positionalOnly plain rest named mapping =>
    positionalOnly.isEmpty && plain.all (·.default.isNone) && rest.isNone && named.isEmpty &&
      mapping.isNone

theorem paramTexts_of_bare {params : List Param} (h : params.all (·.default.isNone) = true) :
    Printer.paramTexts false (params.map Param.unhinted) = .ok (params.map Param.name) := by
  induction params with
  | nil => rfl
  | cons p rest ih =>
    obtain ⟨name, hint, default⟩ := p
    rw [List.all_cons, Bool.and_eq_true] at h
    obtain rfl : default = none := by simpa [Param.default] using h.1
    have htext : Printer.param false (.mk name none none) = .ok name := by
      simp [Printer.param, Printer.optional]
    simp [Param.unhinted, Param.name, Printer.paramTexts, htext, ih h.2]

theorem param_unhinted {p : Param} {text : String}
    (h : Printer.param false p.unhinted = .ok text) :
    p.default = none ∧ text = p.name ∨ p.name.length < text.length := by
  obtain ⟨name, hint, default⟩ := p
  cases default with
  | none =>
    left
    have htext : name = text := by
      simpa [Param.unhinted, Printer.param, Printer.optional] using h
    exact ⟨rfl, htext.symm⟩
  | some value =>
    right
    simp only [Param.unhinted, Printer.param, Printer.optional, ok_bind, bind_assoc,
      pure_bind] at h
    obtain ⟨written, -, h⟩ := bind_eq_ok.mp h
    obtain rfl := Except.ok.inj h
    have hsign : "=".length = 1 := rfl
    simp only [Option.map_none, Option.map_some, Option.getD_none, Option.getD_some,
      String.length_append, Param.name]
    omega

/-- Parameters are at least as bulky as their names, and bulkier if one has a default. -/
theorem bulk_paramTexts {params : List Param} {texts : List String}
    (h : Printer.paramTexts false (params.map Param.unhinted) = .ok texts) :
    bulk (params.map Param.name) ≤ bulk texts ∧
      (params.all (·.default.isNone) = true ∨
        bulk (params.map Param.name) < bulk texts ∧ 3 ≤ bulk texts) := by
  induction params generalizing texts with
  | nil =>
    obtain rfl := Except.ok.inj h
    simp
  | cons p rest ih =>
    obtain ⟨text, htext, h⟩ := bind_eq_ok.mp h
    obtain ⟨others, hothers, h⟩ := bind_eq_ok.mp h
    obtain rfl := Except.ok.inj h
    obtain ⟨hle, hrest⟩ := ih hothers
    simp only [List.map_cons, bulk]
    rcases param_unhinted htext with ⟨hnone, rfl⟩ | hlonger
    · refine ⟨by omega, ?_⟩
      rcases hrest with hall | ⟨hlt, hpos⟩
      · exact .inl (by simp only [List.all_cons, hnone, hall]; rfl)
      · exact .inr ⟨by omega, by omega⟩
    · exact ⟨by omega, .inr ⟨by omega, by omega⟩⟩

/-- Parameters that are not plain, and the marks before them, add to the bulk. -/
theorem bulk_paramList (first middle : List String) (star : Option String) (last : List String)
    (double : Option String) :
    first = [] ∧ star = none ∧ last = [] ∧ double = none ∨
      bulk middle + 3 ≤ bulk (Printer.paramList first middle star last double) := by
  have hmarks : "/".length = 1 ∧ "*".length = 1 ∧ "**".length = 2 := ⟨rfl, rfl, rfl⟩
  simp only [Printer.paramList, bulk_append]
  cases first with
  | cons text rest =>
    right
    simp only [List.isEmpty_cons, Bool.false_eq_true, if_false, bulk_append, bulk]
    omega
  | nil =>
    cases star with
    | some text =>
      right
      simp only [bulk, String.length_append]
      omega
    | none =>
      cases last with
      | cons text rest =>
        right
        simp only [List.isEmpty_cons, Bool.false_eq_true, if_false, bulk]
        omega
      | nil =>
        cases double with
        | some text =>
          right
          simp only [Option.map_some, Option.toList_some, bulk, String.length_append]
          omega
        | none => exact .inl ⟨rfl, rfl, rfl, rfl⟩

theorem eq_none_of_optionalParam {p : Option Param}
    (h : Printer.optionalParam false (p.map Param.unhinted) = .ok none) : p = none := by
  cases p with
  | none => rfl
  | some p =>
    obtain ⟨text, -, h⟩ := bind_eq_ok.mp h
    cases h

/-- The parameters of a function are the names of its plain parameters exactly if it has no others
and no defaults. -/
theorem params_kept_iff (params : Params) :
    Printer.params false params.unhinted = .ok (Printer.commas (params.plain.map Param.name)) ↔
      params.isBare = true := by
  obtain ⟨positionalOnly, plain, rest, named, mapping⟩ := params
  constructor
  · intro h
    obtain ⟨first, hfirst, h⟩ := bind_eq_ok.mp h
    obtain ⟨middle, hmiddle, h⟩ := bind_eq_ok.mp h
    obtain ⟨star, hstar, h⟩ := bind_eq_ok.mp h
    obtain ⟨last, hlast, h⟩ := bind_eq_ok.mp h
    obtain ⟨double, hdouble, h⟩ := bind_eq_ok.mp h
    have hsame := Except.ok.inj h
    have hslim : ¬(bulk (plain.map Param.name) <
          bulk (Printer.paramList first middle star last double) ∧
        3 ≤ bulk (Printer.paramList first middle star last double)) :=
      fun hbulky => commas_ne hbulky.1 hbulky.2 hsame.symm
    obtain ⟨hle, hplain⟩ := bulk_paramTexts hmiddle
    rcases bulk_paramList first middle star last double with ⟨rfl, rfl, rfl, rfl⟩ | hbulky
    · have halone : Printer.paramList [] middle none [] none = middle := by
        simp [Printer.paramList]
      rw [halone] at hslim
      have hfirst := isEmpty_paramTexts hfirst
      have hlast := isEmpty_paramTexts hlast
      simp only [List.isEmpty_nil, List.isEmpty_map] at hfirst hlast
      simp [Params.isBare, ← hfirst, ← hlast, hplain.resolve_right hslim,
        eq_none_of_optionalParam hstar, eq_none_of_optionalParam hdouble]
    · omega
  · intro h
    simp only [Params.isBare, Bool.and_eq_true, List.isEmpty_iff, Option.isNone_iff_eq_none] at h
    obtain ⟨⟨⟨⟨rfl, hplain⟩, rfl⟩, rfl⟩, rfl⟩ := h
    simp [Params.unhinted, Params.plain, Printer.params, Printer.paramTexts, Printer.optionalParam,
      Printer.paramList, paramTexts_of_bare hplain]

/-! ### Arguments -/

/-- The call of a function by its name that a statement makes: the function, the arguments given by
position and those given by name. -/
def Stmt.functionCall? : Stmt → Option (String × List Expr × List Keyword)
  | .expr _ (.call (.name function) arguments keywords) => some (function, arguments, keywords)
  | .expr _ (.await (.call (.name function) arguments keywords)) =>
    some (function, arguments, keywords)
  | _ => none

theorem Stmt.call?_of_functionCall? {s : Stmt} {function : String} {arguments : List Expr}
    {keywords : List Keyword} (h : s.functionCall? = some (function, arguments, keywords)) :
    s.call? = some (.name function, arguments) := by
  unfold functionCall? at h
  split at h
  · cases h
    rfl
  · cases h
    rfl
  · cases h

/-- How an argument is passed in the hub: a constant by its value, anything else by its text with
the words of the hub. -/
inductive Expr.PassedAs : Expr → String → Prop
  | constant {value : Literal} {item : String}
      (written : (Value.ofLiteral value).write = .ok item) : PassedAs (.literal value) item
  | expression {e : Expr} {text : String} (other : e.isLiteral = false)
      (printed : e.print = .ok text) : PassedAs e (toHub text)

/-- How an argument with a name is passed; one without a name gives names of its own. -/
inductive Keyword.PassedAs : Keyword → String → Prop
  | named {name : String} {value : Expr} {item : String} (passed : value.PassedAs item) :
      PassedAs (.mk (some name) value) (name ++ "=" ++ item)
  | spread {value : Expr} {item : String} (passed : value.PassedAs item) :
      PassedAs (.mk none value) ("**" ++ item)

theorem passedAs_of_operand {e : Expr} {operand : Operand} {item : String}
    (hread : Current.operand e = .ok operand) (hitem : argument operand.argument = .ok item) :
    e.PassedAs item := by
  cases hliteral : e.isLiteral with
  | true =>
    obtain ⟨value, rfl⟩ := Expr.isLiteral_iff.mp hliteral
    obtain rfl := Except.ok.inj hread
    rw [argument_known] at hitem
    exact .constant hitem
  | false =>
    rw [Current.operand_of_no_literal hliteral] at hread
    obtain ⟨text, htext, hread⟩ := bind_eq_ok.mp hread
    obtain rfl := Except.ok.inj hread
    rw [argument_text] at hitem
    obtain rfl := Except.ok.inj hitem
    exact .expression hliteral (Expr.text_eq_ok.mp htext)

theorem passedAs_of_mapM {arguments : List Expr} {operands : List Operand} {items : List String}
    (hread : arguments.mapM Current.operand = .ok operands)
    (hitems : (operands.map Operand.argument).mapM argument = .ok items) :
    List.Forall₂ Expr.PassedAs arguments items := by
  induction arguments generalizing operands items with
  | nil =>
    obtain rfl := Except.ok.inj hread
    obtain rfl := Except.ok.inj hitems
    exact .nil
  | cons e rest ih =>
    rw [List.mapM_cons] at hread
    obtain ⟨operand, hoperand, hread⟩ := bind_eq_ok.mp hread
    obtain ⟨others, hothers, hread⟩ := bind_eq_ok.mp hread
    obtain rfl := Except.ok.inj hread
    rw [List.map_cons, List.mapM_cons] at hitems
    obtain ⟨item, hitem, hitems⟩ := bind_eq_ok.mp hitems
    obtain ⟨later, hlater, hitems⟩ := bind_eq_ok.mp hitems
    obtain rfl := Except.ok.inj hitems
    exact .cons (passedAs_of_operand hoperand hitem) (ih hothers hlater)

theorem bulk_of_keyword {keyword : Keyword} {item : String} (h : keyword.PassedAs item) :
    3 ≤ item.length + 2 := by
  cases h with
  | named =>
    have hsign : "=".length = 1 := rfl
    simp only [String.length_append]
    omega
  | spread =>
    have hmark : "**".length = 2 := rfl
    simp only [String.length_append]
    omega

/-- Arguments that are given by position are all that is passed exactly if none is given by name. -/
theorem arguments_kept_iff (items : List String) (keywords : List Keyword) :
    (∃ named, List.Forall₂ Keyword.PassedAs keywords named ∧
      Printer.commas items = Printer.commas (items ++ named)) ↔ keywords = [] := by
  constructor
  · rintro ⟨named, hpassed, hsame⟩
    cases hpassed with
    | nil => rfl
    | cons hfirst hrest =>
      have hbulk := bulk_of_keyword hfirst
      refine absurd hsame (commas_ne ?_ ?_) <;> simp only [bulk_append, bulk] <;> omega
  · rintro rfl
    exact ⟨[], .nil, by rw [List.append_nil]⟩

/-- In a program, a function has its parameters if and only if they are plain and without defaults,
and a call that is a statement passes its arguments if and only if none is given by name. What is
given by position is passed always, in order. -/
theorem interfaces_kept_iff {script program : String} {instrs : List Instruction}
    (h : answerGenerate script = .accepted instrs program) :
    ∃ stmts opening body, readScript script = .ok stmts ∧
      Composed .standard instrs script program opening body ∧
      (∀ s ∈ stmtsNested stmts, ∀ name params, s.interface? = some (name, params) →
        let shown := Printer.commas (params.plain.map Param.name)
        ∃ i ∈ nestedAll instrs, Current.dialect.statement s = .ok (some i) ∧
          i.texts .standard = [s!"async def {name}({shown}):"] ∧
          s!"async def {name}({shown}):" ∈ codeTexts body ∧
          (Printer.params false params.unhinted = .ok shown ↔ params.isBare = true)) ∧
      ∀ s ∈ stmtsNested stmts, ∀ function arguments keywords,
        s.functionCall? = some (function, arguments, keywords) → function ≠ "print" →
        (function = "wait" → arguments = []) →
        ∃ i ∈ nestedAll instrs, ∃ items, Current.dialect.statement s = .ok (some i) ∧
          List.Forall₂ Expr.PassedAs arguments items ∧
          i.texts .standard = [s!"await {function}({Printer.commas items})"] ∧
          s!"await {function}({Printer.commas items})" ∈ codeTexts body ∧
          ((∃ named, List.Forall₂ Keyword.PassedAs keywords named ∧
            Printer.commas items = Printer.commas (items ++ named)) ↔ keywords = []) := by
  obtain ⟨hread, hmade⟩ := answerGenerate_eq_accepted h
  obtain ⟨stmts, hstmts, hreads⟩ := readInstructions_eq_ok hread
  obtain ⟨opening, body, hcomposed⟩ := composed_of_generate hmade
  refine ⟨stmts, opening, body, hstmts, hcomposed, ?_, ?_⟩
  · intro s hs name params hinterface
    obtain ⟨span, inner, rfl⟩ := Stmt.interface?_eq_some hinterface
    obtain ⟨parts, info, hgiven, hi⟩ := read_of_define hreads hs
    exact ⟨_, hi, hgiven, rfl,
      hcomposed.texts_mem hi List.mem_cons_self, params_kept_iff params⟩
  · intro s hs function arguments keywords hcall hprint hwait
    obtain ⟨operands, info, hoperands, hgiven, hi⟩ :=
      read_of_call hreads hs (Stmt.call?_of_functionCall? hcall) hprint hwait
    obtain ⟨texts, htexts⟩ := hcomposed.written _ hi
    obtain ⟨items, hitems, rfl⟩ := call_eq_ok htexts
    have hline : (Instruction.step (.call function operands) info).texts .standard =
        [s!"await {function}({Printer.commas items})"] := by
      rw [Instruction.texts, htexts]
      rfl
    exact ⟨_, hi, items, hgiven, passedAs_of_mapM hoperands hitems, hline,
      hcomposed.texts_mem hi (hline ▸ List.mem_singleton_self _),
      arguments_kept_iff items keywords⟩

/-- A function with plain parameters and a call of it without names. -/
def errandScript : String :=
  "while go:\n    def f(a, b):\n        return a\n    f(1, distance_sensor.get_distance())\n"

theorem interfaces_kept_errandScript :
    ∃ instrs program, answerGenerate errandScript = .accepted instrs program ∧
      ∃ opening body, Composed .standard instrs errandScript program opening body ∧
        codeTexts body =
          ["while go:", "async def f(a, b):", "return a", "await f(1, get_distance())"] ∧
        (∃ params : Params, ∃ shown, params.isBare = true ∧
          Printer.params false params.unhinted = .ok shown ∧
          s!"async def f({shown}):" ∈ codeTexts body) ∧
        ∃ arguments items, arguments.length = 2 ∧ List.Forall₂ Expr.PassedAs arguments items ∧
          s!"await f({Printer.commas items})" ∈ codeTexts body := by
  have hlines : (answerGenerate errandScript).any (fun instrs _ =>
      (outlineAll .standard 0 (inProgramOrder instrs)).map CodeLine.text ==
        ["while go:", "async def f(a, b):", "return a", "await f(1, get_distance())"]) = true := by
    decide +kernel
  have hparts : (readScript errandScript).toOption.any (fun stmts =>
      (stmtsNested stmts).any (fun s => s.interface?.any fun (name, params) =>
        name == "f" && params.isBare) &&
      (stmtsNested stmts).any fun s => s.functionCall?.any fun (function, arguments, keywords) =>
        function == "f" && arguments.length == 2 && keywords.isEmpty) = true := by
    decide +kernel
  obtain ⟨instrs, program, haccepted, htexts⟩ := accepted_of_any hlines
  obtain ⟨stmts, opening, body, hstmts, hcomposed, hdefines, hcalls⟩ :=
    interfaces_kept_iff haccepted
  rw [hstmts] at hparts
  obtain ⟨hdefine, hcall⟩ := Bool.and_eq_true_iff.mp hparts
  obtain ⟨s, hs, hinterface⟩ := List.any_eq_true.mp hdefine
  obtain ⟨⟨name, params⟩, hinterface, hbare⟩ := (Option.any_eq_true _ _).mp hinterface
  obtain ⟨hname, hbare⟩ := Bool.and_eq_true_iff.mp hbare
  obtain rfl := eq_of_beq hname
  obtain ⟨-, -, -, -, hshown, hkept⟩ := hdefines s hs _ params hinterface
  obtain ⟨t, ht, hpassed⟩ := List.any_eq_true.mp hcall
  obtain ⟨⟨function, arguments, keywords⟩, hcall, htwo⟩ := (Option.any_eq_true _ _).mp hpassed
  simp only [Bool.and_eq_true, beq_iff_eq] at htwo
  obtain ⟨⟨rfl, hlength⟩, -⟩ := htwo
  obtain ⟨-, -, items, -, hitems, -, hline, -⟩ :=
    hcalls t ht _ arguments keywords hcall (by decide) (fun h => by simp at h)
  exact ⟨instrs, program, haccepted, opening, body, hcomposed,
    hcomposed.codeTexts_eq.trans (eq_of_beq htexts),
    ⟨params, _, hbare, hkept.mpr hbare, hshown⟩, arguments, items, hlength, hitems, hline⟩

/-- A function with a default, and a call of it that names an argument. -/
def optionalScript : String :=
  "if go:\n    def f(a, k=1):\n        return a\n    f(1, k=2)\n"

/-- The default and the named argument are lost, so that the function lacks an argument. -/
theorem interfaces_lost_optionalScript :
    ∃ instrs program, answerGenerate optionalScript = .accepted instrs program ∧
      ∃ opening body, Composed .standard instrs optionalScript program opening body ∧
        codeTexts body = ["if go:", "async def f(a, k):", "return a", "await f(1)"] :=
  codeTexts_of_any (by decide +kernel)

end HubScript
