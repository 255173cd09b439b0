import HubScript.Script.Grammar.Reading

/-!
# An expression of a single token

A literal is one token, but the grammar comes to it through every level of precedence, and on the
way back each level asks whether an operator follows. Two judgments follow it there: a parser
fails at a place, or reads on without calling a rule; and a third, `Opens`, holds of the parsers
that read the token through further rules. Every combinator has a lemma for each judgment that it
takes part in, and the rules from the atom up to the whole expression are then put together from
these lemmas.
-/
namespace HubScript.Grammar

open HubScript.Grammar.Parser

section Combinators

variable {α β : Type} {ctx : Context} {p : Parser α} {f : α → Parser β} {s t : State} {a : α}

theorem bind_of_ok (h : p ctx s = .ok a t) : (p >>= f) ctx s = f a ctx t := by
  simp only [Bind.bind, h]

theorem bind_of_fail (h : p ctx s = .fail t) : (p >>= f) ctx s = .fail t := by
  simp only [Bind.bind, h]

theorem orElse_of_ok (h : p ctx s = .ok a t) (q : Parser α) : (p <|> q) ctx s = .ok a t := by
  simp only [HOrElse.hOrElse, OrElse.orElse, orElse, h]

theorem orElse_of_fail (h : p ctx s = .fail t) (q : Parser α) :
    (p <|> q) ctx s = q ctx { t with pos := s.pos } := by
  simp only [HOrElse.hOrElse, OrElse.orElse, orElse, h]

end Combinators

section Judgments

variable {α β : Type} {ctx : Context} {p q : Parser α} {f : α → Parser β} {pos mid next : Nat}
  {a : α} {b : β}

/-- A parser fails at a place, and keeps no outcome there. -/
def Fails (ctx : Context) (p : Parser α) (pos : Nat) : Prop :=
  ∀ s, s.pos = pos → ∃ t, p ctx s = .fail t ∧ t.memo = s.memo

/-- A parser yields a value at a place and goes on to another one, and keeps no outcome. -/
def Reads (ctx : Context) (p : Parser α) (pos : Nat) (a : α) (next : Nat) : Prop :=
  ∀ s, s.pos = pos → ∃ t, p ctx s = .ok a t ∧ t.pos = next ∧ t.memo = s.memo

/-- A parser yields a value at the start, where no outcome has been kept yet, and passes the first
token. -/
def Opens (ctx : Context) (p : Parser α) (a : α) : Prop :=
  ∀ s, s.pos = 0 → s.memo.getD 0 [] = [] → 0 < s.memo.size →
    ∃ t, p ctx s = .ok a t ∧ t.pos = 1 ∧ 0 < t.memo.size

theorem fails_fail : Fails ctx (Parser.fail : Parser α) pos := fun s _ => ⟨s, rfl, rfl⟩

theorem reads_pure : Reads ctx (pure a : Parser α) pos a pos := fun s h => ⟨s, rfl, h, rfl⟩

theorem Fails.bind (h : Fails ctx p pos) : Fails ctx (p >>= f) pos := by
  intro s hs
  obtain ⟨t, hp, hmemo⟩ := h s hs
  exact ⟨t, bind_of_fail hp, hmemo⟩

theorem Fails.orElse (hp : Fails ctx p pos) (hq : Fails ctx q pos) :
    Fails ctx (p <|> q) pos := by
  intro s hs
  obtain ⟨t, hpt, hmemo⟩ := hp s hs
  obtain ⟨u, hqu, hmemo'⟩ := hq { t with pos := s.pos } hs
  exact ⟨u, (orElse_of_fail hpt q).trans hqu, hmemo'.trans hmemo⟩

theorem Fails.orElse_reads (hp : Fails ctx p pos) (hq : Reads ctx q pos a next) :
    Reads ctx (p <|> q) pos a next := by
  intro s hs
  obtain ⟨t, hpt, hmemo⟩ := hp s hs
  obtain ⟨u, hqu, hpos, hmemo'⟩ := hq { t with pos := s.pos } hs
  exact ⟨u, (orElse_of_fail hpt q).trans hqu, hpos, hmemo'.trans hmemo⟩

theorem Fails.orElse_opens (hp : Fails ctx p 0) (hq : Opens ctx q a) : Opens ctx (p <|> q) a := by
  intro s hs hfresh hsize
  obtain ⟨t, hpt, hmemo⟩ := hp s hs
  obtain ⟨u, hqu, hpos, hsize'⟩ := hq { t with pos := s.pos } hs
    (show t.memo.getD 0 [] = [] by rw [hmemo, hfresh])
    (show 0 < t.memo.size by rw [hmemo]; exact hsize)
  exact ⟨u, (orElse_of_fail hpt q).trans hqu, hpos, hsize'⟩

theorem Opens.orElse (hp : Opens ctx p a) : Opens ctx (p <|> q) a := by
  intro s hs hfresh hsize
  obtain ⟨t, hpt, hpos⟩ := hp s hs hfresh hsize
  exact ⟨t, orElse_of_ok hpt q, hpos⟩

theorem Reads.bind (hp : Reads ctx p pos a mid) (hf : Reads ctx (f a) mid b next) :
    Reads ctx (p >>= f) pos b next := by
  intro s hs
  obtain ⟨t, hpt, hpos, hmemo⟩ := hp s hs
  obtain ⟨u, hfu, hpos', hmemo'⟩ := hf t hpos
  exact ⟨u, (bind_of_ok hpt).trans hfu, hpos', hmemo'.trans hmemo⟩

theorem Reads.bind_fails (hp : Reads ctx p pos a mid) (hf : Fails ctx (f a) mid) :
    Fails ctx (p >>= f) pos := by
  intro s hs
  obtain ⟨t, hpt, hpos, hmemo⟩ := hp s hs
  obtain ⟨u, hfu, hmemo'⟩ := hf t hpos
  exact ⟨u, (bind_of_ok hpt).trans hfu, hmemo'.trans hmemo⟩

theorem Reads.bind_opens (hp : Reads ctx p 0 a 0) (hf : Opens ctx (f a) b) :
    Opens ctx (p >>= f) b := by
  intro s hs hfresh hsize
  obtain ⟨t, hpt, hpos, hmemo⟩ := hp s hs
  obtain ⟨u, hfu, hpos', hsize'⟩ := hf t hpos (by rw [hmemo, hfresh]) (by rw [hmemo]; exact hsize)
  exact ⟨u, (bind_of_ok hpt).trans hfu, hpos', hsize'⟩

theorem Opens.bind (hp : Opens ctx p a) (hf : Reads ctx (f a) 1 b 1) : Opens ctx (p >>= f) b := by
  intro s hs hfresh hsize
  obtain ⟨t, hpt, hpos, hsize'⟩ := hp s hs hfresh hsize
  obtain ⟨u, hfu, hpos', hmemo⟩ := hf t hpos
  exact ⟨u, (bind_of_ok hpt).trans hfu, hpos', hmemo ▸ hsize'⟩

theorem Reads.opens (h : Reads ctx p 0 a 1) : Opens ctx p a := by
  intro s hs _ hsize
  obtain ⟨t, hp, hpos, hmemo⟩ := h s hs
  exact ⟨t, hp, hpos, hmemo ▸ hsize⟩

theorem Fails.discard (h : Fails ctx p pos) : Fails ctx (discard p) pos := h.bind

theorem Reads.discard (h : Reads ctx p pos a next) : Reads ctx (discard p) pos () next :=
  h.bind reads_pure

theorem reads_maybe (h : Fails ctx p pos) : Reads ctx (maybe p) pos none pos :=
  Fails.orElse_reads h.bind reads_pure

theorem reads_many (h : Fails ctx p pos) : Reads ctx (many p) pos [] pos := by
  have hnone : ∀ count, Reads ctx (repeatUpTo p count) pos [] pos := by
    intro count
    cases count with
    | zero => exact reads_pure
    | succ count => exact (reads_maybe h).bind reads_pure
  intro s hs
  exact hnone _ s hs

theorem reads_extendUpTo {extend : α → Parser α} (h : Fails ctx (extend a) pos) (count : Nat) :
    Reads ctx (extendUpTo extend count a) pos a pos := by
  cases count with
  | zero => exact reads_pure
  | succ count => exact (reads_maybe h).bind reads_pure

theorem Opens.extended {extend : α → Parser α} (hp : Opens ctx p a)
    (h : Fails ctx (extend a) 1) : Opens ctx (extended p extend) a := by
  refine hp.bind ?_
  intro s hs
  exact reads_extendUpTo h _ s hs

theorem fails_ahead (h : Fails ctx p pos) : Fails ctx (ahead p) pos := by
  intro s hs
  obtain ⟨t, hp, hmemo⟩ := h s hs
  exact ⟨{ t with pos := s.pos }, by simp only [ahead, hp], hmemo⟩

theorem reads_ahead (h : Reads ctx p pos a next) : Reads ctx (ahead p) pos () pos := by
  intro s hs
  obtain ⟨t, hp, -, hmemo⟩ := h s hs
  exact ⟨{ t with pos := s.pos }, by simp only [ahead, hp], hs, hmemo⟩

theorem fails_explaining (h : ctx.explain = false) : Fails ctx (explaining p) pos := by
  intro s _
  refine ⟨s, ?_, rfl⟩
  rw [explaining, bind_of_ok (show getContext ctx s = .ok ctx s from rfl), h]
  rfl

end Judgments

/-! ## Tokens -/

section Tokens

variable {ctx : Context} {pos : Nat} {token : Token} (h : ctx.stream.tokens[pos]? = some token)
include h

theorem reads_peek : Reads ctx peek pos token pos := by
  intro s hs
  subst hs
  exact ⟨{ s with fetched := max s.fetched (s.pos + 1) }, by simp only [peek, h], rfl, rfl⟩

theorem reads_here : Reads ctx here pos token.line pos := (reads_peek h).bind reads_pure

theorem fails_satisfy {accept : Token → Bool} (hreject : accept token = false) :
    Fails ctx (satisfy accept) pos := by
  refine (reads_peek h).bind_fails ?_
  rw [hreject]
  exact fails_fail

theorem reads_satisfy {accept : Token → Bool} (haccept : accept token = true) :
    Reads ctx (satisfy accept) pos token (pos + 1) := by
  have hskip : Reads ctx skip pos () (pos + 1) := by
    intro s hs
    exact ⟨{ s with pos := s.pos + 1 }, rfl, by rw [← hs], rfl⟩
  refine (reads_peek h).bind ?_
  rw [haccept]
  exact hskip.bind reads_pure

theorem fails_mark (hkind : token.kind ≠ .mark) (text : String) : Fails ctx (mark text) pos :=
  fails_satisfy h (by simp [hkind])

theorem fails_word (hkind : token.kind ≠ .word) (text : String) : Fails ctx (word text) pos :=
  fails_satisfy h (by simp [hkind])

theorem fails_ofKind {kind : TokenKind} (hkind : token.kind ≠ kind) :
    Fails ctx (ofKind kind) pos :=
  fails_satisfy h (by simp [hkind])

theorem fails_name (hkind : token.kind ≠ .word) : Fails ctx name pos :=
  (fails_satisfy h (by simp [hkind])).bind

end Tokens

/-! ## Rules -/

/-- The context of the first reading, with a bound on how deep rules may call one another. -/
def plainContext (stream : TokenStream) (embed : FieldReader) (depth : Nat) : Context :=
  contextOf embed (run depth) stream false false

/-- A parser reads the first token, however replacement fields would be read. -/
def OpensAt {α : Type} (stream : TokenStream) (depth : Nat) (p : Parser α) (a : α) : Prop :=
  ∀ embed, Opens (plainContext stream embed depth) p a

section Rules

variable {stream : TokenStream} {embed : FieldReader} {depth : Nat} (rule : Rule)
  {value : rule.Result}

theorem kept?_head (found : Option (rule.Result × Nat)) (rest : List Kept) :
    kept? rule (⟨rule, found⟩ :: rest) = some found := by
  rw [kept?, dif_pos rfl]

/-- A rule that is called for the first time at the start keeps its outcome there. -/
theorem call_start (hkept : rule.isKept = true) (hbody : OpensAt stream depth (body rule) value)
    (s : State) (hs : s.pos = 0) (hfresh : s.memo.getD 0 [] = []) (hsize : 0 < s.memo.size) :
    ∃ t, call rule (plainContext stream embed (depth + 1)) s = .ok value t ∧ t.pos = 1 ∧
      0 < t.memo.size ∧ kept? rule (t.memo.getD 0 []) = some (some (value, 1)) := by
  obtain ⟨t, hrun, hpos, hsize'⟩ :=
    hbody (readEmbedded (contextOf noFields (run depth))) s hs hfresh hsize
  refine ⟨t.keep 0 ⟨rule, some (value, 1)⟩, ?_, hpos, ?_, ?_⟩
  · change remembered rule (body rule (plainContext stream
      (readEmbedded (contextOf noFields (run depth))) depth)) s = _
    rw [remembered, hkept]
    simp only [hs, hfresh, kept?, hrun, hpos]
    rfl
  · rw [State.keep, Array.size_modify]
    exact hsize'
  · have hentry : (t.keep 0 ⟨rule, some (value, 1)⟩).memo.getD 0 [] =
        ⟨rule, some (value, 1)⟩ :: t.memo[0] := by
      rw [State.keep, Array.getD_eq_getD_getElem?,
        Array.getElem?_eq_getElem (by rw [Array.size_modify]; exact hsize'), Option.getD_some,
        Array.getElem_modify_self]
    rw [hentry, kept?_head]

/-- A rule whose outcome has been kept yields it again. -/
theorem call_again (hkept : rule.isKept = true) {s : State} {next : Nat}
    (h : kept? rule (s.memo.getD s.pos []) = some (some (value, next))) :
    call rule (plainContext stream embed (depth + 1)) s = .ok value { s with pos := next } := by
  change remembered rule (body rule (plainContext stream
    (readEmbedded (contextOf noFields (run depth))) depth)) s = _
  rw [remembered, hkept]
  simp only [h]
  rfl

theorem opensAt_call (hkept : rule.isKept = true) (hbody : OpensAt stream depth (body rule) value) :
    OpensAt stream (depth + 1) (call rule) value := by
  intro embed s hs hfresh hsize
  obtain ⟨t, hcall, hpos, hsize', -⟩ := call_start rule hkept hbody s hs hfresh hsize
  exact ⟨t, hcall, hpos, hsize'⟩

/-- A first alternative that begins with a rule and fails behind it leaves the outcome of the rule
to the second one. -/
theorem opens_orElse_call (hkept : rule.isKept = true)
    (hbody : OpensAt stream depth (body rule) value) {f : rule.Result → Parser rule.Result}
    {q : Parser rule.Result} (hf : Fails (plainContext stream embed (depth + 1)) (f value) 1) :
    Opens (plainContext stream embed (depth + 1)) ((call rule >>= f) <|> (call rule <|> q))
      value := by
  intro s hs hfresh hsize
  obtain ⟨t, hcall, hpos, hsize', hfound⟩ := call_start rule hkept hbody s hs hfresh hsize
  obtain ⟨u, hfail, hmemo⟩ := hf t hpos
  have hagain : kept? rule (u.memo.getD s.pos []) = some (some (value, 1)) := by
    rw [hs, hmemo, hfound]
  refine ⟨{ u with pos := 1 }, ?_, rfl, ?_⟩
  · rw [orElse_of_fail ((bind_of_ok hcall).trans hfail)]
    exact orElse_of_ok (call_again rule hkept hagain) q
  · change 0 < u.memo.size
    rw [hmemo]
    exact hsize'

end Rules

theorem attempt_of_ok {α : Type} {context : Bool → Context} {goal : Parser α} {value : α}
    {t : State} (h : goal (context false) (startState (context false).stream 0) = .ok value t) :
    attempt context goal = .ok value := by
  simp only [attempt, h]

/-! ## The levels of an expression -/

/-- A stream of one token that is neither a mark nor a word, and of the end. -/
structure IsLone (stream : TokenStream) (token finish : Token) : Prop where
  first : stream.tokens[0]? = some token
  second : stream.tokens[1]? = some finish
  ne_mark : token.kind ≠ .mark
  ne_word : token.kind ≠ .word
  ends : finish.kind = .scriptEnd

namespace IsLone

variable {stream : TokenStream} {token finish : Token} (h : IsLone stream token finish)
  {embed : FieldReader} {depth : Nat} {node : Node}
include h

theorem finish_ne {kind : TokenKind} (hkind : kind ≠ .scriptEnd) : finish.kind ≠ kind := by
  rw [h.ends]
  exact hkind.symm

theorem fails_mark_second (text : String) :
    Fails (plainContext stream embed depth) (mark text) 1 :=
  fails_mark h.second (h.finish_ne (by decide)) text

theorem fails_word_second (text : String) :
    Fails (plainContext stream embed depth) (word text) 1 :=
  fails_word h.second (h.finish_ne (by decide)) text

theorem fails_mark_first (text : String) :
    Fails (plainContext stream embed depth) (mark text) 0 :=
  fails_mark h.first h.ne_mark text

theorem fails_word_first (text : String) :
    Fails (plainContext stream embed depth) (word text) 0 :=
  fails_word h.first h.ne_word text

theorem opensAt_primaryBody (hatom : OpensAt stream depth atom node) :
    OpensAt stream depth primaryBody node := by
  intro embed
  refine (reads_here h.first).bind_opens ((hatom embed).extended ?_)
  have hgenerator : Fails (plainContext stream embed depth) generator 1 :=
    (reads_here h.second).bind_fails
      ((h.fails_mark_second "(").discard.bind.orElse (fails_explaining rfl))
  exact (h.fails_mark_second ".").discard.bind.orElse
    (hgenerator.bind.orElse
      ((h.fails_mark_second "(").discard.bind.orElse (h.fails_mark_second "[").discard.bind))

theorem opensAt_awaitPrimaryBody (hprimary : OpensAt stream depth (call .primary) node) :
    OpensAt stream depth awaitPrimaryBody node := by
  intro embed
  refine (reads_here h.first).bind_opens ?_
  exact (h.fails_word_first "await").discard.bind.orElse_opens (hprimary embed)

theorem opensAt_factorBody (hoperand : OpensAt stream depth (call .awaitPrimary) node) :
    OpensAt stream depth factorBody node := by
  intro embed
  refine (reads_here h.first).bind_opens ?_
  refine (h.fails_mark_first "+").discard.bind.orElse_opens ?_
  refine (h.fails_mark_first "-").discard.bind.orElse_opens ?_
  refine (h.fails_mark_first "~").discard.bind.orElse_opens ?_
  refine (reads_here h.first).bind_opens ((hoperand embed).bind ?_)
  exact (reads_maybe (h.fails_mark_second "**").discard.bind).bind reads_pure

theorem opensAt_chain {operand : Parser Node} (ops : List (String × BinaryOp))
    (hoperand : OpensAt stream depth operand node) :
    OpensAt stream depth (chain operand ops) node := by
  intro embed
  refine (reads_here h.first).bind_opens ((hoperand embed).extended ?_)
  refine (reads_peek h.second).bind_fails ?_
  have hkind : (finish.kind == .mark) = false :=
    beq_eq_false_iff_ne.mpr (h.finish_ne (by decide))
  rw [hkind]
  exact fails_fail

theorem opensAt_inversionBody (hoperand : OpensAt stream depth (call .bitwiseOr) node) :
    OpensAt stream depth inversionBody node := by
  intro embed
  have hop : Fails (plainContext stream embed depth) comparisonOp 1 := by
    iterate 6 refine Fails.orElse (h.fails_mark_second _).discard.bind ?_
    iterate 3 refine Fails.orElse (h.fails_word_second _).discard.bind ?_
    exact (h.fails_word_second _).discard.bind
  refine (reads_here h.first).bind_opens ?_
  refine (h.fails_word_first "not").discard.bind.orElse_opens ?_
  refine (reads_here h.first).bind_opens ((hoperand embed).bind ?_)
  exact (reads_many hop.bind).bind reads_pure

theorem opensAt_joinedBy {operand : Parser Node} (op : BoolOp) (text : String)
    (hoperand : OpensAt stream depth operand node) :
    OpensAt stream depth (joinedBy op text operand) node := by
  intro embed
  refine (reads_here h.first).bind_opens ((hoperand embed).bind ?_)
  exact (reads_many (h.fails_word_second text).discard.bind).bind reads_pure

/-- The first alternative reads the operand of a condition that does not follow; the second finds
it kept. -/
theorem opensAt_expressionBody (hbody : OpensAt stream depth disjunctionBody node) :
    OpensAt stream (depth + 1) expressionBody node := by
  intro embed
  refine Fails.orElse_opens (fails_explaining rfl) ?_
  refine Fails.orElse_opens (fails_explaining rfl) ?_
  refine (reads_here h.first).bind_opens ?_
  exact opens_orElse_call .disjunction rfl hbody (h.fails_word_second "if").discard.bind

/-- What the atom reads is what the whole expression reads. -/
theorem opensAt_expression (hatom : OpensAt stream depth atom node) :
    OpensAt stream (depth + 13) (call .expression) node := by
  have hprimary := opensAt_call .primary rfl (h.opensAt_primaryBody hatom)
  have hawait := opensAt_call .awaitPrimary rfl (h.opensAt_awaitPrimaryBody hprimary)
  have hfactor := opensAt_call .factor rfl (h.opensAt_factorBody hawait)
  have hterm := opensAt_call .term rfl (h.opensAt_chain _ hfactor)
  have hsum := opensAt_call .sum rfl (h.opensAt_chain _ hterm)
  have hshift := opensAt_call .shiftExpr rfl (h.opensAt_chain _ hsum)
  have hand := opensAt_call .bitwiseAnd rfl (h.opensAt_chain _ hshift)
  have hxor := opensAt_call .bitwiseXor rfl (h.opensAt_chain _ hand)
  have hor := opensAt_call .bitwiseOr rfl (h.opensAt_chain _ hxor)
  have hinversion := opensAt_call .inversion rfl (h.opensAt_inversionBody hor)
  have hconjunction := opensAt_call .conjunction rfl (h.opensAt_joinedBy .and "and" hinversion)
  have hdisjunction : OpensAt stream (depth + 11) disjunctionBody node :=
    h.opensAt_joinedBy .or "or" hconjunction
  exact opensAt_call .expression rfl (h.opensAt_expressionBody hdisjunction)

/-- Nothing follows the expression. -/
theorem opensAt_expressions (hatom : OpensAt stream depth atom node) :
    OpensAt stream (depth + 13) expressions node := by
  intro embed
  refine (reads_here h.first).bind_opens ((h.opensAt_expression hatom embed).bind ?_)
  refine (reads_many (h.fails_mark_second ",").discard.bind).bind ?_
  exact (reads_maybe (h.fails_mark_second ",")).bind reads_pure

theorem attempt_onlyExpression (hatom : OpensAt stream depth atom node) (embed : FieldReader) :
    attempt (contextOf embed (run (depth + 13)) stream false) onlyExpression = .ok node := by
  have hsize : 0 < (startState stream 0).memo.size := by
    rw [startState, Array.size_replicate]
    exact Nat.succ_pos _
  have hfresh : (startState stream 0).memo.getD 0 [] = [] := by
    rw [Array.getD_eq_getD_getElem?, Array.getElem?_eq_getElem hsize, Option.getD_some]
    exact Array.getElem_replicate ..
  have hlines : Fails (plainContext stream embed (depth + 13)) lineEnd 1 :=
    fails_ofKind h.second (h.finish_ne (by decide))
  have hend : Reads (plainContext stream embed (depth + 13)) scriptEnd 1 finish 2 :=
    reads_satisfy h.second (by simp [h.ends])
  obtain ⟨t, ht, hpos, -⟩ := h.opensAt_expressions hatom embed _ rfl hfresh hsize
  have htail : Reads (plainContext stream embed (depth + 13))
      (do discard (many lineEnd); discard scriptEnd; return node) 1 node 2 :=
    (reads_many hlines).discard.bind (hend.discard.bind reads_pure)
  obtain ⟨u, hu, -⟩ := htail t hpos
  exact attempt_of_ok ((bind_of_ok ht).trans hu)

end IsLone

/-! ## Atoms of a single token -/

section Atoms

variable {stream : TokenStream} {token finish : Token} (h : IsLone stream token finish)
  {depth : Nat}
include h

/-- A number is read by its numeral. -/
theorem opensAt_number {value : Literal} (hkind : token.kind = .number)
    (hvalue : Literal.ofNumeral token.text = .ok value) :
    OpensAt stream depth atom (leaf (.literal value) token.line) := by
  intro embed
  have htext : token.kind ≠ .text := by
    rw [hkind]
    decide
  have hnumber : Reads (plainContext stream embed depth) number 0
      (leaf (.literal value) token.line) 1 := by
    refine (reads_satisfy h.first (by simp [hkind])).bind ?_
    rw [hvalue]
    exact reads_pure
  refine (fails_name h.first h.ne_word).bind.orElse_opens ?_
  iterate 3 refine (h.fails_word_first _).bind.orElse_opens ?_
  refine (fails_ahead (fails_ofKind h.first htext)).bind.orElse_opens ?_
  exact hnumber.opens.orElse

theorem opensAt_stringsBody {texts : Texts} (hkind : token.kind = .text)
    (htexts : ∀ read, readTexts read [token] = .ok texts) :
    OpensAt stream depth stringsBody (leaf texts.expr token.line texts.isWorded_expr) := by
  intro embed
  have hnext : Fails (plainContext stream embed depth) (ofKind .text) 1 :=
    fails_ofKind h.second (h.finish_ne (by decide))
  have htokens : Reads (plainContext stream embed depth) (many1 (ofKind .text)) 0 [token] 1 :=
    (reads_satisfy h.first (by simp [hkind])).bind ((reads_many hnext).bind reads_pure)
  have hcontext : Reads (plainContext stream embed depth) getContext 1
      (plainContext stream embed depth) 1 := fun s hs => ⟨s, rfl, hs, rfl⟩
  refine Reads.opens ((reads_here h.first).bind (htokens.bind (hcontext.bind ?_)))
  dsimp only
  rw [htexts]
  exact reads_pure

/-- A text is read by what stands between its quotes, without fields. -/
theorem opensAt_text {texts : Texts} (hkind : token.kind = .text)
    (htexts : ∀ read, readTexts read [token] = .ok texts) :
    OpensAt stream (depth + 1) atom (leaf texts.expr token.line texts.isWorded_expr) := by
  intro embed
  have hstrings : OpensAt stream (depth + 1) (call .strings) _ :=
    opensAt_call .strings rfl (opensAt_stringsBody h hkind htexts)
  have hahead : Reads (plainContext stream embed (depth + 1)) (ahead (ofKind .text)) 0 () 0 :=
    reads_ahead (reads_satisfy h.first (by simp [hkind]))
  refine (fails_name h.first h.ne_word).bind.orElse_opens ?_
  iterate 3 refine (h.fails_word_first _).bind.orElse_opens ?_
  exact (hahead.bind_opens (hstrings embed)).orElse

end Atoms

end HubScript.Grammar
