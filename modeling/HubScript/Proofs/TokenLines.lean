import HubScript.Script.Grammar.Reading

/-!
# Tokens are on lines counted from one

The lexer starts on the first line of a script and never goes back, so every token of a script is on
a line that is counted from one. Statements start on lines of tokens, and so their lines are those
of their tokens.
-/
namespace HubScript

namespace Lexer

/-- A step on lines counted from one: its tokens are on such lines, and what comes next is. -/
def Step.Counted : Step → Prop
  | .go tokens next => (∀ token ∈ tokens, 0 < token.line) ∧ 0 < next.line
  | .done token => 0 < token.line
  | .stop _ => True

theorem token_counted {s : State} (h : 0 < s.line) (kind : TokenKind) (rest : List Char) :
    (s.token kind rest).Counted :=
  ⟨List.forall_mem_singleton.mpr h, h⟩

theorem le_of_closeText {quote : Char} {total line : Nat} {cs : List Char} {found : Nat × List Char}
    (h : closeText quote total line cs = .ok found) : line ≤ found.1 := by
  fun_induction closeText quote total line cs <;> grind

theorem le_of_closeBlock {quote : Char} {total line : Nat} {cs : List Char}
    {found : Nat × List Char} (h : closeBlock quote total line cs = .ok found) :
    line ≤ found.1 := by
  fun_induction closeBlock quote total line cs <;> grind

theorem le_of_measure {m m' : Margin} {line line' : Nat} {cs rest : List Char}
    (h : measure m line cs = .ok m' rest line') : line ≤ line' := by
  fun_induction measure m line cs <;> grind

theorem text_counted {s : State} (h : 0 < s.line) (total : Nat) (quote : Char)
    (rest : List Char) : (text s total quote rest).Counted := by
  have hemit {found : Nat × List Char} (hle : s.line ≤ found.1) (written : String) :
      (Step.go [⟨.text, written, s.line, found.1, s.brackets.length⟩]
        { s with rest := found.2, line := found.1 }).Counted :=
    ⟨List.forall_mem_singleton.mpr h, Nat.lt_of_lt_of_le h hle⟩
  rw [text]
  split
  · split
    · rename_i found hfound
      exact hemit (le_of_closeBlock hfound) _
    · trivial
  · split
    · rename_i found hfound
      exact hemit (le_of_closeText hfound) _
    · trivial

theorem ending_counted (s : State) (total : Nat) : (s.ending total).Counted := by
  unfold State.ending
  split <;> trivial

theorem plainWord_counted {s : State} (h : 0 < s.line) : (plainWord s).Counted := by
  unfold plainWord
  dsimp only
  split
  · exact token_counted h _ _
  · trivial

theorem word_counted {s : State} (h : 0 < s.line) (total : Nat) : (word s total).Counted := by
  have hplain := plainWord_counted h
  unfold word
  split
  · split
    · exact text_counted h _ _ _
    · split
      · split
        · exact text_counted h _ _ _
        · exact hplain
      · exact hplain
  · exact hplain

theorem mark_counted {s : State} (h : 0 < s.line) (c : Char) (rest : List Char) :
    (mark s c rest).Counted := by
  have htoken (brackets : List (Char × Nat)) : ({ s with brackets }.token .mark rest).Counted :=
    token_counted (s := { s with brackets }) h _ _
  unfold mark
  split
  · exact token_counted h _ _
  · split
    · split
      · trivial
      · exact htoken _
    · split
      · split
        · trivial
        · split
          · exact htoken _
          · trivial
      · split
        · trivial
        · exact token_counted h _ _

/-- A number that is read or refused. -/
theorem number_counted {s : State} (h : 0 < s.line) (scanned : Numeral.Scan) :
    (match scanned with
      | .ok rest => s.token .number rest
      | .error cause => s.fault cause s.line true : Step).Counted := by
  cases scanned with
  | ok rest => exact token_counted h _ _
  | error cause => trivial

theorem within_counted {s : State} (h : 0 < s.line) {total : Nat} (htotal : 0 < total)
    (blank : Bool) : (within total blank s).Counted := by
  -- Blanks and a comment are passed, which leaves the line.
  have hgap : 0 < ({ s with rest := skipGap s.rest, atLineStart := false } : State).line := h
  have hword := word_counted hgap total
  have htext (quote : Char) (rest : List Char) := text_counted hgap total quote rest
  have hmark (c : Char) (rest : List Char) := mark_counted hgap c rest
  have hnumber (scanned : Numeral.Scan) := number_counted hgap scanned
  unfold within
  dsimp only
  split
  · split
    · exact htotal
    · exact ending_counted _ total
  · split
    · exact ⟨nofun, Nat.succ_pos _⟩
    · exact ⟨List.forall_mem_singleton.mpr h, Nat.succ_pos _⟩
  · split
    · exact ending_counted _ total
    · exact ⟨nofun, Nat.succ_pos _⟩
    · trivial
  · split
    · exact hnumber _
    · exact hmark _ _
  · split
    · exact hword
    · split
      · exact hnumber _
      · split
        · exact htext _ _
        · exact hmark _ _

theorem indentation_counted {s : State} (h : 0 < s.line) (wide narrow : Nat) {here : Nat}
    (hhere : 0 < here) : (indentation s wide narrow here).Counted := by
  unfold indentation
  dsimp only
  split
  · split
    · exact ⟨nofun, h⟩
    · trivial
  · split
    · split
      · trivial
      · split
        · trivial
        · exact ⟨List.forall_mem_singleton.mpr hhere, h⟩
    · split
      · trivial
      · split
        · trivial
        · exact ⟨List.forall_mem_replicate.mpr (.inr hhere), h⟩

theorem step_counted {s : State} (h : 0 < s.line) {total : Nat} (htotal : 0 < total) :
    (step total s).Counted := by
  unfold step
  split
  · exact within_counted h htotal false
  · split
    · exact ending_counted s total
    · trivial
    · rename_i m rest line hmeasure
      have hline : 0 < line := Nat.lt_of_lt_of_le h (le_of_measure hmeasure)
      have hnext : 0 < ({ s with rest, line, atLineStart := false } : State).line := hline
      have hwithin (blank : Bool) := within_counted hnext htotal blank
      have hhere : 0 < if rest.isEmpty then total else line := by
        split
        · exact htotal
        · exact hline
      dsimp only
      split
      · exact hwithin _
      · have hindentation (wide narrow : Nat) := indentation_counted hnext wide narrow hhere
        split
        · rename_i next hgo
          have hcounted : (Step.go [] next).Counted := hgo ▸ hindentation _ _
          exact within_counted hcounted.2 htotal false
        · exact hindentation _ _

theorem run_counted {total fuel : Nat} (htotal : 0 < total) {s : State} (h : 0 < s.line)
    {tokens : Array Token} (htokens : ∀ token ∈ tokens, 0 < token.line) :
    ∀ token ∈ (run total fuel s tokens).tokens, 0 < token.line := by
  induction fuel generalizing s tokens with
  | zero => exact htokens
  | succ fuel ih =>
    have hstep := step_counted h htotal
    rw [run]
    generalize step total s = result at hstep
    cases result with
    | go new next =>
      refine ih hstep.2 fun token htoken => ?_
      rcases Array.mem_append.mp htoken with htoken | htoken
      · exact htokens token htoken
      · exact hstep.1 token (List.mem_toArray.mp htoken)
    | done last =>
      intro token htoken
      rcases Array.mem_push.mp htoken with htoken | rfl
      · exact htokens token htoken
      · exact hstep
    | stop stop => exact htokens

end Lexer

theorem Lexer.lineCount_pos {cs : List Char} (h : cs ≠ []) : 0 < lineCount cs := by
  unfold lineCount
  split
  · rename_i hlast
    exact absurd (List.getLast?_eq_none_iff.mp hlast) h
  · rename_i c hlast
    split
    · rename_i hfeed
      exact List.countP_pos_iff.mpr ⟨c, List.mem_of_getLast? hlast, hfeed⟩
    · exact Nat.succ_pos _

/-- The last line of a script is closed, so that there is always something to read. -/
theorem Lexer.prepare_ne_nil (cs : List Char) : prepare .script cs ≠ [] := by
  cases cs with
  | nil => decide
  | cons c rest =>
    have hunified : unifyEnds false (c :: rest) ≠ [] := by
      rw [unifyEnds]
      split
      · exact List.cons_ne_nil _ _
      · exact List.cons_ne_nil _ _
    unfold prepare
    dsimp only
    split
    · exact List.append_ne_nil_of_left_ne_nil hunified _
    · exact hunified

/-- The tokens of a script are on lines counted from one, if its first line is. -/
theorem TokenStream.ofChars_counted {firstLine : Nat} (h : 0 < firstLine) (cs : List Char) :
    ∀ token ∈ (TokenStream.ofChars .script firstLine cs).tokens, 0 < token.line := by
  have hlines := Lexer.lineCount_pos (Lexer.prepare_ne_nil cs)
  rw [TokenStream.ofChars]
  exact Lexer.run_counted (by omega) h (by simp)

namespace Grammar

theorem peek_mem {ctx : Context} {s next : State} {token : Token}
    (h : peek ctx s = .ok token next) : token ∈ ctx.stream.tokens := by
  unfold peek at h
  split at h
  · rename_i found hfound
    obtain ⟨rfl, -⟩ := Reply.ok.inj h
    exact Array.mem_of_getElem? hfound
  · split at h
    · cases h
    · rename_i last hlast
      obtain ⟨rfl, -⟩ := Reply.ok.inj h
      exact Array.mem_of_back? hlast
    · cases h

/-- A statement that starts at a token keeps the line of the token. -/
theorem spanFrom_here {ctx : Context} (hctx : ∀ token ∈ ctx.stream.tokens, 0 < token.line)
    {s next : State} {line : Nat} (h : here ctx s = .ok line next) (later : State) :
    ∃ span, spanFrom line ctx later = .ok span later ∧ span.first = line ∧
      span.last = lastLineBefore ctx.stream.tokens later.pos := by
  have hline : 0 < line := by
    cases hpeek : peek ctx s with
    | ok token rest =>
      simp only [here, bind, hpeek] at h
      obtain ⟨rfl, -⟩ := Reply.ok.inj h
      exact hctx token (peek_mem hpeek)
    | fail rest =>
      simp only [here, bind, hpeek] at h
      cases h
    | raise raised =>
      simp only [here, bind, hpeek] at h
      cases h
  refine ⟨⟨line, lastLineBefore ctx.stream.tokens later.pos, hline⟩, ?_, rfl, rfl⟩
  rw [spanFrom, Span.of_eq hline]

end Grammar

end HubScript
