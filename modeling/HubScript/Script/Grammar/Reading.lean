import HubScript.Script.Lexer
import HubScript.Script.Grammar.Statement

/-!
# Reading a script

A script is read once with the plain grammar. If that fails, it is read again with the alternatives
that explain mistakes; what they raise is the fault. Otherwise the token that was fetched last in
the first reading is at fault. In either case a fault further on in the token stream, where the
reading never came, takes precedence, and so does a bracket that was never closed.
-/
namespace HubScript.Grammar

def body : (rule : Rule) → Parser rule.Result
  | .simpleStmt => simpleStmtBody
  | .block => blockBody
  | .elifStmt => elifStmtBody
  | .expression => expressionBody
  | .starExpression => starExpressionBody
  | .disjunction => disjunctionBody
  | .conjunction => conjunctionBody
  | .inversion => inversionBody
  | .bitwiseOr => bitwiseOrBody
  | .bitwiseXor => bitwiseXorBody
  | .bitwiseAnd => bitwiseAndBody
  | .shiftExpr => shiftExprBody
  | .sum => sumBody
  | .term => termBody
  | .factor => factorBody
  | .awaitPrimary => awaitPrimaryBody
  | .primary => primaryBody
  | .strings => stringsBody
  | .arguments => argumentsBody
  | .starTarget => starTargetBody
  | .targetWithStarAtom => targetWithStarAtomBody
  | .singleTarget => singleTargetBody
  | .targetPrimary => targetPrimaryBody
  | .delTarget => delTargetBody
  | .hintedTarget => hintedTargetBody
  | .closedPattern => closedPatternBody
  | .starPattern => starPatternBody
  | .namedMistake => namedMistakeBody

/-- The outcome kept for a rule at a place. -/
def kept? (rule : Rule) : List Kept → Option (Option (rule.Result × Nat))
  | [] => none
  | entry :: rest =>
    if h : entry.rule = rule then some (h ▸ entry.found) else kept? rule rest

def State.keep (s : State) (place : Nat) (entry : Kept) : State :=
  { s with memo := s.memo.modify place (entry :: ·) }

/-- Uses the outcome kept for a rule, or runs the rule and keeps its outcome. -/
def remembered (rule : Rule) (run : State → Reply rule.Result) (s : State) : Reply rule.Result :=
  if !rule.isKept then run s
  else
    let place := s.pos
    match kept? rule (s.memo.getD place []) with
    | some (some (value, pos)) => .ok value { s with pos }
    | some none => .fail s
    | none =>
      match run s with
      | .ok value s => .ok value (s.keep place ⟨rule, some (value, s.pos)⟩)
      | .fail s => .fail (State.keep { s with pos := place } place ⟨rule, none⟩)
      | .raise r => .raise r

/-- How rules are run on a token stream: whether it is that of a replacement field, and whether
mistakes are explained. -/
abbrev Runner := TokenStream → Bool → Bool → (rule : Rule) → State → Reply rule.Result

def startState (stream : TokenStream) (fetched : Nat) : State :=
  ⟨0, fetched, Array.replicate (stream.tokens.size + 2) []⟩

/-- The fault to report, given one that was raised: a stop of the token stream that lies further
on may be more to the point. -/
def settle (ctx : Context) (raised : Raised) : Fault :=
  if raised.atStop then raised.fault
  else
    match ctx.stream.stop with
    | none => raised.fault
    | some stop =>
      if stop.direct then ⟨stop.cause, some stop.line⟩
      else
        match stop.bracket with
        | none => raised.fault
        | some (opening, line) =>
          if line < ctx.lineOf (raised.fetched - 1) then
            ⟨ctx.shown (.neverClosed opening), some line⟩
          else raised.fault

/-- The fault when no mistake could be explained. -/
def unexplained (ctx : Context) (last : Option Token) (fetched : Nat) : Fault :=
  let recent := some (ctx.lineOf (fetched - 1))
  match last with
  | none => ⟨ctx.shown .invalid, recent⟩
  | some token =>
    if token.kind == .indent then ⟨ctx.shown .unexpectedIndent, recent⟩
    else if token.kind == .dedent then ⟨ctx.shown .unexpectedUnindent, recent⟩
    else settle ctx ⟨⟨ctx.shown .invalid, some token.line⟩, fetched, false⟩

/-- Reads a goal in two attempts. -/
def attempt {α : Type} (context : Bool → Context) (goal : Parser α) : Except Fault α :=
  let plain := context false
  match goal plain (startState plain.stream 0) with
  | .ok value _ => .ok value
  | .raise raised => .error (settle plain raised)
  | .fail first =>
    let last := plain.stream.tokens[first.fetched - 1]?
    let explain := context true
    match goal explain (startState plain.stream first.fetched) with
    | .raise raised => .error (settle explain raised)
    | .ok _ second => .error (unexplained explain last second.fetched)
    | .fail second => .error (unexplained explain last second.fetched)

/-- The expression of a replacement field is read as if it stood in round brackets. -/
def readEmbedded (context : TokenStream → Bool → Bool → Context) (cs : List Char) (line : Nat) :
    Except Fault Expr :=
  let stream := TokenStream.ofChars .script line ('(' :: cs ++ [')'])
  (attempt (context stream true) starExpressions).map Node.expr

/-- Reads the expression of a replacement field that starts at a line. -/
abbrev FieldReader := List Char → Nat → Except Fault Expr

/-- The start rules call other rules for their texts and meet no fields of their own. -/
def noFields : FieldReader := fun _ line => .error ⟨.fieldTooDeep, some line⟩

/-- A context in which rules are run by a given runner. -/
def contextOf (embed : FieldReader) (run : Runner) (stream : TokenStream)
    (embedded explain : Bool) : Context where
  stream := stream
  embedded := embedded
  explain := explain
  call := run stream embedded
  embed := embed

/-- Runs a rule with a bound on how deep rules may call one another. -/
def run : Nat → Runner
  | 0 => fun _ _ _ _ s => .raise ⟨⟨.invalid, none⟩, s.fetched, true⟩
  | depth + 1 => fun stream embedded explain rule s =>
    let embed : FieldReader := readEmbedded (contextOf noFields (run depth))
    remembered rule (body rule (contextOf embed (run depth) stream embedded explain)) s

/-- Rules call one another less often than this between two tokens. -/
def rulesPerToken : Nat := 100

/-- Reads a text with a start rule. -/
def read {α : Type} (mode : Lexer.Mode) (goal : Parser α) (source : String) : Except Fault α :=
  let cs := source.toList
  if cs.contains '\x00' then .error ⟨.nullCharacter, none⟩
  else
    let stream := TokenStream.ofChars mode 1 cs
    let depth := rulesPerToken * (cs.length + 10)
    attempt (contextOf noFields (run depth) stream false) goal

end Grammar

/-- The statements of a script. -/
def readScript (source : String) : Except Fault (List Stmt) :=
  (Grammar.read .script Grammar.script source).map WordedStmt.plain

/-- The names of a script are words. -/
theorem allWorded_of_readScript {source : String} {stmts : List Stmt}
    (h : readScript source = .ok stmts) : Stmt.allWorded stmts = true := by
  unfold readScript at h
  cases hread : Grammar.read .script Grammar.script source with
  | error fault =>
    rw [hread] at h
    cases h
  | ok worded =>
    rw [hread] at h
    obtain rfl := Except.ok.inj h
    exact WordedStmt.allWorded_plain worded

/-- The expression that a text consists of. -/
def readExpr (source : String) : Except Fault Expr :=
  (Grammar.read .expression Grammar.onlyExpression source).map Grammar.Node.expr

end HubScript
