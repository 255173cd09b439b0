import HubScript.Script.Word

/-!
# Rules of the grammar

The rules that refer to one another in circles, and what each yields. Within the parser an
expression carries the line it starts on, and those of its parts that can be targets. The names in
expressions and statements are words by construction.
-/
namespace HubScript.Grammar

/-- An expression with its line. `parts` are the items of a list or tuple, the inner expression of
a starred one, or the first operand of a comparison. -/
inductive Node where
  | mk (expr : Expr) (line : Nat) (parts : List Node) (worded : expr.isWorded = true)

namespace Node

def expr : Node → Expr | .mk expr _ _ _ => expr
def line : Node → Nat | .mk _ line _ _ => line
def parts : Node → List Node | .mk _ _ parts _ => parts

theorem worded : (node : Node) → node.expr.isWorded = true | .mk _ _ _ worded => worded

theorem both_worded (left right : Node) : (left.expr.isWorded && right.expr.isWorded) = true :=
  Bool.and_eq_true_iff.mpr ⟨left.worded, right.worded⟩

end Node

/-- The arguments of a call: those by position, starred ones among them, and those by name. -/
structure CallArguments where
  positional : List Node
  named : List WordedKeyword

inductive Rule where
  | simpleStmt
  | block
  | elifStmt
  | expression
  | starExpression
  | disjunction
  | conjunction
  | inversion
  | bitwiseOr
  | bitwiseXor
  | bitwiseAnd
  | shiftExpr
  | sum
  | term
  | factor
  | awaitPrimary
  | primary
  | strings
  | arguments
  | starTarget
  | targetWithStarAtom
  | singleTarget
  | targetPrimary
  | delTarget
  | hintedTarget
  | closedPattern
  | starPattern
  | namedMistake
  deriving DecidableEq, Repr

namespace Rule

/-- What a rule yields. -/
abbrev Result : Rule → Type
  | .simpleStmt => WordedStmt
  | .block => List WordedStmt
  | .elifStmt => WordedStmt
  | .arguments => CallArguments
  | .delTarget => Unit
  | .closedPattern => Unit
  | .starPattern => Unit
  | .namedMistake => Unit
  | _ => Node

/-- Whether the outcome of a rule at a place is kept for the next time. -/
def isKept : Rule → Bool
  | .elifStmt => false
  | .singleTarget => false
  | .hintedTarget => false
  | _ => true

end Rule

end HubScript.Grammar
