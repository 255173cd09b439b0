import HubScript.Script.Grammar.Parser

/-!
# What can be assigned to

The names that messages use for kinds of expressions, and the first part of an expression that
keeps it from being a target.
-/
namespace HubScript

/-- A kind of expression as messages call it. -/
def Expr.phrase : Expr → String
  | .name _ => "name"
  | .literal .none => "None"
  | .literal (.bool true) => "True"
  | .literal (.bool false) => "False"
  | .literal .ellipsis => "ellipsis"
  | .literal _ => "literal"
  | .unary .. => "expression"
  | .binary .. => "expression"
  | .boolean .. => "expression"
  | .compare .. => "comparison"
  | .conditional .. => "conditional expression"
  | .lambda .. => "lambda"
  | .call .. => "function call"
  | .attribute .. => "attribute"
  | .subscript .. => "subscript"
  | .slice .. => "slice"
  | .starred _ => "starred"
  | .list _ => "list"
  | .tuple _ => "tuple"
  | .set _ => "set display"
  | .dict _ => "dict literal"
  | .comprehension .list _ _ => "list comprehension"
  | .comprehension .set _ _ => "set comprehension"
  | .comprehension .generator _ _ => "generator expression"
  | .dictComprehension .. => "dict comprehension"
  | .joined _ => "f-string expression"
  | .assigned .. => "named expression"
  | .await _ => "await expression"
  | .yield _ => "yield expression"
  | .yieldFrom _ => "yield expression"

namespace Grammar

inductive TargetUse where
  | assign
  | delete
  | loop
  deriving DecidableEq, Repr

/-- How the expression of a node bears on its use as a target. -/
inductive Fitness where
  | fits
  | unfit
  /-- It fits if all its parts do. -/
  | byParts

def fitness (use : TargetUse) : Expr → Fitness
  | .name _ => .fits
  | .attribute .. => .fits
  | .subscript .. => .fits
  | .list _ => .byParts
  | .tuple _ => .byParts
  | .starred _ => if use = .delete then .unfit else .byParts
  | .compare _ (link :: _) =>
    if use = .loop then (if link.op = .member then .byParts else .fits) else .unfit
  | _ => .unfit

mutual

/-- The first part of a node that is no target. -/
def firstUnfit (use : TargetUse) : Node → Option Node
  | .mk expr line parts worded =>
    match fitness use expr with
    | .fits => none
    | .unfit => some (.mk expr line parts worded)
    | .byParts => firstUnfitOf use parts

def firstUnfitOf (use : TargetUse) : List Node → Option Node
  | [] => none
  | node :: rest =>
    match firstUnfit use node with
    | some found => some found
    | none => firstUnfitOf use rest

end

/-- The complaint about an expression in the place of a target, if it cannot be one. -/
def unfitTarget (use : TargetUse) (node : Node) : Option Complaint :=
  (firstUnfit use node).map fun found =>
    let what := found.expr.phrase
    ⟨if use = .delete then .cannotDelete what else .cannotAssign what, some found.line⟩

end Grammar

end HubScript
