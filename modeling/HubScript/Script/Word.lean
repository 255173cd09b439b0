import HubScript.Script.Numeral
import HubScript.Script.Syntax

/-!
# Names are words

A name is a text of the characters that can stand in a name. Expressions are taken apart by their
operators and calls to tell whether all the names in them are words, and statements by the
expressions that robots can carry out.
-/
namespace HubScript

/-- Whether a text can be a name. -/
def isWord (s : String) : Bool := !s.toList.isEmpty && s.toList.all Numeral.isWordPart

/-- A text that can be a name. -/
abbrev Word := { text : String // isWord text = true }

/-- Whether the name of an argument is a word, if it has one. -/
def Keyword.isWorded (keyword : Keyword) : Bool := keyword.name.all isWord

theorem Keyword.isWorded_mk (id : Word) (value : Expr) :
    (Keyword.mk (some id) value).isWorded = true :=
  id.property

/-- A named argument whose name is a word. -/
abbrev WordedKeyword := { keyword : Keyword // keyword.isWorded = true }

namespace Expr

mutual

/-- Whether names are words, in what numbers and calls are made of. -/
def isWorded : Expr → Bool
  | .name id => isWord id
  | .unary _ operand => isWorded operand
  | .binary _ left right => isWorded left && isWorded right
  | .subscript object index => isWorded object && isWorded index
  | .call function arguments keywords =>
    isWorded function && allWorded arguments && keywords.all Keyword.isWorded
  | .await value => isWorded value
  | _ => true

def allWorded : List Expr → Bool
  | [] => true
  | e :: rest => isWorded e && allWorded rest

end

theorem allWorded_eq_true_iff (es : List Expr) :
    allWorded es = true ↔ ∀ e ∈ es, e.isWorded = true := by
  induction es with
  | nil => simp [allWorded]
  | cons e rest ih => simp [allWorded, ih]

end Expr

namespace Stmt

mutual

/-- Whether names are words, in the assignments and the calls of a statement. -/
def isWorded : Stmt → Bool
  | .expr _ value => value.isWorded
  | .assign _ targets value => Expr.allWorded targets && value.isWorded
  | .forEach _ _ _ body => allWorded body
  | .whileLoop _ _ body => allWorded body
  | .branch _ _ body orelse => allWorded body && allWorded orelse
  | .define _ _ _ body => allWorded body
  | _ => true

def allWorded : List Stmt → Bool
  | [] => true
  | s :: rest => isWorded s && allWorded rest

end

theorem allWorded_eq_true_iff (stmts : List Stmt) :
    allWorded stmts = true ↔ ∀ s ∈ stmts, s.isWorded = true := by
  induction stmts with
  | nil => simp [allWorded]
  | cons s rest ih => simp [allWorded, ih]

end Stmt

/-- A statement whose names are words. -/
abbrev WordedStmt := { stmt : Stmt // stmt.isWorded = true }

namespace WordedStmt

/-- Statements without the proofs about their names. -/
def plain (stmts : List WordedStmt) : List Stmt := stmts.map Subtype.val

theorem allWorded_plain (stmts : List WordedStmt) : Stmt.allWorded (plain stmts) = true := by
  rw [Stmt.allWorded_eq_true_iff]
  intro s hs
  obtain ⟨stmt, _, rfl⟩ := List.mem_map.mp hs
  exact stmt.property

end WordedStmt

end HubScript
