import HubScript.Number.Binary64

/-!
# Syntax trees of scripts

A script is a list of statements. Expressions are kept in full, because their text is written out
again; of the statements only those that a robot can carry out are kept, and every other statement
is a place holder with its lines.
-/
namespace HubScript

/-- A constant as it is written in a script. -/
inductive Literal where
  | none
  | bool (value : Bool)
  | int (value : Nat)
  | float (value : Binary64)
  /-- A multiple of the imaginary unit. -/
  | imaginary (value : Binary64)
  /-- A text; `marked` remembers the mark `u` before its quotes. -/
  | text (value : String) (marked : Bool)
  | bytes (value : List UInt8)
  | ellipsis
  deriving DecidableEq, Repr

inductive UnaryOp where
  | invert
  | not
  | plus
  | minus
  deriving DecidableEq, Repr

inductive BinaryOp where
  | add
  | sub
  | mul
  | matMul
  | div
  | mod
  | floorDiv
  | pow
  | shiftLeft
  | shiftRight
  | bitOr
  | bitXor
  | bitAnd
  deriving DecidableEq, Repr

inductive BoolOp where
  | and
  | or
  deriving DecidableEq, Repr

inductive Comparison where
  | eq
  | notEq
  | lt
  | ltEq
  | gt
  | gtEq
  | same
  | notSame
  | member
  | notMember
  deriving DecidableEq, Repr

/-- What a comprehension with a single element collects into. -/
inductive Collector where
  | list
  | set
  | generator
  deriving DecidableEq, Repr

mutual

inductive Expr where
  | name (id : String)
  | literal (value : Literal)
  | unary (op : UnaryOp) (operand : Expr)
  | binary (op : BinaryOp) (left right : Expr)
  | boolean (op : BoolOp) (operands : List Expr)
  | compare (first : Expr) (links : List Link)
  | conditional (test body orelse : Expr)
  | lambda (params : Params) (body : Expr)
  | call (function : Expr) (arguments : List Expr) (keywords : List Keyword)
  | attribute (object : Expr) (field : String)
  | subscript (object index : Expr)
  | slice (lower upper step : Option Expr)
  | starred (value : Expr)
  | list (items : List Expr)
  | tuple (items : List Expr)
  | set (items : List Expr)
  | dict (entries : List Entry)
  | comprehension (into : Collector) (element : Expr) (clauses : List Clause)
  | dictComprehension (key value : Expr) (clauses : List Clause)
  /-- A text with replacement fields. -/
  | joined (parts : List Part)
  /-- An assignment inside an expression. -/
  | assigned (target value : Expr)
  | await (value : Expr)
  | yield (value : Option Expr)
  | yieldFrom (value : Expr)

/-- One step of a chain of comparisons. -/
inductive Link where
  | mk (op : Comparison) (operand : Expr)

/-- A named argument of a call, or the unpacking of a mapping when it has no name. -/
inductive Keyword where
  | mk (name : Option String) (value : Expr)

/-- An entry of a dictionary display, or the unpacking of a mapping when it has no key. -/
inductive Entry where
  | mk (key : Option Expr) (value : Expr)

/-- One `for … in … if …` of a comprehension. -/
inductive Clause where
  | mk (isAsync : Bool) (target source : Expr) (conditions : List Expr)

/-- A piece of a text with replacement fields. -/
inductive Part where
  | text (value : String)
  | field (value : Expr) (conversion : Option Char) (format : Option (List Part))

inductive Param where
  | mk (name : String) (typeHint default : Option Expr)

/-- The parameters of a function, by the way in which a call may fill them. -/
inductive Params where
  | mk (positionalOnly plain : List Param) (rest : Option Param) (keywordOnly : List Param)
      (keywordRest : Option Param)

end

instance : Inhabited Expr := ⟨.literal .none⟩

namespace Link

def op : Link → Comparison | .mk op _ => op
def operand : Link → Expr | .mk _ operand => operand

end Link

namespace Keyword

def name : Keyword → Option String | .mk name _ => name
def value : Keyword → Expr | .mk _ value => value

end Keyword

namespace Param

def name : Param → String | .mk name _ _ => name
def typeHint : Param → Option Expr | .mk _ typeHint _ => typeHint
def default : Param → Option Expr | .mk _ _ default => default

end Param

namespace Params

def empty : Params := .mk [] [] none [] none

def positionalOnly : Params → List Param | .mk ps _ _ _ _ => ps
def plain : Params → List Param | .mk _ ps _ _ _ => ps
def rest : Params → Option Param | .mk _ _ p _ _ => p
def keywordOnly : Params → List Param | .mk _ _ _ ps _ => ps
def keywordRest : Params → Option Param | .mk _ _ _ _ p => p

end Params

/-- The lines of the script that a statement covers, counted from one. -/
structure Span where
  first : Nat
  last : Nat
  counted : 0 < first
  deriving DecidableEq, Repr

namespace Span

/-- The lines from one to another. There is no line before the first one. -/
def of (first last : Nat) : Span :=
  if counted : 0 < first then ⟨first, last, counted⟩ else ⟨1, last, Nat.one_pos⟩

theorem of_eq {first : Nat} (h : 0 < first) (last : Nat) : of first last = ⟨first, last, h⟩ := by
  rw [of, dif_pos h]

end Span

inductive Stmt where
  | expr (span : Span) (value : Expr)
  | assign (span : Span) (targets : List Expr) (value : Expr)
  | forEach (span : Span) (target source : Expr) (body : List Stmt)
  | whileLoop (span : Span) (test : Expr) (body : List Stmt)
  | branch (span : Span) (test : Expr) (body orelse : List Stmt)
  | stop (span : Span)
  | define (span : Span) (name : String) (params : Params) (body : List Stmt)
  | returns (span : Span) (value : Option Expr)
  /-- A statement outside the robot's vocabulary. -/
  | other (span : Span)

instance : Inhabited Stmt := ⟨.other (.of 1 1)⟩

def Stmt.span : Stmt → Span
  | .expr span _ => span
  | .assign span _ _ => span
  | .forEach span _ _ _ => span
  | .whileLoop span _ _ => span
  | .branch span _ _ _ => span
  | .stop span => span
  | .define span _ _ _ => span
  | .returns span _ => span
  | .other span => span

end HubScript
