import HubScript.Script.Fault

/-!
# Tokens

A script is first cut into tokens. The layout of its lines becomes tokens too: the end of a logical
line, and the steps into and out of an indented block.
-/
namespace HubScript

inductive TokenKind where
  /-- A name or a keyword. -/
  | word
  | number
  | text
  | mark
  | lineEnd
  | indent
  | dedent
  | scriptEnd
  deriving DecidableEq, Repr

structure Token where
  kind : TokenKind
  text : String
  /-- The line the token starts on. -/
  line : Nat
  /-- The line the token ends on. -/
  lastLine : Nat
  /-- How many brackets are open after the token. -/
  depth : Nat
  deriving DecidableEq, Repr

/-- Why no further token can be read. -/
structure Stop where
  cause : Cause
  line : Nat
  /-- Whether the character itself is at fault, and not the layout around it. -/
  direct : Bool
  /-- The innermost bracket that is open, with its line. -/
  bracket : Option (Char × Nat)
  deriving DecidableEq, Repr

/-- The tokens of a script. They end with `scriptEnd`, or a stop says why they do not. -/
structure TokenStream where
  tokens : Array Token
  stop : Option Stop
  deriving Repr

end HubScript
