import HubScript.Text.CodeRange

/-!
# Faults of a script

Why a script cannot be read. A fault is a cause together with the line it is reported at; the
wording of each cause stands in `Cause.message` and nowhere else.
-/
namespace HubScript

/-- The family a fault belongs to. -/
inductive FaultKind where
  | general
  | indentation
  | tabs
  deriving DecidableEq, Repr

/-- The notation of a number. -/
inductive NumberForm where
  | decimal
  | hexadecimal
  | octal
  | binary
  | imaginary
  deriving DecidableEq, Repr

/-- Why an escape in a text cannot be decoded. -/
inductive EscapeFault where
  | shortHex
  | shortUnicode
  | longUnicode
  | outOfRange
  | malformedName
  | unknownName
  deriving DecidableEq, Repr

/-- What a block belongs to, as messages call it. -/
inductive BlockOwner where
  | statement (keyword : String)
  | function
  | classBody
  deriving DecidableEq, Repr

inductive Cause where
  -- characters and tokens
  | nullCharacter
  | unterminatedText (detected : Nat)
  | unterminatedBlock (detected : Nat)
  | badNumber (written : NumberForm)
  | badDigit (digit : Char) (written : NumberForm)
  | leadingZeros
  | tooManyDigits (count : Nat)
  | strangeCharacter (c : Char)
  | hiddenCharacter (c : Char)
  | tooManyBrackets
  | unmatched (closing : Char)
  | mismatched (closing opening : Char) (line : Option Nat)
  | neverClosed (opening : Char)
  | endOfScript
  | afterContinuation
  -- layout
  | unindent
  | mixedTabs
  | tooDeep
  | unexpectedIndent
  | unexpectedUnindent
  | expectedBlock
  | expectedBlockAfter (owner : BlockOwner) (line : Nat)
  -- literals
  | badEscape (first last : Nat) (why : EscapeFault)
  | badByteEscape (position : Nat)
  | bytesBeyondAscii
  | mixedBytes
  -- replacement fields
  | fieldTooDeep
  | fieldBackslash
  | fieldComment
  | fieldTooManyBrackets
  | fieldUnmatched (bracket : Char)
  | fieldMismatched (closing opening : Char)
  | fieldUnterminatedText
  | fieldExpectsBrace
  | fieldLoneBrace
  | fieldEmpty
  | fieldExpressionBefore (mark : Char)
  | fieldConversion
  | fieldEnd
  /-- A fault inside a replacement field. -/
  | embedded (cause : Cause)
  -- expressions
  | invalid
  | forgottenComma
  | expectedElse
  | missingParentheses (name : String)
  | assignmentWith (what : String)
  | maybeComparison
  | cannotAssignHere (what : String)
  | cannotAssign (what : String)
  | cannotDelete (what : String)
  | singleTarget (what : String)
  | hintTarget
  | assignmentToYield
  | augmentedTarget (what : String)
  | unpackingInComprehension
  | comprehensionTarget
  | mappingInComprehension
  | unpackingAfterMapping
  | bareGenerator
  | positionalAfterKeyword (unpacked : Bool)
  | assignmentInArgument
  | starredHere
  | doubleStarredHere
  | starredValue
  | missingValue
  | missingColon
  -- parameters
  | plainAfterDefault
  | bracketedParameters (inLambda : Bool)
  | slashFirst
  | slashTwice
  | slashAfterStar
  | slashThenStar
  | missingDefault
  | bareStar
  | restDefault
  | starTwice
  | keywordRestDefault
  | afterKeywordRest
  -- statements
  | expected (token : String)
  | trailingComma
  | expectedHandler
  | mixedHandlers
  | bareExceptionTypes
  | missingExceptionTypes
  -- patterns
  | wildcardTarget
  | patternTarget
  | positionalPattern
  | realNumber
  | imaginaryNumber
  deriving DecidableEq, Repr

/-- The greatest count of digits of a whole number in decimal text. -/
def digitLimit : Nat := 4300

def NumberForm.word : NumberForm → String
  | .decimal => "decimal"
  | .hexadecimal => "hexadecimal"
  | .octal => "octal"
  | .binary => "binary"
  | .imaginary => "imaginary"

def EscapeFault.message : EscapeFault → String
  | .shortHex => "truncated \\xXX escape"
  | .shortUnicode => "truncated \\uXXXX escape"
  | .longUnicode => "truncated \\UXXXXXXXX escape"
  | .outOfRange => "illegal Unicode character"
  | .malformedName => "malformed \\N character escape"
  | .unknownName => "unknown Unicode character name"

/-- The code of a character with at least four hexadecimal digits. -/
def codeText (c : Char) : String :=
  let digits := (Nat.toDigits 16 c.toNat).map Char.toUpper
  String.ofList (List.replicate (4 - digits.length) '0' ++ digits)

/-- A character between single quotes. -/
def quotedChar (c : Char) : String := "'" ++ c.toString ++ "'"

def BlockOwner.phrase : BlockOwner → String
  | .statement keyword => s!"'{keyword}' statement"
  | .function => "function definition"
  | .classBody => "class definition"

namespace Cause

def kind : Cause → FaultKind
  | .unindent => .indentation
  | .tooDeep => .indentation
  | .unexpectedIndent => .indentation
  | .unexpectedUnindent => .indentation
  | .expectedBlock => .indentation
  | .expectedBlockAfter .. => .indentation
  | .mixedTabs => .tabs
  | .embedded cause => cause.kind
  | _ => .general

def message : Cause → String
  | .nullCharacter => "source code string cannot contain null bytes"
  | .unterminatedText detected => s!"unterminated string literal (detected at line {detected})"
  | .unterminatedBlock detected =>
    s!"unterminated triple-quoted string literal (detected at line {detected})"
  | .badNumber written => s!"invalid {written.word} literal"
  | .badDigit digit written => s!"invalid digit {quotedChar digit} in {written.word} literal"
  | .leadingZeros =>
    "leading zeros in decimal integer literals are not permitted; " ++
      "use an 0o prefix for octal integers"
  | .tooManyDigits count =>
    s!"Exceeds the limit ({digitLimit} digits) for integer string conversion: " ++
      s!"value has {count} digits; use sys.set_int_max_str_digits() to increase the limit" ++
      " - Consider hexadecimal for huge integer literals to avoid decimal conversion limits."
  | .strangeCharacter c => s!"invalid character {quotedChar c} (U+{codeText c})"
  | .hiddenCharacter c => s!"invalid non-printable character U+{codeText c}"
  | .tooManyBrackets => "too many nested parentheses"
  | .unmatched closing => s!"unmatched {quotedChar closing}"
  | .mismatched closing opening none =>
    s!"closing parenthesis {quotedChar closing} does not match opening parenthesis " ++
      quotedChar opening
  | .mismatched closing opening (some line) =>
    s!"closing parenthesis {quotedChar closing} does not match opening parenthesis " ++
      s!"{quotedChar opening} on line {line}"
  | .neverClosed opening => s!"{quotedChar opening} was never closed"
  | .endOfScript => "unexpected EOF while parsing"
  | .afterContinuation => "unexpected character after line continuation character"
  | .unindent => "unindent does not match any outer indentation level"
  | .mixedTabs => "inconsistent use of tabs and spaces in indentation"
  | .tooDeep => "too many levels of indentation"
  | .unexpectedIndent => "unexpected indent"
  | .unexpectedUnindent => "unexpected unindent"
  | .expectedBlock => "expected an indented block"
  | .expectedBlockAfter owner line =>
    s!"expected an indented block after {owner.phrase} on line {line}"
  | .badEscape first last why =>
    s!"(unicode error) 'unicodeescape' codec can't decode bytes in position {first}-{last}: " ++
      why.message
  | .badByteEscape position => s!"(value error) invalid \\x escape at position {position}"
  | .bytesBeyondAscii => "bytes can only contain ASCII literal characters"
  | .mixedBytes => "cannot mix bytes and nonbytes literals"
  | .fieldTooDeep => "f-string: expressions nested too deeply"
  | .fieldBackslash => "f-string expression part cannot include a backslash"
  | .fieldComment => "f-string expression part cannot include '#'"
  | .fieldTooManyBrackets => "f-string: too many nested parenthesis"
  | .fieldUnmatched bracket => s!"f-string: unmatched {quotedChar bracket}"
  | .fieldMismatched closing opening =>
    s!"f-string: closing parenthesis {quotedChar closing} does not match opening parenthesis " ++
      quotedChar opening
  | .fieldUnterminatedText => "f-string: unterminated string"
  | .fieldExpectsBrace => "f-string: expecting '\x7d'"
  | .fieldLoneBrace => "f-string: single '\x7d' is not allowed"
  | .fieldEmpty => "f-string: empty expression not allowed"
  | .fieldExpressionBefore mark => s!"f-string: expression required before {quotedChar mark}"
  | .fieldConversion => "f-string: invalid conversion character: expected 's', 'r', or 'a'"
  | .fieldEnd => "f-string: unexpected end of string"
  | .embedded cause => "f-string: " ++ cause.message
  | .invalid => "invalid syntax"
  | .forgottenComma => "invalid syntax. Perhaps you forgot a comma?"
  | .expectedElse => "expected 'else' after 'if' expression"
  | .missingParentheses name =>
    s!"Missing parentheses in call to '{name}'. Did you mean {name}(...)?"
  | .assignmentWith what => s!"cannot use assignment expressions with {what}"
  | .maybeComparison => "invalid syntax. Maybe you meant '==' or ':=' instead of '='?"
  | .cannotAssignHere what =>
    s!"cannot assign to {what} here. Maybe you meant '==' instead of '='?"
  | .cannotAssign what => s!"cannot assign to {what}"
  | .cannotDelete what => s!"cannot delete {what}"
  | .singleTarget what => s!"only single target (not {what}) can be annotated"
  | .hintTarget => "illegal target for annotation"
  | .assignmentToYield => "assignment to yield expression not possible"
  | .augmentedTarget what => s!"'{what}' is an illegal expression for augmented assignment"
  | .unpackingInComprehension => "iterable unpacking cannot be used in comprehension"
  | .comprehensionTarget => "did you forget parentheses around the comprehension target?"
  | .mappingInComprehension => "dict unpacking cannot be used in dict comprehension"
  | .unpackingAfterMapping => "iterable argument unpacking follows keyword argument unpacking"
  | .bareGenerator => "Generator expression must be parenthesized"
  | .positionalAfterKeyword true => "positional argument follows keyword argument unpacking"
  | .positionalAfterKeyword false => "positional argument follows keyword argument"
  | .assignmentInArgument => "expression cannot contain assignment, perhaps you meant \"==\"?"
  | .starredHere => "cannot use starred expression here"
  | .doubleStarredHere => "cannot use double starred expression here"
  | .starredValue => "cannot use a starred expression in a dictionary value"
  | .missingValue => "expression expected after dictionary key and ':'"
  | .missingColon => "':' expected after dictionary key"
  | .plainAfterDefault => "non-default argument follows default argument"
  | .bracketedParameters false => "Function parameters cannot be parenthesized"
  | .bracketedParameters true => "Lambda expression parameters cannot be parenthesized"
  | .slashFirst => "at least one argument must precede /"
  | .slashTwice => "/ may appear only once"
  | .slashAfterStar => "/ must be ahead of *"
  | .slashThenStar => "expected comma between / and *"
  | .missingDefault => "expected default value expression"
  | .bareStar => "named arguments must follow bare *"
  | .restDefault => "var-positional argument cannot have default value"
  | .starTwice => "* argument may appear only once"
  | .keywordRestDefault => "var-keyword argument cannot have default value"
  | .afterKeywordRest => "arguments cannot follow var-keyword argument"
  | .expected token => s!"expected '{token}'"
  | .trailingComma => "trailing comma not allowed without surrounding parentheses"
  | .expectedHandler => "expected 'except' or 'finally' block"
  | .mixedHandlers => "cannot have both 'except' and 'except*' on the same 'try'"
  | .bareExceptionTypes => "multiple exception types must be parenthesized"
  | .missingExceptionTypes => "expected one or more exception types"
  | .wildcardTarget => "cannot use '_' as a target"
  | .patternTarget => "invalid pattern target"
  | .positionalPattern => "positional patterns follow keyword patterns"
  | .realNumber => "real number required in complex literal"
  | .imaginaryNumber => "imaginary number required in complex literal"

end Cause

/-- A cause and the line it is reported at, where there is one. -/
structure Fault where
  cause : Cause
  line : Option Nat
  deriving DecidableEq, Repr

end HubScript
