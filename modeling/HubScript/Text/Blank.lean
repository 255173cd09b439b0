import HubScript.Text.CodeRange

/-!
# Blanks and lines

Two readings of "line" meet in this library: a text is split at every line boundary of the
standard, while the comment scanner ends a line at the line feed only. Blanks at the ends of a
line are those of every script.
-/
namespace HubScript.Text

/-- Spaces beyond ASCII. -/
def spaceRanges : Array (Nat × Nat) :=
  #[(0x85, 0x85), (0xA0, 0xA0), (0x1680, 0x1680), (0x2000, 0x200A), (0x2028, 0x2029),
    (0x202F, 0x202F), (0x205F, 0x205F), (0x3000, 0x3000)]

def isBlank (c : Char) : Bool :=
  if isAscii c then (9 ≤ c.toNat && c.toNat ≤ 13) || (28 ≤ c.toNat && c.toNat ≤ 32)
  else inRanges spaceRanges c.toNat

def trimLeft (cs : List Char) : List Char := cs.dropWhile isBlank

def trimRight (cs : List Char) : List Char := (cs.reverse.dropWhile isBlank).reverse

/-- The text without the blanks at both ends. -/
def trim (cs : List Char) : List Char := trimRight (trimLeft cs)

/-- Whether a character ends a line. A carriage return and the line feed after it are one end. -/
def isLineEnd (c : Char) : Bool :=
  c == '\n' || c == '\r' || c.toNat == 0x0B || c.toNat == 0x0C || c.toNat == 0x1C ||
    c.toNat == 0x1D || c.toNat == 0x1E || c.toNat == 0x85 || c.toNat == 0x2028 || c.toNat == 0x2029

/-- Splitting at line ends; the flag says that a carriage return has just been passed, and the
list holds the current line in reverse. -/
def splitLinesFrom : Bool → List Char → List Char → List (List Char)
  | _, [], [] => []
  | _, current@(_ :: _), [] => [current.reverse]
  | returned, current, c :: rest =>
    if returned && c == '\n' then splitLinesFrom false current rest
    else if isLineEnd c then current.reverse :: splitLinesFrom (c == '\r') [] rest
    else splitLinesFrom false (c :: current) rest

/-- The lines of a text without their ends; nothing after the last end is no line. -/
def splitLines (s : String) : List String :=
  (splitLinesFrom false [] s.toList).map String.ofList

/-- The lines of a text, each with its closing line feed, cut at line feeds only. -/
def feedLinesFrom : List Char → List Char → List (List Char)
  | [], [] => []
  | current@(_ :: _), [] => [current.reverse]
  | current, c :: rest =>
    if c == '\n' then (c :: current).reverse :: feedLinesFrom [] rest
    else feedLinesFrom (c :: current) rest

def feedLines (cs : List Char) : List (List Char) := feedLinesFrom [] cs

end HubScript.Text
