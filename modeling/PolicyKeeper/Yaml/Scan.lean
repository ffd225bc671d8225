import PolicyKeeper.Text.Blank

/-!
# Scanning YAML text

A scan takes something off the front of a text, or fails and takes nothing. A line ends with a line
feed, a carriage return, or both. Between two lines with content there may be empty lines and
comments; all of it together is a gap. A line of nothing but blanks is no part of a gap.
-/

namespace PolicyKeeper.Yaml

/-- Takes something off the front of a text. -/
abbrev Scan := StateT (List Char) Option

namespace Scan

variable {α : Type}

/-- Takes the longest run of characters that pass. -/
def run (p : Char → Bool) : Scan (List Char) := fun cs => some (cs.takeWhile p, cs.dropWhile p)

/-- Takes a run of characters that pass, which may not be empty. -/
def run1 (p : Char → Bool) : Scan (List Char) := do
  let cs ← run p
  if cs.isEmpty then failure else return cs

/-- Takes a number of characters that all have to pass. -/
def count (n : Nat) (p : Char → Bool) : Scan Unit := fun cs =>
  if n ≤ cs.length ∧ (cs.take n).all p then some ((), cs.drop n) else none

/-- Takes a text that has to be there. -/
def exactly (s : String) : Scan Unit := fun cs =>
  if s.toList.isPrefixOf cs then some ((), cs.drop s.length) else none

/-- Takes something if it is there. -/
def maybe (scan : Scan α) : Scan (Option α) := (some <$> scan) <|> pure none

/-- Takes nothing, but fails unless what follows passes. -/
def followedBy (p : List Char → Bool) : Scan Unit := fun cs => if p cs then some ((), cs) else none

/-- Takes something as often as it is there, at most a number of times. -/
def upTo : Nat → Scan α → Scan (List α)
  | 0, _ => pure []
  | n + 1, scan => (do return (← scan) :: (← upTo n scan)) <|> pure []

/-- Takes something as often as it is there. It has to take a character at least each time, so the
length of the text bounds the number of times. -/
def many (scan : Scan α) : Scan (List α) := do upTo (← get).length scan

/-- As `many`, for something that has to be there once. -/
def many1 (scan : Scan α) : Scan (List α) := do return (← scan) :: (← many scan)

end Scan

/-! ## Lines -/

/-- A blank within a line. -/
def isGap (c : Char) : Bool := c == ' ' || c == '\t'

/-- A character that ends a line. -/
def isBreak (c : Char) : Bool := c == '\n' || c == '\r'

/-- Takes blanks and counts them. -/
def blanks : Scan Nat := do return (← Scan.run isGap).length

/-- Takes the end of a line. -/
def lineEnd : Scan Unit :=
  Scan.exactly "\r\n" <|> Scan.exactly "\n" <|> Scan.exactly "\r"

/-- Takes a comment up to the end of its line. -/
def comment : Scan Unit := do
  Scan.exactly "#"
  let _ ← Scan.run fun c => !isBreak c

/-- Takes a line that is empty or holds a comment alone. -/
def emptyLine : Scan Unit := do
  let _ ← Scan.maybe (do let _ ← blanks; comment)
  lineEnd

/-- Takes what is left of a line, a comment behind blanks at most, and the empty lines after it.
Counts the lines that were ended. -/
def gap : Scan Nat := do
  let _ ← Scan.maybe (do let _ ← Scan.run1 isGap; comment)
  lineEnd
  return (← Scan.many emptyLine).length + 1

/-- Takes a gap if there is one. -/
def maybeGap : Scan Unit := do
  let _ ← Scan.maybe gap

/-- How lines of one text are joined: a single break is a space, and of several all but one stay. -/
def joint (breaks : Nat) : List Char :=
  if breaks ≤ 1 then [' '] else List.replicate (breaks - 1) '\n'

end PolicyKeeper.Yaml
