import PolicyKeeper.Text.Hex
import PolicyKeeper.Text.Split

/-!
# Tables of code points

What a standard says about single characters is kept in tables, written as lines of text: entries
with blanks between them, in increasing order, and numbers in hexadecimal.

In a set an entry is a code point or an inclusive range: `ad`, `300-36f`. In a map a colon and an
image follow, which is one code point or several with dots between them: `df:73.73`. The range of an
entry in a map has one of three marks. With `-` the images go up with the code points, as in
`41-5a:61`; with `~` they do so too, but the entry is for every second code point of the range only,
as in `100~12e:101`; with `=` all code points have the same image, as in `fb52=fb55:67b`.
-/

namespace PolicyKeeper.Text

/-- The entries of a table. -/
def entriesOf (lines : List String) : List (List Char) :=
  lines.flatMap fun line => splitChars ' ' line.toList

/-- Whether a character belongs to a number of a table. -/
def isTableDigit (c : Char) : Bool := (hexValue? c).isSome

/-! ## Sets -/

/-- Consecutive code points. -/
structure CodeRange where
  first : Nat
  last : Nat
deriving DecidableEq, Repr

namespace CodeRange

/-- Whether a character is in the range. -/
def contains (r : CodeRange) (c : Char) : Bool := r.first ≤ c.toNat && c.toNat ≤ r.last

/-- Reads an entry of a set. -/
def ofEntry (cs : List Char) : CodeRange :=
  let first := hexNumber (cs.takeWhile isTableDigit)
  match cs.dropWhile isTableDigit with
  | [] => ⟨first, first⟩
  | _ :: last => ⟨first, hexNumber last⟩

end CodeRange

/-- A set of code points. -/
abbrev CodeSet := List CodeRange

namespace CodeSet

/-- Reads a set. -/
def ofLines (lines : List String) : CodeSet := (entriesOf lines).map CodeRange.ofEntry

/-- Whether a character is in the set. -/
def contains (s : CodeSet) (c : Char) : Bool := s.any fun r => r.contains c

end CodeSet

/-! ## Maps -/

/-- Code points in equal steps, and their images. -/
structure CodeRun where
  first : Nat
  last : Nat
  /-- How far apart the code points are. -/
  step : Nat
  /-- Whether the images go up with the code points. -/
  rises : Bool
  /-- The image of the first code point. -/
  image : List Nat
deriving DecidableEq, Repr

namespace CodeRun

/-- Reads an entry of a map. -/
def ofEntry (cs : List Char) : CodeRun :=
  let first := hexNumber (cs.takeWhile isTableDigit)
  let image (cs : List Char) : List Nat := (splitChars '.' cs).map hexNumber
  match cs.dropWhile isTableDigit with
  | [] => { first, last := first, step := 1, rises := false, image := [] }
  | ':' :: rest => { first, last := first, step := 1, rises := false, image := image rest }
  | mark :: rest =>
    { first
      last := hexNumber (rest.takeWhile isTableDigit)
      step := if mark = '~' then 2 else 1
      rises := mark != '='
      image := image ((rest.dropWhile isTableDigit).drop 1) }

/-- The image of a character, if the run has one. -/
def image? (r : CodeRun) (c : Char) : Option (List Char) :=
  let offset := c.toNat - r.first
  if r.first ≤ c.toNat ∧ c.toNat ≤ r.last ∧ offset % r.step = 0 then
    some (r.image.map fun n => Char.ofNat (if r.rises then n + offset else n))
  else none

end CodeRun

/-- A map from code points to sequences of them. -/
abbrev CodeMap := List CodeRun

namespace CodeMap

/-- Reads a map. -/
def ofLines (lines : List String) : CodeMap := (entriesOf lines).map CodeRun.ofEntry

/-- The image of a character, if it has one. -/
def image? (m : CodeMap) (c : Char) : Option (List Char) := m.findSome? fun r => r.image? c

end CodeMap

example : (CodeRange.ofEntry "300-36f".toList).contains '\u0301' = true := by decide +kernel
example : (CodeRun.ofEntry "41-5a:61".toList).image? 'Q' = some ['q'] := by decide +kernel
example : (CodeRun.ofEntry "100~12e:101".toList).image? 'Ă' = some ['ă'] := by decide +kernel
example : (CodeRun.ofEntry "100~12e:101".toList).image? 'ă' = none := by decide +kernel
example : (CodeRun.ofEntry "df:73.73".toList).image? 'ß' = some ['s', 's'] := by decide +kernel

end PolicyKeeper.Text
