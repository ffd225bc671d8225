import PolicyKeeper.Text.Composite
import PolicyKeeper.Text.Mark

/-!
# The composed form of a text

The same text can be written with composite characters or with marks of their own, and marks of
different ranks in any order. In the composed form each text is written in one way: everything is
taken apart, the marks behind a character are sorted by rank, those of one rank left in order, and
then each mark is joined to the character before it where the two have a composite, unless a mark in
between is of the same rank.
-/

namespace PolicyKeeper.Text

/-- Takes a character apart. `depth` bounds how often. -/
def takeApart : (depth : Nat) → Char → List Char
  | 0, c => [c]
  | depth + 1, c =>
    match parts? c with
    | some (a, b) => takeApart depth a ++ [b]
    | none => [c]

/-- Puts a character in front of a text, but behind the marks of lower rank there. -/
def putByRank (c : Char) : List Char → List Char
  | [] => [c]
  | d :: rest =>
    if 0 < rank d ∧ rank d < rank c then d :: putByRank c rest else c :: d :: rest

/-- Sorts the marks behind each character by rank. -/
def sortMarks (cs : List Char) : List Char := cs.foldr putByRank []

/-- Composes a text that is taken apart and sorted. `base` is what the next characters may be joined
to, and `marks` are those after it that were not, the last one first. -/
def joinMarks (base : Char) (marks : List Char) : List Char → List Char
  | [] => base :: marks.reverse
  | c :: rest =>
    let blocked :=
      match marks with
      | [] => false
      | m :: _ => rank c ≤ rank m
    match if blocked then none else compose? base c with
    | some joined => joinMarks joined marks rest
    | none =>
      if rank c = 0 then base :: marks.reverse ++ joinMarks c [] rest
      else joinMarks base (c :: marks) rest

/-- Composes a text that is taken apart and sorted. Marks at its front stay alone. -/
def compose (cs : List Char) : List Char :=
  match cs.dropWhile fun c => rank c != 0 with
  | [] => cs
  | base :: rest => (cs.takeWhile fun c => rank c != 0) ++ joinMarks base [] rest

/-- The composed form of a text. No character has more than four parts. -/
def composed (cs : List Char) : List Char := compose (sortMarks (cs.flatMap (takeApart 4)))

end PolicyKeeper.Text
