/-!
# Labels of domains in ASCII

A label with characters beyond ASCII is written as its ASCII characters, a hyphen, and a number for
each of the others, from the least code point to the greatest. A number says how far to go on from
the one before, counted in code points and places of the label together. It is written in digits of
base 36, the least first, and the threshold below which a digit is the last one moves with the
numbers written so far. Reading follows the same count and puts each character in its place.

All loops go by a measure: what is left to divide, or the code points and digits that are left.
-/

namespace PolicyKeeper.Url

/-- A digit of base 36: letters, then digits. -/
def digit36 (n : Nat) : Char := if n < 26 then Char.ofNat (97 + n) else Char.ofNat (22 + n)

/-- The value of a digit of base 36. Domains are in lower case. -/
def digit36Value? (c : Char) : Option Nat :=
  if 'a' ≤ c ∧ c ≤ 'z' then some (c.toNat - 97)
  else if '0' ≤ c ∧ c ≤ '9' then some (c.toNat - 22)
  else none

/-- The threshold at a position, which the bias moves between 1 and 26. -/
def threshold (position bias : Nat) : Nat :=
  if position ≤ bias then 1 else if bias + 26 ≤ position then 26 else position - bias

theorem one_le_threshold (position bias : Nat) : 1 ≤ threshold position bias := by
  unfold threshold
  split
  · omega
  · split <;> omega

/-- A number in digits of base 36 from a position on. -/
def variableDigits (bias position q : Nat) : List Char :=
  let t := threshold position bias
  if q < t then [digit36 q]
  else digit36 (t + (q - t) % (36 - t)) :: variableDigits bias (position + 36) ((q - t) / (36 - t))
termination_by q
decreasing_by
  have := one_le_threshold position bias
  calc (q - threshold position bias) / (36 - threshold position bias)
      ≤ q - threshold position bias := Nat.div_le_self _ _
    _ < q := by omega

/-- Brings a number below 456 by dividing it by 35, counting 36 for each time. -/
def scaleDown (delta count : Nat) : Nat × Nat :=
  if 455 < delta then scaleDown (delta / 35) (count + 36) else (delta, count)
termination_by delta
decreasing_by exact Nat.div_lt_self (by omega) (by omega)

/-- The bias after a number was written, of a label of so many characters up to here. -/
def nextBias (delta length : Nat) (first : Bool) : Nat :=
  let delta := if first then delta / 700 else delta / 2
  let (delta, count) := scaleDown (delta + delta / length) 0
  count + 36 * delta / (delta + 38)

/-! ## Writing -/

/-- What the writing of a label has come to. -/
structure LabelState where
  delta : Nat := 0
  bias : Nat := 72
  /-- How many characters of the label are written. -/
  written : Nat
  output : List Char

/-- Passes a character of the label while the occurrences of the code point `c` are written. -/
def LabelState.pass (basic c : Nat) (s : LabelState) (d : Nat) : LabelState :=
  if d < c then { s with delta := s.delta + 1 }
  else if d = c then
    { delta := 0
      bias := nextBias s.delta (s.written + 1) (s.written == basic)
      written := s.written + 1
      output := s.output ++ variableDigits s.bias 36 s.delta }
  else s

/-- Writes the occurrences of some code points, which are in increasing order and not below
`next`. -/
def LabelState.write (label : List Nat) (basic : Nat) :
    (next : Nat) → List Nat → LabelState → LabelState
  | _, [], s => s
  | next, c :: rest, s =>
    let s := { s with delta := s.delta + (c - next) * (s.written + 1) }
    let s := label.foldl (LabelState.pass basic c) s
    LabelState.write label basic (c + 1) rest { s with delta := s.delta + 1 }

/-- What labels start with that are not the text that they show. -/
def encodedMark : List Char := ['x', 'n', '-', '-']

/-- A label in ASCII. -/
def asciiLabel (label : List Char) : List Char :=
  let basic := label.filter fun c => c.toNat < 128
  let others := (label.map Char.toNat).filter (128 ≤ ·)
  if others.isEmpty then label
  else
    let start : LabelState :=
      { written := basic.length, output := if basic.isEmpty then [] else basic ++ ['-'] }
    let points := (others.mergeSort (· ≤ ·)).eraseDups
    encodedMark ++
      (start.write (label.map Char.toNat) basic.length 128 points).output

/-! ## Reading -/

/-- Reads a number from a position on: its value and the digits after it. `weight` is what a digit
at the position counts, and `sum` what those before it came to. -/
def readNumber? (bias : Nat) : (position weight sum : Nat) → List Char → Option (Nat × List Char)
  | _, _, _, [] => none
  | position, weight, sum, c :: rest =>
    match digit36Value? c with
    | none => none
    | some d =>
      if d < threshold position bias then some (sum + d * weight, rest)
      else
        readNumber? bias (position + 36) (weight * (36 - threshold position bias))
          (sum + d * weight) rest

/-- A number takes up a digit at least. -/
theorem length_lt_of_readNumber? {bias position weight sum n : Nat} {cs rest : List Char}
    (h : readNumber? bias position weight sum cs = some (n, rest)) : rest.length < cs.length := by
  induction cs generalizing position weight sum with
  | nil => simp [readNumber?] at h
  | cons c cs ih =>
    rw [readNumber?] at h
    split at h
    · simp at h
    · split at h
      · simp only [Option.some.injEq, Prod.mk.injEq] at h
        simp [h.2]
      · have := ih h
        simp only [List.length_cons]
        omega

/-- Reads numbers and puts their characters into a label. `next` is the code point and `place` the
place that the next number is counted from; the place is zero for the first number only. -/
def insertNumbers? (bias next place : Nat) (label : List Char) (cs : List Char) :
    Option (List Char) :=
  if cs.isEmpty then some label
  else
    match h : readNumber? bias 36 1 0 cs with
    | none => none
    | some (delta, rest) =>
      let length := label.length + 1
      let place' := (place + delta) % length
      let next' := next + (place + delta) / length
      if next'.isValidChar then
        insertNumbers? (nextBias delta length (place == 0)) next' (place' + 1)
          (label.insertIdx place' (Char.ofNat next')) rest
      else none
termination_by cs.length
decreasing_by exact length_lt_of_readNumber? h

/-- Reads what follows the mark of an encoded label. A hyphen at the front is no end of ASCII
characters. -/
def decodeLabel? (cs : List Char) : Option (List Char) :=
  let digits := (cs.reverse.takeWhile (· != '-')).reverse
  match (cs.reverse.dropWhile (· != '-')).tail? with
  | none => insertNumbers? 72 128 0 [] digits
  | some [] => none
  | some basic => insertNumbers? 72 128 0 basic.reverse digits

end PolicyKeeper.Url
