import PolicyKeeper.Json.Basic

/-!
# Numbers as they are written

A number is read digit by digit into a significand of 64 bits. A whole number that fits is exact.
Any other is scaled by a power of ten in double precision: digits that do not fit are passed over,
and each step is rounded by itself, so what comes out is near the number that is written, but not
always the nearest there is.
-/

namespace PolicyKeeper.Json

/-- The value of a digit. -/
def digitValue (c : Char) : Nat := c.toNat - '0'.toNat

/-- The number that a run of digits writes. -/
def digitsValue (cs : List Char) : Nat := cs.foldl (fun n c => 10 * n + digitValue c) 0

/-- A number as it is written: digits before the point and behind it, and an exponent if there is
one. -/
structure Numeral where
  negative : Bool := false
  whole : List Char
  fraction : List Char := []
  exponent : Option Int := none
deriving DecidableEq, Repr

/-! ## Arithmetic in double precision -/

/-- The greatest exponent of which there is a power of ten. -/
def greatestPower : Nat := 308

/-- A power of ten. -/
def powerOfTen (n : Nat) : Float := Float.ofScientific 1 false n

/-- Divides by `10 ^ n`, in several steps if there is no such power. -/
def divided (x : Float) (n : Nat) : Float :=
  if n ≤ greatestPower then x / powerOfTen n
  else if x == 0 then x
  else divided (x / powerOfTen greatestPower) (n - greatestPower)
termination_by n
decreasing_by
  have : greatestPower = 308 := rfl
  omega

/-- Multiplies by `10 ^ e`, unless the result is beyond all doubt too large. -/
def scaled? (x : Float) (e : Int) : Option Float :=
  if e < 0 then some (divided x (-e).toNat)
  else if e ≤ greatestPower then some (x * powerOfTen e.toNat)
  else if x == 0 then some x
  else none

/-- Adds digits to a significand as long as it fits into 64 bits, and says which are left. -/
def takeDigits : Nat → List Char → Nat × List Char
  | n, [] => (n, [])
  | n, c :: cs =>
    if 10 * n + digitValue c ≤ 0xffffffffffffffff then takeDigits (10 * n + digitValue c) cs
    else (n, c :: cs)

namespace Numeral

/-- The decimal that is written. -/
def decimal (x : Numeral) : Decimal :=
  .ofParts x.negative (digitsValue (x.whole ++ x.fraction))
    (x.exponent.getD 0 - (x.fraction.length : Int))

/-- The whole number of 64 bits that is written, if it is one. Zero with a sign is none. -/
def word? (x : Numeral) : Option Int :=
  let n : Int := if x.negative then -(digitsValue x.whole : Int) else digitsValue x.whole
  if x.fraction = [] ∧ x.exponent = none ∧ -0x8000000000000000 ≤ n ∧ n ≤ 0xffffffffffffffff ∧
      ¬ (x.negative ∧ n = 0) then some n
  else none

/-- The double-precision number that is read, if it is in range. Digits before the point that are
passed over count as zeros, those behind it do not count. -/
def double? (x : Numeral) : Option Double :=
  let (n, passed) := takeDigits 0 x.whole
  let (n, left) := takeDigits n x.fraction
  let taken : Int := (x.fraction.length : Int) - left.length
  let exponent : Int := passed.length - taken + x.exponent.getD 0
  (scaled? (UInt64.ofNat n).toFloat exponent).bind fun size =>
    Double.ofFloat? (if x.negative then -size else size)

end Numeral

/-! ## Numbers of a document -/

/-- A number that is written and read. -/
structure Written where
  numeral : Numeral
  double : Double
  reads : numeral.double? = some double
deriving DecidableEq, Repr

/-- A document as it is written. Its whole numbers of 64 bits are exact, and of the other numbers it
has what is written and what is read. -/
abbrev Document := Json Written

/-- The number that is written, which is unfit if it is not in range. -/
def Numeral.document (x : Numeral) : Document :=
  match x.word? with
  | some n => .int n
  | none =>
    match h : x.double? with
    | some d => .real ⟨x, d, h⟩
    | none => .unfit

end PolicyKeeper.Json
