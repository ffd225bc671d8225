/-!
# Double-precision numbers

A number that is no whole number of 64 bits is held as a double-precision number, which most
decimals are not. It is written as the shortest decimal that it is the nearest double-precision
number to, and of several as short as the nearest to itself. So what is written is a decimal again,
in lowest terms (`Decimal`), but it need not be the one that was read.
-/

namespace PolicyKeeper.Json

/-! ## Decimals -/

/-- The decimal `mantissa * 10 ^ exponent` in lowest terms. Zero has a sign as well. -/
structure Decimal where
  negative : Bool
  mantissa : Nat
  exponent : Int
  lowest : mantissa = 0 ∧ exponent = 0 ∨ mantissa % 10 ≠ 0
deriving DecidableEq

namespace Decimal

instance : Inhabited Decimal := ⟨⟨false, 0, 0, .inl ⟨rfl, rfl⟩⟩⟩

/-- Takes the zeros off the end of a mantissa. -/
def reduce (m : Nat) (e : Int) : Nat × Int :=
  if 0 < m ∧ m % 10 = 0 then reduce (m / 10) (e + 1) else (m, e)
termination_by m
decreasing_by omega

theorem reduce_lowest {m : Nat} (h : 0 < m) (e : Int) : (reduce m e).1 % 10 ≠ 0 := by
  fun_induction reduce m e with
  | case1 m e hzero ih => exact ih (by omega)
  | case2 m e hstop => exact fun hzero => hstop ⟨h, hzero⟩

/-- The decimal `m * 10 ^ e`. -/
def ofParts (negative : Bool) (m : Nat) (e : Int) : Decimal :=
  if h : 0 < m then ⟨negative, (reduce m e).1, (reduce m e).2, .inr (reduce_lowest h e)⟩
  else ⟨negative, 0, 0, .inl ⟨rfl, rfl⟩⟩

/-- The text of a decimal that is a double-precision number: with a point, and with an exponent if
the point would be far from the digits. -/
def text (d : Decimal) : String :=
  let digits := Nat.toDigits 10 d.mantissa
  -- How many of the digits are before the point.
  let point : Int := digits.length + d.exponent
  let zeros (n : Int) : List Char := List.replicate n.toNat '0'
  let body : List Char :=
    if d.mantissa = 0 then ['0', '.', '0']
    else if 0 ≤ d.exponent ∧ point ≤ 16 then digits ++ zeros d.exponent ++ ['.', '0']
    else if 0 < point ∧ point ≤ 16 then
      digits.take point.toNat ++ '.' :: digits.drop point.toNat
    else if -5 < point ∧ point ≤ 0 then '0' :: '.' :: zeros (-point) ++ digits
    else
      let scaled := digits.take 1 ++ (if digits.length = 1 then [] else '.' :: digits.drop 1)
      scaled ++ 'e' :: (toString (point - 1)).toList
  String.ofList (if d.negative then '-' :: body else body)

end Decimal

/-! ## Double-precision numbers -/

/-- A double-precision number that is finite. -/
structure Double where
  value : Float
  finite : value.isFinite = true
deriving DecidableEq, Repr

namespace Double

instance : Inhabited Double := ⟨⟨0, by decide⟩⟩

/-- A result of arithmetic, if it has not become too large. -/
def ofFloat? (x : Float) : Option Double := if h : x.isFinite = true then some ⟨x, h⟩ else none

/-- Whether there is a minus sign. -/
def negative (x : Double) : Bool := Nat.pow 2 63 ≤ x.value.toBits.toNat

/-- The number without its sign, as a multiple of a power of two. -/
def parts (x : Double) : Nat × Int :=
  let bits := x.value.toBits.toNat
  let exponent : Nat := bits / Nat.pow 2 52 % Nat.pow 2 11
  let fraction : Nat := bits % Nat.pow 2 52
  if exponent = 0 then (fraction, -1074) else (fraction + Nat.pow 2 52, (exponent : Int) - 1075)

/-- Whether this is the nearest number to a decimal, signs apart. -/
def isNearest (x : Double) (m : Nat) (e : Int) : Bool :=
  Float.ofScientific m (decide (e < 0)) e.natAbs == x.value.abs

/-- The mantissa of the decimal with the given exponent that the number is written as, if there is
one. The two around the number come into question, and the closer one is taken if both will do. -/
def mantissa? (x : Double) (e : Int) : Option Nat :=
  let (s, b) := x.parts
  let numerator := s * Nat.pow 2 b.toNat * Nat.pow 10 (-e).toNat
  let denominator := Nat.pow 2 (-b).toNat * Nat.pow 10 e.toNat
  let below := numerator / denominator
  let twice := 2 * (numerator % denominator)
  match x.isNearest below e, x.isNearest (below + 1) e with
  | true, true =>
    some (if twice < denominator ∨ twice = denominator ∧ below % 2 = 0 then below else below + 1)
  | true, false => some below
  | false, true => some (below + 1)
  | false, false => none

/-- Looks for a decimal that the number is written as, from a power of ten on downwards. -/
def search (x : Double) : Nat → Int → Nat × Int
  | 0, e => (0, e)
  | steps + 1, e =>
    match x.mantissa? e with
    | some m => (m, e)
    | none => x.search steps (e - 1)

/-- The decimal that the number is written as. -/
def shortest (x : Double) : Decimal :=
  let (s, b) := x.parts
  -- This power of ten is larger than the number, and the first decimal that is found is the
  -- shortest. At `10 ^ -1074` every number is exact.
  let top : Int := ((Nat.log2 s : Int) + 1 + b) * 30103 / 100000 + 1
  let (m, e) := x.search (top + 1075).toNat top
  .ofParts x.negative m e

end Double

end PolicyKeeper.Json
