import PolicyKeeper.Text.Quoted

/-!
# Values of settings

A setting is a text. Whole numbers are read within the bounds of the place they are for, with one
sign in front at most; the first character that cannot stand where it stands, or the first digit
with which the number leaves its bounds, decides what is reported. Truth values are the two words.
-/

namespace PolicyKeeper

/-- Why a text is no value of the wanted type. -/
inductive ValueFlaw where
  | emptyNumber
  | notADigit
  | tooLarge
  | tooSmall
  | notATruthValue
  | unknownServiceType (text : String)
  | unknownGrantMode (text : String)
deriving DecidableEq, Repr

namespace ValueFlaw

/-- The flaw in words. -/
def message : ValueFlaw → String
  | emptyNumber => "cannot parse integer from empty string"
  | notADigit => "invalid digit found in string"
  | tooLarge => "number too large to fit in target type"
  | tooSmall => "number too small to fit in target type"
  | notATruthValue => "provided string was not \x60true\x60 or \x60false\x60"
  | unknownServiceType text =>
    "unknown Ranger service type " ++ Text.quote text ++ "; expected hadoopsql or hdfs"
  | unknownGrantMode text =>
    "unknown grant mode " ++ Text.quote text ++ "; expected role or owner-placeholder"

end ValueFlaw

/-- The numbers that a setting may take, both ends included. -/
structure Bounds where
  least : Int
  greatest : Int

namespace Bounds

/-- Whole numbers of 64 bits without a sign. -/
def word64 : Bounds := ⟨0, 0xffffffffffffffff⟩

/-- Whole numbers of 32 bits without a sign. -/
def word32 : Bounds := ⟨0, 0xffffffff⟩

/-- Whole numbers of 64 bits with a sign. -/
def signed64 : Bounds := ⟨-0x8000000000000000, 0x7fffffffffffffff⟩

/-- Reads one more digit of a number of the given sign. -/
def readDigit (b : Bounds) (negative : Bool) (n : Int) (c : Char) : Except ValueFlaw Int :=
  if c.isDigit then
    let d : Int := c.toNat - '0'.toNat
    if negative then
      if 10 * n - d < b.least then .error .tooSmall else .ok (10 * n - d)
    else
      if b.greatest < 10 * n + d then .error .tooLarge else .ok (10 * n + d)
  else .error .notADigit

/-- Reads a whole number. A minus is a sign only where negative numbers are within the bounds. -/
def read (b : Bounds) (text : String) : Except ValueFlaw Int :=
  match text.toList with
  | [] => .error .emptyNumber
  | ['+'] | ['-'] => .error .notADigit
  | '+' :: digits => digits.foldlM (b.readDigit false) 0
  | '-' :: digits =>
    if b.least < 0 then digits.foldlM (b.readDigit true) 0 else .error .notADigit
  | digits => digits.foldlM (b.readDigit false) 0

end Bounds

/-- Reads a truth value. -/
def readTruth (text : String) : Except ValueFlaw Bool :=
  if text = "true" then .ok true
  else if text = "false" then .ok false
  else .error .notATruthValue

end PolicyKeeper
