/-!
# Hexadecimal digits

Numbers are written in base sixteen in escapes, in addresses and in tables of code points. Letters
count in either case where others write the digits.
-/

namespace PolicyKeeper.Text

/-- The value of a hexadecimal digit, in either case. -/
def hexValue? (c : Char) : Option Nat :=
  if '0' ≤ c ∧ c ≤ '9' then some (c.toNat - '0'.toNat)
  else if 'a' ≤ c ∧ c ≤ 'f' then some (c.toNat - 'a'.toNat + 10)
  else if 'A' ≤ c ∧ c ≤ 'F' then some (c.toNat - 'A'.toNat + 10)
  else none

/-- The number that a run of hexadecimal digits writes. Other characters count as zeros. -/
def hexNumber (cs : List Char) : Nat := cs.foldl (fun n c => 16 * n + (hexValue? c).getD 0) 0

example : hexNumber ['1', 'e', '9', 'E'] = 0x1e9e := by decide

end PolicyKeeper.Text
