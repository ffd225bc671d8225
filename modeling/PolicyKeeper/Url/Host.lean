import PolicyKeeper.Text.Split
import PolicyKeeper.Url.Domain.Basic
import PolicyKeeper.Url.Percent

/-!
# Hosts of URLs

A host is a number of the internet protocol, of either version, or a name. In the schemes that are
special a name is a domain: escapes are undone, it is brought to its normal form in ASCII, and one
whose last label is a number is an address of version 4. In other schemes a name is any text without
the characters that end or divide it.
-/

namespace PolicyKeeper.Url

/-! ## Version 4 -/

/-- The value of a number in a base up to sixteen, if all of it is digits. -/
def numberInBase? (base : Nat) (cs : List Char) : Option Nat :=
  cs.foldlM (fun n c => do
    let d ← Text.hexValue? c
    if d < base then return base * n + d else none) 0

/-- The value of a part of an address: hexadecimal after `0x`, octal after a zero, else decimal. -/
def addressPart? : List Char → Option Nat
  | [] => none
  | ['0', 'x'] | ['0', 'X'] => some 0
  | '0' :: 'x' :: rest | '0' :: 'X' :: rest => numberInBase? 16 rest
  | '0' :: rest => numberInBase? 8 rest
  | cs => numberInBase? 10 cs

/-- The labels of a domain, without the empty one behind a dot at its end. -/
def domainLabels (cs : List Char) : List (List Char) :=
  let labels := Text.splitChars '.' cs
  if 1 < labels.length ∧ labels.getLast? = some [] then labels.dropLast else labels

/-- Whether the last label of a domain is a number. -/
def endsInNumber (cs : List Char) : Bool :=
  match (domainLabels cs).getLast? with
  | some label =>
    !label.isEmpty && (label.all Char.isDigit || (addressPart? label).isSome)
  | none => false

/-- The bytes of a version 4 address, which may leave out all but the last part. -/
def addressOfLabels? (labels : List (List Char)) : Option (List Nat) := do
  let parts ← labels.mapM addressPart?
  let last ← parts.getLast?
  let leading := parts.dropLast
  if 4 < parts.length ∨ leading.any (255 < ·) ∨ Nat.pow 256 (5 - parts.length) ≤ last then none
  else
    let missing := 4 - leading.length
    return leading ++ (List.range missing).map fun i => last / Nat.pow 256 (missing - 1 - i) % 256

/-- An address of version 4 with its dots. -/
def renderAddress4 (bytes : List Nat) : String :=
  String.intercalate "." (bytes.map toString)

/-! ## Version 6 -/

/-- A group of an address of version 6: one to four hexadecimal digits. -/
def group? (cs : List Char) : Option Nat :=
  if cs.isEmpty ∨ 4 < cs.length then none else numberInBase? 16 cs

/-- The groups that an address of version 4 at the end stands for. -/
def embeddedAddress? (cs : List Char) : Option (List Nat) := do
  let parts := Text.splitChars '.' cs
  if parts.length ≠ 4 then none
  else
    let bytes ← parts.mapM fun p =>
      if p.isEmpty ∨ 3 < p.length ∨ (1 < p.length ∧ p.head? = some '0') then none
      else (numberInBase? 10 p).filter (· < 256)
    match bytes with
    | [a, b, c, d] => some [256 * a + b, 256 * c + d]
    | _ => none

/-- The groups between colons; the last may be an address of version 4. -/
def groups? (cs : List Char) : Option (List Nat) :=
  if cs.isEmpty then some []
  else do
    let parts := Text.splitChars ':' cs
    let leading ← parts.dropLast.mapM group?
    let last := parts.getLast?.getD []
    if last.contains '.' then return leading ++ (← embeddedAddress? last)
    else return leading ++ [← group? last]

/-- Cuts at two colons in a row. -/
def cutAtGap? : List Char → Option (List Char × List Char)
  | ':' :: ':' :: rest => some ([], rest)
  | c :: rest => (cutAtGap? rest).map fun (before, after) => (c :: before, after)
  | [] => none

/-- The eight groups of an address of version 6, in which two colons stand for a run of zeros. -/
def address6? (cs : List Char) : Option (List Nat) :=
  match cutAtGap? cs with
  | none => (groups? cs).filter fun gs => gs.length == 8
  | some (before, after) => do
    let before ← if before.contains '.' then none else groups? before
    let after ← groups? after
    let count := before.length + after.length
    if count < 8 then return before ++ List.replicate (8 - count) 0 ++ after else none

/-- The length of the run of zeros at the front. -/
def zeroRun (gs : List Nat) : Nat := (gs.takeWhile (· == 0)).length

/-- Where the first of the longest runs of at least two zeros begins, and its length. -/
def longestGap? (gs : List Nat) : Option (Nat × Nat) :=
  (List.range gs.length).foldl (fun best i =>
    let run := zeroRun (gs.drop i)
    let least := (best.map Prod.snd).getD 1
    if least < run then some (i, run) else best) none

/-- The groups with colons between them. -/
def renderGroups (gs : List Nat) : String :=
  String.intercalate ":" (gs.map fun g => String.ofList (Nat.toDigits 16 g))

/-- An address of version 6, with its longest run of zeros left out. -/
def renderAddress6 (gs : List Nat) : String :=
  match longestGap? gs with
  | none => renderGroups gs
  | some (start, run) =>
    renderGroups (gs.take start) ++ "::" ++ renderGroups (gs.drop (start + run))

/-! ## Reading a host -/

/-- Characters that no host has. -/
def isForbiddenInHost (c : Char) : Bool :=
  ['\x00', '\t', '\n', '\r', ' ', '#', '/', ':', '<', '>', '?', '@', '[', '\\', ']', '^',
    '|'].contains c

/-- Characters that no domain has. -/
def isForbiddenInDomain (c : Char) : Bool :=
  isForbiddenInHost c || c.toNat < 0x20 || c == '%' || c.toNat == 0x7f

/-- The text that escaped bytes write, if it is one. -/
def decodeText? (cs : List Char) : Option (List Char) :=
  (String.fromUTF8? ⟨(decodeBytes cs).toArray⟩).map String.toList

/-- Reads a host that is not empty and gives its normal form. -/
def readHost? (special : Bool) (cs : List Char) : Option String :=
  match cs with
  | '[' :: rest =>
    if rest.getLast? = some ']' then
      (address6? rest.dropLast).map fun gs => "[" ++ renderAddress6 gs ++ "]"
    else none
  | _ =>
    if special then do
      let domain ← asciiDomain? (← decodeText? cs)
      if domain.isEmpty ∨ domain.any isForbiddenInDomain then none
      else if endsInNumber domain then (addressOfLabels? (domainLabels domain)).map renderAddress4
      else return String.ofList domain
    else if cs.any isForbiddenInHost then none
    else return encodeWith isPrintableByte (String.ofList cs)

end PolicyKeeper.Url
