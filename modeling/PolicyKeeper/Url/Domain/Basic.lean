import PolicyKeeper.Text.Canonical
import PolicyKeeper.Url.Domain.Direction
import PolicyKeeper.Url.Domain.Joining
import PolicyKeeper.Url.Domain.Label
import PolicyKeeper.Url.Domain.Mapping

/-!
# Domains

A domain is written in any letters and has a normal form in ASCII. Its characters are replaced by
what they count as and composed, and the labels between the dots are looked at one by one. A label
that is encoded already has to decode to one that would be encoded so: with a character beyond
ASCII, in composed form, and of characters that count as themselves. No label starts with a mark,
joiners have to have their places, and the directions of the labels have to fit together. Which
ASCII characters a domain may hold is not decided here.
-/

namespace PolicyKeeper.Url

/-- The characters of a domain as they count, in composed form. -/
def foldDomain? (cs : List Char) : Option (List Char) :=
  (cs.mapM fold?).map fun images => Text.composed images.flatten

/-- Whether a label that was encoded could not have been written otherwise. -/
def isWellEncoded (label : List Char) : Bool :=
  label.any (fun c => 128 ≤ c.toNat) && label.all isKept && Text.composed label == label &&
    !encodedMark.isPrefixOf label

/-- The text that a label shows. -/
def shownLabel? (label : List Char) : Option (List Char) :=
  if encodedMark.isPrefixOf label then
    (decodeLabel? (label.drop encodedMark.length)).filter isWellEncoded
  else some label

/-- Whether a label has its marks and joiners at their places. -/
def isWellFormed (label : List Char) : Bool :=
  !label.head?.any Text.isMark && joinersFit [] label

/-- The normal form of a domain. -/
def asciiDomain? (cs : List Char) : Option (List Char) := do
  let labels ← (Text.splitChars '.' (← foldDomain? cs)).mapM shownLabel?
  if labels.all isWellFormed ∧ directionsFit labels then
    return ['.'].intercalate (labels.map asciiLabel)
  else none

end PolicyKeeper.Url
