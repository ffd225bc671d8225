/-!
# Looking for a text in a text
-/

namespace PolicyKeeper.Text

/-- Whether the characters occur in a row. -/
def occursIn (part : List Char) : List Char → Bool
  | [] => part.isEmpty
  | c :: rest => part.isPrefixOf (c :: rest) || occursIn part rest

/-- Whether a text contains another. -/
def contains (whole part : String) : Bool := occursIn part.toList whole.toList

/-- What follows a beginning, if the text has it. -/
def afterStart? (start whole : String) : Option String :=
  (start.toList.isPrefixOf? whole.toList).map String.ofList

end PolicyKeeper.Text
