import PolicyKeeper.Json.Token

/-!
# JSON text

Reading takes a text to the document it writes, or to nothing: `document?` accepts one value with
blanks around it and no more. The reader goes over the tokens once, with a stack of the arrays and
objects that are still open. What is inside `maxDepth` others has no value, and neither has an
object with a name that has none. Of the numbers in a document only those that they are read as go
on from there (`value`), and these are what is written again (`writes`). Writing uses no blanks.
-/

namespace PolicyKeeper.Json

/-! ## Reading -/

/-- How many arrays and objects may be around a value, itself counted. -/
def maxDepth : Nat := 127

/-- Members of an object under way, last one first, unless a name was among them that has no
value. -/
abbrev Named := Option (List (String × Document))

/-- An array or object around the one that is being read. Contents come last one first. -/
inductive Frame where
  | arr (items : List Document)
  | obj (members : Named) (name : Option String)

/-- What has been read of the innermost open array or object, and so what may come next. -/
inductive Place where
  /-- A value has to follow. -/
  | value
  /-- An array was opened. -/
  | firstItem
  /-- An item was read. -/
  | afterItem (items : List Document)
  /-- A comma was read in an array. -/
  | nextItem (items : List Document)
  /-- An object was opened. -/
  | firstMember
  /-- A comma was read in an object. -/
  | nextMember (members : Named)
  /-- The name of a member was read. -/
  | afterName (members : Named) (name : Option String)
  /-- The colon after a name was read. -/
  | memberValue (members : Named) (name : Option String)
  /-- A member was read. -/
  | afterMember (members : Named)
  /-- The whole value was read. -/
  | finished (value : Document)

/-- Puts a complete value where it belongs: into the innermost open array or object. -/
def fill (value : Document) : List Frame → Place × List Frame
  | [] => (.finished value, [])
  | .arr items :: frames => (.afterItem (value :: items), frames)
  | .obj members name :: frames =>
    (.afterMember (do return (← name, value) :: (← members)), frames)

/-- Puts a complete array or object where it belongs, unless too many are around it. -/
def fillNested (value : Document) (frames : List Frame) : Place × List Frame :=
  fill (if (frames.drop (maxDepth - 1)).isEmpty then value else .unfit) frames

/-- An object with the given members, last one first. -/
def closed : Named → Document
  | some members => .obj members.reverse
  | none => .unfit

/-- Starts on a value whose surroundings are the given frames. -/
def beginValue (frames : List Frame) : Token → Option (Place × List Frame)
  | .scalar value => some (fill value frames)
  | .text value => some (fill ((value.map Json.str).getD .unfit) frames)
  | .openArr => some (.firstItem, frames)
  | .openObj => some (.firstMember, frames)
  | _ => none

/-- Reads one token. -/
def readToken : Place × List Frame → Token → Option (Place × List Frame)
  | (.value, frames), t => beginValue frames t
  | (.firstItem, frames), .closeArr => some (fillNested (.arr []) frames)
  | (.firstItem, frames), t => beginValue (.arr [] :: frames) t
  | (.afterItem items, frames), .closeArr => some (fillNested (.arr items.reverse) frames)
  | (.afterItem items, frames), .comma => some (.nextItem items, frames)
  | (.nextItem items, frames), t => beginValue (.arr items :: frames) t
  | (.firstMember, frames), .closeObj => some (fillNested (.obj []) frames)
  | (.firstMember, frames), .text name => some (.afterName (some []) name, frames)
  | (.nextMember members, frames), .text name => some (.afterName members name, frames)
  | (.afterName members name, frames), .colon => some (.memberValue members name, frames)
  | (.memberValue members name, frames), t => beginValue (.obj members name :: frames) t
  | (.afterMember members, frames), .closeObj => some (fillNested (closed members) frames)
  | (.afterMember members, frames), .comma => some (.nextMember members, frames)
  | _, _ => none

/-- The document that a text writes, parts of which may be unfit. -/
def document? (text : String) : Option Document := do
  match ← (← tokens? text.toList).foldlM readToken (.value, []) with
  | (.finished value, []) => some value
  | _ => none

/-- The value that a document is read as. -/
def value (v : Document) : Json := v.map Written.double

/-- The value that a text is read as, parts of which may be unfit. -/
def parse? (text : String) : Option Json := (document? text).map value

/-! ## Writing -/

/-- Four hexadecimal digits. -/
def hexUnit (n : Nat) : List Char :=
  let digits := Nat.toDigits 16 n
  List.replicate (4 - digits.length) '0' ++ digits

/-- One character of a string as it is written. -/
def escapeChar (c : Char) : List Char :=
  if c = '"' then ['\\', '"']
  else if c = '\\' then ['\\', '\\']
  else if c.toNat < 0x20 ∨ c.toNat = 0x7f then ['\\', 'u'] ++ hexUnit c.toNat
  else [c]

/-- A string with its quotes. -/
def renderString (s : String) : String :=
  String.ofList ('"' :: s.toList.flatMap escapeChar ++ ['"'])

/-- What is written for a value. -/
def writes (v : Json) : Json Decimal := v.map Double.shortest

mutual

/-- The text of what is written. What is unfit is written as a number beyond the range of doubles,
which is unfit as well. -/
def renderWritten : Json Decimal → String
  | .unfit => "1e309"
  | .null => "null"
  | .bool true => "true"
  | .bool false => "false"
  | .int n => toString n
  | .real d => d.text
  | .str s => renderString s
  | .arr items => "[" ++ String.intercalate "," (renderItems items) ++ "]"
  | .obj members => "\x7b" ++ String.intercalate "," (renderMembers members) ++ "\x7d"

/-- The texts of the items of an array. -/
def renderItems : List (Json Decimal) → List String
  | [] => []
  | v :: rest => renderWritten v :: renderItems rest

/-- The texts of the members of an object. -/
def renderMembers : List (String × Json Decimal) → List String
  | [] => []
  | (k, v) :: rest => (renderString k ++ ":" ++ renderWritten v) :: renderMembers rest

end

/-- The text of a value. -/
def render (v : Json) : String := renderWritten v.writes

end PolicyKeeper.Json
