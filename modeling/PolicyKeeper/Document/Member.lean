import PolicyKeeper.Json.Basic

/-!
# Reading the members of an object

A record is written as an object. A member that the record knows may occur once. It may be absent if
it has a default, and it may be null only if it is optional, which then says the same as absence.
Members that the record does not know are passed over, or kept by those records that keep them; then
all of them need values, and the last of several members of one name counts. Records that pass over
them may also be written as an array of their members in order.
-/

namespace PolicyKeeper.Json

/-- The members of an object as they were written. -/
abbrev Members (ν : Type := Double) := List (String × Json ν)

variable {α ν : Type}

/-! ## Values -/

/-- Reads a string. -/
def str? : Json → Option String
  | .str s => some s
  | _ => none

/-- Reads a truth value. -/
def bool? : Json → Option Bool
  | .bool b => some b
  | _ => none

/-- Whether a number can be the id of something. -/
def isId (n : Int) : Bool := -0x8000000000000000 ≤ n && n ≤ 0x7fffffffffffffff

/-- Reads an id: a whole number of 64 bits with a sign. -/
def id? : Json → Option Int
  | .int n => if isId n then some n else none
  | _ => none

/-- Reads an array, item by item. -/
def list? (read : Json → Option α) : Json → Option (List α)
  | .arr items => items.mapM read
  | _ => none

/-- Reads an array of strings. -/
def texts? : Json → Option (List String) := list? str?

/-- Reads an object as a table: any names, the last value of each. -/
def table? (read : Json → Option α) : Json → Option (Fields α)
  | .obj members =>
    (members.mapM fun (m : String × Json) => (read m.2).map fun v => (m.1, v)).map Fields.ofPairs
  | _ => none

/-- Reads one of several words. A word may also be the name of the only member of an object, with
null as its value. -/
def word? (read : String → Option α) : Json → Option α
  | .str w => read w
  | .obj [(w, .null)] => read w
  | _ => none

/-- As `word?`, but the value of the only member may also be an empty object. -/
def looseWord? (read : String → Option α) : Json → Option α
  | .obj [(w, .obj [])] => read w
  | v => word? read v

/-! ## Members of a record -/

/-- The members of a record that is written as an object. -/
def members? : Json ν → Option (Members ν)
  | .obj members => some members
  | _ => none

/-- The members of a record that is written as an object, or as an array of at most as many items as
there are names. -/
def membersOrItems? (names : List String) : Json ν → Option (Members ν)
  | .obj members => some members
  | .arr items => if items.length ≤ names.length then some (names.zip items) else none
  | _ => none

namespace Members

/-- The values of the members of one name. -/
def named (ms : Members ν) (name : String) : List (Json ν) :=
  (ms.filter fun m => m.1 == name).map Prod.snd

/-- Reads a member that has to be there. -/
def need? (ms : Members) (name : String) (read : Json → Option α) : Option α :=
  match ms.named name with
  | [v] => read v
  | _ => none

/-- Reads a member that may be absent. -/
def get? (ms : Members) (name : String) (read : Json → Option α) (default : α) : Option α :=
  match ms.named name with
  | [] => some default
  | [v] => read v
  | _ => none

/-- Reads a member that may be absent or null. -/
def maybe? (ms : Members) (name : String) (read : Json → Option α) : Option (Option α) :=
  match ms.named name with
  | [] | [.null] => some none
  | [v] => (read v).map some
  | _ => none

/-- The members that a record does not know. -/
def others (ms : Members) (known : List String) : Members :=
  ms.filter fun m => !known.contains m.1

/-- The members that a record does not know, settled, if all of them can be kept. -/
def kept? (ms : Members) (known : List String) : Option (Fields Json) :=
  if membersFit (ms.others known) then some (Fields.ofPairs (settleMembers (ms.others known)))
  else none

end Members

/-- The member of an optional value, which is left out if there is none. -/
def optionalMember (name : String) (write : α → Json) : Option α → Members
  | none => []
  | some v => [(name, write v)]

end PolicyKeeper.Json
