/-!
# Kinds of catalogue objects

A catalogue is a tree of named things: a metalake holds catalogues, a catalogue holds schemas, a
schema holds tables, filesets and topics, and a table has columns. The kind of a thing says how many
names lead to it, counted from the catalogue. A metalake or a catalogue is a root: a privilege on it
covers everything below.
-/

namespace PolicyKeeper

/-- What a catalogue object is. The order of the kinds is the order in which objects of one name
are sorted. -/
inductive ObjectKind where
  | metalake
  | catalog
  | schema
  | table
  | column
  | fileset
  | topic
deriving DecidableEq, Inhabited, Repr

namespace ObjectKind

/-- Every kind, in order. -/
def all : List ObjectKind := [metalake, catalog, schema, table, column, fileset, topic]

/-- The number of names that lead to an object of the kind. -/
def levels : ObjectKind → Nat
  | metalake | catalog => 1
  | schema => 2
  | table | fileset | topic => 3
  | column => 4

/-- Whether privileges on the object apply to everything there is. -/
def isRoot : ObjectKind → Bool
  | metalake | catalog => true
  | _ => false

/-- The name of the kind in messages and documents. -/
def word : ObjectKind → String
  | metalake => "METALAKE"
  | catalog => "CATALOG"
  | schema => "SCHEMA"
  | table => "TABLE"
  | column => "COLUMN"
  | fileset => "FILESET"
  | topic => "TOPIC"

/-- The kind that a word names. -/
def ofWord? (w : String) : Option ObjectKind := all.find? fun k => k.word == w

/-- Every kind is listed. -/
theorem mem_all (k : ObjectKind) : k ∈ all := by cases k <;> decide

/-- A word names the kind it is the word of. -/
theorem ofWord?_word (k : ObjectKind) : ofWord? k.word = some k := by cases k <;> decide

/-- The place of the kind in the order. -/
def rank (k : ObjectKind) : Nat := all.idxOf k

end ObjectKind

end PolicyKeeper
