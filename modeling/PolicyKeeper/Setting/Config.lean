import PolicyKeeper.Fault
import PolicyKeeper.Fields

/-!
# Configurations

A catalogue's configuration names the provider of the catalogue and has a table of properties. The
properties that have to be there are looked up together, so that all absent ones are reported at
once; a blank one counts as absent. The others are read one by one, and one that is absent has its
default.
-/

namespace PolicyKeeper

/-- The configuration of one catalogue. -/
structure Config where
  provider : String
  properties : Fields String := Fields.empty
deriving DecidableEq, Inhabited

namespace Config

/-- The value of a property. -/
def get? (c : Config) (key : String) : Option String := c.properties.get? key

/-- The value of a property that is there and not blank. -/
def getFilled? (c : Config) (key : String) : Option String :=
  (c.get? key).filter fun v => !Text.isAllBlank v

/-- Those of some keys whose properties are not there, or blank. -/
def missing (c : Config) (keys : List String) : List String :=
  keys.filter fun key => (c.getFilled? key).isNone

/-- The values of properties that have to be there, or the keys of all those that are not. -/
def required (c : Config) (keys : List String) : Except Fault (List String) :=
  if c.missing keys = [] then .ok (keys.filterMap c.getFilled?)
  else .error (.missingSettings (c.missing keys))

/-- Reads a property, trimmed. -/
def readOr {α : Type} (c : Config) (key : String) (read : String → Except ValueFlaw α)
    (default : α) : Except Fault α :=
  match c.get? key with
  | none => .ok default
  | some value =>
    match read (Text.trim value) with
    | .ok v => .ok v
    | .error flaw => .error (.badSetting (.unreadable key value flaw))

end Config

end PolicyKeeper
