import PolicyKeeper.Catalog.Securable
import PolicyKeeper.Fields

/-!
# Roles and principals

A role is a name for a list of securable objects. It changes by gaining an object, by losing one, or
by having the entitlements on one replaced. Principals are the users and groups that hold roles and
own objects; a user and a group of one name are two principals.
-/

namespace PolicyKeeper

/-- A role of the catalogue. -/
structure Role where
  name : String
  securables : List Securable
  properties : Fields String := Fields.empty
deriving DecidableEq, Inhabited

/-- A change of the objects of a role. -/
inductive RoleChange where
  | add (object : Securable)
  | remove (object : Securable)
  | replace (old new : Securable)
deriving DecidableEq, Inhabited, Repr

namespace RoleChange

/-- The change that replaces the entitlements on an object. Both sides have to be of one object,
and the entitlements have to differ as sets. -/
def replace? (old new : Securable) : Except Fault RoleChange :=
  if old.object ≠ new.object then
    .error (.invalidChange (.otherObject old.object.describe new.object.describe))
  else if old.sameEntitlements new then
    .error (.invalidChange (.unchanged old.object.fullName))
  else .ok (.replace old new)

/-- The object that the change is about. -/
def object : RoleChange → CatalogObject
  | add s | remove s | replace s _ => s.object

end RoleChange

/-- Users and groups are named apart from each other. -/
inductive PrincipalKind where
  | user
  | group
deriving DecidableEq, Inhabited, Repr

namespace PrincipalKind

/-- The kind in messages. -/
def describe : PrincipalKind → String
  | user => "user"
  | group => "group"

/-- The kind in documents. -/
def word : PrincipalKind → String
  | user => "USER"
  | group => "GROUP"

/-- The kind that a document names. -/
def ofWord? (w : String) : Option PrincipalKind := [user, group].find? fun k => k.word == w

end PrincipalKind

/-- A user or a group. -/
structure Principal where
  kind : PrincipalKind
  name : String
deriving DecidableEq, Inhabited, Repr

/-- The principal in messages, such as `user alice`. -/
def Principal.describe (p : Principal) : String := s!"{p.kind.describe} {p.name}"

/-- What the catalogue says of a user or a group: its name and the roles it holds. -/
structure RoleHolder where
  name : String
  roles : List String
deriving DecidableEq, Inhabited, Repr

end PolicyKeeper
