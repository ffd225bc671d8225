import PolicyKeeper.Catalog.Role
import PolicyKeeper.Json.Basic

/-!
# Policies

A policy of the service guards one resource: at each of its levels it names values, and its six
lists of items say who has which access there. The keeper looks after the policies that carry its
label.
Such a policy has a single value at every level, and each of its items has a single access. An item
of an owner is told from an item of a role by the flag that lets owners administer the resource.

What a policy or an item holds beyond this is kept as it came, in `extra`, so that writing a policy
back does not lose it.
-/

namespace PolicyKeeper

/-- The values of a resource at one level. -/
structure Resource where
  values : List String := []
  isExcludes : Bool := false
  isRecursive : Bool := false
deriving DecidableEq, Inhabited, Repr

/-- The resource of one value. -/
def Resource.single (value : String) : Resource := { values := [value] }

/-- A kind of access that an item is about. -/
structure Access where
  type : String
  isAllowed : Bool := true
deriving DecidableEq, Inhabited, Repr

/-- Who has some accesses to the resource of a policy. -/
structure Item where
  accesses : List Access := []
  users : List String := []
  groups : List String := []
  roles : List String := []
  delegateAdmin : Bool := false
  extra : Fields Json := Fields.empty
deriving DecidableEq, Inhabited

namespace Item

/-- An item for one access, with nobody in it. -/
def ofAccess (access : String) : Item := { accesses := [{ type := access }] }

/-- An owner's item for one access, with nobody in it. -/
def ofOwnerAccess (access : String) : Item := { ofAccess access with delegateAdmin := true }

/-- The access of an item that has exactly one. -/
def access? (i : Item) : Option String :=
  match i.accesses with
  | [a] => some a.type
  | _ => none

/-- Whether the item is an owner's. -/
def isOwner (i : Item) : Bool := i.delegateAdmin

/-- The users or the groups of an item. -/
def members (i : Item) : PrincipalKind → List String
  | .user => i.users
  | .group => i.groups

/-- The item with other users, or other groups. -/
def setMembers (i : Item) : PrincipalKind → List String → Item
  | .user, names => { i with users := names }
  | .group, names => { i with groups := names }

end Item

/-- A policy of the service. The service gives it an id when it is created. -/
structure Policy where
  id : Option Int := none
  guid : Option String := none
  service : String
  name : String
  description : Option String := none
  isEnabled : Bool := true
  labels : List String := []
  resources : Fields Resource := Fields.empty
  allowItems : List Item := []
  denyItems : List Item := []
  allowExceptions : List Item := []
  denyExceptions : List Item := []
  rowFilterItems : List Item := []
  dataMaskItems : List Item := []
  extra : Fields Json := Fields.empty
deriving DecidableEq, Inhabited

/-- The label of the policies that the keeper looks after. -/
def managedLabel : String := "MANAGED_BY_CATALOG"

/-- The user that stands for whoever comes to own or hold something. -/
def placeholder : String := "\x7bOWNER\x7d"

namespace Policy

/-- A managed policy on a path, with no items yet. -/
def managed (service name : String) (path : Fields String) : Policy :=
  { service, name, labels := [managedLabel], resources := path.mapValues Resource.single }

/-- Whether the keeper looks after the policy. -/
def isManaged (p : Policy) : Bool := p.labels.contains managedLabel

/-- The lists of items under their names. -/
def itemLists (p : Policy) : List (String × List Item) :=
  [("policyItems", p.allowItems), ("denyPolicyItems", p.denyItems),
    ("allowExceptions", p.allowExceptions), ("denyExceptions", p.denyExceptions),
    ("rowFilterPolicyItems", p.rowFilterItems), ("dataMaskPolicyItems", p.dataMaskItems)]

/-- Whether no list has an item. -/
def hasNoItems (p : Policy) : Bool := p.itemLists.all fun l => l.2.isEmpty

/-- The items that allow, or that deny. -/
def items (p : Policy) : Effect → List Item
  | .allow => p.allowItems
  | .deny => p.denyItems

end Policy

/-! ## Native roles and accounts -/

/-- A member of a native role. -/
structure RoleMember where
  name : String
  isAdmin : Bool := false
deriving DecidableEq, Inhabited, Repr

/-- A role as the service knows it. -/
structure NativeRole where
  id : Option Int := none
  name : String
  description : Option String := none
  users : List RoleMember := []
  groups : List RoleMember := []
  roles : List RoleMember := []
  extra : Fields Json := Fields.empty
deriving DecidableEq, Inhabited

/-- A request to add members to native roles, or to take them out. -/
structure RoleRequest where
  grantor : String
  users : List String := []
  groups : List String := []
  targets : List String
deriving DecidableEq, Inhabited, Repr

/-- A user or a group as the service describes it. -/
structure Profile where
  id : Option Int := none
  name : String
  description : Option String := none
  extra : Fields Json := Fields.empty
deriving DecidableEq, Inhabited

/-- A user or a group as the service knows it: the principal and its id. -/
structure Account where
  id : Int
  principal : Principal
deriving DecidableEq, Inhabited, Repr

end PolicyKeeper
