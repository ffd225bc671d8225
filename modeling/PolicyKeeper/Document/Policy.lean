import PolicyKeeper.Document.Member
import PolicyKeeper.Policy.Basic

/-!
# Policies as documents

How policies, native roles and accounts are written for the policy service and read from it. Each
type has a writer `toJson` and a reader `ofJson?`. Policies, items, profiles and native roles keep
the members that they do not know and write them after their own; resources, accesses, role members
and requests drop them and may be read from an array as well.
-/

namespace PolicyKeeper

open Json (Members optionalMember ofTexts)

/-! ## Resources and items -/

namespace Resource

/-- The values at a level as a document. -/
def toJson (r : Resource) : Json :=
  .obj [("values", ofTexts r.values), ("isExcludes", .bool r.isExcludes),
    ("isRecursive", .bool r.isRecursive)]

/-- Reads the values at a level. Every member may be absent. -/
def ofJson? (v : Json) : Option Resource := do
  let ms ← v.membersOrItems? ["values", "isExcludes", "isRecursive"]
  return {
    values := ← ms.get? "values" Json.texts? []
    isExcludes := ← ms.get? "isExcludes" Json.bool? false
    isRecursive := ← ms.get? "isRecursive" Json.bool? false }

end Resource

namespace Access

/-- An access as a document. -/
def toJson (a : Access) : Json := .obj [("type", .str a.type), ("isAllowed", .bool a.isAllowed)]

/-- Reads an access, which is allowed if nothing is said. -/
def ofJson? (v : Json) : Option Access := do
  let ms ← v.membersOrItems? ["type", "isAllowed"]
  return {
    type := ← ms.need? "type" Json.str?
    isAllowed := ← ms.get? "isAllowed" Json.bool? true }

end Access

namespace Item

/-- The members that an item knows. -/
def memberNames : List String := ["accesses", "users", "groups", "roles", "delegateAdmin"]

/-- An item as a document, with what it does not know at the end. -/
def toJson (i : Item) : Json :=
  .obj ([("accesses", .arr (i.accesses.map Access.toJson)), ("users", ofTexts i.users),
    ("groups", ofTexts i.groups), ("roles", ofTexts i.roles),
    ("delegateAdmin", .bool i.delegateAdmin)] ++ i.extra.entries)

/-- Reads an item, and keeps what it does not know. -/
def ofJson? (v : Json) : Option Item := do
  let ms ← v.members?
  return {
    accesses := ← ms.get? "accesses" (Json.list? Access.ofJson?) []
    users := ← ms.get? "users" Json.texts? []
    groups := ← ms.get? "groups" Json.texts? []
    roles := ← ms.get? "roles" Json.texts? []
    delegateAdmin := ← ms.get? "delegateAdmin" Json.bool? false
    extra := ← ms.kept? memberNames }

end Item

/-! ## Policies -/

namespace Policy

/-- The members that a policy knows. -/
def memberNames : List String :=
  ["id", "guid", "service", "name", "description", "isEnabled", "policyLabels", "resources",
    "policyItems", "denyPolicyItems", "allowExceptions", "denyExceptions", "rowFilterPolicyItems",
    "dataMaskPolicyItems"]

/-- The items of a list. -/
def itemsJson (items : List Item) : Json := .arr (items.map Item.toJson)

/-- The resources by their levels. -/
def resourcesJson (p : Policy) : Json := .obj (p.resources.mapValues Resource.toJson).entries

/-- A policy as a document. An id, a guid and a description that are not there are left out. -/
def toJson (p : Policy) : Json :=
  .obj (optionalMember "id" .int p.id ++ optionalMember "guid" .str p.guid ++
    [("service", .str p.service), ("name", .str p.name)] ++
    optionalMember "description" .str p.description ++
    [("isEnabled", .bool p.isEnabled), ("policyLabels", ofTexts p.labels),
      ("resources", p.resourcesJson), ("policyItems", itemsJson p.allowItems),
      ("denyPolicyItems", itemsJson p.denyItems), ("allowExceptions", itemsJson p.allowExceptions),
      ("denyExceptions", itemsJson p.denyExceptions),
      ("rowFilterPolicyItems", itemsJson p.rowFilterItems),
      ("dataMaskPolicyItems", itemsJson p.dataMaskItems)] ++
    p.extra.entries)

/-- Reads a policy, and keeps what it does not know. Only its service and its name have to be
there. -/
def ofJson? (v : Json) : Option Policy := do
  let ms ← v.members?
  let items? (name : String) : Option (List Item) := ms.get? name (Json.list? Item.ofJson?) []
  return {
    id := ← ms.maybe? "id" Json.id?
    guid := ← ms.maybe? "guid" Json.str?
    service := ← ms.need? "service" Json.str?
    name := ← ms.need? "name" Json.str?
    description := ← ms.maybe? "description" Json.str?
    isEnabled := ← ms.get? "isEnabled" Json.bool? true
    labels := ← ms.get? "policyLabels" Json.texts? []
    resources := ← ms.get? "resources" (Json.table? Resource.ofJson?) Fields.empty
    allowItems := ← items? "policyItems"
    denyItems := ← items? "denyPolicyItems"
    allowExceptions := ← items? "allowExceptions"
    denyExceptions := ← items? "denyExceptions"
    rowFilterItems := ← items? "rowFilterPolicyItems"
    dataMaskItems := ← items? "dataMaskPolicyItems"
    extra := ← ms.kept? memberNames }

end Policy

/-! ## Native roles -/

namespace RoleMember

/-- A member of a role as a document. -/
def toJson (m : RoleMember) : Json := .obj [("name", .str m.name), ("isAdmin", .bool m.isAdmin)]

/-- Reads a member of a role, which is no administrator if nothing is said. -/
def ofJson? (v : Json) : Option RoleMember := do
  let ms ← v.membersOrItems? ["name", "isAdmin"]
  return {
    name := ← ms.need? "name" Json.str?
    isAdmin := ← ms.get? "isAdmin" Json.bool? false }

end RoleMember

namespace NativeRole

/-- The members that a native role knows. -/
def memberNames : List String := ["id", "name", "description", "users", "groups", "roles"]

/-- The members of a role. -/
def membersJson (members : List RoleMember) : Json := .arr (members.map RoleMember.toJson)

/-- A native role as a document. An id and a description that are not there are left out. -/
def toJson (r : NativeRole) : Json :=
  .obj (optionalMember "id" .int r.id ++ [("name", .str r.name)] ++
    optionalMember "description" .str r.description ++
    [("users", membersJson r.users), ("groups", membersJson r.groups),
      ("roles", membersJson r.roles)] ++
    r.extra.entries)

/-- Reads a native role, and keeps what it does not know. -/
def ofJson? (v : Json) : Option NativeRole := do
  let ms ← v.members?
  return {
    id := ← ms.maybe? "id" Json.id?
    name := ← ms.need? "name" Json.str?
    description := ← ms.maybe? "description" Json.str?
    users := ← ms.get? "users" (Json.list? RoleMember.ofJson?) []
    groups := ← ms.get? "groups" (Json.list? RoleMember.ofJson?) []
    roles := ← ms.get? "roles" (Json.list? RoleMember.ofJson?) []
    extra := ← ms.kept? memberNames }

end NativeRole

namespace RoleRequest

/-- A request as a document. -/
def toJson (r : RoleRequest) : Json :=
  .obj [("grantor", .str r.grantor), ("users", ofTexts r.users), ("groups", ofTexts r.groups),
    ("targetRoles", ofTexts r.targets)]

/-- Reads a request. Who makes it and for which roles has to be there. -/
def ofJson? (v : Json) : Option RoleRequest := do
  let ms ← v.membersOrItems? ["grantor", "users", "groups", "targetRoles"]
  return {
    grantor := ← ms.need? "grantor" Json.str?
    users := ← ms.get? "users" Json.texts? []
    groups := ← ms.get? "groups" Json.texts? []
    targets := ← ms.need? "targetRoles" Json.texts? }

end RoleRequest

/-! ## Accounts -/

namespace Profile

/-- The members that a profile knows. -/
def memberNames : List String := ["id", "name", "description"]

/-- A profile as a document. An id and a description that are not there are left out. -/
def toJson (p : Profile) : Json :=
  .obj (optionalMember "id" .int p.id ++ [("name", .str p.name)] ++
    optionalMember "description" .str p.description ++ p.extra.entries)

/-- Reads a profile, and keeps what it does not know. -/
def ofJson? (v : Json) : Option Profile := do
  let ms ← v.members?
  return {
    id := ← ms.maybe? "id" Json.id?
    name := ← ms.need? "name" Json.str?
    description := ← ms.maybe? "description" Json.str?
    extra := ← ms.kept? memberNames }

/-- The member under which a list of users, or of groups, comes. -/
def listName : PrincipalKind → String
  | .user => "vXUsers"
  | .group => "vXGroups"

/-- Reads a list of users or groups. -/
def listOfJson? (kind : PrincipalKind) (v : Json) : Option (List Profile) := do
  let ms ← v.membersOrItems? [listName kind]
  ms.get? (listName kind) (Json.list? ofJson?) []

end Profile

end PolicyKeeper
