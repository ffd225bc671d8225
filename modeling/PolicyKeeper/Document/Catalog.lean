import PolicyKeeper.Document.Member
import PolicyKeeper.Catalog.Role
import PolicyKeeper.Setting.Config

/-!
# The catalogue as documents

How objects, entitlements, roles and principals of the catalogue are written and read. Reading takes
an object as it is: neither its full name nor its entitlements are checked. A securable object has
the members of its object beside its own and is always written as an object; all others may be
written as arrays too, and they pass over members that they do not know.
-/

namespace PolicyKeeper

open Json (Members ofTexts)

namespace ObjectKind

/-- A kind is written as its word. -/
def toJson (k : ObjectKind) : Json := .str k.word

/-- Reads the word of a kind. -/
def ofJson? : Json → Option ObjectKind := Json.word? ofWord?

end ObjectKind

namespace CatalogObject

/-- The members of an object. -/
def members (o : CatalogObject) : Members :=
  [("full_name", .str o.fullName), ("type", o.kind.toJson)]

/-- An object as a document. -/
def toJson (o : CatalogObject) : Json := .obj o.members

/-- Reads an object. Its full name may be anything. -/
def ofJson? (v : Json) : Option CatalogObject := do
  let ms ← v.membersOrItems? ["full_name", "type"]
  return {
    fullName := ← ms.need? "full_name" Json.str?
    kind := ← ms.need? "type" ObjectKind.ofJson? }

end CatalogObject

namespace Entitlement

/-- An entitlement as a document. -/
def toJson (e : Entitlement) : Json :=
  .obj [("name", .str e.privilege.word), ("condition", .str e.effect.word)]

/-- Reads an entitlement. Its effect has to be there. -/
def ofJson? (v : Json) : Option Entitlement := do
  let ms ← v.membersOrItems? ["name", "condition"]
  return {
    privilege := ← ms.need? "name" (Json.word? Privilege.ofWord?)
    effect := ← ms.need? "condition" (Json.word? Effect.ofWord?) }

end Entitlement

namespace Securable

/-- A securable object as a document, with its object's members among its own. -/
def toJson (s : Securable) : Json :=
  .obj (s.object.members ++ [("privileges", .arr (s.entitlements.map Entitlement.toJson))])

/-- Reads a securable object. Its entitlements are taken as they are, repeated ones too. All members
beside them need values, also those that it does not know. -/
def ofJson? (v : Json) : Option Securable := do
  let ms ← v.members?
  let _ ← ms.kept? ["privileges"]
  return {
    object := {
      fullName := ← ms.need? "full_name" Json.str?
      kind := ← ms.need? "type" (Json.looseWord? ObjectKind.ofWord?) }
    entitlements := ← ms.need? "privileges" (Json.list? Entitlement.ofJson?) }

end Securable

/-- The properties of a role or a catalogue. -/
def propertiesJson (properties : Fields String) : Json := .obj (properties.mapValues .str).entries

namespace Role

/-- A role as a document. -/
def toJson (r : Role) : Json :=
  .obj [("name", .str r.name), ("securable_objects", .arr (r.securables.map Securable.toJson)),
    ("properties", propertiesJson r.properties)]

/-- Reads a role, which may have no objects and no properties. -/
def ofJson? (v : Json) : Option Role := do
  let ms ← v.membersOrItems? ["name", "securable_objects", "properties"]
  return {
    name := ← ms.need? "name" Json.str?
    securables := ← ms.get? "securable_objects" (Json.list? Securable.ofJson?) []
    properties := ← ms.get? "properties" (Json.table? Json.str?) Fields.empty }

end Role

namespace PrincipalKind

/-- A kind of principal is written as its word. -/
def toJson (k : PrincipalKind) : Json := .str k.word

/-- Reads the word of a kind of principal. -/
def ofJson? : Json → Option PrincipalKind := Json.word? ofWord?

end PrincipalKind

namespace Principal

/-- A principal as a document. -/
def toJson (p : Principal) : Json := .obj [("name", .str p.name), ("type", p.kind.toJson)]

/-- Reads a principal. -/
def ofJson? (v : Json) : Option Principal := do
  let ms ← v.membersOrItems? ["name", "type"]
  return {
    name := ← ms.need? "name" Json.str?
    kind := ← ms.need? "type" PrincipalKind.ofJson? }

end Principal

namespace RoleHolder

/-- A user or a group with its roles as a document. -/
def toJson (h : RoleHolder) : Json := .obj [("name", .str h.name), ("roles", ofTexts h.roles)]

/-- Reads a user or a group, which may hold no roles. -/
def ofJson? (v : Json) : Option RoleHolder := do
  let ms ← v.membersOrItems? ["name", "roles"]
  return {
    name := ← ms.need? "name" Json.str?
    roles := ← ms.get? "roles" Json.texts? [] }

end RoleHolder

namespace Config

/-- A configuration as a document. -/
def toJson (c : Config) : Json :=
  .obj [("provider", .str c.provider), ("properties", propertiesJson c.properties)]

/-- Reads a configuration, which may have no properties. -/
def ofJson? (v : Json) : Option Config := do
  let ms ← v.membersOrItems? ["provider", "properties"]
  return {
    provider := ← ms.need? "provider" Json.str?
    properties := ← ms.get? "properties" (Json.table? Json.str?) Fields.empty }

end Config

end PolicyKeeper
