import PolicyKeeper.Catalog.Kind

/-!
# Privileges

A privilege names something one may do in the catalogue; an entitlement allows it or denies it.
A privilege binds to the kind of object it is about and to every kind of object above, up to the
metalake.
-/

namespace PolicyKeeper

/-- What a role may be entitled to do. The order of the privileges is the order in which they are
sorted. -/
inductive Privilege where
  | createCatalog
  | useCatalog
  | createSchema
  | useSchema
  | createTable
  | modifyTable
  | selectTable
  | createFileset
  | readFileset
  | writeFileset
  | createTopic
  | produceTopic
  | consumeTopic
  | manageUsers
  | manageGroups
  | createRole
  | manageGrants
deriving DecidableEq, Inhabited, Repr

namespace Privilege

/-- Every privilege, in order. -/
def all : List Privilege :=
  [createCatalog, useCatalog, createSchema, useSchema, createTable, modifyTable, selectTable,
    createFileset, readFileset, writeFileset, createTopic, produceTopic, consumeTopic, manageUsers,
    manageGroups, createRole, manageGrants]

/-- The name of the privilege in messages and documents. -/
def word : Privilege → String
  | createCatalog => "CREATE_CATALOG"
  | useCatalog => "USE_CATALOG"
  | createSchema => "CREATE_SCHEMA"
  | useSchema => "USE_SCHEMA"
  | createTable => "CREATE_TABLE"
  | modifyTable => "MODIFY_TABLE"
  | selectTable => "SELECT_TABLE"
  | createFileset => "CREATE_FILESET"
  | readFileset => "READ_FILESET"
  | writeFileset => "WRITE_FILESET"
  | createTopic => "CREATE_TOPIC"
  | produceTopic => "PRODUCE_TOPIC"
  | consumeTopic => "CONSUME_TOPIC"
  | manageUsers => "MANAGE_USERS"
  | manageGroups => "MANAGE_GROUPS"
  | createRole => "CREATE_ROLE"
  | manageGrants => "MANAGE_GRANTS"

/-- The privilege that a word names. -/
def ofWord? (w : String) : Option Privilege := all.find? fun p => p.word == w

/-- Every privilege is listed. -/
theorem mem_all (p : Privilege) : p ∈ all := by cases p <;> decide

/-- A word names the privilege it is the word of. -/
theorem ofWord?_word (p : Privilege) : ofWord? p.word = some p := by cases p <;> decide

/-- The place of the privilege in the order. -/
def rank (p : Privilege) : Nat := all.idxOf p

/-- The kinds of objects that a privilege is granted on. -/
def bindsTo : Privilege → List ObjectKind
  | createCatalog | manageUsers | manageGroups | createRole | manageGrants => [.metalake]
  | useCatalog | createSchema => [.metalake, .catalog]
  | useSchema | createTable | createFileset | createTopic => [.metalake, .catalog, .schema]
  | modifyTable | selectTable => [.metalake, .catalog, .schema, .table, .column]
  | readFileset | writeFileset => [.metalake, .catalog, .schema, .fileset]
  | produceTopic | consumeTopic => [.metalake, .catalog, .schema, .topic]

/-- Whether a privilege can be granted on an object of the kind. -/
def canBindTo (p : Privilege) (k : ObjectKind) : Bool := p.bindsTo.contains k

end Privilege

/-- Whether an entitlement gives access or takes it away. -/
inductive Effect where
  | allow
  | deny
deriving DecidableEq, Inhabited, Repr

namespace Effect

/-- The name of the effect in messages and documents. -/
def word : Effect → String
  | allow => "ALLOW"
  | deny => "DENY"

/-- The effect that a word names. -/
def ofWord? (w : String) : Option Effect := [allow, deny].find? fun e => e.word == w

end Effect

/-- A privilege that is allowed or denied. -/
structure Entitlement where
  privilege : Privilege
  effect : Effect
deriving DecidableEq, Inhabited, Repr

namespace Entitlement

/-- The entitlement in messages, such as `ALLOW SELECT_TABLE`. -/
def describe (e : Entitlement) : String := e.effect.word ++ " " ++ e.privilege.word

/-- The order of entitlements: by privilege, and what is allowed before what is denied. -/
def le (a b : Entitlement) : Bool :=
  a.privilege.rank < b.privilege.rank ||
    (a.privilege == b.privilege && (a.effect == .allow || b.effect == .deny))

end Entitlement

end PolicyKeeper
