import PolicyKeeper.Catalog.Securable

/-!
# Accesses

A service has its own kinds of access. For each privilege of the catalogue that it knows, a table
says which of them the privilege stands for, and there are those that an owner has. The accesses of
several privileges together are listed once each, in the order of their names.
-/

namespace PolicyKeeper.ServiceType

/-- The accesses that a privilege stands for, in order of name; none if the service does not know
the privilege. -/
def accessesOf : ServiceType → Privilege → List String
  | hadoopSql, .createCatalog | hadoopSql, .createSchema | hadoopSql, .createTable => ["create"]
  | hadoopSql, .useCatalog | hadoopSql, .useSchema => ["select"]
  | hadoopSql, .modifyTable => ["alter", "update", "write"]
  | hadoopSql, .selectTable => ["read", "select"]
  | hdfs, .useCatalog | hdfs, .useSchema => ["execute"]
  | hdfs, .createFileset | hdfs, .writeFileset => ["execute", "write"]
  | hdfs, .readFileset => ["execute", "read"]
  | _, _ => []

/-- The accesses of all privileges, in order of name. -/
def grantedAccesses : ServiceType → List String
  | hadoopSql => ["alter", "create", "read", "select", "update", "write"]
  | hdfs => ["execute", "read", "write"]

/-- The accesses of an owner, in order of name. -/
def ownerAccesses : ServiceType → List String
  | hadoopSql => ["all"]
  | hdfs => ["execute", "read", "write"]

/-- No access of a privilege is missing from the list of all. -/
theorem mem_grantedAccesses {s : ServiceType} {p : Privilege} {a : String}
    (h : a ∈ s.accessesOf p) : a ∈ s.grantedAccesses := by
  cases s <;> cases p <;> simp_all [accessesOf, grantedAccesses] <;> grind

/-- Whether the service knows the privilege. -/
def supports (s : ServiceType) (p : Privilege) : Bool := !(s.accessesOf p).isEmpty

/-- The accesses that the entitlements of one effect stand for together. -/
def accesses (s : ServiceType) (es : List Entitlement) (effect : Effect) : List String :=
  s.grantedAccesses.filter fun a =>
    es.any fun e => e.effect == effect && (s.accessesOf e.privilege).contains a

/-- Refuses an object with a privilege that the service does not know. -/
def checkPrivileges (s : ServiceType) (o : Securable) : Except Fault Unit :=
  match o.entitlements.find? fun e => !s.supports e.privilege with
  | some e => .error (.unsupportedPrivilege e.privilege none)
  | none => .ok ()

end PolicyKeeper.ServiceType
