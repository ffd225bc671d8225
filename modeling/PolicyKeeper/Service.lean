import PolicyKeeper.Setting.Value
import PolicyKeeper.Text.Blank

/-!
# Services and grant modes

A policy service guards one kind of system. The kind says which levels a resource has: a SQL engine
knows databases, tables and columns, a file system knows paths. The grant mode says who stands in
the items of a policy: the catalogue's roles, or a placeholder for whoever holds the role.
-/

namespace PolicyKeeper

/-- What a policy service guards. -/
inductive ServiceType where
  | hadoopSql
  | hdfs
deriving DecidableEq, Inhabited, Repr

namespace ServiceType

/-- The name of the type in messages and settings. -/
def word : ServiceType → String
  | hadoopSql => "hadoopsql"
  | hdfs => "hdfs"

/-- Reads a service type, in any case; a SQL service also answers to the name of its oldest
engine. -/
def read (text : String) : Except ValueFlaw ServiceType :=
  let w := Text.lowerAscii text
  if w = "hadoopsql" ∨ w = "hive" then .ok hadoopSql
  else if w = "hdfs" then .ok hdfs
  else .error (.unknownServiceType w)

/-- The levels of a resource, outermost first. -/
def levels : ServiceType → List String
  | hadoopSql => ["database", "table", "column"]
  | hdfs => ["path"]

end ServiceType

/-- Who stands in the items that grant a role its accesses. -/
inductive GrantMode where
  /-- The roles themselves. Users and groups are members of native roles of the same names. -/
  | role
  /-- A placeholder user, and beside it the users and groups that hold a role. -/
  | ownerPlaceholder
deriving DecidableEq, Inhabited, Repr

namespace GrantMode

/-- The name of the mode in messages and settings. -/
def word : GrantMode → String
  | role => "role"
  | ownerPlaceholder => "owner-placeholder"

/-- Reads a grant mode, in any case. -/
def read (text : String) : Except ValueFlaw GrantMode :=
  let w := Text.lowerAscii text
  if w = "role" then .ok role
  else if w = "owner-placeholder" then .ok ownerPlaceholder
  else .error (.unknownGrantMode w)

end GrantMode

end PolicyKeeper
