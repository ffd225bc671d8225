import PolicyKeeper.Catalog.Object
import PolicyKeeper.Fields

/-!
# Resource paths

Every object of the catalogue that a service knows has a path there: a value at each of some levels.
A root covers everything, so its path has the wildcard at every level. In a SQL service the names
below the catalogue are the values, one for each level. In a file system they make up a directory
below a root directory, which is the value of the only level.
-/

namespace PolicyKeeper

/-- The value that stands for everything at a level. -/
def wildcard : String := "*"

/-- Where the objects of the catalogue are in a service. -/
structure Layout where
  service : ServiceType
  /-- The directory that schemas lie in, in a file system. -/
  root : String := "/"
deriving DecidableEq, Inhabited, Repr

namespace Layout

/-- The root directory without the slashes at its end. -/
def rootWithoutSlash (l : Layout) : String :=
  String.ofList (l.root.toList.reverse.dropWhile (· == '/')).reverse

/-- The directory with the given names below the root directory. -/
def directory (l : Layout) (names : List String) : String :=
  names.foldl (fun path name => path ++ "/" ++ name) l.rootWithoutSlash

/-- The values of the path of an object, outermost level first. -/
def values (l : Layout) (o : CatalogObject) : Except Fault (List String) :=
  if o.kind.isRoot then .ok (List.replicate l.service.levels.length wildcard)
  else
    match l.service, o.kind with
    | .hadoopSql, .schema | .hadoopSql, .table | .hadoopSql, .column => .ok o.names.tail
    | .hdfs, .schema | .hdfs, .fileset => .ok [l.directory o.names.tail]
    | _, kind => .error (.unsupportedObject o.fullName (.noResource kind l.service))

/-- The path of an object: its values at the levels they belong to. -/
def path (l : Layout) (o : CatalogObject) : Except Fault (Fields String) :=
  (l.values o).map fun values => Fields.ofPairs (l.service.levels.zip values)

end Layout

end PolicyKeeper
