import PolicyKeeper.Admin.Request
import PolicyKeeper.Keeper.Event
import PolicyKeeper.Setting.Providers
import PolicyKeeper.Setting.Settings

/-!
# Deployments

A deployment is a keeper together with the client that it speaks to its service through. It is built
from a configuration, for the providers of SQL engines and of file systems.
-/

namespace PolicyKeeper

/-- A keeper and the client it speaks through. -/
structure Deployment where
  keeper : Keeper
  client : Admin.Client
deriving DecidableEq, Inhabited

namespace Deployment

/-- The keeper that goes by some settings. -/
def keeperOf (s : Settings) : Keeper :=
  { service := s.service, layout := { service := s.serviceType, root := s.root }, mode := s.mode
    grantor := s.username }

/-- Builds a deployment from a configuration. The given service type is taken if the configuration
names none. -/
def ofConfig (defaultType : ServiceType) (c : Config) : Except Failure Deployment := do
  let settings ← Failure.within .readingSettings (Settings.read defaultType c)
  let client ← Admin.Client.connect settings.address settings.username settings.password
  return { keeper := keeperOf settings, client }

/-- The providers of catalogues that are served, and the type of their services. -/
def served : List (String × ServiceType) :=
  [("hive", .hadoopSql), ("lakehouse-iceberg", .hadoopSql), ("lakehouse-paimon", .hadoopSql),
    ("lakehouse-hudi", .hadoopSql), ("hadoop", .hdfs)]

/-- Registers the providers that are served. -/
def register (ps : Providers Deployment) : Providers Deployment :=
  served.foldl (fun ps p => ps.register p.1 (ofConfig p.2)) ps

end Deployment

end PolicyKeeper
