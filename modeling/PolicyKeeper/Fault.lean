import PolicyKeeper.Catalog.Privilege
import PolicyKeeper.Service

/-!
# Faults

A fault is something the keeper itself finds wrong: with its settings, with what the catalogue
tells it, or with the policies it looks after. Failures of the policy service are no faults. Each
kind of fault can be told from the others by callers, so a fault is a value and gets its words only
in `Fault.message`. Where a fault has several reasons they are values as well; `said` is a reason
that comes in words from elsewhere.
-/

namespace PolicyKeeper

/-- What is wrong with a setting that is there. -/
inductive SettingFlaw where
  /-- The value is not of the type the setting takes. -/
  | unreadable (key value : String) (flaw : ValueFlaw)
  /-- The address of the service is not one to speak HTTP to. -/
  | urlScheme (key url : String)
  /-- Only one way to prove who one is can be used. -/
  | authType (key value : String)
  /-- Nobody serves catalogues of this provider. -/
  | unknownProvider (provider : String) (known : List String)
  | said (reason : String)
deriving DecidableEq, Repr

/-- What is wrong with a managed policy. -/
inductive PolicyFlaw where
  /-- An item of the list has no access, or several. -/
  | accessCount (list : String) (count : Nat)
  /-- Two owner items, or two items that are not, are for one access. -/
  | repeatedAccess (list access : String) (owner : Bool)
  | said (reason : String)
deriving DecidableEq, Repr

/-- Why an object has no resource in the service. -/
inductive PathFlaw where
  /-- The service knows no such kind of object. -/
  | noResource (kind : ObjectKind) (service : ServiceType)
  | said (reason : String)
deriving DecidableEq, Repr

/-- What is wrong with an object or the entitlements on it. -/
inductive ObjectFlaw where
  | emptyName (fullName : String)
  | levelCount (fullName : String) (found : Nat) (kind : ObjectKind)
  | contradiction (privilege : Privilege) (fullName : String)
  | said (reason : String)
deriving DecidableEq, Repr

/-- What is wrong with a change of a role. -/
inductive ChangeFlaw where
  /-- A replacement has to be of the same object. -/
  | otherObject (old new : String)
  /-- A replacement has to change something. -/
  | unchanged (fullName : String)
  | said (reason : String)
deriving DecidableEq, Repr

/-- Something the keeper finds wrong. -/
inductive Fault where
  /-- Settings that have to be there are absent or blank. -/
  | missingSettings (keys : List String)
  /-- A setting cannot be used. -/
  | badSetting (flaw : SettingFlaw)
  /-- Several managed policies are for one object. -/
  | ambiguousPolicy (object : String) (count : Nat)
  /-- A managed policy is not of the shape that managed policies have. -/
  | corruptPolicy (policy : String) (flaw : PolicyFlaw)
  /-- The privilege does not exist in the service, or on this kind of object. -/
  | unsupportedPrivilege (privilege : Privilege) (kind : Option ObjectKind)
  /-- The object does not exist in the service. -/
  | unsupportedObject (object : String) (flaw : PathFlaw)
  /-- The object or its entitlements are malformed. -/
  | invalidObject (flaw : ObjectFlaw)
  /-- The change of a role is malformed. -/
  | invalidChange (flaw : ChangeFlaw)
deriving DecidableEq, Repr

/-! ## Faults in words -/

/-- The flaw in words. -/
def SettingFlaw.message : SettingFlaw → String
  | unreadable key value flaw => s!"{key} = {Text.quote value}: {flaw.message}"
  | urlScheme key url => s!"{key} must be an http(s) url, got {url}"
  | authType key value => s!"{key} {Text.quote value} is not supported; use simple"
  | unknownProvider provider known =>
    "no authorization plugin for provider " ++ Text.quote provider ++ "; known providers: " ++
      Text.quoteList known
  | said reason => reason

/-- The flaw in words. -/
def PolicyFlaw.message : PolicyFlaw → String
  | accessCount list count => s!"an item in {list} has {count} access types"
  | repeatedAccess list access owner =>
    let item := if owner then "owner" else "grant"
    s!"access type {access} appears in more than one {item} item in {list}"
  | said reason => reason

/-- The flaw in words. -/
def PathFlaw.message : PathFlaw → String
  | noResource kind .hadoopSql => s!"a {kind.word} has no {ServiceType.hadoopSql.word} resource"
  | noResource kind .hdfs => s!"a {kind.word} has no {ServiceType.hdfs.word} path"
  | said reason => reason

/-- The flaw in words. -/
def ObjectFlaw.message : ObjectFlaw → String
  | emptyName fullName => s!"{Text.quote fullName} contains an empty name"
  | levelCount fullName found kind =>
    s!"{Text.quote fullName} has {found} levels, but a {kind.word} name has {kind.levels}"
  | contradiction privilege fullName =>
    s!"{privilege.word} is both allowed and denied on {fullName}"
  | said reason => reason

/-- The flaw in words. -/
def ChangeFlaw.message : ChangeFlaw → String
  | otherObject old new => s!"the old and new securable objects differ: {old} vs {new}"
  | unchanged fullName => s!"the privileges on {fullName} are unchanged"
  | said reason => reason

/-- The fault in words. -/
def Fault.message : Fault → String
  | missingSettings keys =>
    s!"authorization config missing required fields: {Text.quoteList keys}"
  | badSetting flaw => s!"invalid authorization config: {flaw.message}"
  | ambiguousPolicy object count =>
    s!"metadata object {object} matches {count} managed policies, expected at most one"
  | corruptPolicy policy flaw => s!"managed policy {policy} is corrupt: {flaw.message}"
  | unsupportedPrivilege privilege none => s!"privilege {privilege.word} is not supported"
  | unsupportedPrivilege privilege (some kind) =>
    s!"privilege {privilege.word} is not supported on {kind.word}"
  | unsupportedObject object flaw =>
    s!"metadata object {object} is not supported: {flaw.message}"
  | invalidObject flaw => s!"invalid metadata object: {flaw.message}"
  | invalidChange flaw => s!"invalid role change: {flaw.message}"

end PolicyKeeper
