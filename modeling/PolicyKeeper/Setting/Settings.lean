import PolicyKeeper.Setting.Config
import PolicyKeeper.Failure
import PolicyKeeper.Url.Basic

/-!
# Settings

What a keeper needs to know is taken from a catalogue's configuration. Five properties have to be
there, and are asked for before any of them is looked at. Then the address of the service is read,
then the way to prove who one is, then the optional properties; the first that cannot be used is
reported.
-/

namespace PolicyKeeper

/-- The settings of a keeper. -/
structure Settings where
  /-- The address of the service. -/
  address : Url
  username : String
  password : String
  /-- The service whose policies are looked after. -/
  service : String
  serviceType : ServiceType
  /-- How many seconds an answer may take. -/
  timeout : Int
  /-- How often a request is sent again. -/
  retries : Int
  mode : GrantMode
  /-- The directory that schemas lie in, in a file system. -/
  root : String
deriving DecidableEq, Inhabited

namespace Settings

/-! ## The keys of the properties -/

/-- Where the service is. -/
def addressKey : String := "authorization.ranger.admin.url"

/-- The way to prove who one is. -/
def authTypeKey : String := "authorization.ranger.auth.type"

/-- The user the keeper acts as. -/
def usernameKey : String := "authorization.ranger.username"

/-- The password of that user. -/
def passwordKey : String := "authorization.ranger.password"

/-- The service whose policies are looked after. -/
def serviceKey : String := "authorization.ranger.service.name"

/-- What the service guards. -/
def serviceTypeKey : String := "authorization.ranger.service.type"

/-- How many seconds an answer may take. -/
def timeoutKey : String := "authorization.ranger.request.timeout.secs"

/-- How often a request is sent again. -/
def retriesKey : String := "authorization.ranger.retry.max"

/-- Who stands in the items of policies. -/
def modeKey : String := "authorization.ranger.grant.mode"

/-- The directory that schemas lie in, in a file system. -/
def rootKey : String := "authorization.ranger.hdfs.root"

/-- The properties that have to be there. -/
def requiredKeys : List String := [addressKey, authTypeKey, usernameKey, passwordKey, serviceKey]

/-! ## Reading -/

/-- Reads the address of the service. Only HTTP is spoken there. -/
def readAddress (text : String) : Except Failure Url :=
  match Url.parse? text with
  | none => .error { tasks := [.parsingAddress addressKey], cause := .outside }
  | some url =>
    if url.scheme = "http" ∨ url.scheme = "https" then .ok url
    else .error (.ofFault (.badSetting (.urlScheme addressKey url.render)))

/-- Refuses every way to prove who one is but the simple one. -/
def checkAuthType (text : String) : Except Fault Unit :=
  if Text.lowerAscii text = "simple" then .ok ()
  else .error (.badSetting (.authType authTypeKey text))

/-- Reads the settings. The given service type is taken if the configuration names none. -/
def read (defaultType : ServiceType) (c : Config) : Except Failure Settings := do
  match ← Failure.ofResult (c.required requiredKeys) with
  | [address, authType, username, password, service] =>
    let address ← readAddress address
    Failure.ofResult (checkAuthType authType)
    return {
      address, username, password, service
      serviceType := ← Failure.ofResult (c.readOr serviceTypeKey ServiceType.read defaultType)
      timeout := ← Failure.ofResult (c.readOr timeoutKey Bounds.word64.read 30)
      retries := ← Failure.ofResult (c.readOr retriesKey Bounds.word32.read 3)
      mode := ← Failure.ofResult (c.readOr modeKey GrantMode.read .role)
      root := (c.get? rootKey).getD "/" }
  | _ => throw { cause := .said "config lookup returned the wrong number of values" }

end Settings

end PolicyKeeper
