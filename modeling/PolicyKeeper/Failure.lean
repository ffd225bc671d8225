import PolicyKeeper.Store.Call
import PolicyKeeper.Http.Status

/-!
# Failures

A failure has a cause and a list of what the keeper was doing when it happened, the widest task
first. A cause is a fault, a refusal of the policy service, or something from outside whose words
belong to someone else. Every layer that hands a failure on may put its own task in front; nothing
ever takes the cause away, so it can be found at the end.
-/

namespace PolicyKeeper

/-- What was being done when something failed. -/
inductive Task where
  | searchingPolicies (object : CatalogObject)
  | creatingPolicy (name : String)
  | updatingPolicy (name : String)
  | deletingPolicy (name : String)
  | creatingPrincipal (who : Principal)
  | creatingNativeRole (name : String)
  | deletingNativeRole (name : String)
  | grantingNativeRole (name : String) (who : Principal)
  | revokingNativeRole (name : String) (who : Principal)
  | creatingRole (role fullName : String)
  | deletingRole (role fullName : String)
  | updatingRole (role fullName : String)
  | grantingRole (role fullName : String)
  | revokingRole (role fullName : String)
  | settingOwner (object : CatalogObject) (name : String)
  | readingSettings
  | parsingAddress (key : String)
  | creatingKeeper (provider : String)
  | sendingRequest (call : Call)
  | parsingAnswer (call : Call)
  | readingFile
  | decodingConfig
deriving DecidableEq

/-- Why the in-memory store refuses a call. -/
inductive StoreRefusal where
  | nameTaken (name : String) (holder : Int)
  | resourceTaken (holderName : String) (holder : Int)
  | noSuchPolicy (id : Int)
  | noSuchRole (name : String)
deriving DecidableEq, Repr

/-- How the policy service's answer to a call is no success. -/
inductive Rejection where
  | status (code : Nat) (body : String)
  | notFound
  | alreadyExists
  | unexpected
deriving DecidableEq, Repr

/-- What is at the bottom of a failure. -/
inductive Cause where
  | fault (fault : Fault)
  | value (flaw : ValueFlaw)
  | refused (refusal : StoreRefusal)
  | rejected (call : Call) (rejection : Rejection)
  /-- A user name or a password is empty. -/
  | noCredentials (username password : String)
  /-- Something that is described by others, in these words. -/
  | said (text : String)
  /-- Something whose words are not the keeper's to give. -/
  | outside
deriving DecidableEq

/-- A cause, and the tasks that failed because of it, the widest first. -/
structure Failure where
  tasks : List Task := []
  cause : Cause
deriving DecidableEq

/-! ## Failures in words -/

/-- The task in words. -/
def Task.message : Task → String
  | searchingPolicies object => s!"searching policies for {object.describe}"
  | creatingPolicy name => s!"creating policy {name}"
  | updatingPolicy name => s!"updating policy {name}"
  | deletingPolicy name => s!"deleting policy {name}"
  | creatingPrincipal who => s!"creating {who.describe}"
  | creatingNativeRole name => s!"creating native role {name}"
  | deletingNativeRole name => s!"deleting native role {name}"
  | grantingNativeRole name who => s!"granting native role {name} to {who.describe}"
  | revokingNativeRole name who => s!"revoking native role {name} from {who.describe}"
  | creatingRole role fullName => s!"granting role {role} on {fullName}"
  | deletingRole role fullName => s!"removing role {role} from {fullName}"
  | updatingRole role fullName => s!"updating role {role} on {fullName}"
  | grantingRole role fullName => s!"granting {role} on {fullName}"
  | revokingRole role fullName => s!"revoking {role} on {fullName}"
  | settingOwner object name => s!"setting the owner of {object.describe} to {name}"
  | readingSettings => "reading Ranger authorization config"
  | parsingAddress key => s!"parsing {key}"
  | creatingKeeper provider => s!"creating authorization plugin for provider {provider}"
  | sendingRequest call => s!"couldn't send request to {call.describe}"
  | parsingAnswer call => s!"couldn't parse the response to {call.describe}"
  | readingFile => "Reading file"
  | decodingConfig => "Deserializing config"

/-- The refusal in words. -/
def StoreRefusal.message : StoreRefusal → String
  | nameTaken name holder => s!"another policy already exists with name {name} (id {holder})"
  | resourceTaken holderName holder =>
    s!"another policy already exists for matching resource: policy {holderName} (id {holder})"
  | noSuchPolicy id => s!"no policy with id {id}"
  | noSuchRole name => s!"role {name} does not exist"

/-- The rejection of a call in words. -/
def Rejection.message (call : Call) : Rejection → String
  | status code body => s!"{call.describe} failed with {Http.describeStatus code}: {body}"
  | notFound => s!"{call.describe} failed: not found"
  | alreadyExists => s!"{call.describe} failed: already exists"
  | unexpected => s!"{call.describe} failed: unexpected response"

/-- The cause in words, if they are the keeper's. -/
def Cause.message? : Cause → Option String
  | fault f => some f.message
  | value flaw => some flaw.message
  | refused r => some r.message
  | rejected call r => some (r.message call)
  | noCredentials username password =>
    let shown := if password.isEmpty then "" else "****"
    some <|
      "Ranger credentials are missing. Please make sure your authorization config is correct. " ++
        "Credentials received: RangerCredentials \x7b\n    username: " ++ Text.quote username ++
        ",\n    password: " ++ Text.quote shown ++ ",\n\x7d"
  | said text => some text
  | outside => none

namespace Failure

/-- A fault as a failure. -/
def ofFault (f : Fault) : Failure := { cause := .fault f }

/-- The failure as it is seen by someone with a wider task. -/
def during (task : Task) (f : Failure) : Failure := { f with tasks := task :: f.tasks }

/-- The fault at the bottom, if it is one. -/
def fault? (f : Failure) : Option Fault :=
  match f.cause with
  | .fault fault => some fault
  | _ => none

end Failure

/-- A result as it is seen by someone with a wider task. -/
def Failure.within {α : Type} (task : Task) : Except Failure α → Except Failure α
  | .ok a => .ok a
  | .error f => .error (f.during task)

/-- A result that can fail by a fault alone. -/
def Failure.ofResult {α : Type} : Except Fault α → Except Failure α
  | .ok a => .ok a
  | .error f => .error (.ofFault f)

end PolicyKeeper
