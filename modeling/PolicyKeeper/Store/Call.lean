import PolicyKeeper.Policy.Basic

/-!
# Calls of the policy service

Everything the keeper ever asks of the policy service is one of twelve calls, each with an answer of
its own type. That something is already gone, or already there, is an answer and no failure.
-/

namespace PolicyKeeper

/-- What a policy search asks for: values under the keys below. -/
abbrev Search := Fields String

namespace Search

/-- The key of the service whose policies are searched. -/
def serviceKey : String := "serviceName"

/-- The key of a part of a label that the policies carry. -/
def labelKey : String := "policyLabelsPartial"

/-- What the keys of resource levels start with. -/
def levelStart : String := "resource:"

/-- The key of a resource level. -/
def levelKey (level : String) : String := levelStart ++ level

end Search

/-- What becomes of something that was to be deleted. -/
inductive Deletion where
  | deleted
  /-- There was no such thing. -/
  | notFound
deriving DecidableEq, Inhabited, Repr

/-- What becomes of something that was to be created. -/
inductive Creation where
  | created
  /-- There was such a thing before. -/
  | alreadyExists
deriving DecidableEq, Inhabited, Repr

/-- A call of the policy service. -/
inductive Call where
  | findPolicies (search : Search)
  | createPolicy (policy : Policy)
  | updatePolicy (id : Int) (policy : Policy)
  | deletePolicy (id : Int)
  /-- The accounts of exactly this principal. -/
  | findAccounts (who : Principal)
  | createAccount (who : Principal)
  | deleteAccount (kind : PrincipalKind) (id : Int)
  | getRole (name : String)
  | createRole (service : String) (role : NativeRole)
  | deleteRole (service name : String)
  | grantRoles (service : String) (request : RoleRequest)
  | revokeRoles (service : String) (request : RoleRequest)
deriving DecidableEq, Inhabited

namespace Call

/-- What a call is answered with. -/
def Answer : Call → Type
  | findPolicies _ => List Policy
  | createPolicy _ | updatePolicy .. => Policy
  | deletePolicy _ | deleteAccount .. | deleteRole .. => Deletion
  | findAccounts _ => List Account
  | createAccount _ | createRole .. => Creation
  | getRole _ => Option NativeRole
  | grantRoles .. | revokeRoles .. => Unit

/-- The call in messages. -/
def describe : Call → String
  | findPolicies _ => "search policies"
  | createPolicy policy => s!"create policy {policy.name}"
  | updatePolicy _ policy => s!"update policy {policy.name}"
  | deletePolicy id => s!"delete policy {id}"
  | findAccounts who => s!"search {who.describe}"
  | createAccount who => s!"create {who.describe}"
  | deleteAccount kind id => s!"delete {kind.describe} {id}"
  | getRole name => s!"get role {name}"
  | createRole _ role => s!"create role {role.name}"
  | deleteRole _ name => s!"delete role {name}"
  | grantRoles _ request => s!"grant roles {Text.quoteList request.targets}"
  | revokeRoles _ request => s!"revoke roles {Text.quoteList request.targets}"

end Call

end PolicyKeeper
