import PolicyKeeper.Store.Plan
import PolicyKeeper.Text.Glob
import PolicyKeeper.Text.Search

/-!
# The store in memory

A small policy service: policies by their ids, the accounts of users and groups, and native roles.
Ids come from one counter, so policies, accounts and roles never share one. Two policies of one
service may have neither one name nor one resource. A call that is refused says why; writes of
policies are counted.

A policy search takes the values of stored policies as patterns, so it may return more than the
policies on exactly the resource that is searched for.
-/

namespace PolicyKeeper

/-- What the policy service knows. -/
structure Store where
  /-- The policies by their ids, in increasing order. -/
  policies : List (Int × Policy) := []
  /-- The accounts, oldest first. -/
  accounts : List Account := []
  /-- The native roles, oldest first. -/
  roles : List NativeRole := []
  /-- The id that was given last. -/
  lastId : Int := 0
  /-- How many policies were created, updated and deleted. -/
  writes : Nat := 0
deriving DecidableEq, Inhabited

namespace Store

/-- The next id to give. -/
def nextId (s : Store) : Int := s.lastId + 1

/-! ## Policies -/

/-- Whether a policy answers to one key of a search. A key that means nothing does not restrict the
search. -/
def answersKey (p : Policy) (key value : String) : Bool :=
  if key = Search.serviceKey then p.service == value
  else if key = Search.labelKey then p.labels.any fun label => Text.contains label value
  else
    match Text.afterStart? Search.levelStart key with
    | some level =>
      match p.resources.get? level with
      | some r => r.values.any fun stored => Text.Glob.matchesValue stored value
      | none => false
    | none => true

/-- Whether a policy answers to a search. -/
def answers (search : Search) (p : Policy) : Bool :=
  search.entries.all fun e => answersKey p e.1 e.2

/-- The policies that answer to a search, by their ids. -/
def findPolicies (s : Store) (search : Search) : List Policy :=
  (s.policies.map Prod.snd).filter (answers search)

/-- What stands against storing a policy under an id. A policy never stands against itself. -/
def conflict? (s : Store) (id : Option Int) (p : Policy) : Option StoreRefusal :=
  s.policies.findSome? fun (otherId, other) =>
    if some otherId = id ∨ other.service ≠ p.service then none
    else if other.name = p.name then some (.nameTaken p.name otherId)
    else if other.resources.sameAs p.resources then some (.resourceTaken other.name otherId)
    else none

/-- Stores a policy under the next id, whatever else there is. -/
def insertPolicy (s : Store) (p : Policy) : Policy × Store :=
  let stored := { p with id := some s.nextId }
  (stored, { s with policies := s.policies ++ [(s.nextId, stored)], lastId := s.nextId })

/-- Creates a policy. -/
def createPolicy (s : Store) (p : Policy) : Except StoreRefusal Policy × Store :=
  match s.conflict? none p with
  | some refusal => (.error refusal, s)
  | none =>
    let (stored, s) := s.insertPolicy p
    (.ok stored, { s with writes := s.writes + 1 })

/-- Whether there is a policy of the id. -/
def hasPolicy (s : Store) (id : Int) : Bool := s.policies.any fun e => e.1 == id

/-- Puts a policy in the place of another. -/
def updatePolicy (s : Store) (id : Int) (p : Policy) : Except StoreRefusal Policy × Store :=
  if s.hasPolicy id then
    match s.conflict? (some id) p with
    | some refusal => (.error refusal, s)
    | none =>
      let stored := { p with id := some id }
      let policies := s.policies.map fun e => if e.1 = id then (id, stored) else e
      (.ok stored, { s with policies, writes := s.writes + 1 })
  else (.error (.noSuchPolicy id), s)

/-- Deletes a policy. -/
def deletePolicy (s : Store) (id : Int) : Deletion × Store :=
  if s.hasPolicy id then
    let policies := s.policies.filter fun e => e.1 != id
    (.deleted, { s with policies, writes := s.writes + 1 })
  else (.notFound, s)

/-! ## Accounts -/

/-- The accounts of a principal. -/
def findAccounts (s : Store) (who : Principal) : List Account :=
  s.accounts.filter fun a => a.principal == who

/-- Creates an account for a principal, unless it has one. -/
def createAccount (s : Store) (who : Principal) : Creation × Store :=
  if s.accounts.any fun a => a.principal == who then (.alreadyExists, s)
  else
    (.created, { s with accounts := s.accounts ++ [⟨s.nextId, who⟩], lastId := s.nextId })

/-- Deletes the account of an id, if it is of the given kind. -/
def deleteAccount (s : Store) (kind : PrincipalKind) (id : Int) : Deletion × Store :=
  let isIt (a : Account) : Bool := a.principal.kind == kind && a.id == id
  if s.accounts.any isIt then
    (.deleted, { s with accounts := s.accounts.filter fun a => !isIt a })
  else (.notFound, s)

/-! ## Native roles -/

/-- The native role of a name. -/
def role? (s : Store) (name : String) : Option NativeRole :=
  s.roles.find? fun r => r.name == name

/-- Creates a native role, unless there is one of its name. -/
def createRole (s : Store) (role : NativeRole) : Creation × Store :=
  if (s.role? role.name).isSome then (.alreadyExists, s)
  else
    let stored := { role with id := some s.nextId }
    (.created, { s with roles := s.roles ++ [stored], lastId := s.nextId })

/-- Deletes a native role. -/
def deleteRole (s : Store) (name : String) : Deletion × Store :=
  if (s.role? name).isSome then
    (.deleted, { s with roles := s.roles.filter fun r => r.name != name })
  else (.notFound, s)

end Store

/-- Adds the names that are not among the members yet. -/
def addMembers (members : List RoleMember) (names : List String) : List RoleMember :=
  names.foldl
    (fun ms name => if ms.any fun m => m.name == name then ms else ms ++ [⟨name, false⟩]) members

/-- Takes the members of the given names out. -/
def dropMembers (members : List RoleMember) (names : List String) : List RoleMember :=
  members.filter fun m => !names.contains m.name

/-- The role with the users and groups of a request as members. -/
def NativeRole.join (request : RoleRequest) (r : NativeRole) : NativeRole :=
  { r with users := addMembers r.users request.users
           groups := addMembers r.groups request.groups }

/-- The role without the users and groups of a request. -/
def NativeRole.leave (request : RoleRequest) (r : NativeRole) : NativeRole :=
  { r with users := dropMembers r.users request.users
           groups := dropMembers r.groups request.groups }

namespace Store

/-- Changes the native role of a name. -/
def changeRole (s : Store) (name : String) (change : NativeRole → NativeRole) : Store :=
  { s with roles := s.roles.map fun r => if r.name = name then change r else r }

/-- Changes the native roles of the given names one after the other, up to the first that does not
exist. -/
def changeRoles (change : NativeRole → NativeRole) :
    List String → Store → Except StoreRefusal Unit × Store
  | [], s => (.ok (), s)
  | name :: rest, s =>
    if (s.role? name).isSome then changeRoles change rest (s.changeRole name change)
    else (.error (.noSuchRole name), s)

/-- Adds the users and groups of a request to its roles. -/
def grantRoles (s : Store) (request : RoleRequest) : Except StoreRefusal Unit × Store :=
  changeRoles (NativeRole.join request) request.targets s

/-- Takes the users and groups of a request out of its roles. -/
def revokeRoles (s : Store) (request : RoleRequest) : Except StoreRefusal Unit × Store :=
  changeRoles (NativeRole.leave request) request.targets s

/-! ## Answering calls -/

/-- An answer that may be a refusal. -/
def ofRefusal {α : Type} (r : Except StoreRefusal α × Store) : Except Failure α × Store :=
  (match r.1 with
    | .ok a => .ok a
    | .error refusal => .error { cause := .refused refusal }, r.2)

/-- An answer that is no refusal. -/
def ofAnswer {α : Type} (r : α × Store) : Except Failure α × Store := (.ok r.1, r.2)

/-- Answers a call. The native roles of all services are one set, so the service that a call about
them names does not matter. -/
def perform : (c : Call) → Store → Except Failure c.Answer × Store
  | .findPolicies search, s => (.ok (s.findPolicies search), s)
  | .createPolicy p, s => ofRefusal (s.createPolicy p)
  | .updatePolicy id p, s => ofRefusal (s.updatePolicy id p)
  | .deletePolicy id, s => ofAnswer (s.deletePolicy id)
  | .findAccounts who, s => (.ok (s.findAccounts who), s)
  | .createAccount who, s => ofAnswer (s.createAccount who)
  | .deleteAccount kind id, s => ofAnswer (s.deleteAccount kind id)
  | .getRole name, s => (.ok (s.role? name), s)
  | .createRole _ role, s => ofAnswer (s.createRole role)
  | .deleteRole _ name, s => ofAnswer (s.deleteRole name)
  | .grantRoles _ request, s => ofRefusal (s.grantRoles request)
  | .revokeRoles _ request, s => ofRefusal (s.revokeRoles request)

end Store

end PolicyKeeper
