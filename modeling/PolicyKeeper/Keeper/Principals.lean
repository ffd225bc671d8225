import PolicyKeeper.Keeper.Objects
import PolicyKeeper.Policy.Ownership

/-!
# Users, groups and native roles

Who holds what: principals have accounts, own objects, and hold roles. In role mode a principal
holds a role by being a member of the native role of the same name. In owner-placeholder mode it is
put beside the placeholder in every item that the role's objects grant.
-/

namespace PolicyKeeper.Keeper

/-! ## Accounts -/

/-- Sees to it that a principal has an account. -/
def ensureAccount (who : Principal) : Plan Unit := do
  let _ ← (Plan.call (.createAccount who)).during (.creatingPrincipal who)

/-- Creates the account of a principal, and says whether there was none. -/
def addPrincipal (who : Principal) : Plan Bool := do
  let found : List Account ← Plan.call (.findAccounts who)
  if found = [] then
    let creation : Creation ← Plan.call (.createAccount who)
    return creation == .created
  else return false

/-- Deletes the account of a principal, and says whether there was one. -/
def removePrincipal (who : Principal) : Plan Bool := do
  let found : List Account ← Plan.call (.findAccounts who)
  match found with
  | [] => return false
  | account :: _ =>
    let deletion : Deletion ← Plan.call (.deleteAccount who.kind account.id)
    return deletion == .deleted

/-- Whether a principal has an account. -/
def hasPrincipal (who : Principal) : Plan Bool := do
  let found : List Account ← Plan.call (.findAccounts who)
  return !found.isEmpty

/-! ## Native roles -/

/-- The native role of a role, without members. -/
def nativeRole (name : String) : NativeRole :=
  { name, description := some ("catalog role " ++ name) }

/-- Sees to it that a role has a native role. -/
def ensureNativeRole (k : Keeper) (name : String) : Plan Unit := do
  let _ ← (Plan.call (.createRole k.service (nativeRole name))).during (.creatingNativeRole name)

/-- Sees to it that a role has no native role. -/
def dropNativeRole (k : Keeper) (name : String) : Plan Unit := do
  let _ ← (Plan.call (.deleteRole k.service name)).during (.deletingNativeRole name)

/-- The request that is about one role and one principal. -/
def roleRequest (k : Keeper) (role : String) (who : Principal) : RoleRequest :=
  match who.kind with
  | .user => { grantor := k.grantor, users := [who.name], targets := [role] }
  | .group => { grantor := k.grantor, groups := [who.name], targets := [role] }

/-! ## Ownership -/

/-- What stands for a role in the names of policies that are made for owners. -/
def ownerRoleName : String := "OWNER"

/-- Gives an object to a new owner. -/
def setOwner (k : Keeper) (o : CatalogObject) (previous : Option Principal) (new : Principal) :
    Plan Unit := do
  ensureAccount new
  let p ← k.policyOrNew ownerRoleName o
  let p' := p.handOver k.layout.service.ownerAccesses previous new
  if p' = p then return
  persist p'

/-! ## Holding roles -/

/-- The policies of some objects of a role, or nothing if one of them has none. -/
def policiesOf (k : Keeper) (role : Role) :
    List Securable → Plan (Option (List (Securable × Policy)))
  | [] => return some []
  | s :: rest => do
    match ← (k.findPolicy s.object).during (.grantingRole role.name s.object.fullName) with
    | none => return none
    | some p => return (← policiesOf k role rest).map ((s, p) :: ·)

/-- Writes a policy back if it was changed. -/
def persistChange (before after : Policy) : Plan Unit :=
  if after = before then return else persist after

/-- Lets a principal hold a role, unless an object of the role has no policy. Says whether it
did. -/
def grantRole (k : Keeper) (who : Principal) (role : Role) : Plan Bool := do
  match ← k.policiesOf role role.securables with
  | none => return false
  | some policies =>
    match k.mode with
    | .role =>
      k.ensureNativeRole role.name
      (Plan.call (.grantRoles k.service (k.roleRequest role.name who))).during
        (.grantingNativeRole role.name who)
    | .ownerPlaceholder =>
      policies.forM fun (s, p) =>
        persistChange p (p.mapPlaceholderItems (k.accesses s) (Item.attach who))
    return true

/-- Lets a principal hold roles, up to the first that cannot be granted. Says whether all were. -/
def grantEach (k : Keeper) (who : Principal) : List Role → Plan Bool
  | [] => return true
  | role :: rest => do
    if ← k.grantRole who role then grantEach k who rest else return false

/-- Lets a principal, which gets an account first, hold roles. -/
def grantRoles (k : Keeper) (roles : List Role) (who : Principal) : Plan Bool := do
  ensureAccount who
  k.grantEach who roles

/-- Takes a principal out of the items that an object of a role grants. -/
def revokeObject (k : Keeper) (who : Principal) (role : Role) (s : Securable) : Plan Unit := do
  match ← (k.findPolicy s.object).during (.revokingRole role.name s.object.fullName) with
  | none => return
  | some p => persistChange p (p.mapPlaceholderItems (k.accesses s) (Item.detach who))

/-- Takes a role from a principal. -/
def revokeRole (k : Keeper) (who : Principal) (role : Role) : Plan Unit := do
  match k.mode with
  | .role =>
    match (← Plan.call (.getRole role.name) : Option NativeRole) with
    | none => return
    | some _ =>
      (Plan.call (.revokeRoles k.service (k.roleRequest role.name who))).during
        (.revokingNativeRole role.name who)
  | .ownerPlaceholder => role.securables.forM (k.revokeObject who role)

/-- Takes roles from a principal. -/
def revokeRoles (k : Keeper) (roles : List Role) (who : Principal) : Plan Bool := do
  roles.forM (k.revokeRole who)
  return true

end PolicyKeeper.Keeper
