import PolicyKeeper.Keeper.Principals

/-!
# Events of the catalogue

The catalogue tells the keeper what happens to roles, owners and principals, and the keeper answers
each event with a plan. The plan's result says whether the event was taken up; a plan that fails may
be run again as a whole. Changes of a role are made in order, up to the first that fails.
-/

namespace PolicyKeeper

/-- Something that happened in the catalogue, or is asked about. -/
inductive Event where
  | roleCreated (role : Role)
  /-- A role was loaded, and its policies should be there. -/
  | roleAcquired (role : Role)
  | roleDeleted (role : Role)
  | roleUpdated (role : Role) (changes : List RoleChange)
  | ownerSet (object : CatalogObject) (previous : Option Principal) (new : Principal)
  | rolesGranted (roles : List Role) (who : Principal)
  | rolesRevoked (roles : List Role) (who : Principal)
  | principalAdded (who : Principal)
  | principalRemoved (who : Principal)
  /-- A principal was loaded, and its account should be there. -/
  | principalAcquired (who : Principal)
deriving DecidableEq, Inhabited

namespace Keeper

/-- Gives a new role its objects. -/
def roleCreated (k : Keeper) (role : Role) : Plan Bool := do
  if k.mode = .role then k.ensureNativeRole role.name
  role.securables.forM fun s =>
    (k.addObject role s).during (.creatingRole role.name s.object.fullName)
  return true

/-- Whether every object has a managed policy. -/
def allHavePolicies (k : Keeper) : List Securable → Plan Bool
  | [] => return true
  | s :: rest => do
    match ← k.findPolicy s.object with
    | none => return false
    | some _ => allHavePolicies k rest

/-- Takes its objects from a role that is no more. -/
def roleDeleted (k : Keeper) (role : Role) : Plan Bool := do
  role.securables.forM fun s =>
    (k.removeObject role s).during (.deletingRole role.name s.object.fullName)
  if k.mode = .role then k.dropNativeRole role.name
  return true

/-- Makes the changes of a role. -/
def roleUpdated (k : Keeper) (role : Role) (changes : List RoleChange) : Plan Bool := do
  changes.forM fun change =>
    (k.applyChange role change).during (.updatingRole role.name change.object.fullName)
  return true

/-- What the keeper does on an event. -/
def handle (k : Keeper) : Event → Plan Bool
  | .roleCreated role => k.roleCreated role
  | .roleAcquired role => k.allHavePolicies role.securables
  | .roleDeleted role => k.roleDeleted role
  | .roleUpdated role changes => k.roleUpdated role changes
  | .ownerSet object previous new => do
    (k.setOwner object previous new).during (.settingOwner object new.name)
    return true
  | .rolesGranted roles who => k.grantRoles roles who
  | .rolesRevoked roles who => k.revokeRoles roles who
  | .principalAdded who => addPrincipal who
  | .principalRemoved who => removePrincipal who
  | .principalAcquired who => hasPrincipal who

end Keeper

end PolicyKeeper
