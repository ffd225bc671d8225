import PolicyKeeper.Keeper.Basic
import PolicyKeeper.Policy.Grant

/-!
# The objects of roles

A role gains an object, loses one, or has the entitlements on one replaced. Each is one edit of the
object's policy, with at most one write at the end, and none if nothing changes. An object that the
role does not have is already lost.
-/

namespace PolicyKeeper.Keeper

/-- The holder that a role's items are edited for. -/
def holder (k : Keeper) (role : Role) : Holder :=
  match k.mode with
  | .role => .role role.name
  | .ownerPlaceholder => .placeholder

/-- The accesses that the entitlements on an object stand for, by effect. -/
def accesses (k : Keeper) (s : Securable) (effect : Effect) : List String :=
  k.layout.service.accesses s.entitlements effect

/-- The policy with what the role may do with the object. -/
def granted (k : Keeper) (role : Role) (s : Securable) (p : Policy) : Policy :=
  p.grant (k.holder role) (k.accesses s)

/-- The policy without what the role may do with the object. -/
def revoked (k : Keeper) (role : Role) (s : Securable) (p : Policy) : Policy :=
  p.revoke (k.holder role) (k.accesses s)

/-- Gives a role an object. -/
def addObject (k : Keeper) (role : Role) (s : Securable) : Plan Unit := do
  Plan.ofResult (k.layout.service.checkPrivileges s)
  let p ← k.policyOrNew role.name s.object
  let p' := k.granted role s p
  if p' = p then return
  persist p'

/-- Takes an object from a role. -/
def removeObject (k : Keeper) (role : Role) (s : Securable) : Plan Unit := do
  match ← k.findPolicy s.object with
  | none => return
  | some p =>
    let p' := k.revoked role s p
    if p' = p then return
    persist p'

/-- Replaces what a role may do with an object. -/
def replaceObject (k : Keeper) (role : Role) (old new : Securable) : Plan Unit := do
  Plan.ofResult (k.layout.service.checkPrivileges new)
  let p ← k.policyOrNew role.name new.object
  let without := k.revoked role old p
  let p' := k.granted role new without
  if without = p ∧ p' = without then return
  persist p'

/-- Makes one change of a role. -/
def applyChange (k : Keeper) (role : Role) : RoleChange → Plan Unit
  | .add s => k.addObject role s
  | .remove s => k.removeObject role s
  | .replace old new => k.replaceObject role old new

end PolicyKeeper.Keeper
