import PolicyKeeper.Policy.Accesses
import PolicyKeeper.Policy.Path
import PolicyKeeper.Policy.Shape
import PolicyKeeper.Store.Plan

/-!
# Keepers

A keeper looks after the managed policies of one service. It remembers nothing: it reads the policy
of an object before every change and writes it back at the end of it. For every object there is at
most one managed policy on exactly the object's path. Other policies, such as those on wildcards
that cover the path, are not the keeper's business.
-/

namespace PolicyKeeper

/-- What a keeper goes by. -/
structure Keeper where
  /-- The service whose policies it looks after. -/
  service : String
  layout : Layout
  mode : GrantMode
  /-- The user who is said to grant native roles. -/
  grantor : String := "admin"
deriving DecidableEq, Inhabited, Repr

namespace Keeper

/-- The name of the policy that a role makes for an object. -/
def policyName (role fullName : String) : String := role ++ "-" ++ fullName

/-- What is searched for to find the policies at a path. -/
def searchFor (k : Keeper) (path : Fields String) : Search :=
  Fields.ofPairs <|
    [(Search.serviceKey, k.service), (Search.labelKey, managedLabel)] ++
      path.entries.map fun e => (Search.levelKey e.1, e.2)

/-- The managed policy at the path of an object, among those that a search returned. -/
def select (o : CatalogObject) (path : Fields String) (found : List Policy) :
    Except Fault (Option Policy) :=
  match found.filter fun p => p.isManaged && p.isAt path with
  | [] => .ok none
  | [p] => p.checkShape.map fun _ => some p
  | several => .error (.ambiguousPolicy o.fullName several.length)

/-- Finds the managed policy of an object. Changes nothing. -/
def findPolicy (k : Keeper) (o : CatalogObject) : Plan (Option Policy) := do
  let path ← Plan.ofResult (k.layout.path o)
  let found ← (Plan.call (.findPolicies (k.searchFor path))).during (.searchingPolicies o)
  Plan.ofResult (select o path found)

/-- A managed policy for an object, named after a role, that the service does not have yet. -/
def newPolicy (k : Keeper) (role : String) (o : CatalogObject) : Except Fault Policy :=
  (k.layout.path o).map (Policy.managed k.service (policyName role o.fullName))

/-- The managed policy of an object, or a new one. -/
def policyOrNew (k : Keeper) (role : String) (o : CatalogObject) : Plan Policy := do
  match ← k.findPolicy o with
  | some p => return p
  | none => Plan.ofResult (k.newPolicy role o)

/-- Writes a policy back: a policy without items goes, and one that the service does not have yet
is created. -/
def persist (p : Policy) : Plan Unit :=
  match p.id, p.hasNoItems with
  | some id, true => do
    let _ ← (Plan.call (.deletePolicy id)).during (.deletingPolicy p.name)
  | none, true => return
  | none, false => do
    let _ ← (Plan.call (.createPolicy p)).during (.creatingPolicy p.name)
  | some id, false => do
    let _ ← (Plan.call (.updatePolicy id p)).during (.updatingPolicy p.name)

end Keeper

end PolicyKeeper
