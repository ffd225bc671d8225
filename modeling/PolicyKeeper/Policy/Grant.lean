import PolicyKeeper.Policy.Basic

/-!
# Granting and revoking in the items of a policy

Items are edited on behalf of a holder: a role, or the placeholder. Granting an access lets the
holder into the first item for the access that is not an owner's, or adds an item for it; an item
that is there already does for the placeholder as it is. Revoking takes a role out of its items,
which go when no role is left in them, and takes the placeholder's items away with everyone in them.
Owner items are never touched.
-/

namespace PolicyKeeper

/-- On whose behalf items are edited. -/
inductive Holder where
  | role (name : String)
  | placeholder
deriving DecidableEq, Inhabited, Repr

namespace Holder

/-- Whether the item grants its access on behalf of the holder. -/
def holds (h : Holder) (i : Item) : Bool :=
  !i.isOwner &&
    match h with
    | role name => i.roles.contains name
    | placeholder => i.users.contains PolicyKeeper.placeholder

/-- The item for an access with nobody but the holder in it. -/
def newItem (h : Holder) (access : String) : Item :=
  match h with
  | role name => { Item.ofAccess access with roles := [name] }
  | placeholder => { Item.ofAccess access with users := [PolicyKeeper.placeholder] }

/-- Lets the holder into an item for an access. -/
def enter (h : Holder) (i : Item) : Item :=
  match h with
  | role name => if i.roles.contains name then i else { i with roles := i.roles ++ [name] }
  | placeholder => i

/-- What is left of an item once the holder is out of it. -/
def leave (h : Holder) (i : Item) : Option Item :=
  match h with
  | role name =>
    let roles := i.roles.filter (· != name)
    if roles.isEmpty then none else some { i with roles }
  | placeholder => none

/-- Whether an item is for the access and not an owner's. -/
def grantsAccess (access : String) (i : Item) : Bool :=
  !i.isOwner && i.access? == some access

/-- Grants one access. -/
def grantAccess (h : Holder) (access : String) : List Item → List Item
  | [] => [h.newItem access]
  | i :: rest =>
    if grantsAccess access i then h.enter i :: rest else i :: grantAccess h access rest

/-- Grants each of the accesses, in order. -/
def grant (h : Holder) (accesses : List String) (items : List Item) : List Item :=
  accesses.foldl (fun items access => h.grantAccess access items) items

/-- Revokes an access that an item is for, if the holder holds it there. -/
def revokeItem (h : Holder) (accesses : List String) (i : Item) : Option Item :=
  if i.access?.any accesses.contains && h.holds i then h.leave i else some i

/-- Revokes each of the accesses. -/
def revoke (h : Holder) (accesses : List String) (items : List Item) : List Item :=
  items.filterMap (h.revokeItem accesses)

end Holder

namespace Policy

/-- Edits the items that allow and the items that deny. -/
def mapItems (f : Effect → List Item → List Item) (p : Policy) : Policy :=
  { p with allowItems := f .allow p.allowItems, denyItems := f .deny p.denyItems }

/-- Grants the holder the accesses of each effect. -/
def grant (h : Holder) (accesses : Effect → List String) (p : Policy) : Policy :=
  p.mapItems fun effect => h.grant (accesses effect)

/-- Revokes the accesses of each effect from the holder. -/
def revoke (h : Holder) (accesses : Effect → List String) (p : Policy) : Policy :=
  p.mapItems fun effect => h.revoke (accesses effect)

end Policy

end PolicyKeeper
