import PolicyKeeper.Policy.Basic

/-!
# Principals in items

A principal is attached to an item at the end of its users or groups, and only once. Two things are
done with that. The owner items of a policy are handed from owner to owner: the previous owner and
the placeholder leave them, the new owner enters, and an access of owners that no item is for gets
one. And the items that the placeholder is in take in the principals that come to hold a role.
-/

namespace PolicyKeeper

namespace Item

/-- The item with the principal in it. -/
def attach (who : Principal) (i : Item) : Item :=
  let names := i.members who.kind
  if names.contains who.name then i else i.setMembers who.kind (names ++ [who.name])

/-- The item without the principal. -/
def detach (who : Principal) (i : Item) : Item :=
  i.setMembers who.kind ((i.members who.kind).filter (· != who.name))

/-- Hands an owner item to a new owner. -/
def handOver (previous : Option Principal) (new : Principal) (i : Item) : Item :=
  let left :=
    match previous with
    | some owner => i.detach owner
    | none => i
  (left.detach ⟨.user, placeholder⟩).attach new

/-- Whether the item is an owner's and for one of the accesses. -/
def isOwnerOf (accesses : List String) (i : Item) : Bool :=
  i.isOwner && i.access?.any accesses.contains

/-- Whether the item is for one of the accesses, not an owner's, and has the placeholder in it. -/
def isPlaceholderOf (accesses : List String) (i : Item) : Bool :=
  i.access?.any accesses.contains && (!i.isOwner && i.users.contains placeholder)

end Item

namespace Policy

/-- Hands the accesses of owners to a new owner. -/
def handOver (accesses : List String) (previous : Option Principal) (new : Principal)
    (p : Policy) : Policy :=
  let handed := p.allowItems.map fun i =>
    if i.isOwnerOf accesses then i.handOver previous new else i
  let missing := accesses.filter fun a => !p.allowItems.any fun i => i.isOwnerOf [a]
  { p with allowItems := handed ++ missing.map fun a => (Item.ofOwnerAccess a).attach new }

/-- Changes the placeholder's items for the accesses of each effect. -/
def mapPlaceholderItems (accesses : Effect → List String) (f : Item → Item) (p : Policy) :
    Policy :=
  let change (effect : Effect) (i : Item) : Item :=
    if i.isPlaceholderOf (accesses effect) then f i else i
  { p with allowItems := p.allowItems.map (change .allow)
           denyItems := p.denyItems.map (change .deny) }

end Policy

end PolicyKeeper
