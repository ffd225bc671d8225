import PolicyKeeper.Catalog.Object

/-!
# Securable objects

A securable object is a catalogue object with the entitlements that a role has on it. Building one
(`Securable.of?`) drops repeated entitlements and refuses a privilege that is both allowed and
denied, or that cannot be granted on an object of this kind. Of several such privileges the first
one is reported.
-/

namespace PolicyKeeper

/-- An object and what a role may do with it. -/
structure Securable where
  object : CatalogObject
  entitlements : List Entitlement
deriving DecidableEq, Inhabited, Repr

namespace Securable

/-- Takes one more entitlement on an object, after those that were taken before. -/
def takeOne (o : CatalogObject) (taken : List Entitlement) (e : Entitlement) :
    Except Fault (List Entitlement) :=
  if e ∈ taken then .ok taken
  else if taken.any fun t => t.privilege == e.privilege then
    .error (.invalidObject (.contradiction e.privilege o.fullName))
  else if e.privilege.canBindTo o.kind then .ok (taken ++ [e])
  else .error (.unsupportedPrivilege e.privilege (some o.kind))

/-- The object with the given entitlements, each once, in the order in which they first come. -/
def of? (o : CatalogObject) (entitlements : List Entitlement) : Except Fault Securable :=
  (entitlements.foldlM (takeOne o) []).map fun es => ⟨o, es⟩

/-- The object of the given name and kind with the given entitlements. -/
def ofName? (fullName : String) (kind : ObjectKind) (entitlements : List Entitlement) :
    Except Fault Securable := do
  of? (← CatalogObject.ofName? fullName kind) entitlements

/-- Whether two objects carry the same entitlements, in whatever order and however often. -/
def sameEntitlements (a b : Securable) : Bool :=
  a.entitlements.all b.entitlements.contains && b.entitlements.all a.entitlements.contains

/-- The object in messages, with its entitlements in brackets. -/
def describe (s : Securable) : String :=
  let list := String.intercalate ", " (s.entitlements.map Entitlement.describe)
  s!"{s.object.describe} [{list}]"

end Securable

end PolicyKeeper
