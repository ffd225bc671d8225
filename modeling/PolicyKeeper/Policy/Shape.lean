import PolicyKeeper.Policy.Basic

/-!
# The shape of managed policies

A policy is at a path if its resource has exactly the levels of the path, each with the one value of
the path and not as an exclusion. A managed policy is well shaped if in each of its lists every item
has exactly one access, and no access occurs in two owner items or in two items of roles.
`Policy.checkShape` reports the first item that breaks this.
-/

namespace PolicyKeeper.Policy

/-- Whether the policy is on exactly the resource of the path. -/
def isAt (p : Policy) (path : Fields String) : Bool :=
  p.resources.size == path.size && path.entries.all fun e =>
    match p.resources.get? e.1 with
    | some r => !r.isExcludes && r.values == [e.2]
    | none => false

/-- Looks at one more item of a list, after those whose accesses are in `seen`. -/
def checkItem (list : String) (seen : List (Bool × String)) (i : Item) :
    Except PolicyFlaw (List (Bool × String)) :=
  match i.access? with
  | none => .error (.accessCount list i.accesses.length)
  | some a =>
    if seen.contains (i.isOwner, a) then .error (.repeatedAccess list a i.isOwner)
    else .ok ((i.isOwner, a) :: seen)

/-- The first item of a list that breaks the shape of managed policies. -/
def checkItems (list : String) (items : List Item) : Except PolicyFlaw Unit :=
  (items.foldlM (checkItem list) []).map fun _ => ()

/-- Refuses a policy that is not of the shape of managed policies. -/
def checkShape (p : Policy) : Except Fault Unit :=
  match p.itemLists.forM fun l => checkItems l.1 l.2 with
  | .ok () => .ok ()
  | .error flaw => .error (.corruptPolicy p.name flaw)

end PolicyKeeper.Policy
