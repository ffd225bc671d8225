import PolicyKeeper.Store.Memory

/-!
# Rehearsals

Plans are tried out against the store in memory, with disturbances that are set up beforehand: the
next call of some kind, or a later one, is answered without reaching the store. A rehearsal keeps a
journal of all calls and their answers.
-/

namespace PolicyKeeper

/-- A call without its arguments. -/
inductive CallKind where
  | findPolicies
  | createPolicy
  | updatePolicy
  | deletePolicy
  | findAccounts
  | createAccount
  | deleteAccount
  | getRole
  | createRole
  | deleteRole
  | grantRoles
  | revokeRoles
deriving DecidableEq, Inhabited, Repr

/-- What kind of call a call is. -/
def Call.kind : Call → CallKind
  | .findPolicies _ => .findPolicies
  | .createPolicy _ => .createPolicy
  | .updatePolicy .. => .updatePolicy
  | .deletePolicy _ => .deletePolicy
  | .findAccounts _ => .findAccounts
  | .createAccount _ => .createAccount
  | .deleteAccount .. => .deleteAccount
  | .getRole _ => .getRole
  | .createRole .. => .createRole
  | .deleteRole .. => .deleteRole
  | .grantRoles .. => .grantRoles
  | .revokeRoles .. => .revokeRoles

/-- What a disturbed call is answered with, if such an answer fits it. -/
inductive Outcome where
  | notFound
  | alreadyExists
  /-- Nothing found, or nothing to say. -/
  | empty
  /-- A failure. -/
  | failure
deriving DecidableEq, Inhabited, Repr

/-- A disturbance of one call of some kind. -/
structure Disturbance where
  kind : CallKind
  /-- How many calls of the kind go through before. -/
  skip : Nat := 0
  outcome : Outcome
  /-- The words of the failure. -/
  message : String := ""
deriving DecidableEq, Inhabited, Repr

/-- The answer to a disturbed call. An outcome that does not fit the call is a failure. -/
def Disturbance.answer (d : Disturbance) : (c : Call) → Except Failure c.Answer
  | .deletePolicy _ | .deleteAccount .. | .deleteRole .. =>
    if d.outcome = .notFound then .ok Deletion.notFound else .error { cause := .said d.message }
  | .createAccount _ | .createRole .. =>
    if d.outcome = .alreadyExists then .ok Creation.alreadyExists
    else .error { cause := .said d.message }
  | .findPolicies _ =>
    if d.outcome = .empty then .ok ([] : List Policy) else .error { cause := .said d.message }
  | .findAccounts _ =>
    if d.outcome = .empty then .ok ([] : List Account) else .error { cause := .said d.message }
  | .getRole _ =>
    if d.outcome = .empty then .ok (none : Option NativeRole)
    else .error { cause := .said d.message }
  | .grantRoles .. | .revokeRoles .. =>
    if d.outcome = .empty then .ok () else .error { cause := .said d.message }
  | .createPolicy _ | .updatePolicy .. => .error { cause := .said d.message }

/-- Meets a call of some kind: the disturbance that replaces it, if one does, and the disturbances
that are left. Only the first one of the kind is looked at. -/
def Disturbance.meet (kind : CallKind) :
    List Disturbance → Option Disturbance × List Disturbance
  | [] => (none, [])
  | d :: rest =>
    if d.kind = kind then
      if d.skip = 0 then (some d, rest) else (none, { d with skip := d.skip - 1 } :: rest)
    else
      let met := meet kind rest
      (met.1, d :: met.2)

/-- A call that was made and the answer to it. -/
structure Exchange where
  call : Call
  answer : Except Failure call.Answer

/-- The store, the disturbances that are left, and the calls that were made. -/
structure Rehearsal where
  store : Store := {}
  disturbances : List Disturbance := []
  /-- The calls so far, the last one first. -/
  journal : List Exchange := []

namespace Rehearsal

/-- Answers a call, from the store unless a disturbance replaces it. -/
def perform (c : Call) (r : Rehearsal) : Except Failure c.Answer × Rehearsal :=
  let met := Disturbance.meet c.kind r.disturbances
  let answered :=
    match met.1 with
    | some d => (d.answer c, r.store)
    | none => r.store.perform c
  (answered.1,
    { store := answered.2, disturbances := met.2, journal := ⟨c, answered.1⟩ :: r.journal })

/-- Runs a plan. -/
def run {α : Type} (plan : Plan α) (r : Rehearsal) : Except Failure α × Rehearsal :=
  plan.run perform r

end Rehearsal

end PolicyKeeper
