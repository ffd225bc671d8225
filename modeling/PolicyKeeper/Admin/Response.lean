import PolicyKeeper.Document.Policy
import PolicyKeeper.Failure
import PolicyKeeper.Json.Text
import PolicyKeeper.Text.Search

/-!
# Responses of the admin server

A response is a success by its status. Of the others two say something that a call may expect: that
there is no such thing, and that there is one already. Which of these a call expects, and what a
success has to bring with it, depends on the call; everything else fails it. A document that cannot
be read fails the call even if the status was a success.
-/

namespace PolicyKeeper.Admin

/-- What came back on a request. -/
structure Response where
  status : Nat
  body : String
deriving DecidableEq, Inhabited, Repr

/-- What a response says. -/
inductive Verdict where
  | success
  | notFound
  | alreadyExists
  | failed
deriving DecidableEq, Inhabited, Repr

/-- What a response says: of a bad or conflicting request, its text may tell that the thing is
there already. -/
def Response.verdict (r : Response) : Verdict :=
  if Http.isSuccess r.status then .success
  else if r.status = 404 then .notFound
  else if (r.status = 400 ∨ r.status = 409) ∧
      Text.contains (Text.lowerAscii r.body) "already exist" then .alreadyExists
  else .failed

/-- A failure by what a response says. -/
def rejection (c : Call) (why : Rejection) : Failure := { cause := .rejected c why }

/-- A failure by a response that says nothing else. -/
def Response.failure (c : Call) (r : Response) : Failure := rejection c (.status r.status r.body)

/-- Reads the document that comes with a success. -/
def Response.decode {α : Type} (c : Call) (read : Json → Option α) (r : Response) :
    Except Failure α :=
  match (Json.parse? r.body).bind read with
  | some a => .ok a
  | none => .error { tasks := [.parsingAnswer c], cause := .outside }

/-- Only a success will do. -/
def Response.expectSuccess {α : Type} (c : Call) (r : Response) (read : Except Failure α) :
    Except Failure α :=
  match r.verdict with
  | .success => read
  | .notFound => .error (rejection c .notFound)
  | .alreadyExists => .error (rejection c .alreadyExists)
  | .failed => .error (r.failure c)

/-- The thing was deleted, or was not there. -/
def Response.expectDeletion (c : Call) (r : Response) : Except Failure Deletion :=
  match r.verdict with
  | .success => .ok .deleted
  | .notFound => .ok .notFound
  | .alreadyExists => .error (rejection c .unexpected)
  | .failed => .error (r.failure c)

/-- The thing was created, or was there. -/
def Response.expectCreation (c : Call) (r : Response) : Except Failure Creation :=
  match r.verdict with
  | .success => .ok .created
  | .alreadyExists => .ok .alreadyExists
  | .notFound => .error (rejection c .notFound)
  | .failed => .error (r.failure c)

/-- The role is read, or is not there. -/
def Response.expectRole (c : Call) (r : Response) : Except Failure (Option NativeRole) :=
  match r.verdict with
  | .success => (r.decode c NativeRole.ofJson?).map some
  | .notFound => .ok none
  | .alreadyExists => .error (rejection c .unexpected)
  | .failed => .error (r.failure c)

/-- The accounts of exactly the principal, of those profiles that have an id. -/
def accountsOf (who : Principal) (profiles : List Profile) : List Account :=
  (profiles.filter fun p => p.name == who.name).filterMap fun p => p.id.map fun id => ⟨id, who⟩

/-- The answer to a call that a response gives. -/
def Response.answer (r : Response) : (c : Call) → Except Failure c.Answer
  | c@(.findPolicies _) => r.expectSuccess c (r.decode c (Json.list? Policy.ofJson?))
  | c@(.createPolicy _) => r.expectSuccess c (r.decode c Policy.ofJson?)
  | c@(.updatePolicy ..) => r.expectSuccess c (r.decode c Policy.ofJson?)
  | c@(.deletePolicy _) => r.expectDeletion c
  | c@(.findAccounts who) =>
    r.expectSuccess c <|
      (r.decode c (Profile.listOfJson? who.kind)).map (accountsOf who)
  | c@(.createAccount _) => r.expectCreation c
  | c@(.deleteAccount ..) => r.expectDeletion c
  | c@(.getRole _) => r.expectRole c
  | c@(.createRole ..) => r.expectCreation c
  | c@(.deleteRole ..) => r.expectDeletion c
  | c@(.grantRoles ..) => r.expectSuccess c (.ok ())
  | c@(.revokeRoles ..) => r.expectSuccess c (.ok ())

end PolicyKeeper.Admin
