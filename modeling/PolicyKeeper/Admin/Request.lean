import PolicyKeeper.Document.Policy
import PolicyKeeper.Failure
import PolicyKeeper.Url.Basic
import PolicyKeeper.Http.Base64

/-!
# Requests to the admin server

The policy service is spoken to over HTTP. Every call is one request: a method, a path below the
address of the service, a query, and a document if something is sent. The names of roles and
services are segments of their own in a path and are escaped there; then the path is resolved like
any other, so a name of dots does what dots do in a path.
-/

namespace PolicyKeeper.Admin

/-- What a request does to the thing at its path. -/
inductive Method where
  | get
  | post
  | put
  | delete
deriving DecidableEq, Inhabited, Repr

/-- The method in a request. -/
def Method.word : Method → String
  | get => "GET"
  | post => "POST"
  | put => "PUT"
  | delete => "DELETE"

/-! ## Endpoints -/

/-- Where policies are. -/
def policyEndpoint : List String := ["service", "public", "v2", "api", "policy"]

/-- Where native roles are. -/
def rolesEndpoint : List String := ["service", "public", "v2", "api", "roles"]

/-- Where accounts are searched. -/
def searchEndpoint : PrincipalKind → List String
  | .user => ["service", "xusers", "users"]
  | .group => ["service", "xusers", "groups"]

/-- Where accounts are created and deleted. -/
def accountEndpoint : PrincipalKind → List String
  | .user => ["service", "xusers", "secure", "users"]
  | .group => ["service", "xusers", "secure", "groups"]

/-! ## Requests -/

/-- A request. -/
structure Request where
  method : Method
  url : Url
  /-- The keys and values of the query. -/
  query : List (String × String) := []
  body : Option Json := none
deriving DecidableEq, Inhabited

namespace Request

/-- The path as it is sent. -/
def path (r : Request) : String := Url.renderSegments r.url.segments

/-- The parts of the query as they are sent. -/
def queryParts (r : Request) : List String := r.query.map Url.encodePair

end Request

/-- Who speaks to the admin server, and where it is. -/
structure Client where
  /-- The address of the service, with a slash at its end. -/
  address : Url
  username : String
  password : String
deriving DecidableEq, Inhabited

namespace Client

/-- A client for an address. Both the user name and the password have to be there. -/
def connect (address : Url) (username password : String) : Except Failure Client :=
  if username.isEmpty ∨ password.isEmpty then
    .error { cause := .noCredentials username password }
  else .ok { address := address.closed, username, password }

/-- The profile that a new account is created with. -/
def newProfile (who : Principal) : Profile :=
  match who.kind with
  | .user => { name := who.name, description := some who.name }
  | .group => { name := who.name }

/-- The URL at some segments below the address. -/
def url (client : Client) (segments : List String) : Url := client.address.resolve segments

/-- The request of a call. -/
def request (client : Client) : Call → Request
  | .findPolicies search =>
    { method := .get, url := client.url policyEndpoint, query := search.entries }
  | .createPolicy p => { method := .post, url := client.url policyEndpoint, body := some p.toJson }
  | .updatePolicy id p =>
    { method := .put, url := client.url (policyEndpoint ++ [toString id]), body := some p.toJson }
  | .deletePolicy id => { method := .delete, url := client.url (policyEndpoint ++ [toString id]) }
  | .findAccounts who =>
    { method := .get, url := client.url (searchEndpoint who.kind), query := [("name", who.name)] }
  | .createAccount who =>
    { method := .post, url := client.url (accountEndpoint who.kind),
      body := some (newProfile who).toJson }
  | .deleteAccount kind id =>
    { method := .delete, url := client.url (accountEndpoint kind ++ ["id", toString id]),
      query := [("forceDelete", "true")] }
  | .getRole name =>
    { method := .get, url := client.url (rolesEndpoint ++ ["name", Url.encodeName name]) }
  | .createRole service role =>
    { method := .post, url := client.url rolesEndpoint, query := [("serviceName", service)],
      body := some role.toJson }
  | .deleteRole service name =>
    { method := .delete, url := client.url (rolesEndpoint ++ ["name", Url.encodeName name]),
      query := [("serviceName", service), ("execUser", client.username)] }
  | .grantRoles service request =>
    { method := .put, url := client.url (rolesEndpoint ++ ["grant", Url.encodeName service]),
      body := some request.toJson }
  | .revokeRoles service request =>
    { method := .put, url := client.url (rolesEndpoint ++ ["revoke", Url.encodeName service]),
      body := some request.toJson }

/-- How the client proves who it is. -/
def authorization (client : Client) : String :=
  "Basic " ++ String.ofList
    (Http.base64Chars (Url.utf8Bytes (client.username ++ ":" ++ client.password).toList))

/-- The headers of a request. -/
def headers (client : Client) (r : Request) : List (String × String) :=
  [("accept", "application/json"), ("authorization", client.authorization),
    ("user-agent", "authz-ranger")] ++
  if r.body.isSome then [("content-type", "application/json")] else []

end Client

end PolicyKeeper.Admin
