import Mathlib.Data.List.Basic
import PolicyKeeper.Admin.Request
import PolicyKeeper.Proofs.Url.Following
import PolicyKeeper.Setting.Settings

/-!
# What a request addresses

Four calls have a name in their path: the one of a role that is looked at or deleted, or the one of
a service whose roles are granted or revoked. The name is the last segment of the path, whatever
characters are in it, because it is escaped there. What escaping does not change are dots, and a
path is followed like any other, so a name of one dot leads to where its segment would be, and a
name of two dots leads out of the place for names.

The rest is how a request reads once it is sent: a path, and behind a question mark pairs that are
read back as they were.
-/

namespace PolicyKeeper

open Url

/-! ## What a call has in its address -/

namespace Call

variable {c : Call} {place name s : String} {k : Char}

/-- The place among the roles and the name there that a call has in its path. -/
def named? : Call → Option (String × String)
  | getRole name | deleteRole _ name => some ("name", name)
  | grantRoles service _ => some ("grant", service)
  | revokeRoles service _ => some ("revoke", service)
  | findPolicies _ | createPolicy _ | updatePolicy .. | deletePolicy _ | findAccounts _
  | createAccount _ | deleteAccount .. | createRole .. => none

/-- The segments that a call has below the address of the service. -/
def segments : Call → List String
  | findPolicies _ | createPolicy _ => Admin.policyEndpoint
  | updatePolicy id _ | deletePolicy id => Admin.policyEndpoint ++ [toString id]
  | findAccounts who => Admin.searchEndpoint who.kind
  | createAccount who => Admin.accountEndpoint who.kind
  | deleteAccount kind id => Admin.accountEndpoint kind ++ ["id", toString id]
  | getRole name | deleteRole _ name => Admin.rolesEndpoint ++ ["name", encodeName name]
  | createRole .. => Admin.rolesEndpoint
  | grantRoles service _ => Admin.rolesEndpoint ++ ["grant", encodeName service]
  | revokeRoles service _ => Admin.rolesEndpoint ++ ["revoke", encodeName service]

/-- The keys and values that a call asks with, if the given user asks. -/
def pairs (user : String) : Call → List (String × String)
  | findPolicies search => search.entries
  | findAccounts who => [("name", who.name)]
  | deleteAccount .. => [("forceDelete", "true")]
  | createRole service _ => [("serviceName", service)]
  | deleteRole service _ => [("serviceName", service), ("execUser", user)]
  | createPolicy _ | updatePolicy .. | deletePolicy _ | createAccount _ | getRole _ | grantRoles ..
  | revokeRoles .. => []

theorem segments_of_named (h : c.named? = some (place, name)) :
    c.segments = (Admin.rolesEndpoint ++ [place]) ++ [encodeName name] := by
  cases c <;> cases h <;> rfl

/-- The places that names are put at. -/
theorem mem_places_of_named (h : c.named? = some (place, name)) :
    place ∈ ["name", "grant", "revoke"] := by
  cases c <;> cases h <;> decide

/-! All segments of a call are literal: those of the endpoints, numbers and escaped names. -/

theorem isDigit_of_mem_repr {n : Nat} (h : k ∈ n.repr.toList) : k.isDigit = true := by
  rw [Nat.repr, String.toList_ofList] at h
  exact Nat.isDigit_of_mem_toDigits (by decide) (by decide) h

theorem isLiteral_of_isDigit (h : k.isDigit = true) : IsLiteral k := by
  have hrange : ∀ n < 58, 48 ≤ n → IsLiteral (Char.ofNat n) := by decide
  rw [Char.isDigit, Bool.and_eq_true, decide_eq_true_eq, decide_eq_true_eq] at h
  have hk := hrange k.toNat (Nat.lt_succ_iff.mpr h.2) h.1
  rwa [Char.ofNat_toNat] at hk

theorem isLiteral_of_mem_toString {id : Int} (h : k ∈ (toString id).toList) : IsLiteral k := by
  cases id with
  | ofNat n => exact isLiteral_of_isDigit (isDigit_of_mem_repr h)
  | negSucc n =>
      change k ∈ ("-" ++ (n + 1).repr).toList at h
      rw [String.toList_append, List.mem_append] at h
      rcases h with hsign | hdigit
      · rw [List.mem_singleton.mp hsign]
        decide
      · exact isLiteral_of_isDigit (isDigit_of_mem_repr hdigit)

theorem areLiteral_segments (c : Call) : AreLiteral c.segments := by
  have hpolicies : AreLiteral Admin.policyEndpoint := by decide
  have hsearch : ∀ kind, AreLiteral (Admin.searchEndpoint kind)
    | .user => by decide
    | .group => by decide
  have haccounts : ∀ kind, AreLiteral (Admin.accountEndpoint kind ++ ["id"])
    | .user => by decide
    | .group => by decide
  have hroles : ∀ place ∈ ["name", "grant", "revoke"],
      AreLiteral (Admin.rolesEndpoint ++ [place]) := by decide
  cases c with
  | findPolicies | createPolicy => exact hpolicies
  | updatePolicy | deletePolicy => exact hpolicies.concat fun _ => isLiteral_of_mem_toString
  | findAccounts who => exact hsearch who.kind
  | createAccount who => exact fun s hs => haccounts who.kind s (List.mem_append_left _ hs)
  | deleteAccount kind id =>
      have hid : AreLiteral ((Admin.accountEndpoint kind ++ ["id"]) ++ [toString id]) :=
        (haccounts kind).concat fun _ => isLiteral_of_mem_toString
      rwa [List.append_assoc] at hid
  | createRole => exact fun s hs => hroles "name" (by decide) s (List.mem_append_left _ hs)
  | getRole | deleteRole =>
      exact (hroles "name" (by decide)).concat fun _ => isLiteral_of_mem_encodeName
  | grantRoles => exact (hroles "grant" (by decide)).concat fun _ => isLiteral_of_mem_encodeName
  | revokeRoles => exact (hroles "revoke" (by decide)).concat fun _ => isLiteral_of_mem_encodeName

theorem head?_segments (c : Call) : c.segments.head? = some "service" := by
  cases c with
  | findAccounts who | createAccount who =>
      obtain ⟨kind, _⟩ := who
      cases kind <;> rfl
  | deleteAccount kind id => cases kind <;> rfl
  | _ => rfl

end Call

namespace Admin

namespace Client

variable {client : Client} {c : Call} {place name : String} {u : Url}

theorem request_url (client : Client) (c : Call) :
    (client.request c).url = client.url c.segments := by
  cases c <;> rfl

theorem request_query (client : Client) (c : Call) :
    (client.request c).query = c.pairs client.username := by
  cases c <;> rfl

/-- **The request of a call goes where its segments lead as a text.** -/
theorem follow?_segments (client : Client) (c : Call) :
    client.address.follow? (String.intercalate "/" c.segments) = some (client.request c).url := by
  rw [request_url, url]
  exact follow?_intercalate c.areLiteral_segments c.head?_segments (by decide) client.address

/-! ## Where names lead -/

/-- The segments below the roles' endpoint that a name at a place leads to. -/
def landing (place name : String) : List String :=
  if name = ".." then [""] else [place, encodeName (if name = "." then "" else name)]

/-- These segments as a text. -/
def landingPath (place name : String) : String :=
  if name = ".." then "" else place ++ "/" ++ encodeName (if name = "." then "" else name)

theorem renderSegments_landing (place name : String) :
    renderSegments (landing place name) = "/" ++ landingPath place name := by
  rw [landing, landingPath]
  split
  · rfl
  · rw [← List.singleton_append, renderSegments_append, renderSegments_singleton,
      renderSegments_singleton, String.append_assoc, String.append_assoc]

theorem above_place (hplace : place ∈ ["name", "grant", "revoke"]) (front : List String) :
    above (front ++ [place]) = front := by
  have hdrive : isDrive place = false :=
    (by decide : ∀ place ∈ ["name", "grant", "revoke"], isDrive place = false) place hplace
  rw [above, List.getLast?_concat, Option.any_some, hdrive, List.dropLast_concat]
  rfl

/-- From the address a name leads to the roles' endpoint, and to its landing there. -/
theorem walk_segments (h : c.named? = some (place, name)) (front : List String) :
    walk front c.segments = front ++ rolesEndpoint ++ landing place name := by
  have hplace := Call.mem_places_of_named h
  have hplain : ∀ s ∈ rolesEndpoint ++ [place], IsPlain s :=
    (by decide : ∀ place ∈ ["name", "grant", "revoke"], ∀ s ∈ rolesEndpoint ++ [place], IsPlain s)
      place hplace
  rw [Call.segments_of_named h, walk_append hplain, walk_encodeName, landing, ← List.append_assoc,
    above_place hplace]
  split
  · rfl
  · split
    · rw [List.append_assoc]
      rfl
    · rw [List.append_assoc]
      rfl

theorem path_of_named (haddress : client.address = u.closed)
    (hsegments : ∀ s ∈ u.segments, IsSegment s) (h : c.named? = some (place, name)) :
    (client.request c).path =
      u.closedPath ++ "service/public/v2/api/roles/" ++ landingPath place name := by
  have hroles : renderSegments rolesEndpoint ++ "/" = "/" ++ "service/public/v2/api/roles/" := by
    decide
  have hclosed : u.closedPath = renderSegments u.closed.segments.dropLast ++ "/" := by
    rw [← renderSegments_closed hsegments, segments_closed_eq_concat, renderSegments_append,
      List.dropLast_concat]
    rfl
  calc (client.request c).path
      = renderSegments (walk u.closed.segments.dropLast c.segments) := by
        rw [Request.path, request_url, url, haddress]
        rfl
    _ = renderSegments u.closed.segments.dropLast ++ (renderSegments rolesEndpoint ++ "/") ++
          landingPath place name := by
        rw [walk_segments h, renderSegments_append, renderSegments_append, renderSegments_landing]
        simp only [String.append_assoc]
    _ = u.closedPath ++ "service/public/v2/api/roles/" ++ landingPath place name := by
        rw [hroles, hclosed]
        simp only [String.append_assoc]

end Client

/-- A request goes to the server of a URL, and there to a name at a place among the roles: below the
path of the URL, and with the name as the last segment. -/
structure Request.Reaches (r : Request) (u : Url) (place name : String) : Prop where
  scheme : r.url.scheme = u.scheme
  authority : r.url.authority = u.authority
  path : ∃ segment : String, '/' ∉ segment.toList ∧ decodeText? segment.toList = some name.toList ∧
    r.path = u.closedPath ++ "service/public/v2/api/roles/" ++ place ++ "/" ++ segment

namespace Client

variable {client : Client} {c c' : Call} {place place' name name' : String} {u : Url}

theorem landingPath_of_ne (h : name ≠ "..") : landingPath place name =
    place ++ "/" ++ encodeName (if name = "." then "" else name) := if_neg h

theorem toList_named (place segment : String) :
    (place ++ "/" ++ segment).toList = place.toList ++ '/' :: segment.toList := by
  rw [String.toList_append, String.toList_append, List.append_assoc]
  rfl

theorem named_ne_empty (place segment : String) : place ++ "/" ++ segment ≠ "" := by
  intro hempty
  have hchars := congrArg String.toList hempty
  rw [toList_named] at hchars
  exact List.append_ne_nil_of_right_ne_nil _ (List.cons_ne_nil '/' _) hchars

/-- A name that is not dots is reached. -/
theorem landing_reaches_iff (place name : String) : (∃ segment : String, '/' ∉ segment.toList ∧
    decodeText? segment.toList = some name.toList ∧
      landingPath place name = place ++ "/" ++ segment) ↔ name ≠ "." ∧ name ≠ ".." := by
  constructor
  · rintro ⟨segment, -, hdecode, hpath⟩
    constructor
    · rintro rfl
      rw [landingPath_of_ne (by decide), String.append_right_inj] at hpath
      rw [← hpath] at hdecode
      exact absurd hdecode (by decide)
    · rintro rfl
      exact named_ne_empty place segment hpath.symm
  · rintro ⟨hdot, hdots⟩
    refine ⟨encodeName name, fun hslash => ?_, decodeText?_encodeName name, ?_⟩
    · exact (isLiteral_of_mem_encodeName hslash).2.2.1 rfl
    · rw [landingPath_of_ne hdots, if_neg hdot]

theorem reaches_iff (haddress : client.address = u.closed)
    (hsegments : ∀ s ∈ u.segments, IsSegment s) (h : c.named? = some (place, name)) :
    (client.request c).Reaches u place name ↔ name ≠ "." ∧ name ≠ ".." := by
  have hscheme : (client.request c).url.scheme = u.scheme := by
    rw [request_url, url, haddress, resolve, closed]
    split <;> rfl
  have hauthority : (client.request c).url.authority = u.authority := by
    rw [request_url, url, haddress, resolve, closed]
    split <;> rfl
  have hpath := path_of_named haddress hsegments h
  have hsame : ∀ segment : String, ((client.request c).path =
      u.closedPath ++ "service/public/v2/api/roles/" ++ place ++ "/" ++ segment ↔
        landingPath place name = place ++ "/" ++ segment) := by
    intro segment
    rw [hpath]
    simp only [String.append_assoc, String.append_right_inj]
  rw [← landing_reaches_iff place]
  constructor
  · rintro ⟨-, -, segment, hslash, hdecode, hsegment⟩
    exact ⟨segment, hslash, hdecode, (hsame segment).mp hsegment⟩
  · rintro ⟨segment, hslash, hdecode, hsegment⟩
    exact ⟨hscheme, hauthority, segment, hslash, hdecode, (hsame segment).mpr hsegment⟩

/-- Names that a place does not tell apart: besides equal ones, the empty name and a dot. -/
def Alike (name name' : String) : Prop := name = name' ∨ name ∈ ["", "."] ∧ name' ∈ ["", "."]

theorem alike_iff : Alike name name' ↔
    (if name = "." then "" else name) = if name' = "." then "" else name' := by
  simp only [Alike, List.mem_cons, List.not_mem_nil, or_false]
  grind

theorem Alike.dots_iff (h : Alike name name') : name = ".." ↔ name' = ".." := by
  rcases h with rfl | ⟨hname, hname'⟩
  · rfl
  · have hnot : ".." ∉ ["", "."] := by decide
    exact iff_of_false (fun hdots => hnot (hdots ▸ hname)) fun hdots => hnot (hdots ▸ hname')

/-- Two names lead to one path if they are alike and at the same place, or both lead out of it. -/
theorem landingPath_eq_iff (hplace : '/' ∉ place.toList) :
    landingPath place name = landingPath place' name' ↔
      name = ".." ∧ name' = ".." ∨ place = place' ∧ Alike name name' := by
  by_cases hdots : name = ".." <;> by_cases hdots' : name' = ".."
  · exact iff_of_true (by rw [landingPath, landingPath, if_pos hdots, if_pos hdots'])
      (.inl ⟨hdots, hdots'⟩)
  · rw [landingPath_of_ne hdots', landingPath, if_pos hdots]
    refine iff_of_false (fun h => named_ne_empty _ _ h.symm) ?_
    rintro (hboth | ⟨-, halike⟩)
    · exact hdots' hboth.2
    · exact hdots' (halike.dots_iff.mp hdots)
  · rw [landingPath_of_ne hdots, landingPath.eq_def place' name', if_pos hdots']
    refine iff_of_false (named_ne_empty _ _) ?_
    rintro (hboth | ⟨-, halike⟩)
    · exact hdots hboth.1
    · exact hdots (halike.dots_iff.mpr hdots')
  · -- With no slash in the place or the name, the text is cut at its slash in one way only.
    have hsegment : ∀ name, '/' ∉ (encodeName name).toList := fun _ hslash =>
      (isLiteral_of_mem_encodeName hslash).2.2.1 rfl
    rw [landingPath_of_ne hdots, landingPath_of_ne hdots', ← String.toList_inj, toList_named,
      toList_named, List.append_cons_inj_of_notMem hplace (hsegment _), String.toList_inj,
      String.toList_inj, alike_iff]
    constructor
    · rintro ⟨hsame, -, hencoded⟩
      exact .inr ⟨hsame, encodeName_injective hencoded⟩
    · rintro (hboth | ⟨hsame, hname⟩)
      · exact absurd hboth.1 hdots
      · exact ⟨hsame, rfl, congrArg encodeName hname⟩

end Client

/-! ## What is sent -/

namespace Request

/-- A request's path and query as they are sent. -/
def target (r : Request) : String :=
  if r.query = [] then r.path else r.path ++ "?" ++ String.intercalate "&" r.queryParts

/-- Reads what is sent: a path, and the pairs of a query behind the first question mark. -/
def readTarget? (target : String) : Option (String × List (String × String)) :=
  match target.toList.dropWhile (· != '?') with
  | [] => some (target, [])
  | _ :: query =>
    (readForm? query).map fun pairs => (String.ofList (target.toList.takeWhile (· != '?')), pairs)

theorem not_mem_renderSegments {segs : List String} (h : ∀ s ∈ segs, IsSegment s) :
    '?' ∉ (renderSegments segs).toList := by
  intro hmem
  rw [renderSegments, String.toList_join] at hmem
  obtain ⟨_, hslashed, hmem⟩ := List.mem_flatMap.mp hmem
  obtain ⟨s, hs, rfl⟩ := List.mem_map.mp hslashed
  rw [String.toList_append, List.mem_append] at hmem
  rcases hmem with hslash | hsegment
  · exact absurd hslash (by decide)
  · exact (h s hs '?' hsegment).2.1 rfl

/-- **What is sent is read back**, if nothing in the path ends it. -/
theorem readTarget?_target {r : Request} (h : ∀ s ∈ r.url.segments, IsSegment s) :
    readTarget? r.target = some (r.path, r.query) := by
  have hpath : ∀ k ∈ r.path.toList, (k != '?') = true := fun k hk =>
    bne_iff_ne.mpr fun hquestion => not_mem_renderSegments h (hquestion ▸ hk)
  by_cases hquery : r.query = []
  · rw [target, if_pos hquery, readTarget?, List.dropWhile_eq_nil_iff.mpr hpath, hquery]
  · have hchars : (r.path ++ "?" ++ String.intercalate "&" r.queryParts).toList =
        r.path.toList ++ '?' :: (writeForm r.query).toList := by
      rw [String.toList_append, String.toList_append, List.append_assoc]
      rfl
    rw [target, if_neg hquery, readTarget?, hchars, List.dropWhile_append_of_pos hpath,
      List.takeWhile_append_of_pos hpath, List.dropWhile_cons_of_neg (by decide),
      List.takeWhile_cons_of_neg (by decide), List.append_nil]
    dsimp only
    rw [readForm?_writeForm, Option.map_some, String.ofList_toList]

end Request

namespace Client

variable {client : Client} {c c' : Call} {place place' name name' : String} {u : Url}

theorem isSegment_of_mem_request (haddress : client.address = u.closed)
    (hsegments : ∀ s ∈ u.segments, IsSegment s) (c : Call) :
    ∀ s ∈ (client.request c).url.segments, IsSegment s := by
  have hclosed : ∀ s ∈ u.closed.segments, IsSegment s := by
    intro s hs
    rw [segments_closed] at hs
    split at hs
    · exact hsegments s hs
    · rcases List.mem_append.mp hs with hfront | hlast
      · exact hsegments s hfront
      · rw [List.mem_singleton.mp hlast]
        exact isSegment_empty
  intro s hs
  rw [request_url, url, haddress] at hs
  rcases mem_of_mem_walk hs with hbase | hcall | rfl
  · exact hclosed s (List.dropLast_subset _ hbase)
  · exact c.areLiteral_segments.isSegment s hcall
  · exact isSegment_empty

/-! ## Clients of an address -/

theorem eq_of_connect {username password : String}
    (h : connect u username password = .ok client) :
    client = { address := u.closed, username, password } := by
  rw [connect] at h
  split at h
  · cases h
  · cases h
    rfl

theorem isSegment_of_readAddress {text : String} (h : Settings.readAddress text = .ok u) :
    ∀ s ∈ u.segments, IsSegment s := by
  rw [Settings.readAddress] at h
  split at h
  · cases h
  · rename_i hparse
    split at h
    · rename_i hscheme
      cases h
      refine isSegment_of_parse? hparse ?_
      rcases hscheme with hhttp | hhttps
      · rw [hhttp]
        decide
      · rw [hhttps]
        decide
    · cases h

/-- **A request addresses the name it is about unless that name is dots.** Speaking to an address
that was accepted, a call with a name in its path goes there exactly if the name is neither `.` nor
`..`, two calls go to one path only if their names are alike and at the same place or both are `..`,
and what is sent for any call is read back as its path and the pairs that it asks with. The URL of
any call is where its segments lead from the address of the client, read as one text with slashes
between them. -/
theorem request_reaches {text username password : String}
    (haccepted : Settings.readAddress text = .ok u)
    (hconnects : connect u username password = .ok client) :
    (∀ c place name, c.named? = some (place, name) →
      ((client.request c).Reaches u place name ↔ name ≠ "." ∧ name ≠ "..")) ∧
    (∀ c c' place place' name name', c.named? = some (place, name) →
      c'.named? = some (place', name') →
        ((client.request c).path = (client.request c').path ↔
          name = ".." ∧ name' = ".." ∨ place = place' ∧ Alike name name')) ∧
    (∀ c, Request.readTarget? (client.request c).target =
      some ((client.request c).path, c.pairs username)) ∧
    ∀ c, client.address.follow? (String.intercalate "/" c.segments) =
      some (client.request c).url := by
  have hclient := eq_of_connect hconnects
  have haddress : client.address = u.closed := congrArg address hclient
  have hsegments := isSegment_of_readAddress haccepted
  refine ⟨fun c place name h => reaches_iff haddress hsegments h,
    fun c c' place place' name name' h h' => ?_, fun c => ?_, client.follow?_segments⟩
  · have hplace : '/' ∉ place.toList :=
      (by decide : ∀ place ∈ ["name", "grant", "revoke"], '/' ∉ place.toList) place
        (Call.mem_places_of_named h)
    rw [path_of_named haddress hsegments h, path_of_named haddress hsegments h',
      String.append_right_inj, landingPath_eq_iff hplace]
  · have husername : client.username = username := congrArg Client.username hclient
    rw [Request.readTarget?_target (isSegment_of_mem_request haddress hsegments c), request_query,
      husername]

/-- An address with a path that is not closed. -/
def loopback : Url :=
  { scheme := "http", authority := some { host := "[::1]", port := some 6080 }
    path := .segments ["ranger"] }

theorem readAddress_loopback :
    Settings.readAddress "http://[::1]:6080/ranger" = .ok loopback := by
  have hparse : parse? "http://[::1]:6080/ranger" = some loopback := by decide +kernel
  rw [Settings.readAddress, hparse]
  rfl

/-- A client at that address. -/
def loopbackClient : Client :=
  { address := loopback.closed, username := "admin", password := "rangerR0cks!" }

/-- A role is looked at whose name has about everything in it that means something in a path. -/
theorem request_reaches_loopback :
    Settings.readAddress "http://[::1]:6080/ranger" = .ok loopback ∧
      connect loopback "admin" "rangerR0cks!" = .ok loopbackClient ∧
      (loopbackClient.request (.getRole "../a%2f?b#")).Reaches loopback "name" "../a%2f?b#" := by
  have hconnects : connect loopback "admin" "rangerR0cks!" = .ok loopbackClient := rfl
  have hnamed : (Call.getRole "../a%2f?b#").named? = some ("name", "../a%2f?b#") := rfl
  exact ⟨readAddress_loopback, hconnects,
    ((request_reaches readAddress_loopback hconnects).1 _ _ _ hnamed).mpr ⟨by decide, by decide⟩⟩

/-- To delete the role `..` a request goes to all roles. -/
theorem not_reaches_parent :
    Settings.readAddress "http://[::1]:6080/ranger" = .ok loopback ∧
      connect loopback "admin" "rangerR0cks!" = .ok loopbackClient ∧
      (loopbackClient.request (.deleteRole "hiveDev" "..")).path =
        "/ranger/service/public/v2/api/roles/" ∧
      ¬ (loopbackClient.request (.deleteRole "hiveDev" "..")).Reaches loopback "name" ".." := by
  have hsegments := isSegment_of_readAddress readAddress_loopback
  have hnamed : (Call.deleteRole "hiveDev" "..").named? = some ("name", "..") := rfl
  refine ⟨readAddress_loopback, rfl, ?_, fun h => ((reaches_iff rfl hsegments hnamed).mp h).2 rfl⟩
  rw [path_of_named rfl hsegments hnamed]
  decide

end Client

end Admin

end PolicyKeeper
