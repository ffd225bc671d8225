import Mathlib.Data.List.Infix
import PolicyKeeper.Admin.Server
import PolicyKeeper.Text.Blank

/-!
# What a response is worth to a call

All calls read a response in the same way first, and then each makes its own of it. Of what a
response can say only a success means something to every call. That the thing is not there settles a
deletion or a look at a role, and that it is there already settles a creation; to any other call
either of the two is a failure, so nothing passes for done that was not.

What a call may be answered with on a response is written down here call by call
(`Response.Warrants`), by the status and the body alone.
-/

namespace PolicyKeeper

/-! ## A text inside a text -/

namespace Text

theorem occursIn_iff {part cs : List Char} : occursIn part cs = true ↔ part <:+: cs := by
  induction cs with
  | nil => simp [occursIn]
  | cons c cs ih =>
      rw [occursIn, Bool.or_eq_true, ih, List.isPrefixOf_iff_prefix, List.infix_cons_iff]

/-- A text in small letters contains another if some stretch of it reads like that in whatever
case. -/
theorem contains_lowerAscii_iff {whole part : String} :
    contains (lowerAscii whole) part = true ↔
      ∃ stretch, stretch <:+: whole.toList ∧ stretch.map Char.toLower = part.toList := by
  rw [contains, occursIn_iff, lowerAscii, String.toList_ofList]
  constructor
  · rintro ⟨before, after, h⟩
    obtain ⟨head, tail, hwhole, hhead, _⟩ := List.map_eq_append_iff.mp h.symm
    obtain ⟨front, stretch, rfl, _, hstretch⟩ := List.map_eq_append_iff.mp hhead
    exact ⟨stretch, ⟨front, tail, hwhole.symm⟩, hstretch⟩
  · rintro ⟨stretch, h, hstretch⟩
    rw [← hstretch]
    exact h.map _

end Text

/-- Whether only a success will do for a call. The others take for an answer that the thing is not
there, or that it is there already. -/
def Call.NeedsSuccess : Call → Prop
  | findPolicies _ | createPolicy _ | updatePolicy .. | findAccounts _ | grantRoles ..
  | revokeRoles .. => True
  | deletePolicy _ | createAccount _ | deleteAccount .. | getRole _ | createRole ..
  | deleteRole .. => False

namespace Admin

/-! ## What a response says -/

namespace Response

variable {α : Type} {r : Response} {c : Call}

/-- It went well: the status is one of two hundred and so. -/
def Succeeds (r : Response) : Prop := 200 ≤ r.status ∧ r.status ≤ 299

/-- There is no such thing. -/
def TellsMissing (r : Response) : Prop := r.status = 404

/-- There is such a thing already: the request was bad or in conflict, and somewhere in the body
stands `already exist`, in whatever case. -/
def TellsTaken (r : Response) : Prop :=
  (r.status = 400 ∨ r.status = 409) ∧
    ∃ stretch, stretch <:+: r.body.toList ∧
      stretch.map Char.toLower = "already exist".toList

/-- The body is a document that something is read from. -/
def Carries (r : Response) (read : Json → Option α) (a : α) : Prop :=
  ∃ v, Json.parse? r.body = some v ∧ read v = some a

/-- What may be said of something that was to be deleted. -/
def WarrantsDeletion (r : Response) : Deletion → Prop
  | .deleted => r.Succeeds
  | .notFound => r.TellsMissing

/-- What may be said of something that was to be created. -/
def WarrantsCreation (r : Response) : Creation → Prop
  | .created => r.Succeeds
  | .alreadyExists => r.TellsTaken

/-- What may be said of a role. -/
def WarrantsRole (r : Response) : Option NativeRole → Prop
  | some role => r.Succeeds ∧ r.Carries NativeRole.ofJson? role
  | none => r.TellsMissing

/-- What a call may be answered with on a response. -/
def Warrants (r : Response) : (c : Call) → c.Answer → Prop
  | .findPolicies _, policies => r.Succeeds ∧ r.Carries (Json.list? Policy.ofJson?) policies
  | .createPolicy _, policy => r.Succeeds ∧ r.Carries Policy.ofJson? policy
  | .updatePolicy .., policy => r.Succeeds ∧ r.Carries Policy.ofJson? policy
  | .deletePolicy _, what => r.WarrantsDeletion what
  | .findAccounts who, accounts =>
    r.Succeeds ∧ ∃ profiles, r.Carries (Profile.listOfJson? who.kind) profiles ∧
      accountsOf who profiles = accounts
  | .createAccount _, what => r.WarrantsCreation what
  | .deleteAccount .., what => r.WarrantsDeletion what
  | .getRole _, role? => r.WarrantsRole role?
  | .createRole .., what => r.WarrantsCreation what
  | .deleteRole .., what => r.WarrantsDeletion what
  | .grantRoles .., _ => r.Succeeds
  | .revokeRoles .., _ => r.Succeeds

/-! ## The verdict on a response -/

theorem isSuccess_iff : Http.isSuccess r.status = true ↔ r.Succeeds := by
  simp only [Http.isSuccess, Succeeds, Bool.and_eq_true, decide_eq_true_eq]
  omega

theorem tellsTaken_iff :
    r.TellsTaken ↔ (r.status = 400 ∨ r.status = 409) ∧
      Text.contains (Text.lowerAscii r.body) "already exist" = true :=
  and_congr_right fun _ => Text.contains_lowerAscii_iff.symm

theorem TellsMissing.not_succeeds (h : r.TellsMissing) : ¬ r.Succeeds := by
  intro hs
  rw [TellsMissing] at h
  rw [Succeeds] at hs
  omega

theorem TellsTaken.not_succeeds (h : r.TellsTaken) : ¬ r.Succeeds := by
  intro hs
  have hstatus := h.1
  rw [Succeeds] at hs
  omega

theorem TellsTaken.not_tellsMissing (h : r.TellsTaken) : ¬ r.TellsMissing := by
  intro hm
  have hstatus := h.1
  rw [TellsMissing] at hm
  omega

theorem verdict_eq_success_iff : r.verdict = .success ↔ r.Succeeds := by
  rw [← isSuccess_iff, verdict]
  split_ifs <;> simp_all

theorem verdict_eq_notFound_iff : r.verdict = .notFound ↔ r.TellsMissing := by
  constructor
  · rw [verdict]
    split_ifs with _ h <;> simp_all [TellsMissing]
  · intro h
    have hmissing : r.status = 404 := h
    rw [verdict, if_neg (isSuccess_iff.not.mpr h.not_succeeds), if_pos hmissing]

theorem verdict_eq_alreadyExists_iff : r.verdict = .alreadyExists ↔ r.TellsTaken := by
  constructor
  · rw [verdict, tellsTaken_iff]
    split_ifs with _ _ h <;> simp_all
  · intro h
    have hthere : r.status ≠ 404 := h.not_tellsMissing
    rw [verdict, if_neg (isSuccess_iff.not.mpr h.not_succeeds), if_neg hthere,
      if_pos (tellsTaken_iff.mp h)]

/-! ## What the calls make of it -/

theorem decode_eq_ok_iff {read : Json → Option α} {a : α} :
    r.decode c read = .ok a ↔ r.Carries read a := by
  have hbind : r.Carries read a ↔ (Json.parse? r.body).bind read = some a :=
    Option.bind_eq_some_iff.symm
  rw [hbind, decode]
  cases (Json.parse? r.body).bind read <;> simp

theorem map_decode_eq_ok_iff {β : Type} {read : Json → Option α} {f : α → β} {b : β} :
    (r.decode c read).map f = .ok b ↔ ∃ a, r.Carries read a ∧ f a = b := by
  simp only [← decode_eq_ok_iff (c := c)]
  cases r.decode c read <;> simp [Except.map]

theorem expectSuccess_eq_ok_iff {read : Except Failure α} {a : α} :
    r.expectSuccess c read = .ok a ↔ r.Succeeds ∧ read = .ok a := by
  rw [← verdict_eq_success_iff, expectSuccess]
  cases r.verdict <;> simp

theorem expectDeletion_eq_ok_iff {what : Deletion} :
    r.expectDeletion c = .ok what ↔ r.WarrantsDeletion what := by
  cases what with
  | deleted =>
      rw [WarrantsDeletion, ← verdict_eq_success_iff, expectDeletion]
      cases r.verdict <;> simp
  | notFound =>
      rw [WarrantsDeletion, ← verdict_eq_notFound_iff, expectDeletion]
      cases r.verdict <;> simp

theorem expectCreation_eq_ok_iff {what : Creation} :
    r.expectCreation c = .ok what ↔ r.WarrantsCreation what := by
  cases what with
  | created =>
      rw [WarrantsCreation, ← verdict_eq_success_iff, expectCreation]
      cases r.verdict <;> simp
  | alreadyExists =>
      rw [WarrantsCreation, ← verdict_eq_alreadyExists_iff, expectCreation]
      cases r.verdict <;> simp

theorem expectRole_eq_ok_iff {role? : Option NativeRole} :
    r.expectRole c = .ok role? ↔ r.WarrantsRole role? := by
  cases role? with
  | some role =>
      rw [WarrantsRole, ← verdict_eq_success_iff, expectRole]
      cases r.verdict <;> simp [map_decode_eq_ok_iff]
  | none =>
      rw [WarrantsRole, ← verdict_eq_notFound_iff, expectRole]
      cases r.verdict <;> simp [map_decode_eq_ok_iff]

/-- **A call is answered with just what the response warrants.** -/
theorem answer_eq_ok_iff {a : c.Answer} : r.answer c = .ok a ↔ r.Warrants c a := by
  cases c with
  | findPolicies | createPolicy | updatePolicy =>
      exact expectSuccess_eq_ok_iff.trans (and_congr_right fun _ => decode_eq_ok_iff)
  | deletePolicy | deleteAccount | deleteRole => exact expectDeletion_eq_ok_iff
  | createAccount | createRole => exact expectCreation_eq_ok_iff
  | grantRoles | revokeRoles =>
      exact expectSuccess_eq_ok_iff.trans (and_iff_left rfl)
  | findAccounts =>
      exact expectSuccess_eq_ok_iff.trans (and_congr_right fun _ => map_decode_eq_ok_iff)
  | getRole => exact expectRole_eq_ok_iff

/-- Only a success warrants anything to a call that needs one. -/
theorem succeeds_of_warrants (hneeds : c.NeedsSuccess) {a : c.Answer} (h : r.Warrants c a) :
    r.Succeeds := by
  cases c with
  | findPolicies | createPolicy | updatePolicy | findAccounts => exact h.1
  | grantRoles | revokeRoles => exact h
  | deletePolicy | createAccount | deleteAccount | getRole | createRole | deleteRole =>
      exact hneeds.elim

end Response

/-! ## Calls of a client -/

namespace Client

/-- **A call is answered with just what its response warrants, and fails if it warrants nothing.**
So a call that nothing but a success will do for fails when the response tells that the thing is not
there, or that it is there already. -/
theorem perform_eq_ok_iff (client : Client) (c : Call) (r : Response) (replies : List Reply)
    (received : List Request) :
    let answer := (client.perform c { replies := .respond r :: replies, received }).1
    (∀ a, answer = .ok a ↔ r.Warrants c a) ∧
      ((∃ f, answer = .error f) ↔ ∀ a, ¬ r.Warrants c a) ∧
      (c.NeedsSuccess → r.TellsMissing ∨ r.TellsTaken → ∃ f, answer = .error f) := by
  intro answer
  have hanswer : answer = r.answer c := rfl
  have hok : ∀ a, answer = .ok a ↔ r.Warrants c a := by
    intro a
    rw [hanswer, Response.answer_eq_ok_iff]
  have herror : (∃ f, answer = .error f) ↔ ∀ a, ¬ r.Warrants c a := by
    simp only [← hok]
    cases answer <;> simp
  refine ⟨hok, herror, fun hneeds htells => herror.mpr fun a hwarrants => ?_⟩
  have hsucceeds : r.Succeeds := Response.succeeds_of_warrants hneeds hwarrants
  rcases htells with hmissing | htaken
  · exact hmissing.not_succeeds hsucceeds
  · exact htaken.not_succeeds hsucceeds

end Client

end Admin

end PolicyKeeper
