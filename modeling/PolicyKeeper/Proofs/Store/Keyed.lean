import Mathlib.Data.List.Nodup
import PolicyKeeper.Proofs.Store.Running
import PolicyKeeper.Store.Memory

/-!
# Ids in the store

However a store came about, every policy in it carries the id it is stored under, no two are stored
under one id, and no id is above the counter, so the next id is new. This holds of every store that
is made from the empty one by calls, whoever makes them, and by policies that are put there by
someone else (`Store.Built`).

The three calls that write policies are taken apart here once (`createPolicy_cases`,
`updatePolicy_cases`, `deletePolicy_cases`). A call that is refused has done nothing, and no other
call touches the policies.
-/

namespace PolicyKeeper

namespace Store

/-- A store that calls, and policies put there from outside, can make from the empty one. -/
inductive Built : Store → Prop where
  | empty : Built {}
  | perform {s : Store} (c : Call) : Built s → Built (s.perform c).2
  | insert {s : Store} (p : Policy) : Built s → Built (s.insertPolicy p).2

/-- Every policy is where its id says, and nowhere else. -/
structure Keyed (s : Store) : Prop where
  /-- A policy carries the id it is stored under. -/
  ids : ∀ e ∈ s.policies, e.2.id = some e.1
  /-- No id is used twice. -/
  nodup : (s.policies.map Prod.fst).Nodup
  /-- The counter is past all of them. -/
  bound : ∀ e ∈ s.policies, e.1 ≤ s.lastId

/-! ## The calls that write policies -/

/-- What a policy becomes when it is stored under an id. -/
def stored (id : Int) (p : Policy) : Policy := { p with id := some id }

/-- The store after a policy was created. -/
def created (s : Store) (p : Policy) : Store :=
  { (s.insertPolicy p).2 with writes := s.writes + 1 }

/-- The store after a policy was put in the place of another. -/
def updated (s : Store) (id : Int) (p : Policy) : Store :=
  { s with policies := s.policies.map fun e => if e.1 = id then (id, stored id p) else e
           writes := s.writes + 1 }

/-- The store after a policy was deleted. -/
def deleted (s : Store) (id : Int) : Store :=
  { s with policies := s.policies.filter fun e => e.1 != id, writes := s.writes + 1 }

theorem createPolicy_cases (s : Store) (p : Policy) :
    (∃ refusal, s.createPolicy p = (.error refusal, s))
      ∨ s.conflict? none p = none
        ∧ s.createPolicy p = (.ok (stored s.nextId p), s.created p) := by
  unfold createPolicy
  cases h : s.conflict? none p with
  | some refusal => exact Or.inl ⟨refusal, rfl⟩
  | none => exact Or.inr ⟨rfl, rfl⟩

theorem updatePolicy_cases (s : Store) (id : Int) (p : Policy) :
    (∃ refusal, s.updatePolicy id p = (.error refusal, s))
      ∨ s.hasPolicy id = true ∧ s.conflict? (some id) p = none
        ∧ s.updatePolicy id p = (.ok (stored id p), s.updated id p) := by
  unfold updatePolicy
  cases hid : s.hasPolicy id with
  | false => exact Or.inl ⟨_, rfl⟩
  | true =>
      cases h : s.conflict? (some id) p with
      | some refusal => exact Or.inl ⟨refusal, rfl⟩
      | none => exact Or.inr ⟨rfl, rfl, rfl⟩

/-- What nothing stands against is taken. -/
theorem updatePolicy_of_eq_none {s : Store} {id : Int} {p : Policy} (hhas : s.hasPolicy id = true)
    (hnone : s.conflict? (some id) p = none) :
    s.updatePolicy id p = (.ok (stored id p), s.updated id p) := by
  rw [updatePolicy, if_pos hhas, hnone]
  rfl

theorem deletePolicy_cases (s : Store) (id : Int) :
    s.deletePolicy id = (.notFound, s)
      ∨ s.hasPolicy id = true ∧ s.deletePolicy id = (.deleted, s.deleted id) := by
  unfold deletePolicy
  cases hid : s.hasPolicy id with
  | false => exact Or.inl rfl
  | true => exact Or.inr ⟨rfl, rfl⟩

theorem deletePolicy_of_hasPolicy {s : Store} {id : Int} (h : s.hasPolicy id = true) :
    s.deletePolicy id = (.deleted, s.deleted id) := by
  rw [deletePolicy, if_pos h]
  rfl

theorem hasPolicy_iff {s : Store} {id : Int} :
    s.hasPolicy id = true ↔ ∃ p, (id, p) ∈ s.policies := by
  unfold hasPolicy
  rw [List.any_eq_true]
  refine ⟨?_, ?_⟩
  · intro h
    obtain ⟨⟨i, p⟩, he, hi⟩ := h
    cases beq_iff_eq.mp hi
    exact ⟨p, he⟩
  · intro h
    obtain ⟨p, hp⟩ := h
    exact ⟨_, hp, beq_self_eq_true id⟩

/-- An id that is not in use was not in use before either, if every id stays. -/
theorem hasPolicy_eq_false_of {s s' : Store} {id : Int} (hnone : s'.hasPolicy id = false)
    (hstay : ∀ e ∈ s.policies, e.1 = id → ∃ p, (id, p) ∈ s'.policies) :
    s.hasPolicy id = false := by
  refine Bool.eq_false_iff.mpr fun hhas => ?_
  obtain ⟨p, hp⟩ := hasPolicy_iff.mp hhas
  rw [hasPolicy_iff.mpr (hstay _ hp rfl)] at hnone
  exact absurd hnone (by simp)

theorem mem_created {s : Store} {p : Policy} {e : Int × Policy} :
    e ∈ (s.created p).policies ↔ e ∈ s.policies ∨ e = (s.nextId, stored s.nextId p) :=
  List.mem_append.trans (or_congr_right List.mem_singleton)

theorem mem_updated {s : Store} {id : Int} {p : Policy} (h : s.hasPolicy id = true)
    {e : Int × Policy} :
    e ∈ (s.updated id p).policies ↔ (e ∈ s.policies ∧ e.1 ≠ id) ∨ e = (id, stored id p) := by
  show e ∈ s.policies.map _ ↔ _
  rw [List.mem_map]
  refine ⟨?_, ?_⟩
  · intro h
    obtain ⟨e', he', rfl⟩ := h
    split
    · exact Or.inr rfl
    · rename_i hne
      exact Or.inl ⟨he', hne⟩
  · intro h
    rcases h with ⟨he, hne⟩ | rfl
    · exact ⟨e, he, if_neg hne⟩
    · obtain ⟨q, hq⟩ := hasPolicy_iff.mp h
      exact ⟨(id, q), hq, if_pos rfl⟩

theorem mem_deleted {s : Store} {id : Int} {e : Int × Policy} :
    e ∈ (s.deleted id).policies ↔ e ∈ s.policies ∧ e.1 ≠ id := by
  show e ∈ s.policies.filter _ ↔ _
  rw [List.mem_filter, bne_iff_ne]

/-- What stands against nothing in the store has a name and a resource of its own. -/
theorem conflict?_eq_none_iff {s : Store} {id : Option Int} {p : Policy} :
    s.conflict? id p = none ↔ ∀ e ∈ s.policies, some e.1 ≠ id → e.2.service = p.service →
      e.2.name ≠ p.name ∧ e.2.resources.sameAs p.resources = false := by
  unfold conflict?
  rw [List.findSome?_eq_none_iff]
  refine forall_congr' fun e => forall_congr' fun _ => ?_
  dsimp only
  by_cases hid : some e.1 = id
  · simp [hid]
  · by_cases hservice : e.2.service = p.service
    · by_cases hname : e.2.name = p.name
      · simp [hid, hservice, hname]
      · simp [hid, hservice, hname]
    · simp [hservice]

/-! ## All the other calls -/

/-- Whether the call may write policies. -/
def writesPolicies : Call → Bool
  | .createPolicy _ | .updatePolicy .. | .deletePolicy _ => true
  | _ => false

/-- A policy that cannot be written leaves the store as it is. -/
theorem perform_refused {s : Store} {c : Call} {e : Failure} (hc : writesPolicies c = true)
    (herror : (s.perform c).1 = .error e) : (s.perform c).2 = s := by
  cases c with
  | createPolicy p =>
      rw [perform] at herror ⊢
      rcases s.createPolicy_cases p with ⟨_, hrefused⟩ | ⟨_, hcreated⟩
      · rw [hrefused]
        rfl
      · rw [hcreated] at herror
        exact absurd herror (by simp [ofRefusal])
  | updatePolicy id p =>
      rw [perform] at herror ⊢
      rcases s.updatePolicy_cases id p with ⟨_, hrefused⟩ | ⟨_, _, hupdated⟩
      · rw [hrefused]
        rfl
      · rw [hupdated] at herror
        exact absurd herror (by simp [ofRefusal])
  | deletePolicy id => exact absurd herror (by simp [perform, ofAnswer])
  | _ => exact absurd hc (by simp [writesPolicies])

/-- Changing native roles changes nothing but native roles. -/
theorem changeRoles_frame (change : NativeRole → NativeRole) (names : List String) (s : Store) :
    ∃ roles, (changeRoles change names s).2 = { s with roles } := by
  induction names generalizing s with
  | nil => exact ⟨s.roles, rfl⟩
  | cons name names ih =>
      rw [changeRoles]
      split
      · exact ih (s.changeRole name change)
      · exact ⟨s.roles, rfl⟩

/-- The other calls leave the policies alone, and never turn the counter back. -/
theorem perform_policies {c : Call} (h : writesPolicies c = false) (s : Store) :
    (s.perform c).2.policies = s.policies ∧ s.lastId ≤ (s.perform c).2.lastId := by
  have hnext : s.lastId ≤ s.nextId := by
    unfold nextId
    omega
  cases c with
  | createPolicy | updatePolicy | deletePolicy => exact absurd h (by simp [writesPolicies])
  | findPolicies | findAccounts | getRole => exact ⟨rfl, Int.le_refl _⟩
  | createAccount who =>
      show (s.createAccount who).2.policies = _ ∧ _ ≤ (s.createAccount who).2.lastId
      unfold createAccount
      split
      · exact ⟨rfl, Int.le_refl _⟩
      · exact ⟨rfl, hnext⟩
  | deleteAccount kind id =>
      show (s.deleteAccount kind id).2.policies = _ ∧ _ ≤ (s.deleteAccount kind id).2.lastId
      unfold deleteAccount
      dsimp only
      split
      · exact ⟨rfl, Int.le_refl _⟩
      · exact ⟨rfl, Int.le_refl _⟩
  | createRole service role =>
      show (s.createRole role).2.policies = _ ∧ _ ≤ (s.createRole role).2.lastId
      unfold createRole
      split
      · exact ⟨rfl, Int.le_refl _⟩
      · exact ⟨rfl, hnext⟩
  | deleteRole service name =>
      show (s.deleteRole name).2.policies = _ ∧ _ ≤ (s.deleteRole name).2.lastId
      unfold deleteRole
      split
      · exact ⟨rfl, Int.le_refl _⟩
      · exact ⟨rfl, Int.le_refl _⟩
  | grantRoles service request | revokeRoles service request =>
      obtain ⟨roles, hroles⟩ := changeRoles_frame _ request.targets s
      show (changeRoles _ _ s).2.policies = _ ∧ _ ≤ (changeRoles _ _ s).2.lastId
      rw [hroles]
      exact ⟨rfl, Int.le_refl _⟩

theorem policies_createAccount (who : Principal) (s : Store) :
    (s.createAccount who).2.policies = s.policies :=
  (perform_policies (c := .createAccount who) rfl s).1

/-- What is there after a call was there before, or was written by it. -/
theorem mem_perform {s : Store} {c : Call} {e : Int × Policy}
    (he : e ∈ (s.perform c).2.policies) : e ∈ s.policies
      ∨ ∃ p, (c = .createPolicy p ∨ c = .updatePolicy e.1 p) ∧ e.2 = stored e.1 p := by
  cases hw : writesPolicies c with
  | false =>
      rw [(perform_policies hw s).1] at he
      exact Or.inl he
  | true =>
      cases c with
      | createPolicy p =>
          have he : e ∈ (s.createPolicy p).2.policies := he
          rcases s.createPolicy_cases p with ⟨_, heq⟩ | ⟨_, heq⟩
          · rw [heq] at he
            exact Or.inl he
          · rw [heq] at he
            rcases mem_created.mp he with hold | rfl
            · exact Or.inl hold
            · exact Or.inr ⟨p, Or.inl rfl, rfl⟩
      | updatePolicy id p =>
          have he : e ∈ (s.updatePolicy id p).2.policies := he
          rcases s.updatePolicy_cases id p with ⟨_, heq⟩ | ⟨hhas, _, heq⟩
          · rw [heq] at he
            exact Or.inl he
          · rw [heq] at he
            rcases (mem_updated hhas).mp he with ⟨hold, _⟩ | rfl
            · exact Or.inl hold
            · exact Or.inr ⟨p, Or.inr rfl, rfl⟩
      | deletePolicy id =>
          have he : e ∈ (s.deletePolicy id).2.policies := he
          rcases s.deletePolicy_cases id with heq | ⟨_, heq⟩
          · rw [heq] at he
            exact Or.inl he
          · rw [heq] at he
            exact Or.inl (mem_deleted.mp he).1
      | _ => exact absurd hw (by simp [writesPolicies])

/-- A call that writes no policies, as part of a plan that goes well. -/
theorem run_quiet {c : Call} (hc : writesPolicies c = false) {task : Task} {a : c.Answer}
    {s s' : Store} (h : ((Plan.call c).during task).run Store.perform s = (.ok a, s')) :
    s'.policies = s.policies := by
  have hperform : s.perform c = (.ok a, s') := Plan.run_during_ok h
  have hpolicies := (perform_policies hc s).1
  rwa [hperform] at hpolicies

/-! ## Ids stay as they should -/

theorem Keyed.empty : Keyed {} where
  ids := fun _ he => absurd he List.not_mem_nil
  nodup := List.nodup_nil
  bound := fun _ he => absurd he List.not_mem_nil

/-- A policy that is put at the end is under an id that none had before. -/
theorem Keyed.insertPolicy {s : Store} (h : Keyed s) (p : Policy) :
    Keyed (s.insertPolicy p).2 := by
  have hmem : ∀ {e : Int × Policy}, e ∈ (s.insertPolicy p).2.policies →
      e ∈ s.policies ∨ e = (s.nextId, stored s.nextId p) :=
    fun he => (List.mem_append.mp he).imp_right List.mem_singleton.mp
  have hnext : s.lastId < s.nextId := by
    unfold nextId
    omega
  refine ⟨fun e he => ?_, ?_, fun e he => ?_⟩
  · rcases hmem he with he | rfl
    · exact h.ids e he
    · -- an id that came with the policy has been replaced
      rfl
  · show ((s.policies ++ [(s.nextId, _)]).map Prod.fst).Nodup
    rw [List.map_append]
    refine List.nodup_append.mpr ⟨h.nodup, List.nodup_singleton _, fun a ha b hb => ?_⟩
    rw [List.mem_singleton.mp hb]
    obtain ⟨e, he, rfl⟩ := List.mem_map.mp ha
    exact Int.ne_of_lt (Int.lt_of_le_of_lt (h.bound e he) hnext)
  · show e.1 ≤ s.nextId
    rcases hmem he with he | rfl
    · exact Int.le_of_lt (Int.lt_of_le_of_lt (h.bound e he) hnext)
    · exact Int.le_refl _

theorem Keyed.created {s : Store} (h : Keyed s) (p : Policy) : Keyed (s.created p) :=
  ⟨(h.insertPolicy p).ids, (h.insertPolicy p).nodup, (h.insertPolicy p).bound⟩

/-- Where a policy is put in the place of another, the ids stay as they are. -/
theorem map_fst_updated (s : Store) (id : Int) (p : Policy) :
    (s.updated id p).policies.map Prod.fst = s.policies.map Prod.fst := by
  show (s.policies.map _).map Prod.fst = _
  rw [List.map_map]
  refine List.map_congr_left fun e _ => ?_
  show (if e.1 = id then _ else e).1 = e.1
  split
  · rename_i he
    exact he.symm
  · rfl

theorem Keyed.updated {s : Store} (h : Keyed s) (id : Int) (p : Policy) :
    Keyed (s.updated id p) := by
  have hfst := map_fst_updated s id p
  refine ⟨fun e he => ?_, hfst ▸ h.nodup, fun e he => ?_⟩
  · obtain ⟨e', he', rfl⟩ := List.mem_map.mp he
    split
    · rfl
    · exact h.ids e' he'
  · have hin : e.1 ∈ s.policies.map Prod.fst := hfst ▸ List.mem_map_of_mem he
    obtain ⟨e', he', heq⟩ := List.mem_map.mp hin
    exact heq ▸ h.bound e' he'

theorem Keyed.deleted {s : Store} (h : Keyed s) (id : Int) : Keyed (s.deleted id) where
  ids := fun e he => h.ids e (List.mem_of_mem_filter he)
  nodup := h.nodup.sublist (List.filter_sublist.map Prod.fst)
  bound := fun e he => h.bound e (List.mem_of_mem_filter he)

theorem Keyed.perform {s : Store} (h : Keyed s) (c : Call) : Keyed (s.perform c).2 := by
  cases hc : writesPolicies c with
  | false =>
      obtain ⟨hp, hl⟩ := perform_policies hc s
      refine ⟨fun e he => h.ids e (hp ▸ he), hp ▸ h.nodup, fun e he => ?_⟩
      exact Int.le_trans (h.bound e (hp ▸ he)) hl
  | true =>
      cases c with
      | createPolicy p =>
          show Keyed (s.createPolicy p).2
          rcases s.createPolicy_cases p with ⟨_, he⟩ | ⟨_, he⟩
          · rwa [he]
          · rw [he]
            exact h.created p
      | updatePolicy id p =>
          show Keyed (s.updatePolicy id p).2
          rcases s.updatePolicy_cases id p with ⟨_, he⟩ | ⟨_, _, he⟩
          · rwa [he]
          · rw [he]
            exact h.updated id p
      | deletePolicy id =>
          show Keyed (s.deletePolicy id).2
          rcases s.deletePolicy_cases id with he | ⟨_, he⟩
          · rwa [he]
          · rw [he]
            exact h.deleted id
      | _ => exact absurd hc (by simp [writesPolicies])

/-- **In whatever way a store was built, its policies are under their own ids.** -/
theorem Built.keyed {s : Store} (h : Built s) : Keyed s := by
  induction h with
  | empty => exact Keyed.empty
  | perform c _ ih => exact ih.perform c
  | insert p _ ih => exact ih.insertPolicy p

/-- A plan, however it ends, leaves a store that could be built. -/
theorem Built.run {α : Type} (plan : Plan α) {s : Store} (h : Built s) :
    Built (plan.run Store.perform s).2 := by
  induction plan generalizing s with
  | done r => exact h
  | ask c next ih => exact ih _ (h.perform c)

theorem Built.of_run {α : Type} {plan : Plan α} {s t : Store} {r : Except Failure α}
    (h : Built s) (hrun : plan.run Store.perform s = (r, t)) : Built t := by
  have hbuilt := h.run plan
  rwa [hrun] at hbuilt

/-- Two policies under one id are one. -/
theorem Keyed.eq_of_id {s : Store} (h : Keyed s) {e e' : Int × Policy} (he : e ∈ s.policies)
    (he' : e' ∈ s.policies) (hid : e.1 = e'.1) : e = e' :=
  List.inj_on_of_nodup_map h.nodup he he' hid

end Store

end PolicyKeeper
