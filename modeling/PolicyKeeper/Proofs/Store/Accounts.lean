import Mathlib.Data.List.Nodup
import Mathlib.Data.List.Perm.Subperm
import Mathlib.Data.Set.Insert
import PolicyKeeper.Proofs.Store.Keyed
import PolicyKeeper.Store.Rehearsal

/-!
# Who has an account

All that counts of the accounts in a store is who has one: a set of principals
(`Store.principals`), which is asked, grows or shrinks by one principal at a time. The store keeps a
list, though, and deletes an account by an id that was looked up before. That this takes the account
of the principal, all of it and no other, is because nothing is in the store twice
(`Store.Distinct`): no principal has two accounts, and no two things have one id, be they policies,
accounts or native roles. All ids come from one counter, so a call that makes something makes it
with an id that nothing has (`Store.idsFrom_perform`).
-/

namespace PolicyKeeper.Store

variable {s t : Store} {who : Principal} {a account : Account}

/-- The principals that have an account. -/
def principals (s : Store) : Set Principal := {who | ∃ a ∈ s.accounts, a.principal = who}

/-- The ids of all that is in the store. -/
def ids (s : Store) : List Int :=
  s.policies.map Prod.fst ++ (s.accounts.map Account.id ++ s.roles.filterMap NativeRole.id)

/-- **Nothing is in the store twice.** -/
structure Distinct (s : Store) : Prop where
  /-- No principal has two accounts. -/
  once : (s.accounts.map Account.principal).Nodup
  /-- No two things have one id. -/
  apart : s.ids.Nodup
  /-- The counter is past all ids. -/
  bound : ∀ id ∈ s.ids, id ≤ s.lastId

/-! ## Ids -/

/-- The ids are some of those there were, and perhaps the next one, which is counted then. -/
def IdsFrom (s t : Store) : Prop :=
  (t.ids.Subperm s.ids ∧ t.lastId = s.lastId)
    ∨ (t.ids.Subperm (s.nextId :: s.ids) ∧ t.lastId = s.nextId)

theorem IdsFrom.of_eq (hids : t.ids = s.ids) (hlast : t.lastId = s.lastId) : s.IdsFrom t :=
  Or.inl ⟨hids ▸ List.Subperm.refl _, hlast⟩

theorem IdsFrom.of_sublist (hids : t.ids.Sublist s.ids) (hlast : t.lastId = s.lastId) :
    s.IdsFrom t := Or.inl ⟨hids.subperm, hlast⟩

/-- The next id is given to something that comes last among its like. -/
theorem IdsFrom.of_next (before after : List Int) (hids : s.ids = before ++ after)
    (hnext : t.ids = before ++ s.nextId :: after) (hlast : t.lastId = s.nextId) : s.IdsFrom t := by
  refine Or.inr ⟨?_, hlast⟩
  rw [hnext, hids]
  exact List.perm_middle.subperm

theorem idsFrom_refl (s : Store) : s.IdsFrom s := .of_eq rfl rfl

/-- Whoever joins a native role or leaves it, the role keeps its id. -/
theorem ids_changeRoles {f : NativeRole → NativeRole} (hf : ∀ r, (f r).id = r.id)
    (names : List String) (s : Store) : (changeRoles f names s).2.ids = s.ids := by
  induction names generalizing s with
  | nil => rfl
  | cons name names ih =>
      rw [changeRoles]
      split
      · rw [ih]
        show _ ++ (_ ++ (s.roles.map _).filterMap NativeRole.id) = _
        rw [List.filterMap_map]
        have hid : (NativeRole.id ∘ fun r => if r.name = name then f r else r) = NativeRole.id := by
          funext r
          rw [Function.comp_apply]
          split
          · exact hf r
          · rfl
        rw [hid]
        rfl
      · rfl

/-- **A call gives out the next id or none.** -/
theorem idsFrom_perform (c : Call) (s : Store) : s.IdsFrom (s.perform c).2 := by
  cases c with
  | findPolicies | findAccounts | getRole => exact idsFrom_refl s
  | createPolicy p =>
      show s.IdsFrom (s.createPolicy p).2
      rcases s.createPolicy_cases p with ⟨_, hcall⟩ | ⟨_, hcall⟩
      · rw [hcall]
        exact idsFrom_refl s
      · rw [hcall]
        refine .of_next _ _ rfl ?_ rfl
        show (s.policies ++ [_]).map Prod.fst ++ _ = _
        rw [List.map_append, List.append_assoc]
        rfl
  | updatePolicy id p =>
      show s.IdsFrom (s.updatePolicy id p).2
      rcases s.updatePolicy_cases id p with ⟨_, hcall⟩ | ⟨_, _, hcall⟩
      · rw [hcall]
        exact idsFrom_refl s
      · rw [hcall]
        refine .of_eq ?_ rfl
        rw [ids, map_fst_updated]
        rfl
  | deletePolicy id =>
      show s.IdsFrom (s.deletePolicy id).2
      rcases s.deletePolicy_cases id with hcall | ⟨_, hcall⟩
      · rw [hcall]
        exact idsFrom_refl s
      · rw [hcall]
        exact .of_sublist ((List.filter_sublist.map _).append_right _) rfl
  | createAccount who =>
      show s.IdsFrom (s.createAccount who).2
      unfold createAccount
      split
      · exact idsFrom_refl s
      · -- accounts stand between policies and native roles
        refine .of_next (s.policies.map Prod.fst ++ s.accounts.map Account.id) _
          (List.append_assoc _ _ _).symm ?_ rfl
        show _ ++ ((s.accounts ++ [_]).map Account.id ++ _) = _
        rw [List.map_append, List.append_assoc, List.append_assoc]
        rfl
  | deleteAccount kind id =>
      show s.IdsFrom (s.deleteAccount kind id).2
      unfold deleteAccount
      dsimp only
      split
      · refine .of_sublist (List.Sublist.append_left ?_ _) rfl
        exact (List.filter_sublist.map _).append_right _
      · exact idsFrom_refl s
  | createRole service role =>
      show s.IdsFrom (s.createRole role).2
      unfold createRole
      split
      · exact idsFrom_refl s
      · refine .of_next _ _ (List.append_nil _).symm ?_ rfl
        show _ ++ (_ ++ (s.roles ++ [_]).filterMap NativeRole.id) = _
        rw [List.filterMap_append, ← List.append_assoc, ← List.append_assoc, ids,
          ← List.append_assoc]
        rfl
  | deleteRole service name =>
      show s.IdsFrom (s.deleteRole name).2
      unfold deleteRole
      split
      · refine .of_sublist (List.Sublist.append_left ?_ _) rfl
        exact List.Sublist.append_left (List.filter_sublist.filterMap _) _
      · exact idsFrom_refl s
  | grantRoles service request =>
      obtain ⟨roles, hroles⟩ := changeRoles_frame (NativeRole.join request) request.targets s
      have hids : ∀ r : NativeRole, (r.join request).id = r.id := fun _ => rfl
      exact .of_eq (ids_changeRoles hids request.targets s) (congrArg lastId hroles :)
  | revokeRoles service request =>
      obtain ⟨roles, hroles⟩ := changeRoles_frame (NativeRole.leave request) request.targets s
      have hids : ∀ r : NativeRole, (r.leave request).id = r.id := fun _ => rfl
      exact .of_eq (ids_changeRoles hids request.targets s) (congrArg lastId hroles :)

theorem IdsFrom.nodup (h : s.IdsFrom t) (hd : s.Distinct) :
    t.ids.Nodup ∧ ∀ id ∈ t.ids, id ≤ t.lastId := by
  have hnext : s.lastId < s.nextId := by
    unfold nextId
    omega
  have hnodup : ∀ {ids : List Int}, ids.Nodup → t.ids.Subperm ids → t.ids.Nodup := by
    rintro ids hids ⟨given, hperm, hsub⟩
    exact hperm.nodup_iff.mp (hids.sublist hsub)
  rcases h with ⟨hsub, hlast⟩ | ⟨hsub, hlast⟩
  · refine ⟨hnodup hd.apart hsub, fun id hid => ?_⟩
    rw [hlast]
    exact hd.bound id (hsub.subset hid)
  · -- the counter is past all ids, so the next one is new
    have hnew : s.nextId ∉ s.ids := fun hin => absurd (hd.bound _ hin) (by omega)
    refine ⟨hnodup (List.nodup_cons.mpr ⟨hnew, hd.apart⟩) hsub, fun id hid => ?_⟩
    rw [hlast]
    rcases List.mem_cons.mp (hsub.subset hid) with rfl | hold
    · exact Int.le_refl _
    · exact Int.le_trans (hd.bound id hold) (Int.le_of_lt hnext)

/-! ## Accounts -/

/-- Whether the call may change accounts. -/
def changesAccounts : Call → Bool
  | .createAccount _ | .deleteAccount .. => true
  | _ => false

theorem changesAccounts_of_search {c : Call} (h : c.kind = .findPolicies) :
    changesAccounts c = false := by
  cases c with
  | findPolicies search => rfl
  | _ => exact absurd h (by simp [Call.kind])

theorem changesAccounts_of_writes {c : Call} (h : writesPolicies c = true) :
    changesAccounts c = false := by
  cases c with
  | createPolicy | updatePolicy | deletePolicy => rfl
  | _ => exact absurd h (by simp [writesPolicies])

/-- The other calls leave the accounts alone. -/
theorem accounts_perform {c : Call} (h : changesAccounts c = false) (s : Store) :
    (s.perform c).2.accounts = s.accounts := by
  cases c with
  | findPolicies | findAccounts | getRole => rfl
  | createPolicy p =>
      show (s.createPolicy p).2.accounts = s.accounts
      rcases s.createPolicy_cases p with ⟨_, hcall⟩ | ⟨_, hcall⟩
      · rw [hcall]
      · rw [hcall]
        rfl
  | updatePolicy id p =>
      show (s.updatePolicy id p).2.accounts = s.accounts
      rcases s.updatePolicy_cases id p with ⟨_, hcall⟩ | ⟨_, _, hcall⟩
      · rw [hcall]
      · rw [hcall]
        rfl
  | deletePolicy id =>
      show (s.deletePolicy id).2.accounts = s.accounts
      rcases s.deletePolicy_cases id with hcall | ⟨_, hcall⟩
      · rw [hcall]
      · rw [hcall]
        rfl
  | createRole service role =>
      show (s.createRole role).2.accounts = s.accounts
      unfold createRole
      split <;> rfl
  | deleteRole service name =>
      show (s.deleteRole name).2.accounts = s.accounts
      unfold deleteRole
      split <;> rfl
  | grantRoles service request | revokeRoles service request =>
      obtain ⟨roles, hroles⟩ := changeRoles_frame _ request.targets s
      exact (congrArg accounts hroles :)
  | createAccount | deleteAccount => exact absurd h (by simp [changesAccounts])

theorem principals_congr (h : t.accounts = s.accounts) : t.principals = s.principals := by
  unfold principals
  rw [h]

theorem findAccounts_eq_nil_iff : s.findAccounts who = [] ↔ who ∉ s.principals := by
  unfold findAccounts
  rw [List.filter_eq_nil_iff]
  refine ⟨?_, fun h a ha heq => h ⟨a, ha, beq_iff_eq.mp heq⟩⟩
  rintro h ⟨a, ha, rfl⟩
  exact h a ha (beq_self_eq_true _)

theorem createAccount_of_mem (h : who ∈ s.principals) :
    s.createAccount who = (.alreadyExists, s) := by
  obtain ⟨a, ha, heq⟩ := h
  have hany : (s.accounts.any fun a => a.principal == who) = true :=
    List.any_eq_true.mpr ⟨a, ha, beq_iff_eq.mpr heq⟩
  exact if_pos hany

theorem createAccount_of_not_mem (h : who ∉ s.principals) : s.createAccount who
    = (.created, { s with accounts := s.accounts ++ [⟨s.nextId, who⟩], lastId := s.nextId }) := by
  refine if_neg fun hany => h ?_
  obtain ⟨a, ha, heq⟩ := List.any_eq_true.mp hany
  exact ⟨a, ha, beq_iff_eq.mp heq⟩

/-- An account is made for a principal that has none, and nothing else is done. -/
theorem mem_createAccount : a ∈ (s.createAccount who).2.accounts
    ↔ a ∈ s.accounts ∨ (who ∉ s.principals ∧ a = ⟨s.nextId, who⟩) := by
  by_cases h : who ∈ s.principals
  · rw [createAccount_of_mem h]
    exact (or_iff_left fun hnew => hnew.1 h).symm
  · rw [createAccount_of_not_mem h, and_iff_right h]
    exact List.mem_append.trans (or_congr_right List.mem_singleton)

theorem mem_createAccount_other (hother : a.principal ≠ who) :
    a ∈ (s.createAccount who).2.accounts ↔ a ∈ s.accounts := by
  rw [mem_createAccount]
  refine or_iff_left ?_
  rintro ⟨_, rfl⟩
  exact hother rfl

/-- **Making an account** adds the principal, if it is not there yet. -/
theorem principals_createAccount :
    (s.createAccount who).2.principals = insert who s.principals := by
  ext other
  by_cases h : who ∈ s.principals
  · rw [createAccount_of_mem h, Set.insert_eq_of_mem h]
  · simp only [principals, mem_createAccount, Set.mem_insert_iff, Set.mem_ofPred_eq]
    refine ⟨?_, ?_⟩
    · rintro ⟨a, hold | ⟨_, rfl⟩, rfl⟩
      · exact Or.inr ⟨a, hold, rfl⟩
      · exact Or.inl rfl
    · rintro (rfl | ⟨a, hold, rfl⟩)
      · exact ⟨_, Or.inr ⟨h, rfl⟩, rfl⟩
      · exact ⟨a, Or.inl hold, rfl⟩

theorem exists_account (who : Principal) (s : Store) :
    ∃ account ∈ (s.createAccount who).2.accounts, account.principal = who := by
  have hwho : who ∈ (s.createAccount who).2.principals := by
    rw [principals_createAccount]
    exact Set.mem_insert who _
  exact hwho

/-- Who has an account gets no other. -/
theorem createAccount_of_accounts (h : t.accounts = (s.createAccount who).2.accounts) :
    (t.createAccount who).2 = t := by
  have hwho : who ∈ t.principals := by
    rw [principals_congr h]
    exact exists_account who s
  rw [createAccount_of_mem hwho]

theorem Distinct.eq_of_principal (h : s.Distinct) (ha : a ∈ s.accounts)
    (haccount : account ∈ s.accounts) (heq : a.principal = account.principal) : a = account :=
  List.inj_on_of_nodup_map h.once ha haccount heq

theorem Distinct.eq_of_id (h : s.Distinct) (ha : a ∈ s.accounts) (haccount : account ∈ s.accounts)
    (heq : a.id = account.id) : a = account := by
  have hnodup : (s.accounts.map Account.id).Nodup :=
    (List.nodup_append.mp (List.nodup_append.mp h.apart).2.1).1
  exact List.inj_on_of_nodup_map hnodup ha haccount heq

/-- An account is deleted by its kind and id. -/
theorem fst_deleteAccount (h : account ∈ s.accounts) :
    (s.deleteAccount account.principal.kind account.id).1 = .deleted := by
  have hany : (s.accounts.any fun a => a.principal.kind == account.principal.kind
      && a.id == account.id) = true := List.any_eq_true.mpr ⟨account, h, by simp⟩
  rw [deleteAccount]
  dsimp only
  rw [if_pos hany]

/-- It goes, and no other does. -/
theorem mem_deleteAccount (hd : s.Distinct) (h : account ∈ s.accounts) :
    a ∈ (s.deleteAccount account.principal.kind account.id).2.accounts
      ↔ a ∈ s.accounts ∧ a.principal ≠ account.principal := by
  have hany : (s.accounts.any fun a => a.principal.kind == account.principal.kind
      && a.id == account.id) = true := List.any_eq_true.mpr ⟨account, h, by simp⟩
  rw [deleteAccount]
  dsimp only
  rw [if_pos hany, List.mem_filter]
  refine and_congr_right fun ha => ?_
  rw [Bool.not_eq_true', ← Bool.not_eq_true, not_iff_not, Bool.and_eq_true, beq_iff_eq, beq_iff_eq]
  -- the call asks for the id, so that it spares all others is because ids are apart
  refine ⟨fun hsame => congrArg Account.principal (hd.eq_of_id ha h hsame.2), fun heq => ?_⟩
  rw [hd.eq_of_principal ha h heq]
  exact ⟨rfl, rfl⟩

/-- **Deleting an account** takes its principal away. -/
theorem principals_deleteAccount (hd : s.Distinct) (h : account ∈ s.accounts) :
    (s.deleteAccount account.principal.kind account.id).2.principals
      = s.principals \ {account.principal} := by
  ext other
  simp only [principals, mem_deleteAccount hd h, Set.mem_sdiff, Set.mem_ofPred_eq,
    Set.mem_singleton_iff]
  refine ⟨?_, ?_⟩
  · rintro ⟨a, ⟨ha, hne⟩, rfl⟩
    exact ⟨⟨a, ha, rfl⟩, hne⟩
  · rintro ⟨⟨a, ha, rfl⟩, hne⟩
    exact ⟨a, ⟨ha, hne⟩, rfl⟩

/-! ## Nothing comes twice -/

theorem Distinct.empty : Distinct {} :=
  ⟨List.nodup_nil, List.nodup_nil, fun _ hid => absurd hid List.not_mem_nil⟩

theorem nodup_createAccount (h : (s.accounts.map Account.principal).Nodup) :
    ((s.createAccount who).2.accounts.map Account.principal).Nodup := by
  by_cases hin : who ∈ s.principals
  · rwa [createAccount_of_mem hin]
  · rw [createAccount_of_not_mem hin, List.map_append]
    refine List.nodup_append.mpr ⟨h, List.nodup_singleton _, fun other hother last hlast => ?_⟩
    obtain ⟨a, ha, rfl⟩ := List.mem_map.mp hother
    rw [List.mem_singleton.mp hlast]
    exact fun heq => hin ⟨a, ha, heq⟩

/-- **No call puts anything into the store twice.** -/
theorem Distinct.perform (h : s.Distinct) (c : Call) : (s.perform c).2.Distinct := by
  obtain ⟨hnodup, hbound⟩ := (idsFrom_perform c s).nodup h
  refine ⟨?_, hnodup, hbound⟩
  cases hc : changesAccounts c with
  | false =>
      rw [accounts_perform hc]
      exact h.once
  | true =>
      cases c with
      | createAccount who => exact nodup_createAccount h.once
      | deleteAccount kind id =>
          show ((s.deleteAccount kind id).2.accounts.map _).Nodup
          unfold deleteAccount
          dsimp only
          split
          · exact h.once.sublist (List.filter_sublist.map _)
          · exact h.once
      | _ => exact absurd hc (by simp [changesAccounts])

end PolicyKeeper.Store
