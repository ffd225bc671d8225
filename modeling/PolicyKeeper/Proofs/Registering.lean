import PolicyKeeper.Proofs.Declining

/-!
# Who is registered

The principals that have an account are a set, and an event is one operation on it or none
(`Event.register`). Users and groups are put in and taken out by events of their own, and before
roles are granted or an owner is set, whoever that is for is put in. What is done after that spares
the accounts (`Plan.SparesAccounts`), so it does not matter to them how the event ends.

A call about accounts may fail, and then the event is cut short (`Event.Cut`). That is never
halfway: an event changes accounts at most once, so it has failed without having done anything. It
is assumed throughout that a call about accounts which is disturbed does fail, since the keeper
could be made to say anything by answers that are not so.
-/

namespace PolicyKeeper

/-! ## Calls about accounts that fail -/

/-- Whether a call is about accounts. -/
def CallKind.aboutAccounts : CallKind → Bool
  | .findAccounts | .createAccount | .deleteAccount => true
  | _ => false

namespace Disturbance

variable {kind kind' : CallKind} {ds : List Disturbance}

/-- A call about accounts that is disturbed fails. -/
def Plain (d : Disturbance) : Prop := d.kind.aboutAccounts = true → d.outcome = .failure

/-- The next call of the kind is disturbed. -/
def Hits (kind : CallKind) (ds : List Disturbance) : Prop := (meet kind ds).1.isSome = true

/-- Calls of another kind are disturbed as they were. -/
theorem hits_other (hne : kind' ≠ kind) : Hits kind' (meet kind ds).2 ↔ Hits kind' ds := by
  unfold Hits
  induction ds with
  | nil => rfl
  | cons d ds ih =>
      rw [meet, meet]
      by_cases hkind : d.kind = kind
      · have hother : d.kind ≠ kind' := fun heq => hne (heq.symm.trans hkind)
        rw [if_pos hkind, if_neg hother]
        split
        · rfl
        · rw [meet, if_neg hother]
      · rw [if_neg hkind, meet]
        split
        · split <;> rfl
        · exact ih

end Disturbance

open Disturbance (Hits)

namespace Rehearsal

variable {α : Type} {c : Call} {p : Plan α} {r : Rehearsal}

/-- Calls about accounts that are disturbed fail. -/
def Plain (r : Rehearsal) : Prop := ∀ d ∈ r.disturbances, d.Plain

theorem plain_perform (h : r.Plain) (c : Call) :
    (∀ d, (Disturbance.meet c.kind r.disturbances).1 = some d → c.kind.aboutAccounts = true →
      d.outcome = .failure) ∧ (perform c r).2.Plain :=
  Disturbance.meet_outcome (P := fun kind o => kind.aboutAccounts = true → o = .failure) c.kind h

/-- The store itself never fails such a call. -/
theorem perform_aboutAccounts (hc : c.kind.aboutAccounts = true) (s : Store) :
    ∃ a, (s.perform c).1 = .ok a := by
  cases c with
  | findAccounts | createAccount | deleteAccount => exact ⟨_, rfl⟩
  | _ => exact absurd hc (by simp [Call.kind, CallKind.aboutAccounts])

/-- The plan fails, and nothing was done. -/
def Stops (p : Plan α) (r : Rehearsal) : Prop :=
  (∃ e, (run p r).1 = .error e) ∧ (run p r).2.store = r.store

/-- **A call about accounts** stops a plan that begins with it, or it is answered from the store. -/
theorem run_ask {next : Except Failure c.Answer → Plan α} (h : r.Plain)
    (hp : p = .ask c next) (hc : c.kind.aboutAccounts = true)
    (herror : ∀ e, ∃ e', next (.error e) = .done (.error e')) :
    (Hits c.kind r.disturbances ∧ Stops p r)
      ∨ ¬Hits c.kind r.disturbances ∧ ∃ a t, r.store.perform c = (.ok a, t.store)
        ∧ run p r = run (next (.ok a)) t ∧ t.Plain
        ∧ ∀ kind, kind ≠ c.kind → (Hits kind t.disturbances ↔ Hits kind r.disturbances) := by
  obtain ⟨hmet, hplain⟩ := plain_perform h c
  have hleft : ∀ kind, kind ≠ c.kind →
      (Hits kind (perform c r).2.disturbances ↔ Hits kind r.disturbances) :=
    fun kind hne => Disturbance.hits_other hne
  have hrun : run p r = run (next (perform c r).1) (perform c r).2 := by
    rw [hp]
    rfl
  cases hdisturbed : (Disturbance.meet c.kind r.disturbances).1 with
  | some d =>
      obtain ⟨e, he⟩ := Disturbance.answer_of_failure (hmet d hdisturbed hc) c
      obtain ⟨e', hend⟩ := herror e
      have hanswer : (perform c r).1 = .error e := by
        simp only [perform, hdisturbed, he]
      have hstore : (perform c r).2.store = r.store := by
        simp only [perform, hdisturbed]
      rw [hanswer, hend] at hrun
      refine Or.inl ⟨by rw [Hits, hdisturbed]; rfl, ⟨e', ?_⟩, ?_⟩
      · rw [hrun]
        rfl
      · rw [hrun]
        exact hstore
  | none =>
      obtain ⟨a, ha⟩ := perform_aboutAccounts hc r.store
      have hanswer : (perform c r).1 = .ok a := by
        simp only [perform, hdisturbed, ha]
      have hstore : (r.store.perform c).2 = (perform c r).2.store := by
        simp only [perform, hdisturbed]
      rw [hanswer] at hrun
      refine Or.inr ⟨by rw [Hits, hdisturbed]; simp, a, (perform c r).2, ?_, hrun, hplain, hleft⟩
      rw [← ha, ← hstore]

/-- What every call keeps, a rehearsal keeps. -/
theorem keeps (Inv : Store → Prop) (hstep : ∀ c s, Inv s → Inv (s.perform c).2) (p : Plan α)
    (h : Inv r.store) : Inv (run p r).2.store := by
  induction p generalizing r with
  | done result => exact h
  | ask c next ih =>
      refine ih _ (r := (perform c r).2) ?_
      rcases perform_cases c r with hsame | ⟨_, hstore⟩
      · rw [hsame]
        exact h
      · rw [hstore]
        exact hstep c _ h

end Rehearsal

/-! ## Plans that spare the accounts -/

namespace Plan

variable {α β : Type} {p : Plan α}

/-- The plan makes no call that may change accounts. -/
def SparesAccounts (p : Plan α) : Prop :=
  p.Abides (fun c => Store.changesAccounts c = false) (fun _ _ => True) fun _ => True

theorem SparesAccounts.bind {f : α → Plan β} (hp : p.SparesAccounts)
    (hf : ∀ a, (f a).SparesAccounts) : (p >>= f).SparesAccounts := Abides.bind hp fun a _ => hf a

theorem SparesAccounts.during (hp : p.SparesAccounts) (task : Task) :
    (p.during task).SparesAccounts := Abides.during hp task

theorem sparesAccounts_pure (a : α) : (pure a : Plan α).SparesAccounts := abides_pure trivial

theorem sparesAccounts_call {c : Call} (hc : Store.changesAccounts c = false) :
    (call c).SparesAccounts := abides_only hc

theorem Searches.sparesAccounts (hp : p.Searches) : p.SparesAccounts :=
  hp.imp fun _ => Store.changesAccounts_of_search

theorem WritesLast.sparesAccounts (hp : p.WritesLast) : p.SparesAccounts :=
  hp.abides (fun _ => Store.changesAccounts_of_search) fun _ => Store.changesAccounts_of_writes

theorem SparesAccounts.run (hp : p.SparesAccounts) (r : Rehearsal) :
    (Rehearsal.run p r).2.store.accounts = r.store.accounts := by
  refine Abides.run_eq (fun r : Rehearsal => r.store.accounts) (fun c r hc => ?_) hp r
  rcases Rehearsal.perform_cases c r with hsame | ⟨_, hstore⟩
  · rw [hsame]
  · rw [hstore]
    exact Store.accounts_perform hc r.store

end Plan

/-! ## Events as operations on a set -/

namespace Event

/-- Whose account the event is about. -/
def registrant? : Event → Option Principal
  | .ownerSet _ _ who | .rolesGranted _ who | .principalAdded who | .principalRemoved who
  | .principalAcquired who => some who
  | _ => none

/-- What the event makes of those who are registered. -/
def register : Event → Set Principal → Set Principal
  | .ownerSet _ _ who, ps | .rolesGranted _ who, ps | .principalAdded who, ps => insert who ps
  | .principalRemoved who, ps => ps \ {who}
  | _, ps => ps

/-- What an event about an account, and nothing else, is answered with. It is put in if it is not
there, and it is taken out, or said to be there, if it is. -/
def Answers : Event → Set Principal → Except Failure Bool → Prop
  | .principalAdded who, ps, result => ∃ answer, result = .ok answer ∧ (answer = true ↔ who ∉ ps)
  | .principalRemoved who, ps, result | .principalAcquired who, ps, result =>
    ∃ answer, result = .ok answer ∧ (answer = true ↔ who ∈ ps)
  | _, _, _ => True

/-- A call about accounts fails that is made for the event. -/
def Cut : Event → Set Principal → List Disturbance → Prop
  | .ownerSet .., _, ds | .rolesGranted .., _, ds => Hits .createAccount ds
  | .principalAdded who, ps, ds => Hits .findAccounts ds ∨ (who ∉ ps ∧ Hits .createAccount ds)
  | .principalRemoved who, ps, ds => Hits .findAccounts ds ∨ (who ∈ ps ∧ Hits .deleteAccount ds)
  | .principalAcquired _, _, ds => Hits .findAccounts ds
  | _, _, _ => False

/-- What an event has done to the accounts, and said of them. -/
structure Registers (event : Event) (r : Rehearsal) (ended : Except Failure Bool × Rehearsal) :
    Prop where
  /-- If it was cut short, it has failed and done nothing. -/
  cut : event.Cut r.store.principals r.disturbances →
    (∃ e, ended.1 = .error e) ∧ ended.2.store = r.store
  /-- Otherwise it has done what it does, however it ends, -/
  done : ¬event.Cut r.store.principals r.disturbances →
    ended.2.store.principals = event.register r.store.principals
  /-- and gives the answer that is right for those who were registered before. -/
  answers : ¬event.Cut r.store.principals r.disturbances →
    event.Answers r.store.principals ended.1
  /-- The accounts of all others are what they were. -/
  others : ∀ a : Account, event.registrant? ≠ some a.principal →
    (a ∈ ended.2.store.accounts ↔ a ∈ r.store.accounts)

section

variable {event : Event} {r : Rehearsal} {ended : Except Failure Bool × Rehearsal}

theorem Registers.of_cut (hcut : event.Cut r.store.principals r.disturbances)
    (hfails : ∃ e, ended.1 = .error e) (hsame : ended.2.store = r.store) :
    event.Registers r ended :=
  ⟨fun _ => ⟨hfails, hsame⟩, fun hnot => absurd hcut hnot, fun hnot => absurd hcut hnot,
    fun a _ => by rw [hsame]⟩

theorem Registers.of_clear (hclear : ¬event.Cut r.store.principals r.disturbances)
    (hdone : ended.2.store.principals = event.register r.store.principals)
    (hanswers : event.Answers r.store.principals ended.1)
    (hothers : ∀ a : Account, event.registrant? ≠ some a.principal →
      (a ∈ ended.2.store.accounts ↔ a ∈ r.store.accounts)) : event.Registers r ended :=
  ⟨fun hcut => absurd hcut hclear, fun _ => hdone, fun _ => hanswers, hothers⟩

end

/-- What is not disturbed is not cut short. -/
theorem not_cut_nil (event : Event) (ps : Set Principal) : ¬event.Cut ps [] := by
  have hnone : ∀ kind, ¬Hits kind [] := fun kind => by simp [Hits, Disturbance.meet]
  cases event with
  | ownerSet | rolesGranted | principalAcquired => exact hnone _
  | principalAdded | principalRemoved =>
      exact not_or.mpr ⟨hnone _, fun hcut => hnone _ hcut.2⟩
  | _ => exact id

end Event

open Event (Registers)

namespace Keeper

open Plan

variable {k : Keeper} {r : Rehearsal} {who : Principal}

/-! ## Events about a principal -/

/-- Looking for the accounts of a principal first. -/
theorem run_find {p : Plan Bool} {f : List Account → Plan Bool} (h : r.Plain)
    (hp : p = ((Plan.call (.findAccounts who) : Plan (List Account)) >>= f)) :
    (Hits .findAccounts r.disturbances ∧ Rehearsal.Stops p r)
      ∨ ¬Hits .findAccounts r.disturbances ∧ ∃ t : Rehearsal, t.store = r.store
        ∧ Rehearsal.run p r = Rehearsal.run (f (r.store.findAccounts who)) t ∧ t.Plain
        ∧ ∀ kind, kind ≠ .findAccounts →
          (Hits kind t.disturbances ↔ Hits kind r.disturbances) := by
  rcases Rehearsal.run_ask (c := .findAccounts who) h hp rfl fun e => ⟨e, rfl⟩ with
    hstops | ⟨hclear, found, t, hfind, hrun, hplain, hleft⟩
  · exact Or.inl hstops
  · refine Or.inr ⟨hclear, t, (congrArg Prod.snd hfind).symm, ?_, hplain, hleft⟩
    rw [hrun, ← Except.ok.inj (congrArg Prod.fst hfind)]
    rfl

/-- Changing an account last. -/
theorem run_last {c : Call} {f : c.Answer → Bool} (h : r.Plain)
    (hc : c.kind.aboutAccounts = true) :
    (Hits c.kind r.disturbances ∧ Rehearsal.Stops (Plan.call c >>= fun a => pure (f a)) r)
      ∨ ¬Hits c.kind r.disturbances ∧ ∃ a t, r.store.perform c = (.ok a, t.store)
        ∧ Rehearsal.run (Plan.call c >>= fun a => pure (f a)) r = (.ok (f a), t) := by
  rcases Rehearsal.run_ask (p := Plan.call c >>= fun a => pure (f a)) h rfl hc
      fun e => ⟨e, rfl⟩ with hstops | ⟨hclear, a, t, hperform, hrun, -, -⟩
  · exact Or.inl hstops
  · exact Or.inr ⟨hclear, a, t, hperform, hrun⟩

theorem registers_principalAdded (h : r.Plain) (who : Principal) :
    Registers (.principalAdded who) r (Rehearsal.run (addPrincipal who) r) := by
  rcases run_find (p := addPrincipal who) h rfl with
    ⟨hhits, hfails, hsame⟩ | ⟨hclear, t, hstore, hrun, hplain, hleft⟩
  · exact .of_cut (Or.inl hhits) hfails hsame
  by_cases hin : who ∈ r.store.principals
  · -- the account was found, so there is no second call that could fail
    have hfound : r.store.findAccounts who ≠ [] :=
      fun hnil => Store.findAccounts_eq_nil_iff.mp hnil hin
    rw [hrun, if_neg hfound]
    refine .of_clear (not_or.mpr ⟨hclear, fun hcut => hcut.1 hin⟩) ?_ ⟨false, rfl, by simp [hin]⟩
      fun a _ => by rw [← hstore]; rfl
    show t.store.principals = insert who r.store.principals
    rw [hstore, Set.insert_eq_of_mem hin]
  · have hleft := hleft .createAccount (by decide)
    rw [if_pos (Store.findAccounts_eq_nil_iff.mpr hin)] at hrun
    rcases run_last (c := .createAccount who)
        (f := fun creation : Creation => creation == Creation.created) hplain rfl with
      ⟨hhits, hfails, hsame⟩ | ⟨hclear', creation, u, hcreate, hend⟩
    · -- the search has not changed the store, so failing here is failing without a trace
      rw [hrun]
      exact .of_cut (Or.inr ⟨hin, hleft.mp hhits⟩) hfails (hsame.trans hstore)
    · have hended : Rehearsal.run (addPrincipal who) r = (.ok (_ == Creation.created), u) :=
        hrun.trans hend
      rw [hstore] at hcreate
      have hcreation : creation = Creation.created := by
        rw [← Except.ok.inj (congrArg Prod.fst hcreate), Store.createAccount_of_not_mem hin]
      have hu : (r.store.createAccount who).2 = u.store := congrArg Prod.snd hcreate
      rw [hended, hcreation]
      refine .of_clear (not_or.mpr ⟨hclear, fun hcut => hclear' (hleft.mpr hcut.2)⟩) ?_
        ⟨true, rfl, by simp [hin]⟩ fun a ha => ?_
      · show u.store.principals = insert who r.store.principals
        rw [← hu, Store.principals_createAccount]
      · show a ∈ u.store.accounts ↔ a ∈ r.store.accounts
        rw [← hu]
        exact Store.mem_createAccount_other fun heq => ha (congrArg some heq.symm)

theorem registers_principalRemoved (h : r.Plain) (hd : r.store.Distinct) (who : Principal) :
    Registers (.principalRemoved who) r (Rehearsal.run (removePrincipal who) r) := by
  rcases run_find (p := removePrincipal who) h rfl with
    ⟨hhits, hfails, hsame⟩ | ⟨hclear, t, hstore, hrun, hplain, hleft⟩
  · exact .of_cut (Or.inl hhits) hfails hsame
  cases hfound : r.store.findAccounts who with
  | nil =>
      have hnot : who ∉ r.store.principals := Store.findAccounts_eq_nil_iff.mp hfound
      rw [hrun, hfound]
      refine .of_clear (not_or.mpr ⟨hclear, fun hcut => hnot hcut.1⟩) ?_
        ⟨false, rfl, by simp [hnot]⟩ fun a _ => by rw [← hstore]; rfl
      refine Set.ext fun other => ?_
      rw [← hstore] at hnot ⊢
      refine (and_iff_left_of_imp fun hother => ?_).symm
      rintro rfl
      exact hnot hother
  | cons account others =>
      -- what is deleted is an id, and it is that of the principal's account
      have hmem : account ∈ r.store.findAccounts who := hfound ▸ List.mem_cons_self
      obtain ⟨haccount, hwho⟩ := List.mem_filter.mp hmem
      obtain rfl : account.principal = who := beq_iff_eq.mp hwho
      have hin : account.principal ∈ r.store.principals := ⟨account, haccount, rfl⟩
      have hleft := hleft .deleteAccount (by decide)
      rw [hfound] at hrun
      rcases run_last (c := .deleteAccount account.principal.kind account.id)
          (f := fun deletion : Deletion => deletion == Deletion.deleted) hplain rfl with
        ⟨hhits, hfails, hsame⟩ | ⟨hclear', deletion, u, hdelete, hend⟩
      · rw [hrun]
        exact .of_cut (Or.inr ⟨hin, hleft.mp hhits⟩) hfails (hsame.trans hstore)
      · have hended : Rehearsal.run (removePrincipal account.principal) r
            = (.ok (_ == Deletion.deleted), u) := hrun.trans hend
        rw [hstore] at hdelete
        have hdeletion : deletion = Deletion.deleted := by
          rw [← Except.ok.inj (congrArg Prod.fst hdelete), Store.fst_deleteAccount haccount]
        have hu : (r.store.deleteAccount account.principal.kind account.id).2 = u.store :=
          congrArg Prod.snd hdelete
        rw [hended, hdeletion]
        refine .of_clear (not_or.mpr ⟨hclear, fun hcut => hclear' (hleft.mpr hcut.2)⟩) ?_
          ⟨true, rfl, by simp [hin]⟩ fun a ha => ?_
        · show u.store.principals = r.store.principals \ {account.principal}
          rw [← hu, Store.principals_deleteAccount hd haccount]
        · show a ∈ u.store.accounts ↔ a ∈ r.store.accounts
          rw [← hu, Store.mem_deleteAccount hd haccount]
          exact and_iff_left fun heq => ha (congrArg some heq.symm)

theorem registers_principalAcquired (h : r.Plain) (who : Principal) :
    Registers (.principalAcquired who) r (Rehearsal.run (hasPrincipal who) r) := by
  rcases run_find (p := hasPrincipal who) h rfl with
    ⟨hhits, hfails, hsame⟩ | ⟨hclear, t, hstore, hrun, -, -⟩
  · exact .of_cut hhits hfails hsame
  · rw [hrun]
    refine .of_clear hclear (Store.principals_congr (congrArg Store.accounts hstore))
      ⟨!(r.store.findAccounts who).isEmpty, rfl, ?_⟩ fun a _ => by rw [← hstore]; rfl
    rw [Bool.not_eq_true', ← Bool.not_eq_true, List.isEmpty_iff, Store.findAccounts_eq_nil_iff,
      not_not]

/-! ## Events that register somebody first -/

/-- If the account can be made, nothing that comes after touches any. -/
theorem registers_first {event : Event} {p : Plan Bool}
    {next : Except Failure (Call.createAccount who).Answer → Plan Bool} (h : r.Plain)
    (hevent : (∃ roles, event = .rolesGranted roles who) ∨ ∃ o old, event = .ownerSet o old who)
    (hp : p = .ask (.createAccount who) next)
    (herror : ∀ e, ∃ e', next (.error e) = .done (.error e'))
    (hrest : ∀ a, (next (.ok a)).SparesAccounts) : Registers event r (Rehearsal.run p r) := by
  obtain ⟨hcut, hregister, hanswers, hregistrant⟩ :
      (event.Cut r.store.principals r.disturbances ↔ Hits .createAccount r.disturbances)
        ∧ event.register r.store.principals = insert who r.store.principals
        ∧ (∀ result, event.Answers r.store.principals result)
        ∧ event.registrant? = some who := by
    rcases hevent with ⟨roles, rfl⟩ | ⟨o, old, rfl⟩
    · exact ⟨Iff.rfl, rfl, fun _ => trivial, rfl⟩
    · exact ⟨Iff.rfl, rfl, fun _ => trivial, rfl⟩
  rcases Rehearsal.run_ask h hp rfl herror with
    ⟨hhits, hfails, hsame⟩ | ⟨hclear, creation, t, hcreate, hrun, -, -⟩
  · exact .of_cut (hcut.mpr hhits) hfails hsame
  · have haccounts : (Rehearsal.run p r).2.store.accounts
        = (r.store.createAccount who).2.accounts := by
      have ht : (r.store.createAccount who).2 = t.store := congrArg Prod.snd hcreate
      rw [hrun, (hrest creation).run t, ht]
    refine .of_clear (fun h => hclear (hcut.mp h)) ?_ (hanswers _) fun a ha => ?_
    · rw [Store.principals_congr haccounts, Store.principals_createAccount, hregister]
    · rw [haccounts]
      exact Store.mem_createAccount_other fun heq => ha (hregistrant.trans (congrArg some heq.symm))

theorem sparesAccounts_grantEach (who : Principal) (roles : List Role) :
    (k.grantEach who roles).SparesAccounts :=
  (granting_grantEach who roles).imp fun _ => changesAccounts_mayGrant

theorem registers_rolesGranted (h : r.Plain) (roles : List Role) (who : Principal) :
    Registers (.rolesGranted roles who) r (Rehearsal.run (k.grantRoles roles who) r) :=
  registers_first h (Or.inl ⟨roles, rfl⟩) rfl (fun _ => ⟨_, rfl⟩)
    fun _ => sparesAccounts_grantEach who roles

theorem registers_ownerSet (h : r.Plain) (o : CatalogObject) (old : Option Principal)
    (new : Principal) :
    Registers (.ownerSet o old new) r (Rehearsal.run (k.handle (.ownerSet o old new)) r) := by
  refine registers_first h (Or.inr ⟨o, old, rfl⟩) rfl (fun _ => ⟨_, rfl⟩) fun _ => ?_
  refine SparesAccounts.bind (SparesAccounts.during ?_ _) fun _ => sparesAccounts_pure true
  exact (searches_policyOrNew ownerRoleName o).sparesAccounts.bind fun _ =>
    (writesLast_writeBack _ _).sparesAccounts

/-! ## Events that register nobody -/

theorem sparesAccounts_changes {α : Type} (role : Role) (change : α → RoleChange)
    (task : α → Task) (xs : List α) :
    (xs.forM fun x => (k.applyChange role (change x)).during (task x)).SparesAccounts :=
  abides_changes (fun _ => Store.changesAccounts_of_search)
    (fun _ => Store.changesAccounts_of_writes) role change task xs

theorem sparesAccounts_revokeRole (who : Principal) (role : Role) :
    (k.revokeRole who role).SparesAccounts := by
  unfold revokeRole
  cases k.mode with
  | role =>
      refine (sparesAccounts_call (c := .getRole role.name) rfl).bind fun found => ?_
      cases found with
      | none => exact sparesAccounts_pure ()
      | some _ =>
          exact (sparesAccounts_call (c := .revokeRoles k.service _) rfl).during _
  | ownerPlaceholder =>
      exact abides_forM fun o _ => (writesLast_revokeObject who role o).sparesAccounts

/-- An event about nobody's account makes no call that changes any. -/
theorem sparesAccounts_handle {event : Event} (hnone : event.registrant? = none) :
    (k.handle event).SparesAccounts := by
  cases event with
  | roleCreated role =>
      have hobjects := sparesAccounts_changes (k := k) role .add
        (fun o => .creatingRole role.name o.object.fullName) role.securables
      show (k.roleCreated role).SparesAccounts
      unfold roleCreated
      split
      · refine SparesAccounts.bind ?_ fun _ => hobjects.bind fun _ => sparesAccounts_pure true
        exact ((sparesAccounts_call (c := .createRole k.service _) rfl).during _).bind
          fun _ => sparesAccounts_pure ()
      · exact hobjects.bind fun _ => sparesAccounts_pure true
  | roleAcquired role => exact (searches_allHavePolicies role.securables).sparesAccounts
  | roleDeleted role =>
      refine (sparesAccounts_changes (k := k) role .remove
        (fun o => .deletingRole role.name o.object.fullName) role.securables).bind fun _ => ?_
      dsimp only
      split
      · refine SparesAccounts.bind ?_ fun _ => sparesAccounts_pure true
        exact ((sparesAccounts_call (c := .deleteRole k.service _) rfl).during _).bind
          fun _ => sparesAccounts_pure ()
      · exact sparesAccounts_pure true
  | roleUpdated role changes =>
      exact (sparesAccounts_changes role id _ changes).bind fun _ => sparesAccounts_pure true
  | rolesRevoked roles who =>
      exact SparesAccounts.bind (abides_forM fun role _ => sparesAccounts_revokeRole who role)
        fun _ => sparesAccounts_pure true
  | _ => exact absurd hnone (by simp [Event.registrant?])

theorem registers_of_none {event : Event} (hnone : event.registrant? = none) :
    Registers event r (Rehearsal.run (k.handle event) r) := by
  have haccounts := (sparesAccounts_handle (k := k) hnone).run r
  have hothers : ∀ a : Account,
      a ∈ (Rehearsal.run (k.handle event) r).2.store.accounts ↔ a ∈ r.store.accounts :=
    fun a => by rw [haccounts]
  have hprincipals := Store.principals_congr haccounts
  cases event with
  | roleCreated | roleAcquired | roleDeleted | roleUpdated | rolesRevoked =>
      exact .of_clear id hprincipals trivial fun a _ => hothers a
  | _ => exact absurd hnone (by simp [Event.registrant?])

/-- **One event** is its operation on those who are registered, or it is cut short. -/
theorem registers_handle (k : Keeper) (h : r.Plain) (hd : r.store.Distinct) (event : Event) :
    Registers event r (Rehearsal.run (k.handle event) r) := by
  cases event with
  | ownerSet o old new => exact registers_ownerSet h o old new
  | rolesGranted roles who => exact registers_rolesGranted h roles who
  | principalAdded who => exact registers_principalAdded h who
  | principalRemoved who => exact registers_principalRemoved h hd who
  | principalAcquired who => exact registers_principalAcquired h who
  | roleCreated | roleAcquired | roleDeleted | roleUpdated | rolesRevoked =>
      exact registers_of_none rfl

end Keeper

/-! ## Histories -/

/-- An event, and the disturbances while it is handled. -/
structure Trial where
  event : Event
  disturbances : List Disturbance := []

namespace Trial

/-- Where the trial begins. -/
def start (x : Trial) (s : Store) : Rehearsal := { store := s, disturbances := x.disturbances }

open Classical in
/-- What the trial makes of those who are registered. -/
noncomputable def register (x : Trial) (ps : Set Principal) : Set Principal :=
  if x.event.Cut ps x.disturbances then ps else x.event.register ps

end Trial

namespace Keeper

variable {k : Keeper} {s : Store}

/-- The store after all of the trials, however each of them ends. -/
def afterTrials (k : Keeper) (trials : List Trial) (s : Store) : Store :=
  trials.foldl (fun s x => (Rehearsal.run (k.handle x.event) (x.start s)).2.store) s

theorem distinct_handle (hs : s.Distinct) (x : Trial) :
    (Rehearsal.run (k.handle x.event) (x.start s)).2.store.Distinct :=
  Rehearsal.keeps Store.Distinct (r := x.start s) (fun c _ h => h.perform c) _ hs

theorem distinct_afterTrials (hs : s.Distinct) (trials : List Trial) :
    (k.afterTrials trials s).Distinct := by
  induction trials generalizing s with
  | nil => exact hs
  | cons x trials ih => exact ih (distinct_handle hs x)

theorem principals_trial (hs : s.Distinct) {x : Trial} (hx : (x.start s).Plain) :
    (Rehearsal.run (k.handle x.event) (x.start s)).2.store.principals
      = x.register s.principals := by
  obtain ⟨hcut, hdone, -, -⟩ := registers_handle k hx hs x.event
  unfold Trial.register
  split
  · rename_i h
    rw [(hcut h).2]
    rfl
  · rename_i h
    exact hdone h

theorem principals_afterTrials (hs : s.Distinct) {trials : List Trial}
    (hplain : ∀ x ∈ trials, ∀ d ∈ x.disturbances, d.Plain) :
    (k.afterTrials trials s).principals
      = trials.foldl (fun ps x => x.register ps) s.principals := by
  induction trials generalizing s with
  | nil => rfl
  | cons x trials ih =>
      -- the store changes from trial to trial, and that nothing is in it twice goes along
      obtain ⟨hx, hrest⟩ := List.forall_mem_cons.mp hplain
      have hafter := ih (distinct_handle (k := k) hs x) hrest
      rw [principals_trial hs hx] at hafter
      exact hafter

/-- **Principals are a set.** In either mode, after any events from the empty store, any of which
may have been disturbed, as long as calls about accounts that are disturbed fail:

* who is registered is what the events have made of it one after the other, beginning with nobody;
* no principal has two accounts, and no two things have one id;
* whatever event comes next, and however it is disturbed, either a call that it makes about accounts
  fails, and then the event fails without having done anything, or it is one operation on those who
  are registered, and if it is about nothing else it gives the right answer. It does nothing to the
  account of anybody else, be it a group of the same name as a user;
* an event that is not disturbed is not cut short. -/
theorem principals_follow (k : Keeper) (trials : List Trial)
    (hplain : ∀ x ∈ trials, ∀ d ∈ x.disturbances, d.Plain) :
    let s := k.afterTrials trials {}
    s.principals = trials.foldl (fun ps x => x.register ps) ∅
      ∧ s.Distinct
      ∧ (∀ x : Trial, (∀ d ∈ x.disturbances, d.Plain) →
        Registers x.event (x.start s) (Rehearsal.run (k.handle x.event) (x.start s)))
      ∧ ∀ event : Event, ¬event.Cut s.principals [] := by
  intro s
  have hs : s.Distinct := distinct_afterTrials .empty trials
  refine ⟨?_, hs, fun x hx => registers_handle k (r := x.start s) hx hs x.event,
    fun event => event.not_cut_nil s.principals⟩
  have hnobody : ({} : Store).principals = ∅ :=
    Set.eq_empty_of_forall_notMem fun _ ⟨_, ha, _⟩ => absurd ha List.not_mem_nil
  rw [← hnobody]
  exact principals_afterTrials .empty hplain

/-- A user and a group of one name come, and the user comes twice. Another user is to hold a role
that has no policy, and a third one is, but his account cannot be made. Then the first user goes. -/
def moving : List Trial :=
  [⟨.principalAdded ⟨.user, "alice"⟩, []⟩, ⟨.principalAdded ⟨.group, "alice"⟩, []⟩,
    ⟨.principalAdded ⟨.user, "alice"⟩, []⟩, ⟨.rolesGranted [hermit] ⟨.user, "bob"⟩, []⟩,
    ⟨.rolesGranted [hermit] ⟨.user, "carol"⟩, [{ kind := .createAccount, outcome := .failure }]⟩,
    ⟨.principalRemoved ⟨.user, "alice"⟩, []⟩]

/-- The store after that. -/
def moved : Store := ofOwners.afterTrials moving {}

/-- The group is left, and the user whose grant was declined. The first user cannot go again. -/
theorem principals_follow_moving :
    moved.accounts.map Account.principal = [⟨.group, "alice"⟩, ⟨.user, "bob"⟩]
      ∧ moved.principals = moving.foldl (fun ps x => x.register ps) ∅
      ∧ moved.Distinct
      ∧ ∃ answer, (Rehearsal.run (ofOwners.handle (.principalRemoved ⟨.user, "alice"⟩))
          { store := moved }).1 = .ok answer
        ∧ (answer = true ↔ ⟨.user, "alice"⟩ ∈ moved.principals) := by
  have hplain : ∀ x ∈ moving, ∀ d ∈ x.disturbances, d.Plain := by
    simp [moving, Disturbance.Plain]
  obtain ⟨hset, hdistinct, hnext, hclear⟩ := principals_follow ofOwners moving hplain
  have hagain := hnext ⟨.principalRemoved ⟨.user, "alice"⟩, []⟩ fun d hd => absurd hd (by simp)
  exact ⟨by decide +kernel, hset, hdistinct, hagain.answers (hclear _)⟩

end Keeper

end PolicyKeeper
