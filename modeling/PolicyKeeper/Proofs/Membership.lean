import PolicyKeeper.Proofs.Acquiring
import PolicyKeeper.Proofs.Stepwise
import PolicyKeeper.Proofs.Store.Members

/-!
# Members follow the events

In role mode a principal holds a role by being a member of the native role of its name. So the
native roles should be what the events have made of them: a role that was created is there, one that
was deleted is not, and who is granted a role or loses it is a member or is none. This is a map from
names to sets of principals, and four kinds of events are operations on it (`Keeper.enrolled`). All
others leave it alone, since they make no call about native roles (`Plan.SparesRoles`).

Two of the operations depend on more than the event. A role is gone only if its deletion went well;
and roles are granted one after the other, up to the first with an object for which no managed
policy is found. What is found does not change on the way, because in role mode granting writes no
policy.
-/

namespace PolicyKeeper

/-! ## Plans that spare native roles -/

namespace Store

/-- Whether the call may change native roles. -/
def changesRoles : Call → Bool
  | .createRole .. | .deleteRole .. | .grantRoles .. | .revokeRoles .. => true
  | _ => false

theorem changesRoles_of_search {c : Call} (h : c.kind = .findPolicies) :
    changesRoles c = false := by
  cases c with
  | findPolicies search => rfl
  | _ => exact absurd h (by simp [Call.kind])

theorem changesRoles_of_writes {c : Call} (h : writesPolicies c = true) :
    changesRoles c = false := by
  cases c with
  | createPolicy | updatePolicy | deletePolicy => rfl
  | _ => exact absurd h (by simp [writesPolicies])

/-- The other calls leave the native roles alone. -/
theorem roles_perform {c : Call} (h : changesRoles c = false) (s : Store) :
    (s.perform c).2.roles = s.roles := by
  cases c with
  | findPolicies | findAccounts | getRole => rfl
  | createPolicy p =>
      show (s.createPolicy p).2.roles = s.roles
      rcases s.createPolicy_cases p with ⟨_, hcall⟩ | ⟨_, hcall⟩
      · rw [hcall]
      · rw [hcall]
        rfl
  | updatePolicy id p =>
      show (s.updatePolicy id p).2.roles = s.roles
      rcases s.updatePolicy_cases id p with ⟨_, hcall⟩ | ⟨_, _, hcall⟩
      · rw [hcall]
      · rw [hcall]
        rfl
  | deletePolicy id =>
      show (s.deletePolicy id).2.roles = s.roles
      rcases s.deletePolicy_cases id with hcall | ⟨_, hcall⟩
      · rw [hcall]
      · rw [hcall]
        rfl
  | createAccount who =>
      show (s.createAccount who).2.roles = s.roles
      unfold createAccount
      split <;> rfl
  | deleteAccount kind id =>
      show (s.deleteAccount kind id).2.roles = s.roles
      unfold deleteAccount
      dsimp only
      split <;> rfl
  | createRole | deleteRole | grantRoles | revokeRoles => exact absurd h (by simp [changesRoles])

end Store

namespace Plan

variable {α β : Type} {p : Plan α}

/-- The plan makes no call that may change native roles. -/
def SparesRoles (p : Plan α) : Prop :=
  p.Abides (fun c => Store.changesRoles c = false) (fun _ _ => True) fun _ => True

theorem sparesRoles_pure (a : α) : (pure a : Plan α).SparesRoles := abides_pure trivial

theorem sparesRoles_call {c : Call} (h : Store.changesRoles c = false) : (call c).SparesRoles :=
  abides_only h

theorem SparesRoles.bind {f : α → Plan β} (hp : p.SparesRoles) (hf : ∀ a, (f a).SparesRoles) :
    (p >>= f).SparesRoles := Abides.bind hp fun a _ => hf a

theorem SparesRoles.during (hp : p.SparesRoles) (task : Task) : (p.during task).SparesRoles :=
  Abides.during hp task

theorem Searches.sparesRoles (hp : p.Searches) : p.SparesRoles :=
  hp.imp fun _ => Store.changesRoles_of_search

theorem WritesLast.sparesRoles (hp : p.WritesLast) : p.SparesRoles :=
  hp.abides (fun _ => Store.changesRoles_of_search) fun _ => Store.changesRoles_of_writes

theorem SparesRoles.run (hp : p.SparesRoles) (s : Store) :
    (p.run Store.perform s).2.roles = s.roles :=
  Abides.run_eq Store.roles (fun _ t hc => Store.roles_perform hc t) hp s

end Plan

namespace Keeper

open Plan

variable {k : Keeper} {s t : Store} {role : Role} {o : CatalogObject} {os : List Securable}
  {who : Principal} {name : String}

/-! ## Looking for the policies of a role -/

/-- What looking for the policy of an object comes back with. -/
def lookup (k : Keeper) (s : Store) (o : CatalogObject) : Except Failure (Option Policy) :=
  ((k.findPolicy o).run Store.perform s).1

/-- Whether a managed policy is found for the object. -/
def finds (k : Keeper) (s : Store) (o : CatalogObject) : Bool :=
  match k.lookup s o with
  | .ok (some _) => true
  | _ => false

/-- Whether one is found for every object of the role. -/
def findsAll (k : Keeper) (s : Store) (role : Role) : Bool :=
  role.securables.all fun o => k.finds s o.object

theorem run_lookup (o : CatalogObject) :
    (k.findPolicy o).run Store.perform s = (k.lookup s o, s) := by
  rcases hrun : (k.findPolicy o).run Store.perform s with ⟨r, t⟩
  rw [lookup, hrun, (readsOnly_findPolicy o).run hrun]

theorem lookup_eq : k.lookup s o = Failure.ofResult
    ((k.layout.path o).bind fun path => select o path (s.findPolicies (k.searchFor path))) := by
  unfold lookup findPolicy
  rw [run_bind, run_ofResult]
  cases k.layout.path o with
  | error f => rfl
  | ok path =>
      show (((Plan.call (.findPolicies (k.searchFor path))).during _ >>= _).run
        Store.perform s).1 = _
      rw [run_bind, run_during, run_call]
      rfl

/-- What is found depends on the policies alone. -/
theorem lookup_congr (hsame : t.policies = s.policies) : k.lookup t o = k.lookup s o := by
  rw [lookup_eq, lookup_eq]
  unfold Store.findPolicies
  rw [hsame]

theorem findsAll_congr (hsame : t.policies = s.policies) :
    k.findsAll t role = k.findsAll s role := by
  unfold findsAll finds
  simp only [lookup_congr hsame]

/-- What is found is there, -/
theorem hasPolicy_of_finds (h : k.finds s o = true) : k.HasPolicy s o := by
  unfold finds at h
  split at h
  · rename_i p hlookup
    rw [lookup_eq] at hlookup
    have hsel := ofResult_eq_ok hlookup
    cases hpath : k.layout.path o with
    | error f =>
        rw [hpath] at hsel
        exact absurd hsel (by simp [Except.bind])
    | ok path =>
        rw [hpath] at hsel
        obtain ⟨hfound, hmanaged, hguards⟩ := found_of_select hsel
        obtain ⟨hin, hanswers⟩ := List.mem_filter.mp hfound
        obtain ⟨e, he, rfl⟩ := List.mem_map.mp hin
        refine ⟨path.get?, ⟨path, hpath, rfl⟩, fun hvacant => hvacant e he ?_⟩
        exact ⟨service_of_answers hanswers, hmanaged, hguards⟩
  · exact absurd h (by simp)

/-- and in a sound store what is there is found, unless a set begins in a name. -/
theorem finds_of_hasPolicy (h : s.Sound) (hl : k.layout.Legible o) (hhas : k.HasPolicy s o) :
    k.finds s o = true := by
  have hlookup : k.lookup s o = Failure.ofResult (k.located s o) := by
    rw [lookup, run_findPolicy hl]
  unfold finds
  rw [hlookup]
  rcases found_cases h hl (hhas.imp fun _ => And.left) with ⟨p, _, hfound, _⟩ | ⟨_, hnot⟩
  · rw [hfound]
    rfl
  · exact absurd hhas hnot

/-- All policies of a role are read, if all are found. -/
theorem run_policiesOf_finds (role : Role) (os : List Securable) :
    ∃ r, (k.policiesOf role os).run Store.perform s = (r, s)
      ∧ ((∃ read, r = .ok (some read)) ↔ (os.all fun o => k.finds s o.object) = true) := by
  induction os with
  | nil => exact ⟨.ok (some []), rfl, by simp⟩
  | cons o os ih =>
      obtain ⟨r, hrun, hr⟩ := ih
      unfold policiesOf
      rw [run_bind, run_during, run_lookup, List.all_cons, finds]
      cases k.lookup s o.object with
      | error e => exact ⟨_, rfl, by simp⟩
      | ok found =>
          cases found with
          | none => exact ⟨_, rfl, by simp⟩
          | some p =>
              rw [Bool.true_and, ← hr]
              show ∃ r, (k.policiesOf role os >>= fun more =>
                (pure (more.map ((o, p) :: ·)) : Plan (Option (List (Securable × Policy))))).run
                  Store.perform s = (r, s) ∧ _
              rw [run_bind, hrun]
              rcases r with e | _ | read
              · exact ⟨_, rfl, by simp⟩
              · exact ⟨_, rfl, by simp⟩
              · exact ⟨_, rfl, by simp⟩

/-! ## Joining and leaving -/

/-- A request of the keeper is about one principal. -/
theorem members_roleRequest : (k.roleRequest name who).members = {who} := by
  ext other
  obtain ⟨kind, name⟩ := who
  obtain ⟨kind', name'⟩ := other
  cases kind <;> cases kind' <;> simp [RoleRequest.members, RoleRequest.names, roleRequest]

theorem members_nativeRole : (nativeRole name).members = ∅ := by
  ext other
  obtain ⟨kind, name'⟩ := other
  cases kind <;> simp [NativeRole.members, NativeRole.names, nativeRole]

/-- The store in which a principal has left the native role of a name, if there is one. -/
def left (k : Keeper) (who : Principal) (name : String) (s : Store) : Store :=
  if (s.role? name).isSome then s.changeRole name (NativeRole.leave (k.roleRequest name who)) else s

theorem orderly_nativeRole (h : s.Orderly) : (s.createRole (nativeRole name)).2.Orderly :=
  h.createRole fun kind => by cases kind <;> rfl

theorem orderly_joined (h : s.Orderly) : (k.joined who name s).Orderly :=
  (orderly_nativeRole h).changeRole NativeRole.name_join fun _ _ => NativeRole.nodup_join

theorem orderly_left (h : s.Orderly) : (k.left who name s).Orderly := by
  unfold left
  split
  · exact h.changeRole NativeRole.name_leave fun _ _ => NativeRole.nodup_leave
  · exact h

theorem memberships_joined : (k.joined who name s).memberships = s.memberships.join who name := by
  unfold joined
  rw [Store.memberships_changeRole NativeRole.name_join]
  have hcreated : (s.createRole (nativeRole name)).2.memberships = s.memberships.enroll name :=
    Store.memberships_createRole members_nativeRole
  have hrole : ((s.createRole (nativeRole name)).2.role? name).map NativeRole.members
      = some ((s.memberships name).getD ∅) := by
    have hat := congrFun hcreated name
    rwa [Memberships.enroll, Function.update_self] at hat
  obtain ⟨r, hr, hmembers⟩ := Option.map_eq_some_iff.mp hrole
  rw [hcreated, hr, Option.map_some, NativeRole.members_join, members_roleRequest, hmembers,
    Set.union_singleton]
  exact Function.update_idem _ _ _

theorem memberships_left : (k.left who name s).memberships = s.memberships.leave who name := by
  unfold left Memberships.leave
  split
  · rw [Store.memberships_changeRole NativeRole.name_leave, Store.memberships, Option.map_map]
    refine congrArg (Function.update _ name) (Option.map_congr fun r _ => ?_)
    rw [NativeRole.members_leave, members_roleRequest]
    rfl
  · rename_i hnone
    rw [Option.not_isSome_iff_eq_none] at hnone
    have hmembers : s.memberships name = none := by rw [Store.memberships, hnone]; rfl
    rw [hmembers]
    exact (Function.update_eq_self_iff.mpr hmembers.symm).symm

/-! ## Granting and revoking -/

/-- **Granting one role**: the principal joins if all policies are found, or nothing happens. -/
theorem run_grantRole_native (hmode : k.mode = .role) (who : Principal) (role : Role) (s : Store) :
    if k.findsAll s role
    then (k.grantRole who role).run Store.perform s = (.ok true, k.joined who role.name s)
    else ∃ r, (k.grantRole who role).run Store.perform s = (r, s) ∧ r ≠ .ok true := by
  obtain ⟨r, hrun, hr⟩ := run_policiesOf_finds (k := k) (s := s) role role.securables
  unfold grantRole
  rw [run_bind, hrun]
  split
  · rename_i hfinds
    obtain ⟨read, rfl⟩ := hr.mpr hfinds
    dsimp only
    rw [hmode]
    show (k.ensureNativeRole role.name >>= fun _ => _).run Store.perform s = _
    rw [run_bind, run_ensureNativeRole]
    show ((Plan.call (.grantRoles k.service (k.roleRequest role.name who))).during _ >>=
      fun _ => _).run Store.perform _ = _
    rw [run_bind, run_during, run_join]
    rfl
  · rename_i hnot
    rcases r with e | _ | read
    · exact ⟨_, rfl, by simp⟩
    · exact ⟨_, rfl, by simp⟩
    · exact absurd (hr.mp ⟨read, rfl⟩) hnot

theorem policies_joined : (k.joined who name s).policies = s.policies :=
  (Store.perform_policies (c := .createRole k.service (nativeRole name)) rfl s).1

/-- **Granting roles**: the principal joins one after the other, up to the first for which not all
policies are found. -/
theorem run_grantEach_native (hmode : k.mode = .role) (roles : List Role) :
    ((k.grantEach who roles).run Store.perform s).2
      = (roles.takeWhile (k.findsAll s)).foldl (fun s role => k.joined who role.name s) s := by
  -- joining a role leaves the policies, so what is found is told by the store in the beginning
  suffices h : ∀ t : Store, t.policies = s.policies →
      ((k.grantEach who roles).run Store.perform t).2
        = (roles.takeWhile (k.findsAll s)).foldl (fun s role => k.joined who role.name s) t from
    h s rfl
  induction roles with
  | nil => exact fun t _ => rfl
  | cons role roles ih =>
      intro t hsame
      have hgrant := run_grantRole_native hmode who role t
      rw [findsAll_congr hsame] at hgrant
      unfold grantEach
      rw [run_bind, List.takeWhile_cons]
      split at hgrant
      · rename_i hfinds
        rw [hgrant, hfinds]
        exact ih _ (policies_joined.trans hsame)
      · rename_i hnot
        obtain ⟨r, hrun, hr⟩ := hgrant
        rw [hrun, if_neg hnot]
        rcases r with e | _ | _
        · rfl
        · rfl
        · exact absurd rfl hr

/-- **Revoking one role**: the principal leaves it, if it is there. -/
theorem run_revokeRole_native (hmode : k.mode = .role) :
    (k.revokeRole who role).run Store.perform s = (.ok (), k.left who role.name s) := by
  unfold revokeRole left
  rw [hmode]
  refine (run_bind Store.perform s (Plan.call (.getRole role.name)) _).trans ?_
  rw [run_call, Store.perform]
  cases hrole : s.role? role.name with
  | none => rfl
  | some r =>
      refine (run_during Store.perform s _
        (Plan.call (.revokeRoles k.service (k.roleRequest role.name who)))).trans ?_
      rw [run_call, Store.perform, Store.revokeRoles, targets_roleRequest, Store.changeRoles,
        if_pos (by rw [hrole]; rfl)]
      rfl

theorem run_revokeRoles_native (hmode : k.mode = .role) (roles : List Role) :
    (k.revokeRoles roles who).run Store.perform s
      = (.ok true, roles.foldl (fun s role => k.left who role.name s) s) := by
  have hall : (roles.forM (k.revokeRole who)).run Store.perform s
      = (.ok (), roles.foldl (fun s role => k.left who role.name s) s) := by
    induction roles generalizing s with
    | nil => rfl
    | cons role roles ih =>
        show (k.revokeRole who role >>= fun _ => roles.forM (k.revokeRole who)).run
          Store.perform s = _
        rw [run_bind, run_revokeRole_native hmode]
        exact ih
  unfold revokeRoles
  rw [run_bind, hall]
  rfl

/-! ## Events -/

/-- What an event makes of the members, going by the store before it and by how it ends. -/
def enrolled (k : Keeper) (s : Store) (result : Except Failure Bool) :
    Event → Memberships → Memberships
  | .roleCreated role, m => m.enroll role.name
  | .roleDeleted role, m =>
    match result with
    | .ok _ => m.drop role.name
    | .error _ => m
  | .rolesGranted roles who, m =>
    (roles.takeWhile (k.findsAll s)).foldl (fun m role => m.join who role.name) m
  | .rolesRevoked roles who, m => roles.foldl (fun m role => m.leave who role.name) m
  | _, m => m

/-- Changes of roles are made in policies alone. -/
theorem sparesRoles_changes {α : Type} (change : α → RoleChange) (task : α → Task) (xs : List α) :
    (xs.forM fun x => (k.applyChange role (change x)).during (task x)).SparesRoles :=
  abides_changes (fun _ => Store.changesRoles_of_search) (fun _ => Store.changesRoles_of_writes)
    role change task xs

theorem sparesRoles_ensureAccount (who : Principal) : (ensureAccount who).SparesRoles :=
  ((sparesRoles_call (c := .createAccount who) rfl).during _).bind fun _ => sparesRoles_pure ()

theorem sparesRoles_setOwner (o : CatalogObject) (previous : Option Principal) (new : Principal) :
    (k.setOwner o previous new).SparesRoles :=
  (sparesRoles_ensureAccount new).bind fun _ =>
    (searches_policyOrNew ownerRoleName o).sparesRoles.bind fun _ =>
      (writesLast_writeBack _ _).sparesRoles

theorem sparesRoles_addPrincipal (who : Principal) : (addPrincipal who).SparesRoles := by
  refine (sparesRoles_call (c := .findAccounts who) rfl).bind fun found => ?_
  split
  · exact (sparesRoles_call (c := .createAccount who) rfl).bind fun _ => sparesRoles_pure _
  · exact sparesRoles_pure false

theorem sparesRoles_removePrincipal (who : Principal) : (removePrincipal who).SparesRoles := by
  refine (sparesRoles_call (c := .findAccounts who) rfl).bind fun found => ?_
  cases found with
  | nil => exact sparesRoles_pure false
  | cons account _ =>
      exact (sparesRoles_call (c := .deleteAccount who.kind account.id) rfl).bind fun _ =>
        sparesRoles_pure _

theorem memberships_spared {plan : Plan Bool} (hplan : plan.SparesRoles) (h : s.Orderly) :
    (plan.run Store.perform s).2.Orderly
      ∧ (plan.run Store.perform s).2.memberships = s.memberships :=
  ⟨h.congr (hplan.run s), Store.memberships_congr (hplan.run s)⟩

/-- Steps that put nobody in twice, one for each role, as operations on the map. -/
theorem memberships_foldl {f : Role → Store → Store} {g : Role → Memberships → Memberships}
    (horderly : ∀ role s, s.Orderly → (f role s).Orderly)
    (hstep : ∀ role s, (f role s).memberships = g role s.memberships) (roles : List Role)
    (h : s.Orderly) : (roles.foldl (fun s role => f role s) s).Orderly
      ∧ (roles.foldl (fun s role => f role s) s).memberships
        = roles.foldl (fun m role => g role m) s.memberships := by
  induction roles generalizing s with
  | nil => exact ⟨h, rfl⟩
  | cons role roles ih =>
      rw [List.foldl_cons, List.foldl_cons, ← hstep]
      exact ih (horderly role s h)

/-- The event has made of the members what it should, and has put nobody in twice. -/
def Enrolls (k : Keeper) (s : Store) (event : Event) : Prop :=
  ((k.handle event).run Store.perform s).2.Orderly
    ∧ ((k.handle event).run Store.perform s).2.memberships
      = k.enrolled s ((k.handle event).run Store.perform s).1 event s.memberships

/-- The native role comes first, and then whatever becomes of the objects. -/
theorem enrolls_roleCreated (hmode : k.mode = .role) (h : s.Orderly) (role : Role) :
    k.Enrolls s (.roleCreated role) := by
  let objects : Plan Bool := (role.securables.forM fun o =>
    (k.applyChange role (.add o)).during (.creatingRole role.name o.object.fullName)) >>=
      fun _ => pure true
  have hobjects : objects.SparesRoles :=
    (sparesRoles_changes .add _ _).bind fun _ => sparesRoles_pure true
  have hended : (k.handle (.roleCreated role)).run Store.perform s
      = objects.run Store.perform (s.createRole (nativeRole role.name)).2 := by
    show (k.roleCreated role).run Store.perform s = _
    unfold roleCreated
    rw [if_pos hmode]
    rfl
  obtain ⟨horderly, hsame⟩ := memberships_spared hobjects (orderly_nativeRole h)
  unfold Enrolls
  rw [hended]
  exact ⟨horderly, hsame.trans (Store.memberships_createRole members_nativeRole)⟩

/-- The native role goes last, if nothing has failed before. -/
theorem enrolls_roleDeleted (hmode : k.mode = .role) (h : s.Orderly) (role : Role) :
    k.Enrolls s (.roleDeleted role) := by
  let objects : Plan Unit := role.securables.forM fun o =>
    (k.applyChange role (.remove o)).during (.deletingRole role.name o.object.fullName)
  have hended : (k.handle (.roleDeleted role)).run Store.perform s
      = (objects >>= fun _ => k.dropNativeRole role.name >>= fun _ => pure true).run
        Store.perform s := by
    show (k.roleDeleted role).run Store.perform s = _
    unfold roleDeleted
    rw [if_pos hmode]
    rfl
  have hroles : (objects.run Store.perform s).2.roles = s.roles :=
    (sparesRoles_changes .remove _ _).run s
  unfold Enrolls
  rw [hended, run_bind]
  rcases hrun : objects.run Store.perform s with ⟨r, s₁⟩
  rw [hrun] at hroles
  cases r with
  | error e => exact ⟨h.congr hroles, Store.memberships_congr hroles⟩
  | ok _ =>
      refine ⟨(h.congr hroles).deleteRole, ?_⟩
      rw [← Store.memberships_congr hroles]
      exact Store.memberships_deleteRole

theorem enrolls_rolesGranted (hmode : k.mode = .role) (h : s.Orderly) (roles : List Role)
    (who : Principal) : k.Enrolls s (.rolesGranted roles who) := by
  let s₁ := (s.createAccount who).2
  have hpolicies : s₁.policies = s.policies := Store.policies_createAccount who s
  have hroles : s₁.roles = s.roles := Store.roles_perform (c := .createAccount who) rfl s
  have hfinds : k.findsAll s₁ = k.findsAll s := funext fun _ => findsAll_congr hpolicies
  have hended : ((k.handle (.rolesGranted roles who)).run Store.perform s).2
      = (roles.takeWhile (k.findsAll s)).foldl (fun s role => k.joined who role.name s) s₁ := by
    rw [← hfinds]
    exact run_grantEach_native hmode roles
  unfold Enrolls
  rw [hended, enrolled, ← Store.memberships_congr hroles]
  exact memberships_foldl (f := fun role => k.joined who role.name)
    (fun _ _ => orderly_joined) (fun _ _ => memberships_joined) _ (h.congr hroles)

theorem enrolls_rolesRevoked (hmode : k.mode = .role) (h : s.Orderly) (roles : List Role)
    (who : Principal) : k.Enrolls s (.rolesRevoked roles who) := by
  have hended : (k.handle (.rolesRevoked roles who)).run Store.perform s = _ :=
    run_revokeRoles_native hmode roles
  unfold Enrolls
  rw [hended]
  exact memberships_foldl (f := fun role => k.left who role.name)
    (fun _ _ => orderly_left) (fun _ _ => memberships_left) roles h

/-- **One event** makes of the members what it should. -/
theorem enrolls_handle (hmode : k.mode = .role) (h : s.Orderly) (event : Event) :
    k.Enrolls s event := by
  cases event with
  | roleCreated role => exact enrolls_roleCreated hmode h role
  | roleAcquired role =>
      exact memberships_spared (searches_allHavePolicies role.securables).sparesRoles h
  | roleDeleted role => exact enrolls_roleDeleted hmode h role
  | roleUpdated role changes =>
      exact memberships_spared ((sparesRoles_changes id _ changes).bind fun _ =>
        sparesRoles_pure true) h
  | ownerSet o previous new =>
      exact memberships_spared (((sparesRoles_setOwner o previous new).during _).bind fun _ =>
        sparesRoles_pure true) h
  | rolesGranted roles who => exact enrolls_rolesGranted hmode h roles who
  | rolesRevoked roles who => exact enrolls_rolesRevoked hmode h roles who
  | principalAdded who => exact memberships_spared (sparesRoles_addPrincipal who) h
  | principalRemoved who => exact memberships_spared (sparesRoles_removePrincipal who) h
  | principalAcquired who =>
      exact memberships_spared ((sparesRoles_call (c := .findAccounts who) rfl).bind fun _ =>
        sparesRoles_pure _) h

/-! ## Events one after the other -/

/-- An event that was handled: what there was before, and how it ended. -/
structure Handled where
  event : Event
  before : Store
  result : Except Failure Bool

/-- Handles events one after the other, however they end. -/
def handled (k : Keeper) : List Event → Store → List Handled
  | [], _ => []
  | event :: events, s =>
    let ended := (k.handle event).run Store.perform s
    ⟨event, s, ended.1⟩ :: k.handled events ended.2

/-- The store after all of them. -/
def afterEvents (k : Keeper) (events : List Event) (s : Store) : Store :=
  events.foldl (fun s event => ((k.handle event).run Store.perform s).2) s

theorem reached_afterEvents (h : k.Reached s) (events : List Event) :
    k.Reached (k.afterEvents events s) := by
  induction events generalizing s with
  | nil => exact h
  | cons event events ih => exact ih (h.handle event)

/-- What the events make of the members, whatever store they begin with. -/
theorem memberships_afterEvents (hmode : k.mode = .role) (h : s.Orderly) (events : List Event) :
    (k.afterEvents events s).Orderly ∧ (k.afterEvents events s).memberships
      = (k.handled events s).foldl (fun m e => k.enrolled e.before e.result e.event m)
        s.memberships := by
  induction events generalizing s with
  | nil => exact ⟨h, rfl⟩
  | cons event events ih =>
      obtain ⟨horderly, hmembers⟩ := enrolls_handle hmode h event
      have hrest := ih horderly
      -- the rest begins with what this event has left, and only the map is seen of that
      rw [hmembers] at hrest
      exact hrest

/-- **Members follow the events.** In role mode, after any events from the empty store, whatever
they are about and however they ended:

* which native roles there are, and who their members are, is what the events make of it one after
  the other, beginning with no role at all;
* no two native roles have one name, and nobody is a user or a group of one twice;
* an object for which a managed policy is found, as granting asks, has one, and if it has one it is
  found, as long as no set begins in its names. -/
theorem members_follow (hmode : k.mode = .role) (events : List Event) :
    let s := k.afterEvents events {}
    s.memberships = (k.handled events {}).foldl
        (fun m e => k.enrolled e.before e.result e.event m) (fun _ => none)
      ∧ s.Orderly
      ∧ ∀ o, (k.finds s o = true → k.HasPolicy s o)
        ∧ (k.layout.Legible o → k.HasPolicy s o → k.finds s o = true) := by
  intro s
  obtain ⟨horderly, hmembers⟩ := memberships_afterEvents (k := k) hmode .empty events
  exact ⟨hmembers, horderly, fun _ => ⟨hasPolicy_of_finds,
    finds_of_hasPolicy (reached_afterEvents .start events).sound⟩⟩

/-- A role with a table that nobody has made a policy for. -/
def lender : Role :=
  { name := "lender", securables := [⟨⟨"cat.db.letters", .table⟩, [⟨.selectTable, .allow⟩]⟩] }

/-- A user is granted two roles, but only one has a policy. Then a group of the same name is granted
it, and the user loses both. -/
def lending : List Event :=
  [.roleCreated visitor, .rolesGranted [visitor, lender, visitor] ⟨.user, "alice"⟩,
    .rolesGranted [visitor] ⟨.group, "alice"⟩, .rolesRevoked [visitor, lender] ⟨.user, "alice"⟩]

/-- The second event is declined after one role, and in the end only the group is a member. -/
theorem members_follow_lending :
    (ofTables.handled lending {}).map (fun e => e.result.toOption)
        = [some true, some false, some true, some true]
      ∧ (ofTables.afterEvents lending {}).roles.map
          (fun r => (r.name, r.names .user, r.names .group)) = [("visitor", [], ["alice"])]
      ∧ (ofTables.afterEvents lending {}).memberships = (ofTables.handled lending {}).foldl
          (fun m e => ofTables.enrolled e.before e.result e.event m) fun _ => none :=
  ⟨by decide +kernel, by decide +kernel, (members_follow rfl lending).1⟩

end Keeper

end PolicyKeeper
