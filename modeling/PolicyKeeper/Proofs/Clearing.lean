import PolicyKeeper.Proofs.Undoing

/-!
# Clearing up after a failure

A role whose creation has failed is there in part: it may have a native role, and the first of its
objects are in policies (`Keeper.Begun`). Where it stopped depends on what failed, which may have
been any call, or an object that the service does not support, or a privilege.

Deleting the role clears this up. Deletion goes through the same objects, in the same order, and
comes to an end at an object without a path, as the creation does. So whatever the creation has put
into policies goes, wherever it stopped. Only what stands behind such an object does not happen, and
that is the end of the native role (`roleDeleted_clears`).
-/

namespace PolicyKeeper

namespace Keeper

variable {k : Keeper} {s t u : Store} {role : Role} {os : List Securable}

/-- What the creation of a role has come to when it stopped: some objects, which have paths, are in
policies, and there may be a native role. Without the role all is as it was. -/
structure Begun (k : Keeper) (role : Role) (os : List Securable) (s t : Store) : Prop where
  sole : k.Sole t
  located : ∀ o ∈ os, ∃ loc, k.layout.Locates o.object loc
  without : t.without role.name = s.without role.name
  rights : ∀ r ∈ k.rights t, r.role = role.name → ∃ o ∈ os, r ∈ k.rightsOf role.name o
  roles : (t.roles.filter fun r => r.name != role.name) = s.roles

/-- **A creation that stops somewhere** has dealt with the first objects of the role. -/
theorem begun_of_passes (hmode : k.mode = .role) (h : k.Sole s)
    (hl : ∀ o ∈ role.securables, k.layout.Legible o.object) (hunlisted : s.Unlisted role.name)
    (hnative : s.role? role.name = none)
    (hpasses : (k.handle (.roleCreated role)).Passes Store.perform s t) :
    ∃ os, os <+: role.securables ∧ k.Begun role os s t := by
  have hsteps : k.creationSteps role = none :: role.securables.map fun o => some (.add o) := by
    rw [creationSteps, nativeStep, if_pos hmode]
    rfl
  rw [handle, roleCreated_steps] at hpasses
  obtain ⟨before, after, hsplit, hrun⟩ :=
    Plan.passes_forM (repeatable_creation hl).atomic (Plan.passes_of_bind_pure hpasses)
  rw [hsteps] at hsplit
  have hnone := rights_of_unlisted (k := k) hunlisted
  cases before with
  | nil =>
      cases hrun
      refine ⟨[], List.nil_prefix, h, fun o ho => absurd ho List.not_mem_nil, rfl, ?_, ?_⟩
      · exact fun r hr hname => absurd hname (hnone r hr)
      · exact Store.filter_roles_of_eq_none hnative
  | cons first rest =>
      -- the native role is there, and the other steps were for objects
      obtain ⟨hfirst, hrest⟩ := List.cons.inj hsplit
      obtain rfl : first = none := hfirst.symm
      obtain ⟨os, tail, hos, rfl, _⟩ := List.map_eq_append_iff.mp hrest
      have hpart : os <+: role.securables := ⟨tail, hos.symm⟩
      have hadded : ((os.map .add).forM fun change => (k.applyChange role change).during
          (.creatingRole role.name change.object.fullName)).run Store.perform
          (s.createRole (nativeRole role.name)).2 = (.ok (), t) := by
        obtain ⟨_, s₁, hensured, hobjects⟩ := Plan.run_bind_ok hrun
        cases hensured
        rw [Plan.forM_map] at hobjects ⊢
        exact hobjects
      obtain ⟨hunseen, hwithout, hrights⟩ :=
        unseen_of_additions hmode h (fun o ho => hl o (hpart.subset ho)) hadded
      refine ⟨os, hpart, hunseen.sole, ?_, hwithout, ?_, ?_⟩
      · exact fun o ho => hunseen.located (.add o) (List.mem_map_of_mem ho)
      · intro r hr hname
        rw [hrights, mem_changedByAll_add] at hr
        exact hr.resolve_left fun hold => hnone r hold hname
      · rw [hunseen.roles]
        exact Store.filter_roles_createRole (nativeRole role.name) hnative

/-! ## Deleting what has begun -/

/-- Either all objects have paths, or there is a first one that has none. -/
theorem located_or_first (l : Layout) (os : List Securable) :
    (∀ o ∈ os, ∃ loc, l.Locates o.object loc)
      ∨ ∃ before o after, os = before ++ o :: after ∧ (¬ ∃ loc, l.Locates o.object loc)
        ∧ ∀ o ∈ before, ∃ loc, l.Locates o.object loc := by
  simp only [Layout.exists_locates_iff, Bool.not_eq_true]
  cases hfind : os.find? fun o => !(l.path o.object).toBool with
  | none =>
      refine Or.inl fun o ho => ?_
      simpa using List.find?_eq_none.mp hfind o ho
  | some o =>
      obtain ⟨ho, before, after, hsplit, hbefore⟩ := List.find?_eq_some_iff_append.mp hfind
      refine Or.inr ⟨before, o, after, hsplit, by simpa using ho, fun x hx => ?_⟩
      simpa using hbefore x hx

/-- A first part of the objects that all have paths comes before the first that has none. -/
theorem subset_of_located {l : Layout} {before after : List Securable} {o : Securable}
    (hpart : os <+: before ++ o :: after) (hnot : ¬ ∃ loc, l.Locates o.object loc)
    (hlocated : ∀ o ∈ os, ∃ loc, l.Locates o.object loc) : os ⊆ before := by
  rcases List.prefix_or_prefix_of_prefix hpart (List.prefix_append _ _) with hle | ⟨rest, rfl⟩
  · exact hle.subset
  · cases rest with
    | nil => simp
    | cons x rest =>
        -- otherwise it would contain that one
        rw [List.prefix_append_right_inj, List.cons_prefix_cons] at hpart
        obtain ⟨rfl, _⟩ := hpart
        exact absurd (hlocated x (List.mem_append_right _ List.mem_cons_self)) hnot

/-- An object without a path is not looked for. -/
theorem run_findPolicy_unlocated {o : CatalogObject} (hnot : ¬ ∃ loc, k.layout.Locates o loc)
    (s : Store) : ∃ flaw, (k.findPolicy o).run Store.perform s
      = (.error (.ofFault (.unsupportedObject o.fullName flaw)), s) := by
  rw [Layout.exists_locates_iff] at hnot
  cases hpath : k.layout.path o with
  | ok path =>
      rw [hpath] at hnot
      exact absurd rfl hnot
  | error fault =>
      obtain ⟨flaw, rfl⟩ := Layout.path_error hpath
      refine ⟨flaw, ?_⟩
      unfold findPolicy
      rw [Plan.run_bind, Plan.run_ofResult, hpath]
      rfl

/-- The deletion of a role ends at the first object that has no path. -/
theorem run_roleDeleted_upTo (hmode : k.mode = .role) (h : k.Sole s)
    {before after : List Securable} {o : Securable}
    (hsplit : role.securables = before ++ o :: after)
    (hl : ∀ x ∈ before, k.layout.Legible x.object)
    (hloc : ∀ x ∈ before, ∃ loc, k.layout.Locates x.object loc)
    (hnot : ¬ ∃ loc, k.layout.Locates o.object loc)
    (hrights : ∀ r ∈ k.rights s, r.role = role.name → ∃ x ∈ before, r ∈ k.rightsOf role.name x) :
    ∃ flaw f t, (k.handle (.roleDeleted role)).run Store.perform s = (.error f, t)
      ∧ f.cause = .fault (.unsupportedObject o.object.fullName flaw)
      ∧ t.policies = s.without role.name ∧ t.roles = s.roles := by
  let task : RoleChange → Task := fun change => .deletingRole role.name change.object.fullName
  obtain ⟨t, hrun⟩ := run_removals hmode h role hl hloc task
  obtain ⟨flaw, hfind⟩ := run_findPolicy_unlocated hnot t
  let failure : Failure := (Failure.ofFault (.unsupportedObject o.object.fullName flaw)).during
    (.deletingRole role.name o.object.fullName)
  have hbefore : (before.forM fun o => (k.removeObject role o).during
      (.deletingRole role.name o.object.fullName)).run Store.perform s = (.ok (), t) := by
    rwa [Plan.forM_map] at hrun
  have hobjects : (role.securables.forM fun o => (k.removeObject role o).during
      (.deletingRole role.name o.object.fullName)).run Store.perform s = (.error failure, t) := by
    rw [hsplit, Plan.forM_append, Plan.run_bind, hbefore]
    show ((k.removeObject role o).during _ >>= fun _ => _).run Store.perform t = _
    rw [Plan.run_bind, Plan.run_during, removeObject, Plan.run_bind, hfind]
    rfl
  refine ⟨flaw, failure, t, ?_, rfl, policies_of_removals hmode h hl hrights hrun⟩
  show (k.roleDeleted role).run Store.perform s = _
  unfold roleDeleted
  rw [Plan.run_bind, hobjects]

/-- **Deleting a role as far as it goes.** What its creation had begun is gone from the policies.
If all objects have paths, so is the native role; if not, the deletion ends at the first that has
none. -/
theorem Begun.deleted (hmode : k.mode = .role) (h : k.Begun role os s t)
    (hpart : os <+: role.securables) (hl : ∀ o ∈ role.securables, k.layout.Legible o.object) :
    (∃ u, (k.handle (.roleDeleted role)).run Store.perform t = (.ok true, u)
        ∧ u.policies = s.without role.name ∧ u.roles = s.roles
        ∧ ∀ o ∈ role.securables, ∃ loc, k.layout.Locates o.object loc)
      ∨ ∃ o ∈ role.securables, (¬ ∃ loc, k.layout.Locates o.object loc) ∧ ∃ flaw f u,
        (k.handle (.roleDeleted role)).run Store.perform t = (.error f, u)
        ∧ f.cause = .fault (.unsupportedObject o.object.fullName flaw)
        ∧ u.policies = s.without role.name ∧ u.roles = t.roles := by
  rcases located_or_first k.layout role.securables with
    hall | ⟨before, o, after, hsplit, hnot, hloc⟩
  · refine Or.inl ?_
    have hrights : ∀ r ∈ k.rights t, r.role = role.name →
        ∃ o ∈ role.securables, r ∈ k.rightsOf role.name o :=
      fun r hr hname => (h.rights r hr hname).imp fun o ho => ⟨hpart.subset ho.1, ho.2⟩
    obtain ⟨u, hrun, hpolicies, hroles⟩ := run_roleDeleted hmode h.sole hl hall hrights
    exact ⟨u, hrun, hpolicies.trans h.without, hroles.trans h.roles, hall⟩
  · refine Or.inr ?_
    have hmem : ∀ x ∈ before ++ o :: after, x ∈ role.securables := fun x hx => hsplit ▸ hx
    have hsubset := subset_of_located (hsplit ▸ hpart) hnot h.located
    have hrights : ∀ r ∈ k.rights t, r.role = role.name →
        ∃ o ∈ before, r ∈ k.rightsOf role.name o :=
      fun r hr hname => (h.rights r hr hname).imp fun o ho => ⟨hsubset ho.1, ho.2⟩
    obtain ⟨flaw, f, u, hrun, hcause, hpolicies, hroles⟩ := run_roleDeleted_upTo hmode h.sole hsplit
      (fun x hx => hl x (hmem x (List.mem_append_left _ hx))) hloc hnot hrights
    exact ⟨o, hmem o (List.mem_append_right _ List.mem_cons_self), hnot, flaw, f, u, hrun, hcause,
      hpolicies.trans h.without, hroles⟩

/-- **What a failed creation has done to policies is always undone.** In whatever store the keeper
has made in role mode, let the creation of a role that is neither in an item nor a native role come
to an end anywhere, because of a call, an object or a privilege. Deleting the role then leaves the
policies as they were before. If all objects have paths, it succeeds, and the native role is gone
as well. If not, it fails by the first object that has none, and the native roles are as the
creation has left them. -/
theorem roleDeleted_clears (hmode : k.mode = .role) (h : k.Reached s)
    (hl : ∀ o ∈ role.securables, k.layout.Legible o.object) (hunlisted : s.Unlisted role.name)
    (hnative : s.role? role.name = none) {failures : List Disturbance}
    (hfailures : ∀ d ∈ failures, d.outcome = .failure) :
    let t := k.disturbed (.roleCreated role) failures s
    ∃ result u, (k.handle (.roleDeleted role)).run Store.perform t = (result, u)
      ∧ u.policies = s.policies ∧ u.Unlisted role.name
      ∧ ((∀ o ∈ role.securables, ∃ loc, k.layout.Locates o.object loc) →
        result = .ok true ∧ u.roles = s.roles ∧ u.role? role.name = none)
      ∧ ((∃ o ∈ role.securables, ¬ ∃ loc, k.layout.Locates o.object loc) →
        (∃ o ∈ role.securables, (¬ ∃ loc, k.layout.Locates o.object loc)
          ∧ ∃ flaw f, result = .error f
            ∧ f.cause = .fault (.unsupportedObject o.object.fullName flaw))
        ∧ u.roles = t.roles) := by
  intro t
  have hsole := h.sole hmode
  have hstrict : (k.handle (.roleCreated role)).Strict := strict_roleCreated role
  obtain ⟨os, hpart, hbegun⟩ := begun_of_passes hmode hsole hl hunlisted hnative
    (passes_disturbed hstrict hfailures s)
  have hsame : s.without role.name = s.policies :=
    Store.without_eq_policies hsole.intact.items hunlisted
  have hgone : ∀ {u : Store}, u.policies = s.without role.name → u.Unlisted role.name := by
    intro u hpolicies
    unfold Store.Unlisted
    rwa [hpolicies, hsame]
  rcases hbegun.deleted hmode hpart hl with
    ⟨u, hrun, hpolicies, hroles, hall⟩ | ⟨o, ho, hnot, flaw, f, u, hrun, hcause, hpolicies, hroles⟩
  · refine ⟨_, u, hrun, hpolicies.trans hsame, hgone hpolicies, fun _ => ⟨rfl, hroles, ?_⟩, ?_⟩
    · unfold Store.role?
      rwa [hroles]
    · intro hsome
      obtain ⟨o, ho, hnot⟩ := hsome
      exact absurd (hall o ho) hnot
  · refine ⟨_, u, hrun, hpolicies.trans hsame, hgone hpolicies, ?_, ?_⟩
    · exact fun hall => absurd (hall o ho) hnot
    · exact fun _ => ⟨⟨o, ho, hnot, flaw, f, rfl, hcause⟩, hroles⟩

/-- No policy can be created. -/
def refusal : List Disturbance := [{ kind := .createPolicy, outcome := .failure }]

/-- The visitor's table cannot be given a policy, by which time the other objects are in one. All
of it goes. -/
theorem roleDeleted_clears_visitor :
    (ofTables.disturbed (.roleCreated visitor) refusal withAuditor).policies.map
        (fun e => e.2.allowItems.map Item.roles) = [[["auditor", "visitor"], [], ["visitor"]]]
      ∧ ∃ u, (ofTables.handle (.roleDeleted visitor)).run Store.perform
          (ofTables.disturbed (.roleCreated visitor) refusal withAuditor) = (.ok true, u)
        ∧ u.policies = withAuditor.policies ∧ u.roles = withAuditor.roles := by
  have hfailures : ∀ d ∈ refusal, d.outcome = .failure := by decide
  have hpaths : ∀ o ∈ visitor.securables, (ofTables.layout.path o.object).toBool = true := by
    decide +kernel
  have hlegible : ∀ o ∈ visitor.securables, ofTables.layout.Legible o.object := by decide +kernel
  have hunlisted : withAuditor.Unlisted visitor.name := by decide +kernel
  obtain ⟨result, u, hrun, hpolicies, _, hall, _⟩ := roleDeleted_clears rfl withAuditor_reached
    hlegible hunlisted (by decide +kernel) hfailures
  obtain ⟨rfl, hroles, _⟩ := hall fun o ho => Layout.exists_locates_iff.mpr (hpaths o ho)
  exact ⟨by decide +kernel, u, hrun, hpolicies, hroles⟩

/-- A topic has no place in a SQL service. -/
def stranded : Role :=
  { name := "reader"
    securables := [schemaDb "cat" [.useSchema],
      ⟨⟨"cat.db.events", .topic⟩, [⟨.produceTopic, .allow⟩]⟩] }

/-- The creation of topics is nothing that a service of directories knows of. -/
def unknowing : Role :=
  { name := "reader"
    securables := [schemaDb "cat" [.useSchema],
      ⟨⟨"cat.lake", .schema⟩, [⟨.createTopic, .allow⟩]⟩] }

/-- **Not all is always cleared up.** A role with an object that has no place can neither be created
nor deleted, and its native role stays. And below a root with a set in it nothing is found again,
so a role whose creation has failed is deleted and still listed. -/
theorem not_roleDeleted_clears :
    (let created := (ofTables.handle (.roleCreated stranded)).run Store.perform {}
      let deleted := (ofTables.handle (.roleDeleted stranded)).run Store.perform created.2
      created.1.toBool = false ∧ deleted.1.toBool = false
        ∧ (deleted.2.role? stranded.name).isSome = true)
      ∧ (let created := (History.ofBrackets.handle (.roleCreated unknowing)).run Store.perform {}
        let deleted := (History.ofBrackets.handle (.roleDeleted unknowing)).run Store.perform
          created.2
        created.1.toBool = false ∧ deleted.1.toOption = some true
          ∧ ¬ deleted.2.Unlisted unknowing.name ∧ deleted.2.policies ≠ []) := by
  decide +kernel

end Keeper

end PolicyKeeper
