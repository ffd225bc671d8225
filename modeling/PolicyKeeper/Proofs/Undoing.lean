import PolicyKeeper.Proofs.Reaching

/-!
# Roles that come and go

A role that is created and then deleted leaves no trace. Whatever its objects have done to items
that others share, to lists and to policies, is undone, down to the order of all of them.

Two things are shown of this, neither of which goes through the changes one by one and takes them
back. The changes of a role leave the store without the role as it was (`Keeper.Wrote.without_eq`),
on the way in and on the way out. And in the end the role has no rights left, so it is in no item,
and the store without it is the whole store.
-/

namespace PolicyKeeper

namespace Store

variable {s : Store} {name : String}

/-- Without a native role that is not there, they are all there. -/
theorem filter_roles_of_eq_none (hnone : s.role? name = none) :
    s.roles.filter (fun r => r.name != name) = s.roles := by
  refine List.filter_eq_self.mpr fun r hr => ?_
  simpa using List.find?_eq_none.mp hnone r hr

theorem roles_deleteRole :
    (s.deleteRole name).2.roles = s.roles.filter fun r => r.name != name := by
  unfold deleteRole
  split
  · rfl
  · rename_i hnone
    exact (filter_roles_of_eq_none (Option.not_isSome_iff_eq_none.mp hnone)).symm

/-- A native role that was not there goes as it came. -/
theorem filter_roles_createRole (role : NativeRole) (hnone : s.role? role.name = none) :
    (s.createRole role).2.roles.filter (fun r => r.name != role.name) = s.roles := by
  have hnot : ¬ (s.role? role.name).isSome = true := by simp [hnone]
  rw [createRole, if_neg hnot]
  show (s.roles ++ [{ role with id := some s.nextId }]).filter _ = _
  rw [List.filter_append, filter_roles_of_eq_none hnone]
  simp

end Store

namespace Keeper

variable {k : Keeper} {s t u : Store} {role : Role} {changes : List RoleChange}
  {task : RoleChange → Task} {os : List Securable} {r : Right}

/-! ## The rights of objects that come and go -/

theorem mem_changedByAll_add {rights : Set Right} :
    r ∈ k.changedByAll role.name (os.map .add) rights
      ↔ r ∈ rights ∨ ∃ o ∈ os, r ∈ k.rightsOf role.name o := by
  induction os generalizing rights with
  | nil => simp [changedByAll]
  | cons o os ih =>
      show r ∈ k.changedByAll role.name (os.map .add) (rights ∪ k.rightsOf role.name o) ↔ _
      rw [ih, Set.mem_union, or_assoc, List.exists_mem_cons_iff]

theorem mem_changedByAll_remove {rights : Set Right} :
    r ∈ k.changedByAll role.name (os.map .remove) rights
      ↔ r ∈ rights ∧ ∀ o ∈ os, r ∉ k.rightsOf role.name o := by
  induction os generalizing rights with
  | nil => simp [changedByAll]
  | cons o os ih =>
      show r ∈ k.changedByAll role.name (os.map .remove) (rights \ k.rightsOf role.name o) ↔ _
      rw [ih, Set.mem_sdiff, and_assoc, List.forall_mem_cons]

/-! ## Changes that nobody else sees -/

/-- Changes of a role that were made in a store of the keeper: without the role it is as it was, and
so are the native roles. The objects have paths. -/
structure Unseen (k : Keeper) (role : Role) (changes : List RoleChange) (s t : Store) : Prop where
  sole : k.Sole t
  without : t.without role.name = s.without role.name
  roles : t.roles = s.roles
  located : ∀ change ∈ changes, ∃ loc, k.layout.Locates change.place loc

theorem unseen_of_run (hmode : k.mode = .role) (h : k.Sole s)
    (hl : ∀ change ∈ changes, k.layout.Legible change.place)
    (hrun : (changes.forM fun change => (k.applyChange role change).during (task change)).run
      Store.perform s = (.ok (), t)) : k.Unseen role changes s t := by
  induction changes generalizing s with
  | nil =>
      cases hrun
      exact ⟨h, rfl, rfl, fun _ hc => absurd hc List.not_mem_nil⟩
  | cons change changes ih =>
      obtain ⟨_, s₁, hfirst, hrest⟩ := Plan.run_bind_ok hrun
      have hfirst := Plan.run_during_ok hfirst
      have hwrote := (applyChange_wrote h.built.keyed (hl change List.mem_cons_self)).of_run hfirst
      have hlater := ih (h.applyChange hmode hfirst)
        (fun c hc => hl c (List.mem_cons_of_mem _ hc)) hrest
      refine ⟨hlater.sole, hlater.without.trans ?_, hlater.roles.trans hwrote.roles_eq, ?_⟩
      · exact hwrote.without_eq hmode h.built.keyed fun e he => (h.own e he).manned
      · obtain ⟨_, loc, _, hloc, _⟩ := hwrote
        exact List.forall_mem_cons.mpr ⟨⟨loc, hloc⟩, hlater.located⟩

/-! ## Taking all objects from a role -/

/-- All of them can be taken. -/
theorem run_removals (hmode : k.mode = .role) (h : k.Sole s) (role : Role)
    (hl : ∀ o ∈ os, k.layout.Legible o.object)
    (hloc : ∀ o ∈ os, ∃ loc, k.layout.Locates o.object loc) (task : RoleChange → Task) :
    ∃ t, ((os.map .remove).forM fun change =>
      (k.applyChange role change).during (task change)).run Store.perform s = (.ok (), t) := by
  induction os generalizing s with
  | nil => exact ⟨s, rfl⟩
  | cons o os ih =>
      obtain ⟨loc, hfirst⟩ := hloc o List.mem_cons_self
      obtain ⟨s₁, hrun⟩ := h.run_remove role (hl o List.mem_cons_self) hfirst
      obtain ⟨t, hrest⟩ := ih (h.applyChange hmode hrun)
        (fun o ho => hl o (List.mem_cons_of_mem _ ho))
        fun o ho => hloc o (List.mem_cons_of_mem _ ho)
      refine ⟨t, ?_⟩
      show ((k.applyChange role (.remove o)).during _ >>= fun _ => _).run Store.perform s = _
      rw [Plan.run_bind, Plan.run_during, hrun]
      exact hrest

/-- Once they are taken, the policies are what there is without the role, if the role has no rights
but those that its objects stand for. -/
theorem policies_of_removals (hmode : k.mode = .role) (h : k.Sole s)
    (hl : ∀ o ∈ os, k.layout.Legible o.object)
    (hrights : ∀ r ∈ k.rights s, r.role = role.name → ∃ o ∈ os, r ∈ k.rightsOf role.name o)
    (hrun : ((os.map .remove).forM fun change =>
      (k.applyChange role change).during (task change)).run Store.perform s = (.ok (), u)) :
    u.policies = s.without role.name ∧ u.roles = s.roles := by
  have hlegible : ∀ change ∈ os.map RoleChange.remove, k.layout.Legible change.place :=
    List.forall_mem_map.mpr hl
  have hunseen := unseen_of_run hmode h hlegible hrun
  -- the role has lost all its rights, so it is in no item
  have hunlisted : u.Unlisted role.name := by
    refine hunseen.sole.unlisted fun r hr hname => ?_
    rw [rights_of_changes hmode h.built hlegible hrun, mem_changedByAll_remove] at hr
    obtain ⟨hbefore, hnot⟩ := hr
    obtain ⟨o, ho, hin⟩ := hrights r hbefore hname
    exact hnot o ho hin
  refine ⟨?_, hunseen.roles⟩
  rw [← hunseen.without, Store.without_eq_policies hunseen.sole.intact.items hunlisted]

/-- **Deleting a role leaves what there is without it**, if the role has no rights but those that
its objects stand for. -/
theorem run_roleDeleted (hmode : k.mode = .role) (h : k.Sole s)
    (hl : ∀ o ∈ role.securables, k.layout.Legible o.object)
    (hloc : ∀ o ∈ role.securables, ∃ loc, k.layout.Locates o.object loc)
    (hrights : ∀ r ∈ k.rights s, r.role = role.name →
      ∃ o ∈ role.securables, r ∈ k.rightsOf role.name o) :
    ∃ t, (k.handle (.roleDeleted role)).run Store.perform s = (.ok true, t)
      ∧ t.policies = s.without role.name
      ∧ t.roles = s.roles.filter fun r => r.name != role.name := by
  let task : RoleChange → Task := fun change => .deletingRole role.name change.object.fullName
  obtain ⟨u, hrun⟩ := run_removals hmode h role hl hloc task
  obtain ⟨hpolicies, hroles⟩ := policies_of_removals hmode h hl hrights hrun
  refine ⟨(u.deleteRole role.name).2, ?_, ?_, ?_⟩
  · have hobjects : (role.securables.forM fun o => (k.removeObject role o).during
        (.deletingRole role.name o.object.fullName)).run Store.perform s = (.ok (), u) := by
      rwa [Plan.forM_map] at hrun
    show (k.roleDeleted role).run Store.perform s = _
    unfold roleDeleted
    rw [Plan.run_bind, hobjects, if_pos hmode]
    rfl
  · rw [← hpolicies]
    exact (Store.perform_policies (c := .deleteRole k.service role.name) rfl u).1
  · rw [Store.roles_deleteRole, hroles]

/-! ## Giving a role its objects -/

/-- **Giving objects to a new role** adds the rights that they stand for, and without it nothing has
changed but that it has a native role. -/
theorem unseen_of_additions (hmode : k.mode = .role) (h : k.Sole s)
    (hl : ∀ o ∈ os, k.layout.Legible o.object)
    (hrun : ((os.map .add).forM fun change => (k.applyChange role change).during (task change)).run
      Store.perform (s.createRole (nativeRole role.name)).2 = (.ok (), t)) :
    k.Unseen role (os.map .add) (s.createRole (nativeRole role.name)).2 t
      ∧ t.without role.name = s.without role.name
      ∧ k.rights t = k.changedByAll role.name (os.map .add) (k.rights s) := by
  have hsame : (s.createRole (nativeRole role.name)).2.policies = s.policies :=
    (Store.perform_policies (c := .createRole k.service (nativeRole role.name)) rfl s).1
  have hsole : k.Sole (s.createRole (nativeRole role.name)).2 :=
    h.congr (h.built.perform (.createRole k.service (nativeRole role.name))) hsame
  have hlegible : ∀ change ∈ os.map RoleChange.add, k.layout.Legible change.place :=
    List.forall_mem_map.mpr hl
  have hunseen := unseen_of_run hmode hsole hlegible hrun
  refine ⟨hunseen, hunseen.without.trans (Store.without_congr hsame), ?_⟩
  rw [rights_of_changes hmode hsole.built hlegible hrun, rights_congr hsame]

/-- **Creating a role** is that for all its objects. -/
theorem roleCreated_unseen (hmode : k.mode = .role) (h : k.Sole s)
    (hl : ∀ o ∈ role.securables, k.layout.Legible o.object)
    (hcreated : (k.handle (.roleCreated role)).run Store.perform s = (.ok true, t)) :
    k.Unseen role (role.securables.map .add) (s.createRole (nativeRole role.name)).2 t
      ∧ t.without role.name = s.without role.name
      ∧ k.rights t = k.changedByAll role.name (role.securables.map .add) (k.rights s) := by
  let task : RoleChange → Task := fun change => .creatingRole role.name change.object.fullName
  have hcreated : (k.roleCreated role).run Store.perform s = (.ok true, t) := hcreated
  unfold roleCreated at hcreated
  rw [if_pos hmode, Plan.run_bind, run_ensureNativeRole] at hcreated
  obtain ⟨_, t', hobjects, hend⟩ := Plan.run_bind_ok hcreated
  cases hend
  refine @unseen_of_additions k s t role task role.securables hmode h hl ?_
  rw [Plan.forM_map]
  exact hobjects

/-- **Deleting a role undoes its creation.** In whatever store the keeper has made in role mode, if
a role that is neither in an item nor a native role is created, it can be deleted, and then the
policies and the native roles are what they were before. -/
theorem roleDeleted_undoes (hmode : k.mode = .role) (h : k.Reached s) {role : Role}
    (hl : ∀ o ∈ role.securables, k.layout.Legible o.object) (hunlisted : s.Unlisted role.name)
    (hnative : s.role? role.name = none)
    (hcreated : (k.handle (.roleCreated role)).run Store.perform s = (.ok true, t)) :
    ∃ u, (k.handle (.roleDeleted role)).run Store.perform t = (.ok true, u)
      ∧ u.policies = s.policies ∧ u.roles = s.roles := by
  have hsole := h.sole hmode
  obtain ⟨hunseen, hwithout, hrights⟩ := roleCreated_unseen hmode hsole hl hcreated
  have hlocated : ∀ o ∈ role.securables, ∃ loc, k.layout.Locates o.object loc :=
    fun o ho => hunseen.located (.add o) (List.mem_map_of_mem ho)
  -- what rights the role has, its objects have put there
  have hput : ∀ r ∈ k.rights t, r.role = role.name →
      ∃ o ∈ role.securables, r ∈ k.rightsOf role.name o := by
    intro r hr hname
    rw [hrights, mem_changedByAll_add] at hr
    exact hr.resolve_left fun hold => rights_of_unlisted hunlisted r hold hname
  obtain ⟨u, hdeleted, hpolicies, hroles⟩ :=
    run_roleDeleted hmode hunseen.sole hl hlocated hput
  refine ⟨u, hdeleted, ?_, ?_⟩
  · rw [hpolicies, hwithout, Store.without_eq_policies hsole.intact.items hunlisted]
  · rw [hroles, hunseen.roles]
    exact Store.filter_roles_createRole (nativeRole role.name) hnative

/-- Another role has the schema, and somebody owns it. -/
def withAuditor : Store :=
  let events : List Event :=
    [.roleCreated { name := "auditor", securables := [schemaDb "cat" [.useSchema]] },
      .ownerSet ⟨"cat.db", .schema⟩ none ⟨.user, "root"⟩]
  events.foldl (fun s event => ((ofTables.handle event).run Store.perform s).2) {}

theorem withAuditor_reached : ofTables.Reached withAuditor :=
  (Reached.start.handle _).handle _

/-- Two of the objects are at the path of the schema, and the third is denied something, too. -/
def visitor : Role :=
  { name := "visitor"
    securables := [schemaDb "cat" [.useSchema], schemaDb "depot" [.useSchema, .createTable],
      ⟨⟨"cat.db.books", .table⟩, [⟨.selectTable, .allow⟩, ⟨.modifyTable, .deny⟩]⟩] }

def withVisitor : Store :=
  ((ofTables.handle (.roleCreated visitor)).run Store.perform withAuditor).2

/-- The visitor enters an item of the auditor's, has others added to that policy, and brings a
policy of its own. -/
theorem roleDeleted_undoes_visitor :
    withVisitor.policies.map (fun e => e.2.allowItems.map Item.roles)
        = [[["auditor", "visitor"], [], ["visitor"]], [["visitor"], ["visitor"]]]
      ∧ ∃ s, (ofTables.handle (.roleDeleted visitor)).run Store.perform withVisitor = (.ok true, s)
        ∧ s.policies = withAuditor.policies ∧ s.roles = withAuditor.roles :=
  ⟨by decide +kernel, roleDeleted_undoes rfl withAuditor_reached (by decide +kernel)
    (by decide +kernel) (by decide +kernel) (Plan.run_eq_ok (by decide +kernel))⟩

end Keeper

end PolicyKeeper
