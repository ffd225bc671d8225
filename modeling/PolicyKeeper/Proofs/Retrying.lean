import PolicyKeeper.Keeper.Event
import PolicyKeeper.Proofs.Mirror
import PolicyKeeper.Proofs.Settling
import PolicyKeeper.Proofs.Store.Members
import PolicyKeeper.Proofs.Store.Passing

/-!
# Trying again

An event of a role is a sequence of steps that write at most once each. A failure leaves behind what
the steps before it have made of the store, so trying again is taking those steps twice.

Where objects are only added, or only removed, the steps that were taken have nothing left to do,
and so the second attempt comes to exactly the end of a single one (`Plan.Repeatable.retry`). The
changes of a role may undo each other, and then some are made again. But each of them gives or takes
certain rights and leaves the others, whatever there is, so making a number of them twice over comes
to the same rights (`Keeper.changedByAll_idempotent`).
-/

namespace PolicyKeeper

namespace Plan

variable {ι : Type} {f : ι → Plan Unit} {settled : ι → Store → Prop} {xs before after : List ι}
  {s t : Store}

/-- Steps that write last, each of which is settled once it was taken, stays so when others are
taken, and then does nothing when it is taken again. -/
structure Repeatable (f : ι → Plan Unit) (settled : ι → Store → Prop) (xs : List ι) : Prop where
  atomic : ∀ x, (f x).Atomic Store.perform
  settles : ∀ x ∈ xs, ∀ {s t : Store}, s.Built → (f x).run Store.perform s = (.ok (), t) →
    settled x t
  keeps : ∀ x ∈ xs, ∀ y ∈ xs, ∀ {s t : Store}, s.Built → settled x s →
    (f y).run Store.perform s = (.ok (), t) → settled x t
  again : ∀ x ∈ xs, ∀ {s : Store}, s.Built → settled x s →
    (f x).run Store.perform s = (.ok (), s)

theorem forM_append (before after : List ι) :
    (before ++ after).forM f = (before.forM f >>= fun _ => after.forM f) := List.forM_append

theorem forM_map {κ : Type} (g : κ → ι) (xs : List κ) :
    (xs.map g).forM f = xs.forM fun x => f (g x) := List.forM_map

/-- The steps that were taken are settled, as are those that were before. -/
theorem Repeatable.settled_of_run (h : Repeatable f settled xs) (hbefore : ∀ x ∈ before, x ∈ xs)
    (hs : s.Built) (hrun : (before.forM f).run Store.perform s = (.ok (), t)) :
    ∀ x ∈ xs, settled x s ∨ x ∈ before → settled x t := by
  induction before generalizing s with
  | nil =>
      cases hrun
      exact fun x _ hx => hx.resolve_right List.not_mem_nil
  | cons y before ih =>
      obtain ⟨_, s₁, hfirst, hrest⟩ := run_bind_ok hrun
      have hy : y ∈ xs := hbefore y List.mem_cons_self
      intro x hx hor
      refine ih (fun z hz => hbefore z (List.mem_cons_of_mem _ hz)) (hs.of_run hfirst) hrest x hx ?_
      rcases hor with hsettled | hin
      · exact Or.inl (h.keeps x hx y hy hs hsettled hfirst)
      · rcases List.mem_cons.mp hin with rfl | hin
        · exact Or.inl (h.settles x hx hs hfirst)
        · exact Or.inr hin

/-- Settled steps do nothing. -/
theorem Repeatable.run_settled (h : Repeatable f settled xs) (hbefore : ∀ x ∈ before, x ∈ xs)
    (hs : s.Built) (hsettled : ∀ x ∈ before, settled x s) :
    (before.forM f).run Store.perform s = (.ok (), s) := by
  induction before with
  | nil => rfl
  | cons y before ih =>
      show (f y >>= fun _ => before.forM f).run Store.perform s = _
      rw [run_bind, h.again y (hbefore y List.mem_cons_self) hs (hsettled y List.mem_cons_self)]
      exact ih (fun z hz => hbefore z (List.mem_cons_of_mem _ hz))
        fun z hz => hsettled z (List.mem_cons_of_mem _ hz)

/-- **From wherever the steps pass through, they come to the same end.** -/
theorem Repeatable.retry (h : Repeatable f settled xs) (hs : s.Built)
    (hpasses : (xs.forM f).Passes Store.perform s t) :
    (xs.forM f).run Store.perform t = (xs.forM f).run Store.perform s := by
  obtain ⟨before, after, rfl, hrun⟩ := passes_forM h.atomic hpasses
  have hbefore : ∀ x ∈ before, x ∈ before ++ after := fun x hx => List.mem_append_left _ hx
  have ht : t.Built := hs.of_run hrun
  have hsettled : ∀ x ∈ before, settled x t :=
    fun x hx => h.settled_of_run hbefore hs hrun x (hbefore x hx) (Or.inr hx)
  rw [forM_append, run_bind, run_bind, hrun, h.run_settled hbefore ht hsettled]

/-- The same if the plan ends by saying something. -/
theorem Repeatable.retry_and_say {α : Type} (h : Repeatable f settled xs) (hs : s.Built) (a : α)
    (hpasses : (xs.forM f >>= fun _ => pure a).Passes Store.perform s t) :
    (xs.forM f >>= fun _ => pure a).run Store.perform t
      = (xs.forM f >>= fun _ => pure a).run Store.perform s := by
  rw [run_bind, run_bind, h.retry hs (passes_of_bind_pure hpasses)]

end Plan

/-! ## Native roles -/

namespace Store

variable {s : Store}

/-- Writing a policy back leaves the native roles alone. -/
theorem roles_wroteBack (p : Policy) : (s.wroteBack p).roles = s.roles := by
  unfold wroteBack
  split <;> rfl

end Store

namespace Keeper

variable {k : Keeper} {s t : Store} {role : Role} {change : RoleChange} {name : String}

theorem run_ensureNativeRole : (k.ensureNativeRole name).run Store.perform s
    = (.ok (), (s.createRole (nativeRole name)).2) := rfl

theorem run_dropNativeRole : (k.dropNativeRole name).run Store.perform s
    = (.ok (), (s.deleteRole name).2) := rfl

/-! ## The steps of a role's events -/

theorem readsOnly_findPolicy (o : CatalogObject) :
    (k.findPolicy o).ReadsOnly Store.perform :=
  (Plan.readsOnly_done _).bind fun _ =>
    ((Plan.readsOnly_call fun _ => rfl).during _).bind fun _ => Plan.readsOnly_done _

theorem readsOnly_policyOrNew (name : String) (o : CatalogObject) :
    (k.policyOrNew name o).ReadsOnly Store.perform := by
  refine (readsOnly_findPolicy o).bind fun found => ?_
  cases found with
  | some p => exact Plan.readsOnly_done _
  | none => exact Plan.readsOnly_done _

/-- A write that is refused has no effect. -/
theorem atomic_persist (p : Policy) : (persist p).Atomic Store.perform := by
  unfold persist
  split
  · exact Plan.atomic_last fun _ _ => Store.perform_refused rfl
  · exact (Plan.readsOnly_done _).atomic
  · exact Plan.atomic_last fun _ _ => Store.perform_refused rfl
  · exact Plan.atomic_last fun _ _ => Store.perform_refused rfl

theorem atomic_writeBack (c : Prop) [Decidable c] (p : Policy) :
    (if c then pure () else persist p).Atomic Store.perform := by
  split
  · exact (Plan.readsOnly_done _).atomic
  · exact atomic_persist p

theorem atomic_applyChange (role : Role) (change : RoleChange) :
    (k.applyChange role change).Atomic Store.perform := by
  cases change with
  | add o =>
      exact Plan.Atomic.after (Plan.readsOnly_done _) fun _ =>
        Plan.Atomic.after (readsOnly_policyOrNew _ _) fun _ => atomic_writeBack _ _
  | remove o =>
      refine Plan.Atomic.after (readsOnly_findPolicy _) fun found => ?_
      cases found with
      | none => exact (Plan.readsOnly_done _).atomic
      | some p => exact atomic_writeBack _ _
  | replace old new =>
      exact Plan.Atomic.after (Plan.readsOnly_done _) fun _ =>
        Plan.Atomic.after (readsOnly_policyOrNew _ _) fun _ => atomic_writeBack _ _

theorem strict_findPolicy (o : CatalogObject) : (k.findPolicy o).Strict :=
  Plan.Strict.bind trivial fun _ =>
    ((Plan.strict_call _).during _).bind fun _ => trivial

theorem strict_policyOrNew (name : String) (o : CatalogObject) : (k.policyOrNew name o).Strict := by
  refine (strict_findPolicy o).bind fun found => ?_
  cases found with
  | some p => exact trivial
  | none => exact trivial

theorem strict_writeBack (c : Prop) [Decidable c] (p : Policy) :
    (if c then pure () else persist p).Strict := by
  split
  · exact trivial
  · unfold persist
    split
    · exact Plan.strict_last _ _
    · exact trivial
    · exact Plan.strict_last _ _
    · exact Plan.strict_last _ _

theorem strict_applyChange (role : Role) (change : RoleChange) :
    (k.applyChange role change).Strict := by
  cases change with
  | add o =>
      exact Plan.Strict.bind trivial fun _ =>
        (strict_policyOrNew _ _).bind fun _ => strict_writeBack _ _
  | remove o =>
      refine (strict_findPolicy _).bind fun found => ?_
      cases found with
      | none => exact trivial
      | some p => exact strict_writeBack _ _
  | replace old new =>
      exact Plan.Strict.bind trivial fun _ =>
        (strict_policyOrNew _ _).bind fun _ => strict_writeBack _ _

/-- A step of an event of a role: what it does about the native role, or one change. -/
def step (k : Keeper) (role : Role) (native : Plan Unit) (task : RoleChange → Task) :
    Option RoleChange → Plan Unit
  | none => native
  | some change => (k.applyChange role change).during (task change)

theorem strict_steps {native : Plan Unit} (hnative : native.Strict) (task : RoleChange → Task)
    (steps : List (Option RoleChange)) : (steps.forM (k.step role native task)).Strict := by
  refine Plan.strict_forM (fun x => ?_) steps
  cases x with
  | none => exact hnative
  | some change => exact (strict_applyChange role change).during _

/-- The step has nothing left to do. -/
def StepSettled (k : Keeper) (role : Role) (native : List NativeRole → Prop) :
    Option RoleChange → Store → Prop
  | none, s => native s.roles
  | some change, s => k.Settled role change s

theorem Wrote.roles_eq (h : k.Wrote role change s t) : t.roles = s.roles := by
  obtain ⟨_, _, _, _, _, _, hwrite⟩ := h
  rcases hwrite with ⟨_, rfl⟩ | rfl
  · rfl
  · exact s.roles_wroteBack _

/-- **Adding, or removing, can be repeated**, and so can what is done about the native role if that
is there for good. -/
theorem repeatable_steps {native : Plan Unit} {settled : List NativeRole → Prop}
    {task : RoleChange → Task} {steps : List (Option RoleChange)}
    (hatomic : native.Atomic Store.perform)
    (hsettles : ∀ {s t : Store}, native.run Store.perform s = (.ok (), t) →
      settled t.roles ∧ t.policies = s.policies)
    (hagain : ∀ {s : Store}, settled s.roles → native.run Store.perform s = (.ok (), s))
    (hl : ∀ change, some change ∈ steps → k.layout.Legible change.place)
    (halike : ∀ change other, some change ∈ steps → some other ∈ steps → change.Alike other) :
    Plan.Repeatable (k.step role native task) (k.StepSettled role settled) steps where
  atomic := by
    intro x
    cases x with
    | none => exact hatomic
    | some change => exact (atomic_applyChange role change).during _
  settles := by
    intro x hx s t hs hrun
    cases x with
    | none => exact (hsettles hrun).1
    | some change =>
        have hwrote := (applyChange_wrote hs.keyed (hl change hx)).of_run (Plan.run_during_ok hrun)
        exact hwrote.settled hs.keyed (halike change change hx hx)
  keeps := by
    intro x hx y hy s t hs hsettled hrun
    cases y with
    | none =>
        obtain ⟨hnative, hpolicies⟩ := hsettles hrun
        cases x with
        | none => exact hnative
        | some change => exact Settled.congr hsettled hpolicies
    | some other =>
        have hwrote := (applyChange_wrote hs.keyed (hl other hy)).of_run (Plan.run_during_ok hrun)
        cases x with
        | none =>
            -- a change of policies does not touch the native roles
            show settled t.roles
            rw [hwrote.roles_eq]
            exact hsettled
        | some change => exact Settled.wrote hs.keyed hsettled hwrote (halike change other hx hy)
  again := by
    intro x hx s hs hsettled
    cases x with
    | none => exact hagain hsettled
    | some change =>
        show ((k.applyChange role change).during (task change)).run Store.perform s = _
        rw [Plan.run_during, Settled.run hs.keyed hsettled (hl change hx)]
        rfl

/-! ## Roles that come and go -/

/-- The native role is a matter of role mode. -/
def nativeStep (k : Keeper) : List (Option RoleChange) := if k.mode = .role then [none] else []

def creationSteps (k : Keeper) (role : Role) : List (Option RoleChange) :=
  k.nativeStep ++ role.securables.map fun o => some (.add o)

def creationStep (k : Keeper) (role : Role) : Option RoleChange → Plan Unit :=
  k.step role (k.ensureNativeRole role.name) fun change =>
    .creatingRole role.name change.object.fullName

def deletionSteps (k : Keeper) (role : Role) : List (Option RoleChange) :=
  role.securables.map (fun o => some (.remove o)) ++ k.nativeStep

def deletionStep (k : Keeper) (role : Role) : Option RoleChange → Plan Unit :=
  k.step role (k.dropNativeRole role.name) fun change =>
    .deletingRole role.name change.object.fullName

theorem roleCreated_steps (k : Keeper) (role : Role) : k.roleCreated role
    = ((k.creationSteps role).forM (k.creationStep role) >>= fun _ => pure true) := by
  have hobjects : (role.securables.map fun o => some (.add o)).forM (k.creationStep role)
      = role.securables.forM fun o =>
        (k.addObject role o).during (.creatingRole role.name o.object.fullName) :=
    Plan.forM_map _ _
  have hnative : [none].forM (k.creationStep role) = k.ensureNativeRole role.name :=
    bind_pure_unit
  unfold roleCreated creationSteps nativeStep
  split
  · rw [Plan.forM_append, hnative, hobjects, bind_assoc]
  · rw [List.nil_append, hobjects]

theorem roleDeleted_steps (k : Keeper) (role : Role) : k.roleDeleted role
    = ((k.deletionSteps role).forM (k.deletionStep role) >>= fun _ => pure true) := by
  have hobjects : (role.securables.map fun o => some (.remove o)).forM (k.deletionStep role)
      = role.securables.forM fun o =>
        (k.removeObject role o).during (.deletingRole role.name o.object.fullName) :=
    Plan.forM_map _ _
  have hnative : [none].forM (k.deletionStep role) = k.dropNativeRole role.name :=
    bind_pure_unit
  unfold roleDeleted deletionSteps nativeStep
  rw [Plan.forM_append, hobjects, bind_assoc]
  split
  · rw [hnative]
  · rfl

theorem mem_nativeStep {change : RoleChange} : some change ∉ k.nativeStep := by
  unfold nativeStep
  split <;> simp

theorem repeatable_creation (hl : ∀ o ∈ role.securables, k.layout.Legible o.object) :
    Plan.Repeatable (k.creationStep role)
      (k.StepSettled role fun roles => (roles.find? (·.name == role.name)).isSome = true)
      (k.creationSteps role) := by
  have hchanges : ∀ change, some change ∈ k.creationSteps role →
      ∃ o ∈ role.securables, change = .add o := by
    intro change hc
    obtain ⟨o, ho, heq⟩ := List.mem_map.mp ((List.mem_append.mp hc).resolve_left mem_nativeStep)
    exact ⟨o, ho, (Option.some.inj heq).symm⟩
  refine repeatable_steps ?_ ?_ ?_ ?_ ?_
  · refine Plan.atomic_last fun s e he => ?_
    exact absurd he (by simp [Store.perform, Store.ofAnswer])
  · intro s t hrun
    rw [run_ensureNativeRole] at hrun
    cases hrun
    have hthere : ((s.createRole (nativeRole role.name)).2.role? role.name).isSome = true :=
      Store.role?_createRole
    exact ⟨hthere,
      (Store.perform_policies (c := .createRole k.service (nativeRole role.name)) rfl s).1⟩
  · intro s hsome
    have hsome : (s.role? (nativeRole role.name).name).isSome = true := hsome
    rw [run_ensureNativeRole, Store.createRole_of_isSome hsome]
  · intro change hc
    obtain ⟨o, ho, rfl⟩ := hchanges change hc
    exact hl o ho
  · intro change other hc hother
    obtain ⟨_, _, rfl⟩ := hchanges change hc
    obtain ⟨_, _, rfl⟩ := hchanges other hother
    trivial

theorem repeatable_deletion (hl : ∀ o ∈ role.securables, k.layout.Legible o.object) :
    Plan.Repeatable (k.deletionStep role)
      (k.StepSettled role fun roles => roles.find? (·.name == role.name) = none)
      (k.deletionSteps role) := by
  have hchanges : ∀ change, some change ∈ k.deletionSteps role →
      ∃ o ∈ role.securables, change = .remove o := by
    intro change hc
    obtain ⟨o, ho, heq⟩ := List.mem_map.mp ((List.mem_append.mp hc).resolve_right mem_nativeStep)
    exact ⟨o, ho, (Option.some.inj heq).symm⟩
  refine repeatable_steps ?_ ?_ ?_ ?_ ?_
  · refine Plan.atomic_last fun s e he => ?_
    exact absurd he (by simp [Store.perform, Store.ofAnswer])
  · intro s t hrun
    rw [run_dropNativeRole] at hrun
    cases hrun
    exact ⟨Store.role?_deleteRole,
      (Store.perform_policies (c := .deleteRole k.service role.name) rfl s).1⟩
  · intro s hnone
    rw [run_dropNativeRole, Store.deleteRole_of_eq_none hnone]
  · intro change hc
    obtain ⟨o, ho, rfl⟩ := hchanges change hc
    exact hl o ho
  · intro change other hc hother
    obtain ⟨_, _, rfl⟩ := hchanges change hc
    obtain ⟨_, _, rfl⟩ := hchanges other hother
    trivial

/-- **A role that comes or goes at the second attempt** comes or goes as at a single one. -/
theorem retry_of_passes {event : Event} (hs : s.Built)
    (hl : ∀ o ∈ role.securables, k.layout.Legible o.object)
    (hevent : event = .roleCreated role ∨ event = .roleDeleted role)
    (hpasses : (k.handle event).Passes Store.perform s t) :
    (k.handle event).run Store.perform t = (k.handle event).run Store.perform s := by
  rcases hevent with rfl | rfl
  · show (k.roleCreated role).run _ _ = (k.roleCreated role).run _ _
    rw [roleCreated_steps]
    rw [handle, roleCreated_steps] at hpasses
    exact (repeatable_creation hl).retry_and_say hs true hpasses
  · show (k.roleDeleted role).run _ _ = (k.roleDeleted role).run _ _
    rw [roleDeleted_steps]
    rw [handle, roleDeleted_steps] at hpasses
    exact (repeatable_deletion hl).retry_and_say hs true hpasses

/-! ## Roles that change -/

end Keeper

/-- The replacement as it is made, which is at one location. -/
def RoleChange.relocated : RoleChange → RoleChange
  | replace old new => replace ⟨new.object, old.entitlements⟩ new
  | change => change

namespace Keeper

variable {k : Keeper} {s t : Store} {role : Role} {change : RoleChange} {changes : List RoleChange}
  {rights : Set Right} {r : Right}

theorem Wrote.relocated (h : k.Wrote role change s t) : k.Wrote role change.relocated s t := by
  cases change with
  | add _ | remove _ | replace _ _ => exact h

/-- What changes of a role make of the rights, one after the other. -/
def changedByAll (k : Keeper) (role : String) (changes : List RoleChange) (rights : Set Right) :
    Set Right :=
  changes.foldl (fun rights change => k.changedBy role change.relocated rights) rights

theorem rights_of_wrote (hmode : k.mode = .role) (hk : s.Keyed) (h : k.Wrote role change s t) :
    k.rights t = k.changedBy role.name change.relocated (k.rights s) := by
  have hone : change.relocated.OneObject := by
    cases change with
    | add _ | remove _ => exact trivial
    | replace _ _ => exact rfl
  exact (h.relocated.made hk hone).rights_eq hmode hone

theorem rights_of_changes {task : RoleChange → Task} (hmode : k.mode = .role) (hs : s.Built)
    (hl : ∀ change ∈ changes, k.layout.Legible change.place)
    (hrun : (changes.forM fun change => (k.applyChange role change).during (task change)).run
      Store.perform s = (.ok (), t)) :
    k.rights t = k.changedByAll role.name changes (k.rights s) := by
  induction changes generalizing s with
  | nil =>
      cases hrun
      rfl
  | cons change changes ih =>
      obtain ⟨_, s₁, hfirst, hrest⟩ := Plan.run_bind_ok hrun
      have hfirst := Plan.run_during_ok hfirst
      have hwrote := (applyChange_wrote hs.keyed (hl change List.mem_cons_self)).of_run hfirst
      rw [changedByAll, List.foldl_cons, ← rights_of_wrote hmode hs.keyed hwrote]
      exact ih (hs.of_run hfirst) (fun c hc => hl c (List.mem_cons_of_mem _ hc)) hrest

theorem rights_of_roleUpdated (hmode : k.mode = .role) (hs : s.Built)
    (hl : ∀ change ∈ changes, k.layout.Legible change.place)
    (hrun : (k.handle (.roleUpdated role changes)).run Store.perform s = (.ok true, t)) :
    k.rights t = k.changedByAll role.name changes (k.rights s) := by
  obtain ⟨_, s₁, hchanges, hend⟩ := Plan.run_bind_ok hrun
  cases hend
  exact rights_of_changes hmode hs hl hchanges

/-- **A change gives a right, takes it or leaves it**, whatever there is. -/
theorem changedBy_cases (k : Keeper) (role : String) (change : RoleChange) (r : Right) :
    (∀ rights, r ∈ k.changedBy role change rights)
      ∨ (∀ rights, r ∉ k.changedBy role change rights)
      ∨ ∀ rights, (r ∈ k.changedBy role change rights ↔ r ∈ rights) := by
  cases change with
  | add o =>
      by_cases hin : r ∈ k.rightsOf role o
      · exact Or.inl fun _ => Or.inr hin
      · exact Or.inr (Or.inr fun _ => or_iff_left hin)
  | remove o =>
      by_cases hin : r ∈ k.rightsOf role o
      · exact Or.inr (Or.inl fun _ h => h.2 hin)
      · exact Or.inr (Or.inr fun _ => and_iff_left hin)
  | replace old new =>
      by_cases hnew : r ∈ k.rightsOf role new
      · exact Or.inl fun _ => Or.inr hnew
      by_cases hold : r ∈ k.rightsOf role old
      · exact Or.inr (Or.inl fun _ h => h.elim (fun h => h.2 hold) hnew)
      · exact Or.inr (Or.inr fun _ => (or_iff_left hnew).trans (and_iff_left hold))

/-- So do all of them together: the last one that touches the right decides. -/
theorem changedByAll_cases (k : Keeper) (role : String) (changes : List RoleChange) (r : Right) :
    (∀ rights, r ∈ k.changedByAll role changes rights)
      ∨ (∀ rights, r ∉ k.changedByAll role changes rights)
      ∨ ∀ rights, (r ∈ k.changedByAll role changes rights ↔ r ∈ rights) := by
  induction changes with
  | nil => exact Or.inr (Or.inr fun _ => Iff.rfl)
  | cons change changes ih =>
      -- the first change counts only where the later ones leave the right as it is
      rcases ih with hgives | htakes | hleaves
      · exact Or.inl fun _ => hgives _
      · exact Or.inr (Or.inl fun _ => htakes _)
      · rcases k.changedBy_cases role change.relocated r with hgives | htakes | hleaves'
        · exact Or.inl fun rights => (hleaves _).mpr (hgives rights)
        · exact Or.inr (Or.inl fun rights h => htakes rights ((hleaves _).mp h))
        · exact Or.inr (Or.inr fun rights => (hleaves _).trans (hleaves' rights))

/-- **Changes that are made twice over** come to what they come to once. -/
theorem changedByAll_idempotent (k : Keeper) (role : String) (changes : List RoleChange)
    (rights : Set Right) : k.changedByAll role changes (k.changedByAll role changes rights)
      = k.changedByAll role changes rights := by
  ext r
  rcases k.changedByAll_cases role changes r with hgives | htakes | hleaves
  · exact iff_of_true (hgives _) (hgives _)
  · exact iff_of_false (htakes _) (htakes _)
  · exact hleaves _

/-! ## After a failure -/

/-- The store after some calls of an event may have failed without effect. -/
def disturbed (k : Keeper) (event : Event) (failures : List Disturbance) (s : Store) : Store :=
  (Rehearsal.run (k.handle event) { store := s, disturbances := failures }).2.store

theorem disturbed_nil (event : Event) (s : Store) :
    k.disturbed event [] s = ((k.handle event).run Store.perform s).2 :=
  Rehearsal.store_run _ rfl

theorem passes_disturbed {event : Event} (hstrict : (k.handle event).Strict)
    {failures : List Disturbance} (hfailures : ∀ d ∈ failures, d.outcome = .failure) (s : Store) :
    (k.handle event).Passes Store.perform s (k.disturbed event failures s) :=
  hstrict.passes_disturbed (r := { store := s, disturbances := failures }) hfailures

theorem strict_roleUpdated (role : Role) (changes : List RoleChange) :
    (k.roleUpdated role changes).Strict := by
  refine Plan.Strict.bind (Plan.strict_forM (fun change => ?_) changes) fun _ => trivial
  exact (strict_applyChange role change).during _

theorem strict_roleCreated (role : Role) : (k.roleCreated role).Strict := by
  rw [roleCreated_steps]
  exact (strict_steps (Plan.strict_last _ _) _ _).bind fun _ => trivial

theorem strict_roleDeleted (role : Role) : (k.roleDeleted role).Strict := by
  rw [roleDeleted_steps]
  exact (strict_steps (Plan.strict_last _ _) _ _).bind fun _ => trivial

/-- The changes that were made before a failure are the first of them. -/
theorem prefix_of_passes
    (hpasses : (k.handle (.roleUpdated role changes)).Passes Store.perform s t) :
    ∃ before after, changes = before ++ after
      ∧ (k.handle (.roleUpdated role before)).run Store.perform s = (.ok true, t) := by
  have hatomic : ∀ change, ((k.applyChange role change).during
      (.updatingRole role.name change.object.fullName)).Atomic Store.perform :=
    fun change => (atomic_applyChange role change).during _
  obtain ⟨before, after, happend, hrun⟩ :=
    Plan.passes_forM hatomic (Plan.passes_of_bind_pure hpasses)
  refine ⟨before, after, happend, ?_⟩
  show (k.roleUpdated role before).run Store.perform s = _
  unfold roleUpdated
  rw [Plan.run_bind, hrun]
  rfl

theorem changedByAll_append (k : Keeper) (role : String) (before after : List RoleChange)
    (rights : Set Right) : k.changedByAll role (before ++ after) rights
      = k.changedByAll role after (k.changedByAll role before rights) := List.foldl_append

/-- **Trying again is safe.** From whatever store, whoever built it, with calls failing without
effect wherever they may:

* a role that is created or deleted again comes to exactly the result and the store that a single
  undisturbed attempt comes to;
* an update that fails has made the first of its changes. If all are made again, in role mode every
  role has the rights that it has after a single successful update. -/
theorem retry_safe (hs : s.Built) (role : Role) {failures : List Disturbance}
    (hfailures : ∀ d ∈ failures, d.outcome = .failure) :
    ((∀ o ∈ role.securables, k.layout.Legible o.object) →
      ∀ event, event = .roleCreated role ∨ event = .roleDeleted role →
        (k.handle event).run Store.perform (k.disturbed event failures s)
          = (k.handle event).run Store.perform s)
      ∧ (k.mode = .role → ∀ changes : List RoleChange,
        (∀ change ∈ changes, k.layout.Legible change.place) →
        (∃ before after, changes = before ++ after
            ∧ (k.handle (.roleUpdated role before)).run Store.perform s
              = (.ok true, k.disturbed (.roleUpdated role changes) failures s))
          ∧ ∀ before after t u v, changes = before ++ after →
            (k.handle (.roleUpdated role before)).run Store.perform s = (.ok true, t) →
            (k.handle (.roleUpdated role changes)).run Store.perform t = (.ok true, u) →
            (k.handle (.roleUpdated role changes)).run Store.perform s = (.ok true, v) →
            k.rights u = k.rights v) := by
  refine ⟨fun hl event hevent => ?_, fun hmode changes hl => ⟨?_, ?_⟩⟩
  · have hstrict : (k.handle event).Strict := by
      rcases hevent with rfl | rfl
      · exact strict_roleCreated role
      · exact strict_roleDeleted role
    exact retry_of_passes hs hl hevent (passes_disturbed hstrict hfailures s)
  · have hstrict : (k.handle (.roleUpdated role changes)).Strict := strict_roleUpdated role changes
    exact prefix_of_passes (passes_disturbed hstrict hfailures s)
  · intro before after t u v happend hbefore hagain honce
    have ht : t.Built := hs.of_run hbefore
    have hl' : ∀ change ∈ before, k.layout.Legible change.place := by
      intro change hc
      refine hl change ?_
      rw [happend]
      exact List.mem_append_left _ hc
    -- the first changes are made twice over, and the others after that
    rw [rights_of_roleUpdated hmode ht hl hagain, rights_of_roleUpdated hmode hs hl' hbefore,
      rights_of_roleUpdated hmode hs hl honce, happend, changedByAll_append,
      changedByAll_append, changedByAll_idempotent]

/-- A role that has a part in a shared policy and in one that is still to be created. -/
def librarian : Role :=
  { name := "librarian"
    securables := [schemaDb "cat" [.useSchema],
      ⟨⟨"cat.db.books", .table⟩, [⟨.selectTable, .allow⟩]⟩] }

/-- The first object is taken away in the end, after the second was added. -/
def librarianChanges : List RoleChange :=
  librarian.securables.map .add ++ [.remove (schemaDb "cat" [.useSchema])]

/-- No policy can be created, and then none can be updated. -/
def outages : List Disturbance :=
  [{ kind := .createPolicy, outcome := .failure }, { kind := .updatePolicy, outcome := .failure }]

def withShared : Store := (({} : Store).insertPolicy sharedPolicy).2

/-- The store after some of the changes were made. -/
def withLibrarian (changes : List RoleChange) (s : Store) : Store :=
  ((ofTables.handle (.roleUpdated librarian changes)).run Store.perform s).2

/-- Neither event goes well at the first attempt, but half of each is there. At the second attempt
the role is created as it should be, and so are its rights when it is updated. -/
theorem retry_safe_librarian :
    ofTables.disturbed (.roleCreated librarian) outages withShared ≠ withShared
      ∧ (ofTables.handle (.roleCreated librarian)).run Store.perform
          (ofTables.disturbed (.roleCreated librarian) outages withShared)
        = (ofTables.handle (.roleCreated librarian)).run Store.perform withShared
      ∧ (∃ before after, librarianChanges = before ++ after
        ∧ (ofTables.handle (.roleUpdated librarian before)).run Store.perform withShared
          = (.ok true, ofTables.disturbed (.roleUpdated librarian librarianChanges) outages
              withShared))
      ∧ ofTables.rights
          (withLibrarian librarianChanges (withLibrarian (librarianChanges.take 1) withShared))
        = ofTables.rights (withLibrarian librarianChanges withShared) := by
  have houtages : ∀ d ∈ outages, d.outcome = .failure := by decide
  have hsafe := retry_safe (k := ofTables) sharedPolicy_built librarian houtages
  have hlegible : ∀ o ∈ librarian.securables, ofTables.layout.Legible o.object := by decide +kernel
  have hplaces : ∀ change ∈ librarianChanges, ofTables.layout.Legible change.place := by
    decide +kernel
  obtain ⟨hmade, hrights⟩ := hsafe.2 rfl librarianChanges hplaces
  have hrun : ∀ {changes s},
      ((ofTables.handle (.roleUpdated librarian changes)).run Store.perform s).1.toOption
        = some true →
      (ofTables.handle (.roleUpdated librarian changes)).run Store.perform s
        = (.ok true, withLibrarian changes s) := Plan.run_eq_ok
  exact ⟨by decide +kernel, hsafe.1 hlegible _ (Or.inl rfl), hmade,
    hrights _ (librarianChanges.drop 1) _ _ _ rfl (hrun (by decide +kernel))
      (hrun (by decide +kernel)) (hrun (by decide +kernel))⟩

end Keeper

end PolicyKeeper
