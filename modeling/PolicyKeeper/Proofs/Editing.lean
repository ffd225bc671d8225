import PolicyKeeper.Keeper.Event
import PolicyKeeper.Proofs.Changes
import PolicyKeeper.Proofs.Store.Abiding

/-!
# Keepers edit what they are shown

On every event a keeper has a list of edits to make, each for an object (`Keeper.edits`). It makes
them one at a time: it takes a policy in hand that it was shown at the location of the object, or a
new one, edits it, and writes it back. So every write of a keeper is one of these edits, made of a
policy that was in hand for it (`Keeper.abides_handle`). A policy is deleted only if its edit was a
change and has left no item.

What is known of the policies that are shown is left open. Everything that edits keep can be put in
its place, such as that a policy is well kept, or where it came from.
-/

namespace PolicyKeeper

/-- What is done to a policy, and for which object. -/
abbrev ObjectEdit : Type := CatalogObject × (Policy → Policy)

/-- Only known policies are found. -/
def Call.Shows (known : Policy → Prop) : (c : Call) → Except Failure c.Answer → Prop
  | findPolicies _, r => ∀ found : List Policy, r = .ok found → ∀ p ∈ found, known p
  | _, _ => True

namespace Keeper

/-! ## The edits of an event -/

/-- A change of a role, as an edit for its object. -/
def changeEdit (k : Keeper) (role : Role) (change : RoleChange) : ObjectEdit :=
  (change.place, k.edit role change)

/-- The placeholder's items of all objects of the roles. In role mode a principal is in no item. -/
def memberEdits (k : Keeper) (roles : List Role) (f : Item → Item) : List ObjectEdit :=
  match k.mode with
  | .role => []
  | .ownerPlaceholder => roles.flatMap fun role => role.securables.map fun o =>
    (o.object, fun p => p.mapPlaceholderItems (k.accesses o) f)

/-- What a keeper does to policies on an event, and for which objects. -/
def edits (k : Keeper) : Event → List ObjectEdit
  | .roleCreated role => role.securables.map fun o => k.changeEdit role (.add o)
  | .roleDeleted role => role.securables.map fun o => k.changeEdit role (.remove o)
  | .roleUpdated role changes => changes.map (k.changeEdit role)
  | .ownerSet o previous new => [(o, Policy.handOver k.layout.service.ownerAccesses previous new)]
  | .rolesGranted roles who => k.memberEdits roles (Item.attach who)
  | .rolesRevoked roles who => k.memberEdits roles (Item.detach who)
  | .roleAcquired _ | .principalAdded _ | .principalRemoved _ | .principalAcquired _ => []

section

variable {k : Keeper} {P : (Policy → Policy) → Prop}

theorem exists_of_memberEdits {roles : List Role} {f : Item → Item} {x : ObjectEdit}
    (hx : x ∈ k.memberEdits roles f) : k.mode = .ownerPlaceholder
      ∧ ∃ role ∈ roles, ∃ o ∈ role.securables,
        x = (o.object, fun p => p.mapPlaceholderItems (k.accesses o) f) := by
  unfold memberEdits at hx
  split at hx
  · exact absurd hx List.not_mem_nil
  · rename_i hmode
    obtain ⟨role, hrole, hx⟩ := List.mem_flatMap.mp hx
    obtain ⟨o, ho, rfl⟩ := List.mem_map.mp hx
    exact ⟨hmode, role, hrole, o, ho, rfl⟩

theorem forall_memberEdits {f : Item → Item} (h : k.mode = .ownerPlaceholder → ∀ o : Securable,
      P fun p => p.mapPlaceholderItems (k.accesses o) f) (roles : List Role) :
    ∀ x ∈ k.memberEdits roles f, P x.2 := by
  intro x hx
  obtain ⟨hmode, _, _, o, _, rfl⟩ := exists_of_memberEdits hx
  exact h hmode o

/-- **The kinds of edits there are.** Members come and go without changing the key of an item, and
only in owner-placeholder mode. -/
theorem forall_edits (hchange : ∀ role change, P (k.edit role change))
    (howner : ∀ previous new,
      P (Policy.handOver k.layout.service.ownerAccesses previous new))
    (hmembers : k.mode = .ownerPlaceholder → ∀ (o : Securable) (f : Item → Item),
      (∀ i, (f i).key = i.key) → P fun p => p.mapPlaceholderItems (k.accesses o) f)
    (event : Event) : ∀ x ∈ k.edits event, P x.2 := by
  cases event with
  | roleCreated role => exact List.forall_mem_map.mpr fun o _ => hchange role (.add o)
  | roleDeleted role => exact List.forall_mem_map.mpr fun o _ => hchange role (.remove o)
  | roleUpdated role changes => exact List.forall_mem_map.mpr fun c _ => hchange role c
  | ownerSet o previous new =>
      intro x hx
      rw [List.mem_singleton.mp hx]
      exact howner previous new
  | rolesGranted roles who =>
      exact forall_memberEdits (fun hmode o => hmembers hmode o _ fun _ => Item.attach_key) roles
  | rolesRevoked roles who =>
      exact forall_memberEdits (fun hmode o => hmembers hmode o _ fun _ => Item.detach_key) roles
  | roleAcquired _ | principalAdded _ | principalRemoved _ | principalAcquired _ =>
      exact fun x hx => absurd hx List.not_mem_nil

end

theorem frame_of_edits (k : Keeper) (event : Event) :
    ∀ x ∈ k.edits event, ∀ p, (x.2 p).frame = p.frame :=
  forall_edits (P := fun f => ∀ p, (f p).frame = p.frame) k.edit_frame (fun _ _ _ => rfl)
    (fun _ _ _ _ _ => rfl) event

/-! ## What a keeper may do -/

/-- A policy can be edited for an object: it is known, has the label, and is at the location of the
object. -/
structure ReadyFor (k : Keeper) (known : Policy → Prop) (o : CatalogObject) (p : Policy) :
    Prop where
  known : known p
  managed : p.isManaged = true
  guards : ∃ loc, k.layout.Locates o loc ∧ p.Guards loc

/-- Edits that a keeper can make, as far as policies are known: new ones for the objects are, and
an edit leaves all but the items alone. -/
structure Makeable (k : Keeper) (known : Policy → Prop) (edits : List ObjectEdit) : Prop where
  new : ∀ x ∈ edits, ∀ name p, k.newPolicy name x.1 = .ok p → known p
  frame : ∀ x ∈ edits, ∀ p, (x.2 p).frame = p.frame

/-- The second policy is an edit of the first, which was ready for it. -/
def EditedIn (k : Keeper) (known : Policy → Prop) (edits : List ObjectEdit) (p p' : Policy) :
    Prop :=
  ∃ x ∈ edits, k.ReadyFor known x.1 p ∧ p' = x.2 p

/-- The calls for searching at paths and for writing edited policies back. -/
def May (k : Keeper) (edited : Policy → Policy → Prop) : Call → Prop
  | .findPolicies search => ∃ path, search = k.searchFor path
  | .createPolicy p' => p'.hasNoItems = false ∧ ∃ p, p.id = none ∧ edited p p'
  | .updatePolicy id p' => p'.hasNoItems = false ∧ ∃ p, p.id = some id ∧ edited p p'
  | .deletePolicy id => ∃ p p', p'.hasNoItems = true ∧ p.id = some id ∧ p' ≠ p ∧ edited p p'
  | _ => True

/-- The plan makes the edits and no others, as long as it is shown known policies. -/
def MakesEdits {α : Type} (k : Keeper) (known : Policy → Prop) (edits : List ObjectEdit)
    (plan : Plan α) (Q : α → Prop) : Prop :=
  plan.Abides (k.May (k.EditedIn known edits)) (Call.Shows known) Q

section

variable {k : Keeper} {known : Policy → Prop} {edits : List ObjectEdit} {o : CatalogObject}
  {x : ObjectEdit} {p : Policy}

/-! ## Policies in hand -/

theorem makesEdits_findPolicy (o : CatalogObject) : k.MakesEdits known edits (k.findPolicy o)
    fun found => ∀ p, found = some p → k.ReadyFor known o p := by
  unfold MakesEdits findPolicy
  refine (Plan.abides_ofResult fun path hpath => hpath).bind fun path hpath => ?_
  refine ((Plan.abides_call ⟨path, rfl⟩ fun found hs => hs found rfl).during _).bind
    fun found hfound => Plan.abides_ofResult fun sel hsel p hp => ?_
  subst hp
  obtain ⟨hin, hmanaged, hguards⟩ := found_of_select hsel
  exact ⟨hfound p hin, hmanaged, path.get?, ⟨path, hpath, rfl⟩, hguards⟩

theorem Makeable.readyFor (hm : k.Makeable known edits) (hx : x ∈ edits) {name : String}
    (h : k.newPolicy name x.1 = .ok p) : k.ReadyFor known x.1 p := by
  have hknown : known p := hm.new x hx name p h
  obtain ⟨path, hpath, rfl⟩ := newPolicy_ok h
  exact ⟨hknown, List.contains_iff_mem.mpr (List.mem_singleton_self _), path.get?,
    ⟨path, hpath, rfl⟩, Policy.managed_guards _ _ _⟩

theorem makesEdits_policyOrNew (hm : k.Makeable known edits) (hx : x ∈ edits) (role : String) :
    k.MakesEdits known edits (k.policyOrNew role x.1) (k.ReadyFor known x.1) := by
  refine (makesEdits_findPolicy x.1).bind fun found hfound => ?_
  cases found with
  | some p => exact Plan.abides_pure (hfound p rfl)
  | none => exact Plan.abides_ofResult fun p hp => hm.readyFor hx hp

theorem makesEdits_persist (hm : k.Makeable known edits) (hx : x ∈ edits)
    (hp : k.ReadyFor known x.1 p) (hne : (x.2 p).hasNoItems = true → x.2 p ≠ p) :
    k.MakesEdits known edits (persist (x.2 p)) fun _ => True := by
  have hedited : k.EditedIn known edits p (x.2 p) := ⟨x, hx, hp, rfl⟩
  have hid : (x.2 p).id = p.id := Policy.id_of_frame (hm.frame x hx p)
  unfold persist
  rw [hid]
  cases hpid : p.id with
  | some id =>
      cases hni : (x.2 p).hasNoItems with
      | true => exact Plan.abides_last ⟨p, x.2 p, hni, hpid, hne hni, hedited⟩ _
      | false => exact Plan.abides_last ⟨hni, p, hpid, hedited⟩ _
  | none =>
      cases hni : (x.2 p).hasNoItems with
      | true => exact Plan.abides_pure trivial
      | false => exact Plan.abides_last ⟨hni, p, hpid, hedited⟩ _

/-- Writing an edited policy back unless the edit was none. -/
theorem makesEdits_writeBack {c : Prop} [Decidable c] (hm : k.Makeable known edits) (hx : x ∈ edits)
    (hp : k.ReadyFor known x.1 p) (hne : ¬ c → (x.2 p).hasNoItems = true → x.2 p ≠ p) :
    k.MakesEdits known edits (if c then pure () else persist (x.2 p)) fun _ => True := by
  split
  · exact Plan.abides_pure trivial
  · rename_i hc
    exact makesEdits_persist hm hx hp (hne hc)

/-! ## Objects of roles -/

theorem makesEdits_applyChange (hm : k.Makeable known edits) {role : Role}
    {change : RoleChange} (hx : k.changeEdit role change ∈ edits) :
    k.MakesEdits known edits (k.applyChange role change) fun _ => True := by
  cases change with
  | add o =>
      refine (Plan.abides_ofResult fun _ _ => trivial).bind (Q := fun _ => True) fun _ _ => ?_
      refine (makesEdits_policyOrNew hm hx role.name).bind fun p hp => ?_
      exact makesEdits_writeBack hm hx hp fun hne _ => hne
  | remove o =>
      refine (makesEdits_findPolicy o.object).bind fun found hfound => ?_
      cases found with
      | none => exact Plan.abides_pure trivial
      | some p => exact makesEdits_writeBack hm hx (hfound p rfl) fun hne _ => hne
  | replace old new =>
      refine (Plan.abides_ofResult fun _ _ => trivial).bind (Q := fun _ => True) fun _ _ => ?_
      refine (makesEdits_policyOrNew hm hx role.name).bind fun p hp => ?_
      refine makesEdits_writeBack hm hx hp fun hne hni hsame => hne ?_
      -- from a policy without items nothing can be taken
      have hp : p.hasNoItems = true := by
        have hsame : k.edit role (.replace old new) p = p := hsame
        rwa [← hsame]
      have hwithout : k.edit role (.remove old) p = p := by
        refine edit_eq_self_iff.mpr fun effect => ?_
        rw [Policy.items_of_hasNoItems hp]
        exact revoke_nil _ _
      exact ⟨hwithout, hsame.trans hwithout.symm⟩

/-- The changes of a role, one after the other. -/
theorem makesEdits_changes {α : Type} {xs : List α} (change : α → RoleChange) (task : α → Task)
    (role : Role) (hm : k.Makeable known (xs.map fun x => k.changeEdit role (change x))) :
    k.MakesEdits known (xs.map fun x => k.changeEdit role (change x))
      (xs.forM fun x => (k.applyChange role (change x)).during (task x)) fun _ => True :=
  Plan.abides_forM fun _ hx =>
    (makesEdits_applyChange hm
      (List.mem_map_of_mem hx)).during _

/-! ## Principals -/

theorem makesEdits_addPrincipal (who : Principal) :
    k.MakesEdits known edits (addPrincipal who) fun _ => True := by
  refine (Plan.abides_only (c := .findAccounts who) trivial).bind fun found _ => ?_
  split
  · refine (Plan.abides_only (c := .createAccount who) trivial).bind fun _ _ => ?_
    exact Plan.abides_pure trivial
  · exact Plan.abides_pure trivial

theorem makesEdits_removePrincipal (who : Principal) :
    k.MakesEdits known edits (removePrincipal who) fun _ => True := by
  refine (Plan.abides_only (c := .findAccounts who) trivial).bind fun found _ => ?_
  cases found with
  | nil => exact Plan.abides_pure trivial
  | cons account _ =>
      refine (Plan.abides_only (c := .deleteAccount who.kind account.id) trivial).bind
        fun _ _ => ?_
      exact Plan.abides_pure trivial

theorem makesEdits_setOwner {previous : Option Principal} {new : Principal}
    (hm : k.Makeable known (k.edits (.ownerSet o previous new))) :
    k.MakesEdits known (k.edits (.ownerSet o previous new)) (k.setOwner o previous new)
      fun _ => True := by
  refine (Plan.abides_last (c := .createAccount new) trivial _).bind fun _ _ => ?_
  refine (makesEdits_policyOrNew hm List.mem_cons_self ownerRoleName).bind fun p hp => ?_
  exact makesEdits_writeBack hm List.mem_cons_self hp fun hne _ => hne

/-! ## Holding roles -/

theorem makesEdits_policiesOf (role : Role) (os : List Securable) :
    k.MakesEdits known edits (k.policiesOf role os) fun read =>
      ∀ ps, read = some ps → ∀ x ∈ ps, x.1 ∈ os ∧ k.ReadyFor known x.1.object x.2 := by
  induction os with
  | nil =>
      refine Plan.abides_pure fun ps hps x hx => ?_
      cases hps
      exact absurd hx List.not_mem_nil
  | cons o os ih =>
      refine ((makesEdits_findPolicy o.object).during _).bind fun found hfound => ?_
      cases found with
      | none => exact Plan.abides_pure fun ps hps => absurd hps (by simp)
      | some p =>
          refine ih.bind fun more hmore => Plan.abides_pure fun ps hps x hx => ?_
          obtain ⟨ps', rfl, rfl⟩ := Option.map_eq_some_iff.mp hps
          rcases List.mem_cons.mp hx with rfl | hx
          · exact ⟨List.mem_cons_self, hfound p rfl⟩
          · obtain ⟨ho, hready⟩ := hmore ps' rfl x hx
            exact ⟨List.mem_cons_of_mem _ ho, hready⟩

theorem mem_memberEdits (hmode : k.mode = .ownerPlaceholder) {roles : List Role} {role : Role}
    (hrole : role ∈ roles) {o : Securable} (ho : o ∈ role.securables) (f : Item → Item) :
    (o.object, fun p => p.mapPlaceholderItems (k.accesses o) f) ∈ k.memberEdits roles f := by
  unfold memberEdits
  rw [hmode]
  exact List.mem_flatMap.mpr ⟨role, hrole, List.mem_map.mpr ⟨o, ho, rfl⟩⟩

theorem makesEdits_persistChange {roles : List Role} {role : Role} {f : Item → Item}
    (hm : k.Makeable known (k.memberEdits roles f)) (hmode : k.mode = .ownerPlaceholder)
    (hrole : role ∈ roles) {o : Securable} (ho : o ∈ role.securables)
    (hp : k.ReadyFor known o.object p) :
    k.MakesEdits known (k.memberEdits roles f)
      (persistChange p (p.mapPlaceholderItems (k.accesses o) f)) fun _ => True :=
  makesEdits_writeBack hm (mem_memberEdits hmode hrole ho f) hp
    fun hne _ => hne

/-- The policies may be stale by the time they are written, but they were in hand. -/
theorem makesEdits_grantRole {roles : List Role} {role : Role} {who : Principal}
    (hm : k.Makeable known (k.memberEdits roles (Item.attach who))) (hrole : role ∈ roles) :
    k.MakesEdits known (k.memberEdits roles (Item.attach who)) (k.grantRole who role)
      fun _ => True := by
  refine (makesEdits_policiesOf role role.securables).bind fun read hread => ?_
  cases read with
  | none => exact Plan.abides_pure trivial
  | some ps =>
      dsimp only
      cases hmode : k.mode with
      | role =>
          refine (Plan.abides_last (c := .createRole _ _) trivial _).bind fun _ _ => ?_
          refine ((Plan.abides_only (c := .grantRoles _ _) trivial).during _).bind fun _ _ => ?_
          exact Plan.abides_pure trivial
      | ownerPlaceholder =>
          refine (Plan.abides_forM fun x hx => ?_).bind fun _ _ => Plan.abides_pure trivial
          obtain ⟨ho, hready⟩ := hread ps rfl x hx
          exact makesEdits_persistChange hm hmode hrole ho hready

theorem makesEdits_grantEach {roles : List Role} {who : Principal}
    (hm : k.Makeable known (k.memberEdits roles (Item.attach who))) (rest : List Role)
    (hrest : ∀ role ∈ rest, role ∈ roles) :
    k.MakesEdits known (k.memberEdits roles (Item.attach who)) (k.grantEach who rest)
      fun _ => True := by
  induction rest with
  | nil => exact Plan.abides_pure trivial
  | cons role rest ih =>
      refine (makesEdits_grantRole hm (hrest role List.mem_cons_self)).bind fun granted _ => ?_
      cases granted with
      | true => exact ih fun r hr => hrest r (List.mem_cons_of_mem _ hr)
      | false => exact Plan.abides_pure trivial

theorem makesEdits_revokeRole {roles : List Role} {role : Role} {who : Principal}
    (hm : k.Makeable known (k.memberEdits roles (Item.detach who))) (hrole : role ∈ roles) :
    k.MakesEdits known (k.memberEdits roles (Item.detach who)) (k.revokeRole who role)
      fun _ => True := by
  unfold revokeRole
  cases hmode : k.mode with
  | role =>
      refine (Plan.abides_only (c := .getRole role.name) trivial).bind fun found _ => ?_
      cases found with
      | none => exact Plan.abides_pure trivial
      | some _ => exact (Plan.abides_only (c := .revokeRoles _ _) trivial).during _
  | ownerPlaceholder =>
      refine Plan.abides_forM fun o ho => ?_
      refine ((makesEdits_findPolicy o.object).during _).bind fun found hfound => ?_
      cases found with
      | none => exact Plan.abides_pure trivial
      | some p => exact makesEdits_persistChange hm hmode hrole ho (hfound p rfl)

/-! ## Events -/

theorem makesEdits_allHavePolicies (os : List Securable) :
    k.MakesEdits known edits (k.allHavePolicies os) fun _ => True := by
  induction os with
  | nil => exact Plan.abides_pure trivial
  | cons o os ih =>
      refine (makesEdits_findPolicy o.object).bind fun found _ => ?_
      cases found with
      | none => exact Plan.abides_pure trivial
      | some _ => exact ih

end

/-- **On every event a keeper makes the edits of the event, and no others.** -/
theorem makesEdits_handle {k : Keeper} {known : Policy → Prop} {event : Event}
    (hnew : ∀ x ∈ k.edits event, ∀ name p, k.newPolicy name x.1 = .ok p → known p) :
    k.MakesEdits known (k.edits event) (k.handle event) fun _ => True := by
  have hm : k.Makeable known (k.edits event) := ⟨hnew, k.frame_of_edits event⟩
  cases event with
  | roleCreated role =>
      have hchanges := makesEdits_changes (k := k) .add
        (fun o => .creatingRole role.name o.object.fullName) role hm
      show k.MakesEdits known _ (k.roleCreated role) _
      unfold roleCreated
      split
      · refine (Plan.abides_last (c := .createRole _ _) trivial _).bind fun _ _ => ?_
        exact hchanges.bind fun _ _ => Plan.abides_pure trivial
      · exact hchanges.bind fun _ _ => Plan.abides_pure trivial
  | roleAcquired role => exact makesEdits_allHavePolicies role.securables
  | roleDeleted role =>
      refine (makesEdits_changes (k := k) .remove
        (fun o => .deletingRole role.name o.object.fullName) role hm).bind fun _ _ => ?_
      dsimp only
      split
      · refine (Plan.abides_last (c := .deleteRole _ _) trivial _).bind fun _ _ => ?_
        exact Plan.abides_pure trivial
      · exact Plan.abides_pure trivial
  | roleUpdated role changes =>
      exact (makesEdits_changes id (fun c => .updatingRole role.name c.object.fullName) role
        hm).bind fun _ _ => Plan.abides_pure trivial
  | ownerSet object previous new =>
      exact ((makesEdits_setOwner hm).during _).bind fun _ _ => Plan.abides_pure trivial
  | rolesGranted roles who =>
      refine (Plan.abides_last (c := .createAccount who) trivial _).bind fun _ _ => ?_
      exact makesEdits_grantEach hm roles fun _ h => h
  | rolesRevoked roles who =>
      refine (Plan.abides_forM fun role hrole => makesEdits_revokeRole hm hrole).bind
        fun _ _ => Plan.abides_pure trivial
  | principalAdded who => exact makesEdits_addPrincipal who
  | principalRemoved who => exact makesEdits_removePrincipal who
  | principalAcquired who =>
      exact (Plan.abides_only (c := .findAccounts who) trivial).bind
        fun _ _ => Plan.abides_pure trivial

end Keeper

end PolicyKeeper
