import PolicyKeeper.Proofs.Retrying
import PolicyKeeper.Proofs.Withdrawing

/-!
# Leaving the placeholder behind

In owner-placeholder mode an object that a role gains should leave the placeholder in an item for
each of its accesses, where those who are granted the role later can be attached. The keeper adds an
item with the placeholder in it if there is none for the access. An item of roles that is there it
takes as it is, whoever is in it.

So the placeholder is there afterwards exactly if no item of roles for the access was there without
it. An item can have come from a keeper in role mode, or from elsewhere, and then it has not got the
placeholder, and nobody will be attached to it (`not_attached_viewer`). Items that a keeper makes in
owner-placeholder mode all have (`Keeper.ReachedBy.placed`).
-/

namespace PolicyKeeper

/-- The object that a role gains by a change. -/
def RoleChange.gained? : RoleChange → Option Securable
  | .add o | .replace _ o => some o
  | .remove _ => none

theorem RoleChange.place_of_gained {change : RoleChange} {o : Securable}
    (hgained : change.gained? = some o) : change.place = o.object := by
  cases change with
  | add o' | replace old o' =>
      cases hgained
      rfl
  | remove o' => exact absurd hgained (by simp [gained?])

namespace Holder

variable {a : String} {old accesses : List String} {items : List Item}

/-- **The placeholder is in an item for a granted access** exactly if it was in every one before. -/
theorem placeholder_mem_grant (hs : Shaped items) (ha : a ∈ accesses) :
    (∃ i ∈ placeholder.grant accesses items,
        grantsAccess a i = true ∧ PolicyKeeper.placeholder ∈ i.users)
      ↔ ∀ i ∈ items, grantsAccess a i = true → PolicyKeeper.placeholder ∈ i.users := by
  refine ⟨?_, ?_⟩
  · intro h j hj hjgrants
    obtain ⟨i, hi, hgrants, hplace⟩ := h
    rcases mem_grant_placeholder.mp hi with hi | ⟨b, _, hnone, rfl⟩
    · rwa [hs.grants_unique hj hi hjgrants hgrants]
    · -- a new item is for an access that none was for
      obtain rfl := grantsAccess_newItem.mp hgrants
      exact absurd hjgrants (Bool.eq_false_iff.mp (hnone j hj))
  · intro h
    by_cases hsome : ∃ j ∈ items, grantsAccess a j = true
    · obtain ⟨j, hj, hgrants⟩ := hsome
      exact ⟨j, mem_grant_placeholder.mpr (Or.inl hj), hgrants, h j hj hgrants⟩
    · have hnone : ∀ j ∈ items, grantsAccess a j = false := fun j hj =>
        Bool.eq_false_iff.mpr fun hgrants => hsome ⟨j, hj, hgrants⟩
      exact ⟨placeholder.newItem a, mem_grant_placeholder.mpr (Or.inr ⟨a, ha, hnone, rfl⟩),
        grantsAccess_newItem.mpr rfl, List.mem_singleton_self _⟩

/-- What is revoked before makes no difference, since only items with the placeholder go. -/
theorem placeholder_mem_revoke :
    (∀ i ∈ placeholder.revoke old items,
        grantsAccess a i = true → PolicyKeeper.placeholder ∈ i.users)
      ↔ ∀ i ∈ items, grantsAccess a i = true → PolicyKeeper.placeholder ∈ i.users := by
  refine ⟨?_, ?_⟩
  · intro h i hi hgrants
    by_contra hnot
    have hkept : i.isPlaceholderOf old = false :=
      Bool.eq_false_iff.mpr fun hplace => hnot (Item.isPlaceholderOf_iff.mp hplace).2.2
    exact hnot (h i (mem_revoke_placeholder.mpr ⟨hi, hkept⟩) hgrants)
  · intro h i hi
    exact h i (mem_revoke_placeholder.mp hi).1

end Holder

namespace Keeper

variable {k : Keeper} {s t : Store} {role : Role} {change : RoleChange} {o : Securable}

theorem placeholder_mem_editItems (role : Role) (hmode : k.mode = .ownerPlaceholder)
    (hgained : change.gained? = some o) {effect : Effect} {a : String}
    (ha : a ∈ k.accesses o effect) {items : List Item} (hs : Shaped items) :
    (∃ i ∈ k.editItems role change effect items,
        Holder.grantsAccess a i = true ∧ placeholder ∈ i.users)
      ↔ ∀ i ∈ items, Holder.grantsAccess a i = true → placeholder ∈ i.users := by
  cases change with
  | add o' =>
      cases hgained
      rw [editItems, holder, hmode]
      exact Holder.placeholder_mem_grant hs ha
  | replace old o' =>
      cases hgained
      rw [editItems, holder, hmode]
      exact (Holder.placeholder_mem_grant (Holder.shaped_revoke hs) ha).trans
        Holder.placeholder_mem_revoke
  | remove o' => exact absurd hgained (by simp [RoleChange.gained?])

/-- **Where the placeholder is left behind.** In owner-placeholder mode, whenever an object was
added to a role, or was what another was replaced with, and that went well:

* for each access that it needs, the placeholder is in an item of roles for it exactly if it was in
  every such item before, and so in particular if there was none;
* in a store that the keeper has made, by events in which nobody asks for the placeholder to be
  granted a role or to lose one, it is there for each. -/
theorem attached_placeholder_iff (hmode : k.mode = .ownerPlaceholder) (hs : s.Built)
    (hgained : change.gained? = some o) (hl : k.layout.Legible o.object)
    (hrun : (k.applyChange role change).run Store.perform s = (.ok (), t)) :
    (∀ n ∈ k.needsOf o, k.Attached t n .placeholder
        ↔ ∀ i, k.HasItem s n.location n.effect i →
          Holder.grantsAccess n.access i = true → placeholder ∈ i.users)
      ∧ (k.ReachedBy Event.SparesPlaceholder s →
        ∀ n ∈ k.needsOf o, k.Attached t n .placeholder) := by
  have hplace : change.place = o.object := RoleChange.place_of_gained hgained
  have hwrote : k.Wrote role change s t :=
    (applyChange_wrote hs.keyed (hplace ▸ hl)).of_run hrun
  obtain ⟨loc, p, hloc, hsite, hshape, hafter⟩ := hwrote.edited hs.keyed
  have hiff : ∀ n ∈ k.needsOf o, k.Attached t n .placeholder
      ↔ ∀ i, k.HasItem s n.location n.effect i →
        Holder.grantsAccess n.access i = true → placeholder ∈ i.users := by
    -- what is needed is all at one location, where the edited policy has the items
    rintro ⟨loc', effect, a⟩ hn
    obtain ⟨rfl, ha⟩ := (covers_iff (hplace ▸ hloc)).mp hn
    have hbefore : ∀ i, k.HasItem s loc' effect i ↔ i ∈ p.items effect := hsite.edited.here effect
    have hedited := placeholder_mem_editItems role hmode hgained ha (hshape.items effect)
    rw [← items_edit] at hedited
    exact hafter.exists_here.trans (hedited.trans (forall_congr' fun i => by rw [hbefore]))
  refine ⟨hiff, fun hreached n hn => (hiff n hn).mpr fun i hi hgrants => ?_⟩
  obtain ⟨e, he, _, hi⟩ := hi
  exact (hreached.placed hmode e he).items n.effect i hi (Holder.grantsAccess_iff.mp hgrants).1

/-- A role that gains the schema of the shared policy. -/
def viewer : Role := { name := "viewer", securables := [browsing] }

def withViewer : Store :=
  ((ofOwners.applyChange viewer (.add browsing)).run Store.perform withShared).2

def withViewerGranted : Store :=
  ((ofOwners.handle (.rolesGranted [viewer] ⟨.user, "alice"⟩)).run Store.perform withViewer).2

theorem viewer_added : (ofOwners.applyChange viewer (.add browsing)).run Store.perform withShared
    = (.ok (), withViewer) := Plan.run_eq_ok (by decide +kernel)

/-- Making tables in the schema is the other access that it needs. -/
def making : Need := ⟨(Fields.ofPairs [("database", "db")]).get?, .allow, "create"⟩

theorem making_needed : making ∈ ofOwners.needsOf browsing := by
  have hloc : ofOwners.layout.Locates browsing.object making.location :=
    Layout.locates_of_toOption (by decide +kernel)
  exact ⟨hloc, ⟨.createTable, .allow⟩, List.mem_map_of_mem (by decide), rfl, by decide +kernel⟩

/-- **Adding an object can go well and leave no placeholder behind.** The auditor's item is for the
same access, so it is taken as it is, and whoever is granted the role later cannot look at the
schema. -/
theorem not_attached_viewer :
    (ofOwners.applyChange viewer (.add browsing)).run Store.perform withShared
        = (.ok (), withViewer)
      ∧ looking ∈ ofOwners.needsOf browsing
      ∧ ¬ ofOwners.Attached withViewer looking .placeholder
      ∧ (ofOwners.handle (.rolesGranted [viewer] ⟨.user, "alice"⟩)).run Store.perform withViewer
        = (.ok true, withViewerGranted)
      ∧ ¬ ofOwners.Attached withViewerGranted looking ⟨.user, "alice"⟩ := by
  refine ⟨viewer_added, looking_needed (by decide), fun h => ?_,
    Plan.run_eq_ok (by decide +kernel), fun h => ?_⟩
  · exact absurd (attaches_iff.mpr h) (by decide +kernel)
  · exact absurd (attaches_iff.mpr h) (by decide +kernel)

/-- No item was there for making tables, so the placeholder is in one now. One for looking at the
schema was, without the placeholder. -/
theorem attached_placeholder_iff_viewer :
    (∀ i, ofOwners.HasItem withShared making.location making.effect i →
        Holder.grantsAccess making.access i = true → placeholder ∈ i.users)
      ∧ ¬ ∀ i, ofOwners.HasItem withShared looking.location looking.effect i →
        Holder.grantsAccess looking.access i = true → placeholder ∈ i.users := by
  have hgained : (RoleChange.add browsing).gained? = some browsing := rfl
  have hiff := (attached_placeholder_iff (k := ofOwners) rfl sharedPolicy_built hgained
    (by decide +kernel) viewer_added).1
  have hmaking : ofOwners.Attached withViewer making .placeholder :=
    attaches_iff.mp (by decide +kernel)
  refine ⟨(hiff making making_needed).mp hmaking, fun h => ?_⟩
  have hlooking := (hiff looking (looking_needed (by decide))).mpr h
  exact absurd (attaches_iff.mpr hlooking) (by decide +kernel)

end Keeper

end PolicyKeeper
