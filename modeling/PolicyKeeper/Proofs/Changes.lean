import PolicyKeeper.Keeper.Event
import PolicyKeeper.Proofs.Shaped
import PolicyKeeper.Proofs.Writing

/-!
# Changes of a role, as edits

Every change of a role is an edit of one policy (`Keeper.edit`): of the only managed policy at the
location of the object, or of a new one. `applyChange_performed` says so once for all three kinds of
change: a change which is not made has not touched the store, and one which is made has written the
edited policy back, or nothing if there was nothing to do (`Keeper.Idle`). An object that is taken
away where there is no policy is an edit of a policy without items. Mostly it is enough to know that
nothing is left unwritten (`applyChange_wrote`), and `applyChange_made` is what this comes to for
the items at each location.
-/

namespace PolicyKeeper

/-- The change is as `replace?` makes it, if it is a replacement. -/
def RoleChange.Proper : RoleChange → Prop
  | .add _ | .remove _ => True
  | .replace old new => replace? old new = .ok (.replace old new)

instance : (change : RoleChange) → Decidable change.Proper
  | .add _ | .remove _ => isTrue trivial
  | .replace _ _ => inferInstanceAs (Decidable (_ = _))

/-- A replacement is of one object. -/
theorem RoleChange.Proper.same_object {old new : Securable}
    (h : (RoleChange.replace old new).Proper) : old.object = new.object := by
  have h' : replace? old new = .ok (.replace old new) := h
  unfold replace? at h'
  split at h'
  · exact absurd h' (by simp)
  · rename_i hsame
    exact Decidable.not_not.mp hsame

/-- The object whose policy is edited. -/
def RoleChange.place : RoleChange → CatalogObject
  | .add o | .remove o | .replace _ o => o.object

/-- Whatever is replaced is of the object that it is replaced with. -/
def RoleChange.OneObject : RoleChange → Prop
  | .add _ | .remove _ => True
  | .replace old new => old.object = new.object

theorem RoleChange.Proper.oneObject {change : RoleChange} (h : change.Proper) :
    change.OneObject := by
  cases change with
  | add _ | remove _ => exact trivial
  | replace old new => exact h.same_object

theorem RoleChange.OneObject.place_eq {change : RoleChange} (h : change.OneObject) :
    change.place = change.object := by
  cases change with
  | add _ | remove _ => rfl
  | replace old new => exact Eq.symm h

/-- The accesses of one effect are those of its privileges, and the table forgets none. -/
theorem ServiceType.mem_accesses {service : ServiceType} {es : List Entitlement} {effect : Effect}
    {a : String} : a ∈ service.accesses es effect
      ↔ ∃ e ∈ es, e.effect = effect ∧ a ∈ service.accessesOf e.privilege := by
  unfold ServiceType.accesses
  rw [List.mem_filter, List.any_eq_true]
  refine ⟨?_, ?_⟩
  · intro h
    obtain ⟨_, e, he, h⟩ := h
    rw [Bool.and_eq_true, beq_iff_eq, List.contains_iff_mem] at h
    exact ⟨e, he, h.1, h.2⟩
  · intro h
    obtain ⟨e, he, heff, ha⟩ := h
    refine ⟨ServiceType.mem_grantedAccesses ha, e, he, ?_⟩
    rw [Bool.and_eq_true, beq_iff_eq, List.contains_iff_mem]
    exact ⟨heff, ha⟩

namespace Keeper

variable {k : Keeper} {s : Store} {role : Role}

/-- The object is at the location, and one of its privileges stands for the access there, with the
effect. -/
def Covers (k : Keeper) (o : Securable) (loc : Location) (effect : Effect) (access : String) :
    Prop :=
  k.layout.Locates o.object loc ∧
    ∃ e ∈ o.entitlements, e.effect = effect ∧ access ∈ k.layout.service.accessesOf e.privilege

theorem covers_iff {o : Securable} {loc loc' : Location} {effect : Effect} {access : String}
    (hloc : k.layout.Locates o.object loc) :
    k.Covers o loc' effect access ↔ loc' = loc ∧ access ∈ k.accesses o effect := by
  unfold Covers accesses
  rw [ServiceType.mem_accesses]
  refine ⟨?_, ?_⟩
  · intro h
    obtain ⟨hloc', he⟩ := h
    exact ⟨hloc'.unique hloc, he⟩
  · intro h
    obtain ⟨rfl, he⟩ := h
    exact ⟨hloc, he⟩

/-- What a change of a role does to the policy of its object. -/
def edit (k : Keeper) (role : Role) : RoleChange → Policy → Policy
  | .add o => k.granted role o
  | .remove o => k.revoked role o
  | .replace old new => fun p => k.granted role new (k.revoked role old p)

/-- The same for the items of one effect. -/
def editItems (k : Keeper) (role : Role) : RoleChange → Effect → List Item → List Item
  | .add o, effect => (k.holder role).grant (k.accesses o effect)
  | .remove o, effect => (k.holder role).revoke (k.accesses o effect)
  | .replace old new, effect => fun items =>
    (k.holder role).grant (k.accesses new effect)
      ((k.holder role).revoke (k.accesses old effect) items)

theorem items_edit (k : Keeper) (role : Role) (change : RoleChange) (p : Policy)
    (effect : Effect) :
    (k.edit role change p).items effect = k.editItems role change effect (p.items effect) := by
  cases change <;> cases effect <;> rfl

theorem edit_frame (k : Keeper) (role : Role) (change : RoleChange) (p : Policy) :
    (k.edit role change p).frame = p.frame := by
  cases change <;> rfl

/-- An edit is a change of the policy only if it is one of its items. -/
theorem edit_eq_self_iff {change : RoleChange} {p : Policy} : k.edit role change p = p
    ↔ ∀ effect, k.editItems role change effect (p.items effect) = p.items effect := by
  refine ⟨fun h effect => by rw [← items_edit, h], fun h => ?_⟩
  refine Policy.ext_items (k.edit_frame role change p) fun effect => ?_
  rw [items_edit, h]

theorem shapely_edit {change : RoleChange} {p : Policy} (h : p.Shapely) :
    (k.edit role change p).Shapely := by
  cases change with
  | add o => exact h.grant _ _
  | remove o => exact h.revoke _ _
  | replace old new => exact (h.revoke _ _).grant _ _

theorem revoke_nil (h : Holder) (accesses : List String) : h.revoke accesses [] = [] := rfl

/-! ## What is in hand is well shaped -/

theorem shapely_of_located {o : CatalogObject} {p : Policy} (h : k.located s o = .ok (some p)) :
    p.Shapely := by
  obtain ⟨_, _, _, _, hshape⟩ := located_some h
  exact checkShape_eq_ok_iff.mp hshape

theorem shapely_of_newPolicy {o : CatalogObject} {name : String} {p : Policy}
    (h : k.newPolicy name o = .ok p) : p.Shapely := by
  obtain ⟨_, _, rfl⟩ := newPolicy_ok h
  exact Policy.shapely_managed _ _ _

theorem shapely_of_inHand {o : CatalogObject} {name : String} {p : Policy}
    (h : k.inHand s name o = .ok p) : p.Shapely := by
  unfold inHand at h
  cases hf : k.located s o with
  | error f =>
      rw [hf] at h
      exact absurd h (by simp [Except.bind])
  | ok found =>
      rw [hf] at h
      cases found with
      | some q =>
          cases h
          exact shapely_of_located hf
      | none => exact shapely_of_newPolicy h

/-! ## What is written -/

/-- The service knows the privileges that the change grants. -/
def Admits (k : Keeper) : RoleChange → Prop
  | .add o | .replace _ o => k.layout.service.checkPrivileges o = .ok ()
  | .remove _ => True

/-- The change was made: the policy in hand was edited and written back, or the edit was none. -/
def Wrote (k : Keeper) (role : Role) (change : RoleChange) (s s' : Store) : Prop :=
  k.Admits change ∧ ∃ loc p, k.layout.Locates change.place loc ∧ k.Site s loc p ∧ p.Shapely
    ∧ ((k.edit role change p = p ∧ s' = s) ∨ s' = s.wroteBack (k.edit role change p))

/-- The change has nothing to do in the policy. What a replacement takes away and grants again is
something to do. -/
def Idle (k : Keeper) (role : Role) : RoleChange → Policy → Prop
  | .add o, p => k.granted role o p = p
  | .remove o, p => k.revoked role o p = p
  | .replace old new, p =>
    k.revoked role old p = p ∧ k.granted role new (k.revoked role old p) = k.revoked role old p

/-- The change was made, and the edited policy was written back exactly if there was something to
do. -/
def Performed (k : Keeper) (role : Role) (change : RoleChange) (s s' : Store) : Prop :=
  k.Admits change ∧ ∃ loc p, k.layout.Locates change.place loc ∧ k.Site s loc p ∧ p.Shapely
    ∧ ((k.Idle role change p ∧ s' = s)
      ∨ ¬ k.Idle role change p ∧ s' = s.wroteBack (k.edit role change p))

theorem Idle.edit_eq {change : RoleChange} {p : Policy} (h : k.Idle role change p) :
    k.edit role change p = p := by
  cases change with
  | add o | remove o => exact h
  | replace old new => exact Eq.trans h.2 h.1

theorem Performed.wrote {change : RoleChange} {s' : Store} (h : k.Performed role change s s') :
    k.Wrote role change s s' := by
  obtain ⟨hadmits, loc, p, hloc, hsite, hshape, hwrite⟩ := h
  refine ⟨hadmits, loc, p, hloc, hsite, hshape, ?_⟩
  exact hwrite.imp (fun h => ⟨h.1.edit_eq, h.2⟩) And.right

/-- Writing an edited policy back if there is something to do. -/
theorem Site.writeBack {loc : Location} {p : Policy} (h : k.Site s loc p) (change : RoleChange)
    (hloc : k.layout.Locates change.place loc) (hs : p.Shapely) (hadmits : k.Admits change)
    (c : Prop) [Decidable c] (hc : c ↔ k.Idle role change p) :
    Plan.AllOrNothing Store.perform
      (if c then pure () else Keeper.persist (k.edit role change p)) s
      (k.Performed role change s) := by
  by_cases hidle : c
  · rw [if_pos hidle]
    exact Plan.allOrNothing_pure ⟨hadmits, loc, p, hloc, h, hs, Or.inl ⟨hc.mp hidle, rfl⟩⟩
  · rw [if_neg hidle]
    refine (h.persist (k.edit_frame role change p)).imp fun s' hs' => ?_
    exact ⟨hadmits, loc, p, hloc, h, hs, Or.inr ⟨fun h => hidle (hc.mpr h), hs'⟩⟩

theorem addObject_performed (hk : s.Keyed) {o : Securable} (hl : k.layout.Legible o.object) :
    Plan.AllOrNothing Store.perform (k.addObject role o) s (k.Performed role (.add o) s) := by
  refine Plan.allOrNothing_bind (Plan.run_ofResult _ _ _) fun _ hcheck => ?_
  refine Plan.allOrNothing_bind (run_policyOrNew hl role.name s) fun p hp => ?_
  obtain ⟨loc, hloc, hsite⟩ := site_of_inHand hk (Plan.ofResult_eq_ok hp)
  exact hsite.writeBack (.add o) hloc (shapely_of_inHand (Plan.ofResult_eq_ok hp))
    (Plan.ofResult_eq_ok hcheck) _ Iff.rfl

theorem removeObject_performed (hk : s.Keyed) {o : Securable} (hl : k.layout.Legible o.object) :
    Plan.AllOrNothing Store.perform (k.removeObject role o) s
      (k.Performed role (.remove o) s) := by
  refine Plan.allOrNothing_bind (run_findPolicy hl s) fun found hfound => ?_
  have hlocated := Plan.ofResult_eq_ok hfound
  cases found with
  | none =>
      -- nothing to do, as for a policy without items
      obtain ⟨loc, hloc, hv⟩ := located_none hlocated
      obtain ⟨p, hnew, hsite⟩ := site_of_newPolicy role.name hloc hv
      have hidle : k.edit role (.remove o) p = p := by
        refine edit_eq_self_iff.mpr fun effect => ?_
        rw [hsite.items_of_vacant hv]
        exact revoke_nil _ _
      exact Plan.allOrNothing_pure
        ⟨trivial, loc, p, hloc, hsite, shapely_of_newPolicy hnew, Or.inl ⟨hidle, rfl⟩⟩
  | some p =>
      obtain ⟨loc, hloc, hsite⟩ := site_of_located hk hlocated
      exact hsite.writeBack (.remove o) hloc (shapely_of_located hlocated) trivial _ Iff.rfl

theorem replaceObject_performed (hk : s.Keyed) {old new : Securable}
    (hl : k.layout.Legible new.object) :
    Plan.AllOrNothing Store.perform (k.replaceObject role old new) s
      (k.Performed role (.replace old new) s) := by
  refine Plan.allOrNothing_bind (Plan.run_ofResult _ _ _) fun _ hcheck => ?_
  refine Plan.allOrNothing_bind (run_policyOrNew hl role.name s) fun p hp => ?_
  obtain ⟨loc, hloc, hsite⟩ := site_of_inHand hk (Plan.ofResult_eq_ok hp)
  exact hsite.writeBack (.replace old new) hloc
    (shapely_of_inHand (Plan.ofResult_eq_ok hp)) (Plan.ofResult_eq_ok hcheck) _ Iff.rfl

theorem addObject_wrote (hk : s.Keyed) {o : Securable} (hl : k.layout.Legible o.object) :
    Plan.AllOrNothing Store.perform (k.addObject role o) s (k.Wrote role (.add o) s) :=
  (addObject_performed hk hl).imp fun _ => Performed.wrote

theorem removeObject_wrote (hk : s.Keyed) {o : Securable} (hl : k.layout.Legible o.object) :
    Plan.AllOrNothing Store.perform (k.removeObject role o) s (k.Wrote role (.remove o) s) :=
  (removeObject_performed hk hl).imp fun _ => Performed.wrote

/-- **A change is made by one write if there is something to do, and by none if not**, or nothing
has happened. -/
theorem applyChange_performed (hk : s.Keyed) {change : RoleChange}
    (hl : k.layout.Legible change.place) :
    Plan.AllOrNothing Store.perform (k.applyChange role change) s
      (k.Performed role change s) := by
  cases change with
  | add o => exact addObject_performed hk hl
  | remove o => exact removeObject_performed hk hl
  | replace old new => exact replaceObject_performed hk hl

/-- **A change is made by one write at most, or nothing has happened.** -/
theorem applyChange_wrote (hk : s.Keyed) {change : RoleChange}
    (hl : k.layout.Legible change.place) :
    Plan.AllOrNothing Store.perform (k.applyChange role change) s (k.Wrote role change s) :=
  (applyChange_performed hk hl).imp fun _ => Performed.wrote

/-- The one change of the event was made. -/
theorem wrote_of_roleUpdated {change : RoleChange} (hk : s.Keyed)
    (hl : k.layout.Legible change.place)
    (hrun : (k.handle (.roleUpdated role [change])).run Store.perform s = (.ok true, s')) :
    k.Wrote role change s s' := by
  obtain ⟨_, s₁, hchanges, hend⟩ := Plan.run_bind_ok hrun
  obtain ⟨_, s₂, hone, hnone⟩ := Plan.run_bind_ok hchanges
  cases hend
  cases hnone
  exact (applyChange_wrote hk hl).of_run (Plan.run_during_ok hone)

/-! ## What becomes of the items -/

/-- The change was made: the policy at the location of its object was edited, and no other. -/
def Made (k : Keeper) (role : Role) (change : RoleChange) (s s' : Store) : Prop :=
  ∃ loc p, k.layout.Locates change.object loc ∧ k.Site s loc p
    ∧ k.Edited s loc (k.edit role change p) s'

/-- Whether or not it took a write, the location has the items of the edited policy. -/
theorem Wrote.edited (hk : s.Keyed) {change : RoleChange} {s' : Store}
    (h : k.Wrote role change s s') : ∃ loc p, k.layout.Locates change.place loc ∧ k.Site s loc p
      ∧ p.Shapely ∧ k.Edited s loc (k.edit role change p) s' := by
  obtain ⟨_, loc, p, hloc, hsite, hshape, hwrite⟩ := h
  refine ⟨loc, p, hloc, hsite, hshape, ?_⟩
  rcases hwrite with ⟨hsame, rfl⟩ | rfl
  · rw [hsame]
    exact hsite.edited
  · obtain ⟨_, hw⟩ := hsite.rewritten hk (k.edit_frame role change p)
    exact hw.edited (hsite.manages.of_frame (k.edit_frame role change p))

theorem Wrote.made (hk : s.Keyed) {change : RoleChange} {s' : Store} (hone : change.OneObject)
    (h : k.Wrote role change s s') : k.Made role change s s' := by
  obtain ⟨loc, p, hloc, hsite, _, hedited⟩ := h.edited hk
  exact ⟨loc, p, hone.place_eq ▸ hloc, hsite, hedited⟩

/-- **A change is made, or nothing has happened.** -/
theorem applyChange_made (hk : s.Keyed) {change : RoleChange} (hp : change.Proper)
    (hl : k.layout.Legible change.object) :
    Plan.AllOrNothing Store.perform (k.applyChange role change) s (k.Made role change s) :=
  (applyChange_wrote hk (hp.oneObject.place_eq ▸ hl)).imp fun _ h => h.made hk hp.oneObject

end Keeper

end PolicyKeeper
