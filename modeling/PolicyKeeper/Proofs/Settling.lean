import PolicyKeeper.Proofs.Changes

/-!
# Nothing left to do

An object that a role has gained or lost is settled: what it stands for is in the items at its
location, or none of it is (`Keeper.Settled`). A change that is made settles its object, and changes
of the same kind do not unsettle it, whichever locations they share. Making the change again where
its object is settled changes nothing at all, not even what the store has counted.

This does not hold of replacements. What one of them grants, another may take away.
-/

namespace PolicyKeeper

namespace Holder

variable {h : Holder} {a b : String} {i j : Item} {items : List Item}
  {accesses others : List String}

/-- Granting any of the accesses changes nothing. -/
def HasAll (h : Holder) (accesses : List String) (items : List Item) : Prop :=
  ∀ a ∈ accesses, h.grantAccess a items = items

/-- None of the items is for one of the accesses and has the holder in it. -/
def HasNone (h : Holder) (accesses : List String) (items : List Item) : Prop :=
  ∀ i ∈ items, (i.access?.any accesses.contains && h.holds i) = false

/-! ## Granting again -/

theorem enter_newItem : h.enter (h.newItem a) = h.newItem a := by
  cases h with
  | placeholder => rfl
  | role name => exact if_pos (List.contains_iff_mem.mpr (List.mem_singleton_self name))

theorem enter_enter : h.enter (h.enter i) = h.enter i := by
  cases h with
  | placeholder => rfl
  | role name =>
      by_cases hin : i.roles.contains name = true
      · have hsame : (role name).enter i = i := if_pos hin
        rw [hsame, hsame]
      · have hadded : (role name).enter i = { i with roles := i.roles ++ [name] } := if_neg hin
        rw [hadded]
        exact if_pos (List.contains_iff_mem.mpr
          (List.mem_append_right _ (List.mem_singleton_self name)))

theorem grantsAccess_congr (hkey : j.key = i.key) : grantsAccess a j = grantsAccess a i := by
  rw [Bool.eq_iff_iff, grantsAccess_iff_key, grantsAccess_iff_key, hkey]

/-- An access that was granted is not granted again, -/
theorem grantAccess_grantAccess :
    h.grantAccess a (h.grantAccess a items) = h.grantAccess a items := by
  induction items with
  | nil =>
      have hnew : grantsAccess a (h.newItem a) = true := grantsAccess_iff_key.mpr newItem_key
      rw [grantAccess, grantAccess, if_pos hnew, enter_newItem]
  | cons i items ih =>
      rw [grantAccess]
      split
      · rename_i hi
        rw [grantAccess, if_pos ((grantsAccess_congr enter_key).trans hi), enter_enter]
      · rename_i hi
        rw [grantAccess, if_neg hi, ih]

/-- nor if others are granted in between. -/
theorem grantAccess_after (ha : h.grantAccess a items = items) :
    h.grantAccess a (h.grantAccess b items) = h.grantAccess b items := by
  induction items with
  | nil => exact absurd ha (List.cons_ne_nil _ _)
  | cons i items ih =>
      rw [grantAccess] at ha
      by_cases hai : grantsAccess a i = true
      · rw [if_pos hai] at ha
        have henter : h.enter i = i := (List.cons.inj ha).1
        rw [grantAccess, henter]
        split
        · rw [grantAccess, if_pos hai, henter]
        · rw [grantAccess, if_pos hai, henter]
      · rw [if_neg hai] at ha
        have hrest := (List.cons.inj ha).2
        rw [grantAccess]
        split
        · have hnot : ¬ grantsAccess a (h.enter i) = true := by
            rwa [grantsAccess_congr enter_key]
          rw [grantAccess, if_neg hnot, hrest]
        · rw [grantAccess, if_neg hai, ih hrest]

theorem HasAll.grant (hall : h.HasAll accesses items) (others : List String) :
    h.HasAll accesses (h.grant others items) := by
  unfold Holder.grant
  induction others generalizing items with
  | nil => exact hall
  | cons b others ih => exact ih fun a ha => grantAccess_after (hall a ha)

theorem hasAll_grant : h.HasAll accesses (h.grant accesses items) := by
  induction accesses generalizing items with
  | nil => exact fun a ha => absurd ha List.not_mem_nil
  | cons a accesses ih =>
      intro b hb
      rcases List.mem_cons.mp hb with rfl | hb
      · -- granted first, and the others after it
        have hone : h.HasAll [b] (h.grantAccess b items) := fun a ha => by
          rw [List.mem_singleton.mp ha]
          exact grantAccess_grantAccess
        exact hone.grant accesses b (List.mem_singleton_self b)
      · exact ih b hb

theorem HasAll.grant_eq (hall : h.HasAll accesses items) : h.grant accesses items = items := by
  unfold Holder.grant
  induction accesses with
  | nil => rfl
  | cons a accesses ih =>
      rw [List.foldl_cons, hall a List.mem_cons_self]
      exact ih fun b hb => hall b (List.mem_cons_of_mem _ hb)

/-! ## Revoking again -/

/-- What is left of an item has not got the holder in it, if it had. -/
theorem holds_of_leave (hleave : h.leave i = some j) : h.holds j = false := by
  cases h with
  | placeholder => exact absurd hleave (by simp [leave])
  | role name =>
      unfold leave at hleave
      dsimp only at hleave
      split at hleave
      · exact absurd hleave (by simp)
      · cases hleave
        have hnot : (i.roles.filter (· != name)).contains name = false := by
          refine Bool.eq_false_iff.mpr fun hin => ?_
          have hne := (List.mem_filter.mp (List.contains_iff_mem.mp hin)).2
          exact absurd rfl (bne_iff_ne.mp hne)
        show (!i.isOwner && (i.roles.filter (· != name)).contains name) = false
        rw [hnot, Bool.and_false]

/-- Revoking changes an item only if it is for one of the accesses and has the holder in it, and
then it has not afterwards. -/
theorem revokeItem_some (hrevoke : h.revokeItem accesses i = some j) :
    j.access? = i.access? ∧ (h.holds j = true → j = i)
      ∧ (j.access?.any accesses.contains && h.holds j) = false := by
  have hkey : j.access? = i.access? := congrArg Prod.snd (revokeItem_key hrevoke)
  unfold revokeItem at hrevoke
  split at hrevoke
  · have hnot := holds_of_leave hrevoke
    refine ⟨hkey, fun hin => absurd hin (by rw [hnot]; simp), by rw [hnot, Bool.and_false]⟩
  · rename_i hc
    cases hrevoke
    exact ⟨rfl, fun _ => rfl, Bool.eq_false_iff.mpr hc⟩

theorem hasNone_revoke : h.HasNone accesses (h.revoke accesses items) := by
  intro j hj
  obtain ⟨i, _, hrevoke⟩ := List.mem_filterMap.mp hj
  exact (revokeItem_some hrevoke).2.2

theorem HasNone.revoke (hnone : h.HasNone accesses items) (others : List String) :
    h.HasNone accesses (h.revoke others items) := by
  intro j hj
  obtain ⟨i, hi, hrevoke⟩ := List.mem_filterMap.mp hj
  obtain ⟨haccess, hsame, _⟩ := revokeItem_some hrevoke
  cases hholds : h.holds j with
  | false => rw [Bool.and_false]
  | true =>
      obtain rfl := hsame hholds
      rw [← hholds]
      exact hnone j hi

theorem HasNone.revoke_eq (hnone : h.HasNone accesses items) : h.revoke accesses items = items := by
  have hsome : ∀ i ∈ items, h.revokeItem accesses i = some i := by
    intro i hi
    rw [revokeItem, hnone i hi]
    rfl
  unfold Holder.revoke
  rw [List.filterMap_congr hsome, List.filterMap_some]

end Holder

/-- Both changes add, or both remove. -/
def RoleChange.Alike : RoleChange → RoleChange → Prop
  | add _, add _ | remove _, remove _ => True
  | _, _ => False

namespace Keeper

variable {k : Keeper} {s s' : Store} {role : Role} {change other : RoleChange} {effect : Effect}
  {items : List Item} {loc loc' : Location} {p p' q : Policy}

/-! ## Items at rest -/

/-- The change has nothing to do in the items. -/
def Rests (k : Keeper) (role : Role) : RoleChange → Effect → List Item → Prop
  | .add o, effect, items => (k.holder role).HasAll (k.accesses o effect) items
  | .remove o, effect, items => (k.holder role).HasNone (k.accesses o effect) items
  | .replace _ _, _, _ => False

theorem rests_edit (h : change.Alike change) :
    k.Rests role change effect (k.editItems role change effect items) := by
  cases change with
  | add o => exact Holder.hasAll_grant
  | remove o => exact Holder.hasNone_revoke
  | replace old new => exact absurd h id

theorem Rests.edit (h : k.Rests role change effect items) (halike : change.Alike other) :
    k.Rests role change effect (k.editItems role other effect items) := by
  cases change with
  | add o =>
      cases other with
      | add o' => exact Holder.HasAll.grant h _
      | remove _ | replace _ _ => exact absurd halike id
  | remove o =>
      cases other with
      | remove o' => exact Holder.HasNone.revoke h _
      | add _ | replace _ _ => exact absurd halike id
  | replace _ _ => exact absurd h id

theorem Rests.edit_eq (h : k.Rests role change effect items) :
    k.editItems role change effect items = items := by
  cases change with
  | add o => exact Holder.HasAll.grant_eq h
  | remove o => exact Holder.HasNone.revoke_eq h
  | replace _ _ => exact absurd h id

/-! ## Objects that are settled -/

/-- The change has nothing to do at the location of its object. -/
def Settled (k : Keeper) (role : Role) (change : RoleChange) (s : Store) : Prop :=
  k.Admits change ∧ ∃ loc p, k.layout.Locates change.place loc ∧ k.Site s loc p ∧ p.Shapely
    ∧ ∀ effect, k.Rests role change effect (p.items effect)

/-- **A change that is made settles its object.** -/
theorem Wrote.settled (hk : s.Keyed) (h : k.Wrote role change s s')
    (halike : change.Alike change) : k.Settled role change s' := by
  obtain ⟨hadmits, loc, p, hloc, hsite, hshape, hwrite⟩ := h
  refine ⟨hadmits, loc, ?_⟩
  rcases hwrite with ⟨hsame, rfl⟩ | rfl
  · refine ⟨p, hloc, hsite, hshape, fun effect => ?_⟩
    rw [← edit_eq_self_iff.mp hsame effect]
    exact rests_edit halike
  · obtain ⟨id, hafter⟩ := hsite.after hk (k.edit_frame role change p)
    refine ⟨_, hloc, hafter, shapely_edit hshape, fun effect => ?_⟩
    have hrests : k.Rests role change effect ((k.edit role change p).items effect) := by
      rw [items_edit]
      exact rests_edit halike
    cases effect with
    | allow => exact hrests
    | deny => exact hrests

/-- **It stays settled when alike changes are made**, at its location or elsewhere. -/
theorem Settled.wrote (hk : s.Keyed) (h : k.Settled role change s)
    (hother : k.Wrote role other s s') (halike : change.Alike other) :
    k.Settled role change s' := by
  obtain ⟨hadmits, loc, q, hloc, hq, hqshape, hrests⟩ := h
  obtain ⟨_, loc', p, _, hsite, hshape, hwrite⟩ := hother
  rcases hwrite with ⟨_, rfl⟩ | rfl
  · exact ⟨hadmits, loc, q, hloc, hq, hqshape, hrests⟩
  · have hf := k.edit_frame role other p
    by_cases hne : loc = loc'
    · subst hne
      -- two objects at one location are in one policy, whichever of them it was found for
      have hitems : ∀ effect, p.items effect = q.items effect := hsite.items_eq hq
      obtain ⟨id, hafter⟩ := hsite.after hk hf
      refine ⟨hadmits, loc, _, hloc, hafter, shapely_edit hshape, fun effect => ?_⟩
      have hrests' : k.Rests role change effect ((k.edit role other p).items effect) := by
        rw [items_edit, hitems]
        exact (hrests effect).edit halike
      cases effect with
      | allow => exact hrests'
      | deny => exact hrests'
    · exact ⟨hadmits, loc, q, hloc, hsite.elsewhere hk hf hne hq, hqshape, hrests⟩

/-! ## Changing again -/

/-- What is at a location is taken in hand again, with the same items. -/
theorem inHand_of_site (hk : s.Keyed) {o : CatalogObject} (hloc : k.layout.Locates o loc)
    (h : k.Site s loc p) (hshape : p.Shapely) (name : String) :
    ∃ q, k.inHand s name o = .ok q ∧ ∀ effect, q.items effect = p.items effect := by
  unfold inHand
  cases h with
  | found only _ =>
      rw [located_of_only hk.nodup hloc only (checkShape_eq_ok_iff.mpr hshape)]
      exact ⟨p, rfl, fun _ => rfl⟩
  | fresh vacant hid manages hitems =>
      rw [located_of_vacant hloc vacant]
      obtain ⟨q, hq, hsite⟩ := site_of_newPolicy name hloc vacant
      refine ⟨q, hq, fun effect => (hsite.items_of_vacant vacant effect).trans ?_⟩
      exact (Policy.items_of_hasNoItems hitems effect).symm

/-- An edit of items at rest is none. -/
theorem edit_eq_self_of_rests (hrests : ∀ effect, k.Rests role change effect (p.items effect))
    (hitems : ∀ effect, q.items effect = p.items effect) : k.edit role change q = q := by
  refine edit_eq_self_iff.mpr fun effect => ?_
  rw [hitems]
  exact (hrests effect).edit_eq

/-- **Where the object is settled, the change is made again without doing anything.** -/
theorem Settled.run (hk : s.Keyed) (h : k.Settled role change s)
    (hl : k.layout.Legible change.place) :
    (k.applyChange role change).run Store.perform s = (.ok (), s) := by
  obtain ⟨hadmits, loc, p, hloc, hsite, hshape, hrests⟩ := h
  cases change with
  | add o =>
      have hl : k.layout.Legible o.object := hl
      have hloc : k.layout.Locates o.object loc := hloc
      have hcheck : k.layout.service.checkPrivileges o = .ok () := hadmits
      obtain ⟨q, hq, hitems⟩ := inHand_of_site hk hloc hsite hshape role.name
      have hsame : k.granted role o q = q := edit_eq_self_of_rests hrests hitems
      show (k.addObject role o).run Store.perform s = _
      unfold addObject
      rw [Plan.run_bind, Plan.run_ofResult, hcheck]
      show (k.policyOrNew role.name o.object >>= _).run Store.perform s = _
      rw [Plan.run_bind, run_policyOrNew hl, hq]
      show (if k.granted role o q = q then _ else _ : Plan Unit).run Store.perform s = _
      rw [if_pos hsame]
      rfl
  | remove o =>
      have hl : k.layout.Legible o.object := hl
      have hloc : k.layout.Locates o.object loc := hloc
      show (k.removeObject role o).run Store.perform s = _
      unfold removeObject
      rw [Plan.run_bind, run_findPolicy hl]
      cases hsite with
      | found only _ =>
          rw [located_of_only hk.nodup hloc only (checkShape_eq_ok_iff.mpr hshape)]
          have hsame : k.revoked role o p = p := edit_eq_self_of_rests hrests fun _ => rfl
          show (if k.revoked role o p = p then _ else _ : Plan Unit).run Store.perform s = _
          rw [if_pos hsame]
          rfl
      | fresh vacant _ _ _ =>
          rw [located_of_vacant hloc vacant]
          rfl
  | replace _ _ => exact absurd (hrests .allow) id

/-- Being settled is a matter of the policies alone. -/
theorem Settled.congr (h : k.Settled role change s) (hsame : s'.policies = s.policies) :
    k.Settled role change s' := by
  obtain ⟨hadmits, loc, p, hloc, hsite, hrest⟩ := h
  exact ⟨hadmits, loc, p, hloc, hsite.congr hsame, hrest⟩

end Keeper

end PolicyKeeper
