import PolicyKeeper.Proofs.Adding
import PolicyKeeper.Proofs.Locating
import PolicyKeeper.Proofs.Replacing
import PolicyKeeper.Proofs.Retrying

/-!
# Replacing is taking away and adding

What a role may do with an object is replaced in one write. Taking the old away first and adding the
new then may take two, and the policy may go in between and come back under another id and another
name. At the location it comes to the same.

That is so because nothing is read of a policy in hand but its lists of items. Policies that agree
in those are changed alike (`idle_congr`, `itemLists_edit_congr`), and all that can be in hand for
one location do agree (`Site.itemLists_eq`). So both ways can be followed from one policy, however
it was come by. The lists do not tell whether a policy is there at all: one without items may have
been there before, and stays as long as nothing is written (`Yields.vacant`).
-/

namespace PolicyKeeper

/-- The lists of an edited policy come from its own. -/
theorem Policy.itemLists_mapItems {p q : Policy} (f : Effect → List Item → List Item)
    (h : p.itemLists = q.itemLists) : (p.mapItems f).itemLists = (q.mapItems f).itemLists := by
  simp only [itemLists, List.cons.injEq, Prod.mk.injEq, true_and, and_true] at h
  obtain ⟨hallow, hdeny, hrest⟩ := h
  simp only [itemLists, mapItems, hallow, hdeny, hrest]

namespace Keeper

variable {k : Keeper} {s t u v : Store} {role : Role} {change : RoleChange} {loc : Location}
  {p q : Policy} {o old new : Securable}

/-! ## Changes of policies with the same lists -/

theorem itemLists_edit_congr (change : RoleChange) (h : p.itemLists = q.itemLists) :
    (k.edit role change p).itemLists = (k.edit role change q).itemLists := by
  cases change with
  | add o | remove o => exact Policy.itemLists_mapItems _ h
  | replace old new => exact Policy.itemLists_mapItems _ (Policy.itemLists_mapItems _ h)

theorem edit_eq_self_congr (change : RoleChange) (h : p.itemLists = q.itemLists) :
    k.edit role change p = p ↔ k.edit role change q = q := by
  rw [edit_eq_self_iff, edit_eq_self_iff]
  exact forall_congr' fun effect => by rw [Policy.items_of_itemLists h]

theorem idle_congr (h : p.itemLists = q.itemLists) :
    k.Idle role change p ↔ k.Idle role change q := by
  cases change with
  | add o => exact edit_eq_self_congr (.add o) h
  | remove o => exact edit_eq_self_congr (.remove o) h
  | replace old new =>
      exact and_congr (edit_eq_self_congr (.remove old) h)
        (edit_eq_self_congr (.add new) (itemLists_edit_congr (.remove old) h))

/-- If there is no item after an object was added, there was none before, and nothing to add. -/
theorem idle_add_of_hasNoItems (h : (k.granted role o p).hasNoItems = true) :
    p.hasNoItems = true ∧ k.Idle role (.add o) p := by
  have hp : p.hasNoItems = true := (Policy.hasNoItems_grant.mp h).1
  refine ⟨hp, Policy.ext_items (k.edit_frame role (.add o) p) fun effect => ?_⟩
  rw [Policy.items_of_hasNoItems h, Policy.items_of_hasNoItems hp]

/-! ## What a change leaves -/

/-- A policy that is managed at the location is the one in hand. -/
theorem Site.eq_of_mem (h : k.Site s loc p) {e : Int × Policy} (he : e ∈ k.managing s loc) :
    e.2 = p := by
  cases h with
  | found only _ => exact congrArg Prod.snd (only.only e he.1 he.2)
  | fresh vacant _ _ _ => exact absurd he.2 (vacant e he.1)

/-- What is left of a location by a change of what was in hand for it. -/
structure Yields (k : Keeper) (role : Role) (change : RoleChange) (s : Store) (loc : Location)
    (p : Policy) (t : Store) : Prop where
  /-- Whatever is in hand then has the lists of the edited policy. -/
  lists : ∃ q, k.Site t loc q ∧ q.itemLists = (k.edit role change p).itemLists
  /-- A policy without items is there only if it was, and was not touched. -/
  vacant : k.Vacant t loc ↔ (k.edit role change p).hasNoItems = true
    ∧ (k.Vacant s loc ∨ ¬ k.Idle role change p)
  others : ∀ e, ¬ k.Manages e.2 loc → (e ∈ t.policies ↔ e ∈ s.policies)

theorem Yields.congr (h : k.Yields role change s loc p t) (hlists : q.itemLists = p.itemLists) :
    k.Yields role change s loc q t where
  lists := by rw [itemLists_edit_congr change hlists]; exact h.lists
  vacant := by
    rw [Policy.hasNoItems_of_itemLists (itemLists_edit_congr change hlists), idle_congr hlists]
    exact h.vacant
  others := h.others

theorem Site.yields_of_idle (h : k.Site s loc p) (hidle : k.Idle role change p) :
    k.Yields role change s loc p s where
  lists := ⟨p, h, by rw [hidle.edit_eq]⟩
  vacant := by
    rw [hidle.edit_eq, or_iff_left (not_not_intro hidle), iff_and_self]
    intro hv
    cases h with
    | found only _ => exact absurd only.manages (hv _ only.mem)
    | fresh _ _ _ hitems => exact hitems
  others := fun _ _ => Iff.rfl

theorem Site.yields_wroteBack (hk : s.Keyed) (h : k.Site s loc p)
    (hbusy : ¬ k.Idle role change p) :
    k.Yields role change s loc p (s.wroteBack (k.edit role change p)) := by
  have hf := k.edit_frame role change p
  obtain ⟨id, hw⟩ := h.rewritten hk hf
  have hm : k.Manages (k.edit role change p) loc := h.manages.of_frame hf
  refine ⟨?_, ?_, fun e hnot => ?_⟩
  · obtain ⟨id', hafter⟩ := h.after hk hf
    exact ⟨_, hafter, rfl⟩
  · rw [and_iff_left (Or.inr hbusy)]
    exact hw.vacant_iff hm
  · -- what is written is managed at the location
    rw [hw e, and_iff_left hnot, or_iff_left]
    rintro ⟨_, rfl⟩
    exact hnot ⟨hm.service, hm.managed, hm.guards⟩

/-- **What a change that was made leaves** can be told from any policy in hand. -/
theorem Performed.yields (hk : s.Keyed) (h : k.Performed role change s t)
    (hloc : k.layout.Locates change.place loc) (hsite : k.Site s loc p) :
    k.Yields role change s loc p t := by
  obtain ⟨_, loc', q, hloc', hq, _, hwrite⟩ := h
  obtain rfl := hloc'.unique hloc
  have hyields : k.Yields role change s loc' q t := by
    rcases hwrite with ⟨hidle, rfl⟩ | ⟨hbusy, rfl⟩
    · exact hq.yields_of_idle hidle
    · exact hq.yields_wroteBack hk hbusy
  exact hyields.congr (hsite.itemLists_eq hq)

theorem Performed.writes_le (h : k.Performed role change s t) : t.writes ≤ s.writes + 1 := by
  obtain ⟨_, _, _, _, _, _, ⟨_, rfl⟩ | ⟨_, rfl⟩⟩ := h
  · exact Nat.le_succ _
  · exact Store.writes_wroteBack_le _ _

/-! ## Two ways to the same items -/

/-- A replacement leaves what the removal and the addition leave. -/
theorem Yields.agree (ht : k.Yields role (.replace old new) s loc p t)
    (hu : k.Yields role (.remove old) s loc p u) (hq : k.Site u loc q)
    (hv : k.Yields role (.add new) u loc q v) :
    (k.Vacant t loc ↔ k.Vacant v loc)
      ∧ (∀ e ∈ k.managing t loc, ∀ e' ∈ k.managing v loc, e.2.itemLists = e'.2.itemLists)
      ∧ ∀ e, ¬ k.Manages e.2 loc → (e ∈ t.policies ↔ e ∈ v.policies) := by
  -- in between, whatever is in hand is as good as the policy without the old accesses
  obtain ⟨p', hp', hlists⟩ := hu.lists
  have hbetween : (k.revoked role old p).itemLists = q.itemLists :=
    hlists.symm.trans (hp'.itemLists_eq hq)
  have hv : k.Yields role (.add new) u loc (k.revoked role old p) v := hv.congr hbetween
  refine ⟨?_, fun e he e' he' => ?_, fun e hnot => ?_⟩
  · rw [ht.vacant, hv.vacant, hu.vacant]
    refine and_congr_right fun hnone => ?_
    -- what leaves no items in the end has added none
    obtain ⟨hnone, hidle⟩ := idle_add_of_hasNoItems hnone
    have hreplace : k.Idle role (.replace old new) p ↔ k.Idle role (.remove old) p :=
      and_iff_left hidle
    have hremoved : (k.edit role (.remove old) p).hasNoItems = true := hnone
    -- and then it is the removal that decides, both ways
    rw [hreplace, and_iff_right hremoved, or_iff_left (not_not_intro hidle)]
  · obtain ⟨pt, hpt, htlists⟩ := ht.lists
    obtain ⟨pv, hpv, hvlists⟩ := hv.lists
    rw [hpt.eq_of_mem he, hpv.eq_of_mem he', htlists, hvlists]
    rfl
  · rw [ht.others e hnot, hv.others e hnot, hu.others e hnot]

/-- **A replacement is a removal and an addition, in one write.** If it goes well, and taking the
old object away and adding the new one would have gone well too, then

* there is a managed policy at the location after the one exactly if there is after the other, and
  then all its lists of items are the same;
* all other policies are the same;
* the replacement makes one write at most, and the store is never in another state than the one
  before and the one after it. -/
theorem replace_agrees (hs : s.Built) (hone : old.object = new.object)
    (hl : k.layout.Legible new.object)
    (hreplaced : (k.replaceObject role old new).run Store.perform s = (.ok (), t))
    (hremoved : (k.removeObject role old).run Store.perform s = (.ok (), u))
    (hadded : (k.addObject role new).run Store.perform u = (.ok (), v)) :
    (∃ loc, k.layout.Locates new.object loc
        ∧ (k.Vacant t loc ↔ k.Vacant v loc)
        ∧ (∀ e ∈ k.managing t loc, ∀ e' ∈ k.managing v loc, e.2.itemLists = e'.2.itemLists)
        ∧ ∀ e, ¬ k.Manages e.2 loc → (e ∈ t.policies ↔ e ∈ v.policies))
      ∧ t.writes ≤ s.writes + 1
      ∧ ∀ w, (k.replaceObject role old new).Passes Store.perform s w → w = s ∨ w = t := by
  have hkeyed : u.Keyed := (hs.of_run hremoved).keyed
  have hreplace : k.Performed role (.replace old new) s t :=
    (replaceObject_performed hs.keyed hl).of_run hreplaced
  have hremove : k.Performed role (.remove old) s u :=
    (removeObject_performed hs.keyed (hone ▸ hl)).of_run hremoved
  have hadd : k.Performed role (.add new) u v := (addObject_performed hkeyed hl).of_run hadded
  obtain ⟨_, loc, p, hloc, hsite, _⟩ := hreplace.wrote
  have hlocOld : k.layout.Locates old.object loc := hone ▸ hloc
  refine ⟨⟨loc, hloc, ?_⟩, hreplace.writes_le, fun w hpasses => ?_⟩
  · have hu := hremove.yields hs.keyed hlocOld hsite
    obtain ⟨q, hq, _⟩ := hu.lists
    exact (hreplace.yields hs.keyed hloc hsite).agree hu hq (hadd.yields hkeyed hloc hq)
  · refine (atomic_applyChange role (.replace old new) s w hpasses).imp_right fun hend => ?_
    obtain ⟨_, hrun⟩ := hend
    have hrun : (k.replaceObject role old new).run Store.perform s = (.ok _, w) := hrun
    rw [hreplaced] at hrun
    exact (congrArg Prod.snd hrun).symm

/-- A role that shares the placeholder's items with the one that made the policy. -/
def guest : Role := { name := "guest", securables := [browsing] }

def swapped : Store :=
  ((ofOwners.replaceObject guest browsing browsingLess).run Store.perform withBrowser).2

/-- The policy has gone, since it has no other items. -/
def takenAway : Store := ((ofOwners.removeObject guest browsing).run Store.perform withBrowser).2

def givenBack : Store := ((ofOwners.addObject guest browsingLess).run Store.perform takenAway).2

/-- The policy keeps its name one way and is called after the other role the other way, but it has
the same items. -/
theorem replace_agrees_guest :
    swapped.policies.map (fun e => e.2.name) = ["browser-cat.db"]
      ∧ takenAway.policies = []
      ∧ givenBack.policies.map (fun e => e.2.name) = ["guest-cat.db"]
      ∧ ∃ loc, ofOwners.layout.Locates browsing.object loc
        ∧ ∀ e ∈ ofOwners.managing swapped loc, ∀ e' ∈ ofOwners.managing givenBack loc,
          e.2.itemLists = e'.2.itemLists := by
  have hreplaced : (ofOwners.replaceObject guest browsing browsingLess).run Store.perform
      withBrowser = (.ok (), swapped) := Plan.run_eq_ok (by decide +kernel)
  have hremoved : (ofOwners.removeObject guest browsing).run Store.perform withBrowser
      = (.ok (), takenAway) := Plan.run_eq_ok (by decide +kernel)
  have hadded : (ofOwners.addObject guest browsingLess).run Store.perform takenAway
      = (.ok (), givenBack) := Plan.run_eq_ok (by decide +kernel)
  have hone : browsing.object = browsingLess.object := rfl
  obtain ⟨⟨loc, hloc, _, hlists, _⟩, _⟩ :=
    replace_agrees withBrowser_built hone (by decide +kernel) hreplaced hremoved hadded
  exact ⟨by decide +kernel, by decide +kernel, by decide +kernel, loc, hloc, hlists⟩

end Keeper

end PolicyKeeper
