import PolicyKeeper.Keeper.Principals
import PolicyKeeper.Proofs.Finding
import PolicyKeeper.Proofs.Store.Keyed

/-!
# Writing a policy back

A keeper has a policy in hand for a location (`Site`): the only managed one there, as the store has
it, or a new one where the store has none. It edits the items, and in the end writes the policy
back. The store then refuses, and nothing has happened, or the location has the items of the edited
policy and every other location has what it had (`Edited`). Whether that took a creation, an update,
a deletion or no write at all makes no difference to this.
-/

namespace PolicyKeeper

/-! ## Edits -/

/-- All of a policy that edits of its items leave alone. -/
def Policy.frame (p : Policy) : Policy := { p with allowItems := [], denyItems := [] }

theorem Policy.id_of_frame {p q : Policy} (h : p.frame = q.frame) : p.id = q.id := by
  have hid : p.frame.id = q.frame.id := by rw [h]
  exact hid

theorem Policy.labels_of_frame {p q : Policy} (h : p.frame = q.frame) : p.labels = q.labels := by
  have hlabels : p.frame.labels = q.frame.labels := by rw [h]
  exact hlabels

theorem Policy.resources_of_frame {p q : Policy} (h : p.frame = q.frame) :
    p.resources = q.resources := by
  have hresources : p.frame.resources = q.frame.resources := by rw [h]
  exact hresources

theorem Policy.service_of_frame {p q : Policy} (h : p.frame = q.frame) : p.service = q.service := by
  have hservice : p.frame.service = q.frame.service := by rw [h]
  exact hservice

theorem Policy.name_of_frame {p q : Policy} (h : p.frame = q.frame) : p.name = q.name := by
  have hname : p.frame.name = q.frame.name := by rw [h]
  exact hname

/-- Two policies with the same items and the same of all else are one. -/
theorem Policy.ext_items {p q : Policy} (h : p.frame = q.frame)
    (hitems : ∀ effect, p.items effect = q.items effect) : p = q := by
  have hallow : p.allowItems = q.allowItems := hitems .allow
  have hdeny : p.denyItems = q.denyItems := hitems .deny
  cases p
  cases q
  simp_all [Policy.frame]

/-- Of the lists of such policies two may differ. -/
theorem Policy.mem_itemLists_of_frame {p q : Policy} (h : p.frame = q.frame)
    {l : String × List Item} (hl : l ∈ p.itemLists) : l = ("policyItems", p.items .allow)
      ∨ l = ("denyPolicyItems", p.items .deny) ∨ l ∈ q.itemLists := by
  have hrest : p.frame.itemLists.drop 2 = q.frame.itemLists.drop 2 := by rw [h]
  rcases List.mem_cons.mp hl with hl | hl
  · exact Or.inl hl
  rcases List.mem_cons.mp hl with hl | hl
  · exact Or.inr (Or.inl hl)
  have hl : l ∈ p.frame.itemLists.drop 2 := hl
  rw [hrest] at hl
  have hl : l ∈ q.itemLists.drop 2 := hl
  exact Or.inr (Or.inr (List.mem_of_mem_drop hl))

theorem Policy.items_of_hasNoItems {p : Policy} (h : p.hasNoItems = true) (effect : Effect) :
    p.items effect = [] := by
  have hall := List.all_eq_true.mp h
  cases effect with
  | allow =>
      exact List.isEmpty_iff.mp (hall ("policyItems", p.allowItems) List.mem_cons_self)
  | deny =>
      have hmem : ("denyPolicyItems", p.denyItems) ∈ p.itemLists :=
        List.mem_cons_of_mem _ List.mem_cons_self
      exact List.isEmpty_iff.mp (hall _ hmem)

theorem Policy.items_of_itemLists {p q : Policy} (h : p.itemLists = q.itemLists) (effect : Effect) :
    p.items effect = q.items effect := by
  simp only [itemLists, List.cons.injEq, Prod.mk.injEq, true_and, and_true] at h
  cases effect with
  | allow => exact h.1
  | deny => exact h.2.1

theorem Policy.hasNoItems_of_itemLists {p q : Policy} (h : p.itemLists = q.itemLists) :
    p.hasNoItems = q.hasNoItems := by
  rw [hasNoItems, h]
  rfl

theorem Policy.itemLists_of_hasNoItems {p q : Policy} (hp : p.hasNoItems = true)
    (hq : q.hasNoItems = true) : p.itemLists = q.itemLists := by
  simp only [hasNoItems, itemLists, List.all_cons, List.all_nil, Bool.and_true, Bool.and_eq_true,
    List.isEmpty_iff] at hp hq
  simp only [itemLists, hp, hq]

/-- The store in which a policy was written back. Without items it goes, if it was there; with items
it comes in the place of what was there, or is created. -/
def Store.wroteBack (s : Store) (p : Policy) : Store :=
  match p.id, p.hasNoItems with
  | some id, true => s.deleted id
  | some id, false => s.updated id p
  | none, true => s
  | none, false => s.created p

theorem Store.writes_wroteBack_le (s : Store) (p : Policy) :
    (s.wroteBack p).writes ≤ s.writes + 1 := by
  unfold wroteBack
  split
  · exact Nat.le_refl _
  · exact Nat.le_refl _
  · exact Nat.le_succ _
  · exact Nat.le_refl _

namespace Keeper

variable {k : Keeper} {s s' : Store} {loc loc' : Location} {id : Int} {p p' q : Policy}

theorem Manages.of_frame (h : k.Manages p loc) (hf : p'.frame = p.frame) : k.Manages p' loc := by
  refine ⟨(Policy.service_of_frame hf).trans h.service, ?_, fun level => ?_⟩
  · rw [Policy.isManaged, Policy.labels_of_frame hf]
    exact h.managed
  · rw [Policy.resources_of_frame hf]
    exact h.guards level

/-- The item is in a managed policy at the location, on the side of the effect. -/
def HasItem (k : Keeper) (s : Store) (loc : Location) (effect : Effect) (i : Item) : Prop :=
  ∃ e ∈ s.policies, k.Manages e.2 loc ∧ i ∈ e.2.items effect

/-- The location has the items of the policy now, and all others have what they had. -/
structure Edited (k : Keeper) (s : Store) (loc : Location) (p : Policy) (s' : Store) : Prop where
  here : ∀ effect i, k.HasItem s' loc effect i ↔ i ∈ p.items effect
  elsewhere : ∀ {loc'}, loc' ≠ loc → ∀ effect i,
    k.HasItem s' loc' effect i ↔ k.HasItem s loc' effect i

/-- So whatever the items of the location are asked for, the edited policy answers. -/
theorem Edited.exists_here (h : k.Edited s loc p s') {effect : Effect} {P : Item → Prop} :
    (∃ i, k.HasItem s' loc effect i ∧ P i) ↔ ∃ i ∈ p.items effect, P i :=
  exists_congr fun i => and_congr_left fun _ => h.here effect i

theorem Edited.exists_elsewhere (h : k.Edited s loc p s') (hne : loc' ≠ loc) {effect : Effect}
    {P : Item → Prop} :
    (∃ i, k.HasItem s' loc' effect i ∧ P i) ↔ ∃ i, k.HasItem s loc' effect i ∧ P i :=
  exists_congr fun i => and_congr_left fun _ => h.elsewhere hne effect i

/-- What the policies are after one was written back: those that are not managed at the location,
and the one that was written, unless it has no items. -/
def Rewritten (k : Keeper) (s : Store) (loc : Location) (id : Int) (p : Policy) (s' : Store) :
    Prop :=
  ∀ e, e ∈ s'.policies ↔ (e ∈ s.policies ∧ ¬ k.Manages e.2 loc)
    ∨ (p.hasNoItems = false ∧ e = (id, Store.stored id p))

theorem Rewritten.edited (h : k.Rewritten s loc id p s') (hm : k.Manages p loc) :
    k.Edited s loc p s' := by
  refine ⟨?_, ?_⟩
  · intro effect i
    refine ⟨?_, ?_⟩
    · intro h
      obtain ⟨e, he, hman, hi⟩ := h
      rcases (h e).mp he with ⟨_, hnot⟩ | ⟨_, rfl⟩
      · exact absurd hman hnot
      · exact hi
    · intro hi
      cases hni : p.hasNoItems with
      | true =>
          rw [Policy.items_of_hasNoItems hni] at hi
          exact absurd hi List.not_mem_nil
      | false =>
          exact ⟨(id, Store.stored id p), (h _).mpr (Or.inr ⟨hni, rfl⟩),
            ⟨hm.service, hm.managed, hm.guards⟩, hi⟩
  · intro loc' hne effect i
    refine ⟨?_, ?_⟩
    · intro h
      obtain ⟨e, he, hman, hi⟩ := h
      -- the policy that was written is at its own location and at no other
      rcases (h e).mp he with ⟨hold, _⟩ | ⟨_, rfl⟩
      · exact ⟨e, hold, hman, hi⟩
      · exact absurd (hman.guards.unique hm.guards) hne
    · intro h
      obtain ⟨e, he, hman, hi⟩ := h
      have hnot : ¬ k.Manages e.2 loc := fun hm' => hne (hman.guards.unique hm'.guards)
      exact ⟨e, (h e).mpr (Or.inl ⟨he, hnot⟩), hman, hi⟩

/-- If it has items, the written policy is the only managed one at its location. -/
theorem Rewritten.only (h : k.Rewritten s loc id p s') (hm : k.Manages p loc)
    (hni : p.hasNoItems = false) : k.Only s' loc id (Store.stored id p) where
  mem := (h _).mpr (Or.inr ⟨hni, rfl⟩)
  manages := ⟨hm.service, hm.managed, hm.guards⟩
  only := by
    intro e he hman
    rcases (h e).mp he with ⟨_, hnot⟩ | ⟨_, rfl⟩
    · exact absurd hman hnot
    · rfl

/-- Elsewhere a policy stays the only one. -/
theorem Rewritten.only_elsewhere {id' : Int} (h : k.Rewritten s loc id p s')
    (hm : k.Manages p loc) (hne : loc' ≠ loc) (ho : k.Only s loc' id' q) :
    k.Only s' loc' id' q where
  mem := by
    refine (h _).mpr (Or.inl ⟨ho.mem, fun hm' => hne ?_⟩)
    exact ho.manages.guards.unique hm'.guards
  manages := ho.manages
  only := by
    intro e he hman
    rcases (h e).mp he with ⟨hold, _⟩ | ⟨_, rfl⟩
    · exact ho.only e hold hman
    · exact absurd (hman.guards.unique hm.guards) hne

/-- A policy without items leaves its location vacant, -/
theorem Rewritten.vacant (h : k.Rewritten s loc id p s') (hni : p.hasNoItems = true) :
    k.Vacant s' loc := by
  intro e he
  rcases (h e).mp he with ⟨_, hnot⟩ | ⟨hhas, _⟩
  · exact hnot
  · rw [hni] at hhas
    exact absurd hhas (by simp)

/-- and no other does, -/
theorem Rewritten.vacant_iff (h : k.Rewritten s loc id p s') (hm : k.Manages p loc) :
    k.Vacant s' loc ↔ p.hasNoItems = true := by
  refine ⟨fun hv => by_contra fun hni => ?_, h.vacant⟩
  have honly := h.only hm (Bool.eq_false_iff.mpr hni)
  exact hv _ honly.mem honly.manages

/-- but any policy leaves another location vacant that was. -/
theorem Rewritten.vacant_elsewhere (h : k.Rewritten s loc id p s') (hm : k.Manages p loc)
    (hne : loc' ≠ loc) (hv : k.Vacant s loc') : k.Vacant s' loc' := by
  intro e he hman
  rcases (h e).mp he with ⟨hold, _⟩ | ⟨_, rfl⟩
  · exact hv e hold hman
  · exact hne (hman.guards.unique hm.guards)

/-! ## Writing -/

/-- The only managed policy at a location is told by its id. -/
theorem Only.ne_id_iff (hk : s.Keyed) (h : k.Only s loc id q) {e : Int × Policy}
    (he : e ∈ s.policies) : e.1 ≠ id ↔ ¬ k.Manages e.2 loc := by
  refine ⟨?_, ?_⟩
  · intro hne hman
    exact hne (congrArg Prod.fst (h.only e he hman))
  · intro hnot hid
    have heq : e = (id, q) := hk.eq_of_id he h.mem hid
    rw [heq] at hnot
    exact hnot h.manages

/-- If the policy that is written to is there, writing is refused or does just what it should. -/
theorem run_persist (hhas : ∀ id, p.id = some id → s.hasPolicy id = true) :
    Plan.AllOrNothing Store.perform (persist p) s fun s' => s' = s.wroteBack p := by
  unfold persist Store.wroteBack
  cases hid : p.id with
  | some id =>
      -- deleting cannot fail here, since the policy is there; updating can
      cases hni : p.hasNoItems with
      | true =>
          refine Plan.allOrNothing_last (Or.inr ⟨.deleted, s.deleted id, ?_, rfl⟩)
          rw [Store.perform, Store.deletePolicy_of_hasPolicy (hhas id hid)]
          rfl
      | false =>
          refine Plan.allOrNothing_last ?_
          rw [Store.perform]
          rcases s.updatePolicy_cases id p with ⟨refusal, hu⟩ | ⟨_, _, hu⟩
          · rw [hu]
            exact Or.inl ⟨_, rfl⟩
          · rw [hu]
            exact Or.inr ⟨_, _, rfl, rfl⟩
  | none =>
      cases hni : p.hasNoItems with
      | true => exact Plan.allOrNothing_pure rfl
      | false =>
          refine Plan.allOrNothing_last ?_
          rw [Store.perform]
          rcases s.createPolicy_cases p with ⟨refusal, hc⟩ | ⟨_, hc⟩
          · rw [hc]
            exact Or.inl ⟨_, rfl⟩
          · rw [hc]
            exact Or.inr ⟨_, _, rfl, rfl⟩

theorem Only.hasPolicy (h : k.Only s loc id q) (hid : p.id = some id) :
    ∀ id', p.id = some id' → s.hasPolicy id' = true := by
  intro id' hid'
  rw [hid] at hid'
  cases hid'
  exact Store.hasPolicy_iff.mpr ⟨q, h.mem⟩

/-- Writing to the id of the only managed policy at a location, whatever is written. -/
theorem Only.rewritten (hk : s.Keyed) (h : k.Only s loc id q) (hid : p.id = some id) :
    k.Rewritten s loc id p (s.wroteBack p) := by
  have hothers : ∀ e, (e ∈ s.policies ∧ e.1 ≠ id) ↔ (e ∈ s.policies ∧ ¬ k.Manages e.2 loc) :=
    fun e => and_congr_right fun he => h.ne_id_iff hk he
  intro e
  unfold Store.wroteBack
  rw [hid]
  cases hni : p.hasNoItems with
  | true =>
      rw [Store.mem_deleted, hothers]
      simp
  | false =>
      rw [Store.mem_updated (h.hasPolicy hid id hid), hothers]
      simp

/-- If it has items, it is as if it had just been written. -/
theorem Only.rewritten_self (h : k.Only s loc id p) (hid : p.id = some id)
    (hni : p.hasNoItems = false) : k.Rewritten s loc id p s := by
  have hstored : Store.stored id p = p := by rw [Store.stored, ← hid]
  intro e
  rw [hstored]
  refine ⟨?_, ?_⟩
  · intro he
    by_cases hman : k.Manages e.2 loc
    · exact Or.inr ⟨hni, h.only e he hman⟩
    · exact Or.inl ⟨he, hman⟩
  · rintro (⟨he, _⟩ | ⟨_, rfl⟩)
    · exact he
    · exact h.mem

/-- Writing a policy that the store does not have yet. -/
theorem Vacant.rewritten (h : k.Vacant s loc) (hid : p.id = none) :
    k.Rewritten s loc s.nextId p (s.wroteBack p) := by
  have hothers : ∀ e, e ∈ s.policies ↔ (e ∈ s.policies ∧ ¬ k.Manages e.2 loc) :=
    fun e => ⟨fun he => ⟨he, h e he⟩, And.left⟩
  intro e
  unfold Store.wroteBack
  rw [hid]
  cases hni : p.hasNoItems with
  | true =>
      rw [← hothers]
      simp
  | false =>
      rw [Store.mem_created, ← hothers]
      simp

/-! ## A policy in hand -/

/-- What a keeper has in hand for a location. -/
inductive Site (k : Keeper) (s : Store) (loc : Location) : Policy → Prop where
  /-- The only managed policy there is, as the store has it. -/
  | found {id : Int} {p : Policy} (only : k.Only s loc id p) (hid : p.id = some id) :
      Site k s loc p
  /-- A policy without items, where the store has none. -/
  | fresh {p : Policy} (vacant : k.Vacant s loc) (hid : p.id = none) (manages : k.Manages p loc)
      (hitems : p.hasNoItems = true) : Site k s loc p

theorem Site.manages (h : k.Site s loc p) : k.Manages p loc := by
  cases h with
  | found only _ => exact only.manages
  | fresh _ _ manages _ => exact manages

/-- What is in hand is a matter of the policies alone. -/
theorem Site.congr (h : k.Site s loc p) (hsame : s'.policies = s.policies) : k.Site s' loc p := by
  cases h with
  | found only hid =>
      exact .found ⟨hsame ▸ only.mem, only.manages, fun e he => only.only e (hsame ▸ he)⟩ hid
  | fresh vacant hid manages hitems =>
      exact .fresh (fun e he => vacant e (hsame ▸ he)) hid manages hitems

/-- The items at a location are those of its only managed policy. -/
theorem Only.edited (h : k.Only s loc id p) : k.Edited s loc p s := by
  refine ⟨fun effect i => ⟨?_, fun hi => ⟨(id, p), h.mem, h.manages, hi⟩⟩, fun _ _ _ => Iff.rfl⟩
  intro h
  obtain ⟨e, he, hm, hi⟩ := h
  cases h.only e he hm
  exact hi

/-- The items of the policy in hand are those at the location. -/
theorem Site.edited (h : k.Site s loc p) : k.Edited s loc p s := by
  cases h with
  | found only _ => exact only.edited
  | fresh vacant _ _ hitems =>
      refine ⟨fun effect i => ?_, fun _ _ _ => Iff.rfl⟩
      rw [Policy.items_of_hasNoItems hitems]
      refine ⟨?_, ?_⟩
      · intro h
        obtain ⟨e, he, hm, _⟩ := h
        exact absurd hm (vacant e he)
      · exact fun hi => absurd hi List.not_mem_nil

theorem Site.items_of_vacant (h : k.Site s loc p) (hv : k.Vacant s loc) (effect : Effect) :
    p.items effect = [] := by
  cases h with
  | found only _ => exact absurd only.manages (hv _ only.mem)
  | fresh _ _ _ hitems => exact Policy.items_of_hasNoItems hitems effect

/-- Whatever is in hand for a location has the same lists. -/
theorem Site.itemLists_eq (h : k.Site s loc p) (hq : k.Site s loc q) :
    p.itemLists = q.itemLists := by
  cases h with
  | found only _ =>
      cases hq with
      | found only' _ => rw [(Prod.mk.inj (only'.only _ only.mem only.manages)).2]
      | fresh vacant _ _ _ => exact absurd only.manages (vacant _ only.mem)
  | fresh vacant _ _ hitems =>
      cases hq with
      | found only' _ => exact absurd only'.manages (vacant _ only'.mem)
      | fresh _ _ _ hitems' => exact Policy.itemLists_of_hasNoItems hitems hitems'

/-- So it has the same items. -/
theorem Site.items_eq (h : k.Site s loc p) (hq : k.Site s loc q) (effect : Effect) :
    p.items effect = q.items effect := Policy.items_of_itemLists (h.itemLists_eq hq) effect

/-- Once it is written back, the policies are as they should be. -/
theorem Site.rewritten (hk : s.Keyed) (h : k.Site s loc p) (hf : p'.frame = p.frame) :
    ∃ id, k.Rewritten s loc id p' (s.wroteBack p') := by
  have hid : p'.id = p.id := Policy.id_of_frame hf
  cases h with
  | found only hp => exact ⟨_, only.rewritten hk (hid.trans hp)⟩
  | fresh vacant hp _ _ => exact ⟨_, vacant.rewritten (hid.trans hp)⟩

/-- What a keeper has in hand for the location then is what was written. -/
theorem Site.after (hk : s.Keyed) (h : k.Site s loc p) (hf : p'.frame = p.frame) :
    ∃ id, k.Site (s.wroteBack p') loc { p' with id } := by
  obtain ⟨id, hw⟩ := h.rewritten hk hf
  have hm : k.Manages p' loc := h.manages.of_frame hf
  cases hni : p'.hasNoItems with
  | true =>
      exact ⟨none, .fresh (hw.vacant hni) rfl ⟨hm.service, hm.managed, hm.guards⟩ hni⟩
  | false => exact ⟨some id, .found (hw.only hm hni) rfl⟩

/-- Elsewhere it is what it was. -/
theorem Site.elsewhere (hk : s.Keyed) (h : k.Site s loc p) (hf : p'.frame = p.frame)
    (hne : loc' ≠ loc) (hq : k.Site s loc' q) : k.Site (s.wroteBack p') loc' q := by
  obtain ⟨id, hw⟩ := h.rewritten hk hf
  have hm : k.Manages p' loc := h.manages.of_frame hf
  cases hq with
  | found only hid => exact .found (hw.only_elsewhere hm hne only) hid
  | fresh vacant hid manages hitems =>
      exact .fresh (hw.vacant_elsewhere hm hne vacant) hid manages hitems

/-- **What is written is what was meant, or nothing has happened.** -/
theorem Site.persist (h : k.Site s loc p) (hf : p'.frame = p.frame) :
    Plan.AllOrNothing Store.perform (persist p') s fun s' => s' = s.wroteBack p' := by
  have hid : p'.id = p.id := Policy.id_of_frame hf
  refine run_persist ?_
  cases h with
  | found only hp => exact only.hasPolicy (hid.trans hp)
  | fresh _ hp _ _ =>
      intro id hid'
      rw [hid, hp] at hid'
      exact absurd hid' (by simp)

/-- An edit that is one takes a write. -/
theorem Site.writes_wroteBack (h : k.Site s loc p) (hf : p'.frame = p.frame) (hne : p' ≠ p) :
    (s.wroteBack p').writes = s.writes + 1 := by
  have hid : p'.id = p.id := Policy.id_of_frame hf
  unfold Store.wroteBack
  cases hni : p'.hasNoItems with
  | false => cases p'.id <;> rfl
  | true =>
      cases h with
      | found _ hp =>
          rw [hid, hp]
          rfl
      | fresh _ _ _ hitems =>
          -- without items it would be what it was
          refine absurd (Policy.ext_items hf fun effect => ?_) hne
          rw [Policy.items_of_hasNoItems hni, Policy.items_of_hasNoItems hitems]

/-- A policy with items is written back, or it is there already, which is as good. -/
theorem Site.run_writeBack (hk : s.Keyed) (h : k.Site s loc p) (hf : p'.frame = p.frame)
    (hni : p'.hasNoItems = false)
    (hrun : (if p' = p then pure () else Keeper.persist p' : Plan Unit).run Store.perform s
      = (.ok (), s')) :
    ∃ id, k.Rewritten s loc id p' s' := by
  split at hrun
  · rename_i hsame
    subst hsame
    cases hrun
    cases h with
    | found only hid => exact ⟨_, only.rewritten_self hid hni⟩
    | fresh _ _ _ hitems =>
        rw [hni] at hitems
        exact absurd hitems (by simp)
  · obtain rfl := (h.persist hf).of_run hrun
    exact h.rewritten hk hf

/-- An account is no policy. -/
theorem policies_ensureAccount {who : Principal}
    (h : (ensureAccount who).run Store.perform s = (.ok (), s')) : s'.policies = s.policies := by
  obtain ⟨_, _, hcall, hdone⟩ := Plan.run_bind_ok h
  cases hdone
  exact Store.run_quiet rfl hcall

/-- What a keeper takes in hand for an object, on behalf of a role. -/
def inHand (k : Keeper) (s : Store) (role : String) (o : CatalogObject) : Except Fault Policy :=
  (k.located s o).bind fun
    | some p => .ok p
    | none => k.newPolicy role o

theorem run_policyOrNew {o : CatalogObject} (hl : k.layout.Legible o) (role : String) (s : Store) :
    (k.policyOrNew role o).run Store.perform s = (Failure.ofResult (k.inHand s role o), s) := by
  unfold policyOrNew inHand
  rw [Plan.run_bind, run_findPolicy hl]
  cases k.located s o with
  | error f => rfl
  | ok found =>
      cases found with
      | some p => rfl
      | none => rfl

theorem site_of_located (hk : s.Keyed) {o : CatalogObject} (h : k.located s o = .ok (some p)) :
    ∃ loc, k.layout.Locates o loc ∧ k.Site s loc p := by
  obtain ⟨loc, id, hloc, honly, _⟩ := located_some h
  exact ⟨loc, hloc, .found honly (hk.ids _ honly.mem)⟩

theorem newPolicy_ok {o : CatalogObject} {role : String} (h : k.newPolicy role o = .ok p) :
    ∃ path, k.layout.path o = .ok path
      ∧ p = Policy.managed k.service (policyName role o.fullName) path := by
  unfold newPolicy at h
  cases hpath : k.layout.path o with
  | error f =>
      rw [hpath] at h
      exact absurd h (by simp [Except.map])
  | ok path =>
      rw [hpath] at h
      cases h
      exact ⟨path, rfl, rfl⟩

/-- A new policy is where its object is. -/
theorem site_of_newPolicy {o : CatalogObject} (role : String) (hloc : k.layout.Locates o loc)
    (hv : k.Vacant s loc) : ∃ p, k.newPolicy role o = .ok p ∧ k.Site s loc p := by
  obtain ⟨path, hp, rfl⟩ := hloc
  refine ⟨_, by rw [newPolicy, hp]; rfl, .fresh hv rfl ⟨rfl, rfl, ?_⟩ rfl⟩
  exact Policy.managed_guards _ _ _

/-- **What is taken in hand is what the store has there.** -/
theorem site_of_inHand (hk : s.Keyed) {o : CatalogObject} {role : String}
    (h : k.inHand s role o = .ok p) : ∃ loc, k.layout.Locates o loc ∧ k.Site s loc p := by
  unfold inHand at h
  cases hf : k.located s o with
  | error f =>
      rw [hf] at h
      exact absurd h (by simp [Except.bind])
  | ok found =>
      rw [hf] at h
      cases found with
      | some q =>
          cases h
          exact site_of_located hk hf
      | none =>
          obtain ⟨loc, hloc, hv⟩ := located_none hf
          obtain ⟨q, hq, hsite⟩ := site_of_newPolicy role hloc hv
          have hp : q = p := Except.ok.inj (hq.symm.trans h)
          exact ⟨loc, hloc, hp ▸ hsite⟩

end Keeper

end PolicyKeeper
