import Mathlib.Data.Set.Basic
import PolicyKeeper.Proofs.Looking
import PolicyKeeper.Proofs.Withdrawing

/-!
# What the placeholder carries

The items that the placeholder is in say what a role grants, and they are where a removal looks.
Those who hold the role stand beside the placeholder, among the same users. So whoever is granted a
role, or loses one, should come and go without anything being made, taken away or moved, and the
placeholder should stay wherever it is.

Nothing is made or taken away: the store has the same frames afterwards (`Reframed`), and
within a policy members move in their places. That the placeholder stays is a matter of who comes
or goes. Granting never takes it out. Losing a role does, if it is the placeholder that loses it:
the first write then takes it out of all items for some access (`MemberSteps.eq_or_dropped`).
-/

namespace PolicyKeeper

/-- The name of the list of the items that allow, or that deny. -/
def Effect.listName : Effect → String
  | allow => "policyItems"
  | deny => "denyPolicyItems"

/-- The placeholder is in an item for the access alone, which is no owner's. -/
def Carrying (items : List Item) (access : String) : Prop :=
  ∃ i ∈ items, i.isOwner = false ∧ i.access? = some access ∧ placeholder ∈ i.users

/-- It is in such an item of the policy's list of this name. -/
def Policy.Carries (p : Policy) (list access : String) : Prop :=
  ∃ l ∈ p.itemLists, l.1 = list ∧ Carrying l.2 access

/-- Where it is in the store: the id of the policy, the list and the access. -/
def Store.carried (s : Store) : Set (Int × String × String) :=
  {x | ∃ e ∈ s.policies, e.1 = x.1 ∧ e.2.Carries x.2.1 x.2.2}

instance {items : List Item} {access : String} : Decidable (Carrying items access) :=
  inferInstanceAs (Decidable (∃ i ∈ items, _ ∧ _))

instance {p : Policy} {list access : String} : Decidable (p.Carries list access) :=
  inferInstanceAs (Decidable (∃ l ∈ p.itemLists, _ ∧ _))

instance {s : Store} {x : Int × String × String} : Decidable (x ∈ s.carried) :=
  inferInstanceAs (Decidable (∃ e ∈ s.policies, _ ∧ _))

/-! ## Items -/

section

variable {f : Item → Item} {items : List Item} {accesses : List String} {a : String}

/-- Items whose members change were the placeholder's already. -/
theorem carrying_of_map (hkey : ∀ i, (f i).key = i.key)
    (h : Carrying (items.map fun i => if i.isPlaceholderOf accesses then f i else i) a) :
    Carrying items a := by
  obtain ⟨j, hj, howner, haccess, hin⟩ := h
  obtain ⟨i, hi, rfl⟩ := List.mem_map.mp hj
  have hsame : (if i.isPlaceholderOf accesses then f i else i).key = i.key :=
    Item.ite_key hkey
  refine ⟨i, hi, (congrArg Prod.fst hsame).symm.trans howner,
    (congrArg Prod.snd hsame).symm.trans haccess, ?_⟩
  split at hin
  · rename_i hplace
    exact (Item.isPlaceholderOf_iff.mp hplace).2.2
  · exact hin

/-- As long as the placeholder stays where it is. -/
theorem carrying_map (hkey : ∀ i, (f i).key = i.key)
    (hstays : ∀ i : Item, placeholder ∈ i.users → placeholder ∈ (f i).users) :
    Carrying (items.map fun i => if i.isPlaceholderOf accesses then f i else i) a
      ↔ Carrying items a := by
  refine ⟨carrying_of_map hkey, fun h => ?_⟩
  obtain ⟨i, hi, howner, haccess, hin⟩ := h
  have hsame : (if i.isPlaceholderOf accesses then f i else i).key = i.key :=
    Item.ite_key hkey
  refine ⟨_, List.mem_map_of_mem hi, (congrArg Prod.fst hsame).trans howner,
    (congrArg Prod.snd hsame).trans haccess, ?_⟩
  split
  · exact hstays i hin
  · exact hin

theorem placeholder_not_mem_detach (i : Item) :
    placeholder ∉ (i.detach .placeholder).users := by
  intro h
  exact absurd rfl (bne_iff_ne.mp (List.mem_filter.mp h).2)

/-- Without the placeholder no item for these accesses is left to carry. -/
theorem not_carrying_detach (ha : a ∈ accesses) : ¬ Carrying
    (items.map fun i => if i.isPlaceholderOf accesses then i.detach .placeholder else i) a := by
  rintro ⟨j, hj, howner, haccess, hin⟩
  obtain ⟨i, _, rfl⟩ := List.mem_map.mp hj
  split at hin
  · exact placeholder_not_mem_detach i hin
  · rename_i hplace
    rw [if_neg hplace] at howner haccess
    exact hplace (Item.isPlaceholderOf_iff.mpr ⟨⟨a, ha, haccess⟩, howner, hin⟩)

end

/-! ## Policies -/

namespace Policy

variable {p q : Policy}

theorem carries_iff_carrying {effect : Effect} {a : String} :
    p.Carries effect.listName a ↔ Carrying (p.items effect) a := by
  cases effect <;> simp [Carries, itemLists, Effect.listName, items]

/-- Of an edited policy it is the items that allow or deny that have to be looked at. -/
theorem Carries.of_items {list a : String} (h : q.Carries list a) (hf : q.frame = p.frame)
    (hitems : ∀ effect, Carrying (q.items effect) a → Carrying (p.items effect) a) :
    p.Carries list a := by
  obtain ⟨l, hl, rfl, hcarrying⟩ := h
  rcases Policy.mem_itemLists_of_frame hf hl with rfl | rfl | hl
  · exact carries_iff_carrying.mpr (hitems .allow hcarrying)
  · exact carries_iff_carrying.mpr (hitems .deny hcarrying)
  · exact ⟨l, hl, rfl, hcarrying⟩

/-- Changes of the members of the placeholder's items, any number of them. -/
def MemberSteps (f : Item → Item) : Policy → Policy → Prop :=
  Relation.ReflTransGen fun p q => ∃ accesses, q = p.mapPlaceholderItems accesses f

variable {f : Item → Item} {list a : String}

/-- Where the placeholder is afterwards it was before. -/
theorem MemberSteps.carries_of (hkey : ∀ i, (f i).key = i.key) (h : MemberSteps f p q)
    (hq : q.Carries list a) : p.Carries list a := by
  induction h with
  | refl => exact hq
  | tail _ hstep ih =>
      obtain ⟨accesses, rfl⟩ := hstep
      refine ih (hq.of_items rfl fun effect hcarrying => ?_)
      rw [items_mapPlaceholderItems] at hcarrying
      exact carrying_of_map hkey hcarrying

/-- Where it was before it is afterwards, unless it is taken out. -/
theorem MemberSteps.carries_iff (hkey : ∀ i, (f i).key = i.key)
    (hstays : ∀ i : Item, placeholder ∈ i.users → placeholder ∈ (f i).users)
    (h : MemberSteps f p q) : q.Carries list a ↔ p.Carries list a := by
  refine ⟨h.carries_of hkey, fun hp => ?_⟩
  induction h with
  | refl => exact hp
  | tail _ hstep ih =>
      obtain ⟨accesses, rfl⟩ := hstep
      refine ih.of_items rfl fun effect hcarrying => ?_
      rw [items_mapPlaceholderItems]
      exact (carrying_map hkey hstays).mpr hcarrying

/-- **Without the placeholder a policy carries less**, if that was a change at all. -/
theorem MemberSteps.eq_or_dropped (h : MemberSteps (Item.detach .placeholder) p q) :
    q = p ∨ ∃ list a, p.Carries list a ∧ ¬ q.Carries list a := by
  induction h with
  | refl => exact Or.inl rfl
  | @tail q q' hpq hstep ih =>
      by_cases hsame : q' = q
      · rwa [hsame]
      obtain ⟨accesses, rfl⟩ := hstep
      -- a policy that has changed had an item that is emptied now, and with it all for its access
      obtain ⟨effect, i, hi, hplace⟩ : ∃ effect, ∃ i ∈ q.items effect,
          i.isPlaceholderOf (accesses effect) = true := by
        by_contra hnone
        refine hsame (ext_items rfl fun effect => ?_)
        rw [items_mapPlaceholderItems]
        refine (List.map_congr_left fun i hi => if_neg fun hplace => ?_).trans (List.map_id' _)
        exact hnone ⟨effect, i, hi, hplace⟩
      obtain ⟨⟨a, ha, haccess⟩, howner, hin⟩ := Item.isPlaceholderOf_iff.mp hplace
      have hbefore : q.Carries effect.listName a :=
        carries_iff_carrying.mpr ⟨i, hi, howner, haccess, hin⟩
      refine Or.inr ⟨effect.listName, a, MemberSteps.carries_of (fun _ => Item.detach_key) hpq
        hbefore, fun hafter => ?_⟩
      have hafter := carries_iff_carrying.mp hafter
      rw [items_mapPlaceholderItems] at hafter
      exact not_carrying_detach ha hafter

end Policy

/-! ## Stores -/

namespace Store

variable {s t : Store} {R : Policy → Policy → Prop}

/-- What is left of each policy, in its place. -/
theorem forall₂_of_frames (h : t.frames = s.frames)
    (hR : ∀ e ∈ s.policies, ∀ p, (e.1, p) ∈ t.policies → R e.2 p) :
    List.Forall₂ (fun e e' => e'.1 = e.1 ∧ R e.2 e'.2) s.policies t.policies := by
  have hframes : List.Forall₂ (fun e e' : Int × Policy => e'.1 = e.1) s.policies t.policies := by
    have hids : List.Forall₂ Eq s.frames t.frames := by rw [h, List.forall₂_eq_eq_eq]
    rw [frames, frames, List.forall₂_map_left_iff, List.forall₂_map_right_iff] at hids
    exact hids.imp fun _ _ heq => (congrArg Prod.fst heq).symm
  have hleft := (List.forall₂_and_left _ _).mpr ⟨fun _ he => he, hframes⟩
  have hboth := (List.forall₂_and_left _ _).mpr ⟨fun _ he => he, hleft.flip⟩
  refine hboth.flip.imp fun e e' he => ?_
  obtain ⟨he', he, hid⟩ := he
  exact ⟨hid, hR e he e'.2 (hid ▸ he')⟩

theorem carried_eq (h : List.Forall₂ (fun e e' => e'.1 = e.1
      ∧ ∀ list a, e'.2.Carries list a ↔ e.2.Carries list a) s.policies t.policies) :
    t.carried = s.carried := by
  unfold carried
  generalize s.policies = es at h ⊢
  generalize t.policies = es' at h ⊢
  induction h with
  | nil => rfl
  | cons hhead _ ih =>
      ext x
      have hrest := Set.ext_iff.mp ih x
      simp only [Set.mem_ofPred_eq] at hrest
      simp only [Set.mem_ofPred_eq, List.exists_mem_cons_iff, hhead.1, hhead.2, hrest]

/-- If policies that have changed carry less, then the whole does. -/
theorem policies_eq_of_carried (hs : s.Keyed)
    (h : List.Forall₂ (fun e e' => e'.1 = e.1
      ∧ (e'.2 = e.2 ∨ ∃ list a, e.2.Carries list a ∧ ¬ e'.2.Carries list a))
      s.policies t.policies) (hsame : t.carried = s.carried) : t.policies = s.policies := by
  have hids : t.policies.map Prod.fst = s.policies.map Prod.fst := by
    rw [← List.forall₂_eq_eq_eq, List.forall₂_map_left_iff, List.forall₂_map_right_iff]
    exact (h.imp fun _ _ he => he.1).flip
  rw [← List.forall₂_eq_eq_eq]
  have hright := (List.forall₂_and_left _ _).mpr ⟨fun _ he => he, h.flip⟩
  have hboth := (List.forall₂_and_left _ _).mpr ⟨fun _ he => he, hright.flip⟩
  refine hboth.flip.imp fun e' e he => ?_
  obtain ⟨he, he', hid, hsame' | ⟨list, a, hcarries, hnot⟩⟩ := he
  · exact Prod.ext hid hsame'
  · have hin : (e.1, list, a) ∈ s.carried := ⟨e, he, rfl, hcarries⟩
    rw [← hsame] at hin
    obtain ⟨e'', he'', hid', hcarries'⟩ := hin
    have honly : e'' = e' :=
      List.inj_on_of_nodup_map (hids ▸ hs.nodup) he'' he' (hid'.trans hid.symm)
    exact absurd (honly ▸ hcarries') hnot

end Store

namespace Keeper

variable {k : Keeper} {event : Event} {s t : Store} {p q : Policy} {roles : List Role}
  {f : Item → Item}

theorem mapped_of_edits (hevent : k.edits event = k.memberEdits roles f) {x : ObjectEdit}
    (hx : x ∈ k.edits event) (p : Policy) : ∃ accesses, x.2 p = p.mapPlaceholderItems accesses f :=
  forall_memberEdits (P := fun g => ∀ p, ∃ accesses, g p = p.mapPlaceholderItems accesses f)
    (fun _ o _ => ⟨k.accesses o, rfl⟩) roles x (hevent ▸ hx) p

theorem memberSteps_of_edits (hevent : k.edits event = k.memberEdits roles f)
    (h : k.Evolves event p q) : Policy.MemberSteps f p q := by
  refine Relation.ReflTransGen.mono (fun p q hedit => ?_) _ _ h
  obtain ⟨x, hx, _, rfl⟩ := hedit
  exact mapped_of_edits hevent hx p

/-! ### No policy is made or taken away -/

/-- A policy that was in the store, as far as its items do not matter, or a new one, which has
none. -/
structure Framed (s : Store) (p : Policy) : Prop where
  new : p.id = none → p.hasNoItems = true
  old : ∀ id, p.id = some id → ∃ q, (id, q) ∈ s.policies ∧ q.frame = p.frame

/-- All policies are still there, and none besides, as far as their items do not matter. Nothing
stands against those that have changed. -/
structure Reframed (s t : Store) : Prop where
  built : t.Built
  frames : t.frames = s.frames
  taken : ∀ e ∈ s.policies, e ∈ t.policies ∨ s.conflict? (some e.1) e.2 = none

theorem Reframed.refl (hs : s.Built) : Reframed s s := ⟨hs, rfl, fun _ he => Or.inl he⟩

theorem framed_newPolicy {name : String} {o : CatalogObject} (hp : k.newPolicy name o = .ok p) :
    Framed s p := by
  obtain ⟨_, _, rfl⟩ := newPolicy_ok hp
  exact ⟨fun _ => rfl, fun id hid => absurd hid (by simp [Policy.managed])⟩

theorem Reframed.framed (h : Reframed s t) {e : Int × Policy} (he : e ∈ t.policies) :
    Framed s e.2 := by
  have hid : e.2.id = some e.1 := h.built.keyed.ids e he
  refine ⟨fun hnone => absurd (hid.symm.trans hnone) (by simp), fun id hid' => ?_⟩
  rw [hid] at hid'
  cases hid'
  exact Store.exists_of_frames h.frames he

/-- An edit of members, in the place of its policy. -/
theorem Reframed.updatePolicy (hs : s.Keyed) (h : Reframed s t) {id : Int}
    (hp : (id, p) ∈ s.policies) (hf : q.frame = p.frame) : Reframed s (t.updatePolicy id q).2 := by
  have hbuilt : (t.updatePolicy id q).2.Built := h.built.perform (.updatePolicy id q)
  rcases t.updatePolicy_cases id q with ⟨_, hrefused⟩ | ⟨hhas, hnone, htaken⟩
  · rw [hrefused]
    exact h
  · rw [htaken] at hbuilt ⊢
    obtain ⟨now, hnow, hframe⟩ := Store.exists_of_frames h.frames.symm hp
    have hplace : (id, now) ∈ t.policies := hnow
    refine ⟨hbuilt, ?_, fun e he => ?_⟩
    · rw [Store.frames_updated h.built.keyed hplace (hf.trans hframe.symm), h.frames]
    · by_cases hid : e.1 = id
      · -- what the store has taken just now it would have taken in the beginning
        cases hs.eq_of_id he hp hid
        exact Or.inr ((Store.conflict?_of_frames h.frames hf (some id)).symm.trans hnone)
      · exact (h.taken e he).imp_left fun hin =>
          (Store.mem_updated hhas).mpr (Or.inl ⟨hin, hid⟩)

/-- **A call that a keeper may make for those who come or go makes no policy and takes none
away.** -/
theorem Reframed.perform (hevent : k.edits event = k.memberEdits roles f) (hs : s.Keyed)
    (h : Reframed s t) {c : Call} (hc : k.May (k.EditedIn (Framed s) (k.edits event)) c) :
    Reframed s (t.perform c).2 := by
  cases hw : Store.writesPolicies c with
  | false =>
      have hsame : (t.perform c).2.policies = t.policies := (Store.perform_policies hw t).1
      refine ⟨h.built.perform c, ?_, fun e he => hsame ▸ h.taken e he⟩
      rw [← h.frames, Store.frames, hsame]
      rfl
  | true =>
      cases c with
      | createPolicy p' =>
          obtain ⟨hsome, p, hid, x, hx, hp, rfl⟩ := hc
          obtain ⟨accesses, hmapped⟩ := mapped_of_edits hevent hx p
          -- a new policy has no items for members to come to, so it is not written
          rw [hmapped, Policy.hasNoItems_mapPlaceholderItems, hp.known.new hid] at hsome
          exact absurd hsome (by simp)
      | updatePolicy id p' =>
          obtain ⟨_, p, hid, x, hx, hp, rfl⟩ := hc
          obtain ⟨old, hold, hframe⟩ := hp.known.old id hid
          have hf : (x.2 p).frame = old.frame :=
            (k.frame_of_edits event x hx p).trans hframe.symm
          exact h.updatePolicy hs hold hf
      | deletePolicy id =>
          obtain ⟨p, p', hni, _, hne, x, hx, _, rfl⟩ := hc
          obtain ⟨accesses, hmapped⟩ := mapped_of_edits hevent hx p
          -- members that go take no item with them, so no policy is left without any
          rw [hmapped] at hni hne
          exact absurd (Policy.mapPlaceholderItems_of_hasNoItems hni) hne
      | _ => exact absurd hw (by simp [Store.writesPolicies])

theorem Reframed.shows (h : Reframed s t) (c : Call) :
    Call.Shows (Framed s) c (t.perform c).1 := by
  cases c with
  | findPolicies search =>
      intro found hfound p hp
      cases hfound
      obtain ⟨e, he, rfl⟩ := List.mem_map.mp (List.mem_filter.mp hp).1
      exact h.framed he
  | _ => trivial

theorem reframed_handle (hevent : k.edits event = k.memberEdits roles f) {r : Rehearsal}
    (hs : r.store.Built) : Reframed r.store (Rehearsal.run (k.handle event) r).2.store := by
  have hedits : k.MakesEdits (Framed r.store) (k.edits event) (k.handle event) fun _ => True :=
    makesEdits_handle fun _ _ _ _ hp => framed_newPolicy hp
  exact hedits.rehearse (fun c t hc h => ⟨h.perform hevent hs.keyed hc, h.shows c⟩)
    (.refl hs)

/-- If nothing is disturbed. -/
theorem reframed_of_run (hevent : k.edits event = k.memberEdits roles f) (hs : s.Built)
    {r : Except Failure Bool} (hrun : (k.handle event).run Store.perform s = (r, t)) :
    Reframed s t := by
  have hnil : k.disturbed event [] s = t := by rw [disturbed_nil, hrun]
  rw [← hnil]
  exact reframed_handle hevent (r := { store := s }) hs

/-- **What becomes of the policies when somebody comes or goes**, whatever is disturbed: each has
evolved in its place, and there are no others. -/
theorem handle_evolved (hevent : k.edits event = k.memberEdits roles f) {r : Rehearsal}
    (hs : r.store.Built) : List.Forall₂ (fun e e' => e'.1 = e.1 ∧ k.Evolves event e.2 e'.2)
      r.store.policies (Rehearsal.run (k.handle event) r).2.store.policies :=
  Store.forall₂_of_frames (reframed_handle hevent hs).frames (k.handle_kept event hs).evolved

/-! ### What is carried -/

/-- Each policy is in its place, with all but two of its lists as it was. In those two, items are in
their places, and of the placeholder's some have gained or lost a member. -/
def MembersMoved (k : Keeper) (f : Item → Item) (s t : Store) : Prop :=
  List.Forall₂ (fun e e' => e'.1 = e.1 ∧ e'.2.frame = e.2.frame
    ∧ ∀ effect, List.Forall₂ (k.Moved f) (e.2.items effect) (e'.2.items effect))
    s.policies t.policies

/-- **Somebody comes or goes.** Whoever is granted roles or loses them, on whatever store, and
however it ends, disturbed or not:

* nothing of the policies changes, but that the name enters the placeholder's items, or leaves them;
* if roles are granted, the placeholder is where it was;
* if roles are lost, it is where it was unless it is the placeholder that loses them, and then
  exactly if no policy was written. -/
theorem carried_members (k : Keeper) (roles : List Role) (who : Principal) {r : Rehearsal}
    (hs : r.store.Built) :
    let s := r.store
    let t := (Rehearsal.run (k.handle (.rolesGranted roles who)) r).2.store
    let u := (Rehearsal.run (k.handle (.rolesRevoked roles who)) r).2.store
    k.MembersMoved (Item.attach who) s t ∧ t.carried = s.carried
      ∧ k.MembersMoved (Item.detach who) s u
      ∧ (u.carried = s.carried ↔ who ≠ .placeholder ∨ u.policies = s.policies) := by
  intro s t u
  have hgranted : k.edits (.rolesGranted roles who) = k.memberEdits roles (Item.attach who) := rfl
  have hrevoked : k.edits (.rolesRevoked roles who) = k.memberEdits roles (Item.detach who) := rfl
  have ht := handle_evolved hgranted hs
  have hu := handle_evolved hrevoked hs
  have hattach : ∀ i : Item, (i.attach who).key = i.key := fun _ => Item.attach_key
  have hdetach : ∀ i : Item, (i.detach who).key = i.key := fun _ => Item.detach_key
  refine ⟨ht.imp fun e e' h => ⟨h.1, h.2.frame, h.2.leaves⟩, ?_,
    hu.imp fun e e' h => ⟨h.1, h.2.frame, h.2.leaves⟩, ?_, ?_⟩
  · exact Store.carried_eq <| ht.imp fun e e' h => ⟨h.1, fun list a =>
      (memberSteps_of_edits hgranted h.2).carries_iff hattach fun _ => Item.placeholder_mem_attach⟩
  · rw [or_iff_not_imp_left, not_not]
    rintro hsame rfl
    exact Store.policies_eq_of_carried hs.keyed (hu.imp fun e e' h =>
      ⟨h.1, (memberSteps_of_edits hrevoked h.2).eq_or_dropped⟩) hsame
  · rintro (hwho | hsame)
    · exact Store.carried_eq <| hu.imp fun e e' h => ⟨h.1, fun list a =>
        (memberSteps_of_edits hrevoked h.2).carries_iff hdetach fun _ =>
          Item.placeholder_mem_detach hwho⟩
    · unfold Store.carried
      rw [hsame]

/-- The role of a user is taken from the placeholder. -/
def withoutPlaceholder : Store :=
  ((ofOwners.handle (.rolesRevoked [browser] .placeholder)).run Store.perform withBrowser).2

/-- Then the role is deleted. -/
def withBrowserDeleted : Store :=
  ((ofOwners.handle (.roleDeleted browser)).run Store.perform withoutPlaceholder).2

/-- The placeholder was in the item for looking at the schema and is not any more, so the user keeps
what nobody finds there when the role is deleted. -/
theorem not_carried_browser :
    (ofOwners.handle (.rolesRevoked [browser] .placeholder)).run Store.perform withBrowser
        = (.ok true, withoutPlaceholder)
      ∧ ¬ withoutPlaceholder.carried = withBrowser.carried
      ∧ (ofOwners.handle (.roleDeleted browser)).run Store.perform withoutPlaceholder
        = (.ok true, withBrowserDeleted)
      ∧ ofOwners.Attached withBrowserDeleted looking ⟨.user, "alice"⟩ := by
  refine ⟨Plan.run_eq_ok (by decide +kernel), fun hsame => ?_, Plan.run_eq_ok (by decide +kernel),
    attaches_iff.mp (by decide +kernel)⟩
  have hbefore : (1, Effect.allow.listName, "select") ∈ withBrowser.carried := by decide +kernel
  rw [← hsame] at hbefore
  exact absurd hbefore (by decide +kernel)

/-- The user loses the role itself. -/
def undisturbed : Rehearsal := { store := withBrowser }

def withBrowserLeft : Store :=
  (Rehearsal.run (ofOwners.handle (.rolesRevoked [browser] ⟨.user, "alice"⟩)) undisturbed).2.store

/-- Then the placeholder stays. -/
theorem carried_browser : undisturbed.store.Built
    ∧ withBrowserLeft.policies ≠ undisturbed.store.policies
    ∧ withBrowserLeft.carried = undisturbed.store.carried := by
  have hbuilt : undisturbed.store.Built := by
    simp only [undisturbed]
    exact withBrowser_built
  obtain ⟨_, _, _, hiff⟩ := ofOwners.carried_members [browser] ⟨.user, "alice"⟩ hbuilt
  exact ⟨hbuilt, by decide +kernel, hiff.mpr (Or.inl (by decide))⟩

end Keeper

end PolicyKeeper
