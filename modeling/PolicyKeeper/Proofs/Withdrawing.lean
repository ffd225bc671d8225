import PolicyKeeper.Proofs.Reaching
import PolicyKeeper.Proofs.Replacing
import PolicyKeeper.Proofs.Stepwise

/-!
# Withdrawing from everyone at once

In owner-placeholder mode those who hold a role are in the items of its objects, beside the
placeholder. Nobody keeps a list of them. When an object is taken from a role, the keeper takes away
the placeholder's items for its accesses, with whoever is in them, and passes over items that the
placeholder is not in.

That reaches everyone if there are no such items. There are none, as long as nobody asks for the
placeholder itself to be granted a role or to lose one (`Policy.Placed`): items come with the
placeholder in them, and nothing else takes it out, except from items of owners. So an object that
is taken away leaves of each list exactly the items that it does not cover (`hasItem_removals`).
-/

namespace PolicyKeeper

/-! ## Items with the placeholder in them -/

/-- The item is an owner's, or the placeholder is in it. -/
def Item.Placed (i : Item) : Prop := i.isOwner = false → placeholder ∈ i.users

/-- All items of the policy are, whatever their list. -/
def Policy.Placed (p : Policy) : Prop := ∀ l ∈ p.itemLists, ∀ i ∈ l.2, i.Placed

namespace Item

variable {i : Item} {who : Principal}

theorem placeholder_mem_attach (h : placeholder ∈ i.users) :
    placeholder ∈ (i.attach who).users := by
  obtain ⟨kind, name⟩ := who
  unfold attach
  dsimp only
  split
  · exact h
  · cases kind with
    | user => exact List.mem_append_left _ h
    | group => exact h

/-- Nobody but the placeholder takes the placeholder out. -/
theorem placeholder_mem_detach (hwho : who ≠ .placeholder) (h : placeholder ∈ i.users) :
    placeholder ∈ (i.detach who).users := by
  obtain ⟨kind, name⟩ := who
  cases kind with
  | user =>
      have hname : placeholder ≠ name := fun heq => hwho (heq ▸ rfl)
      exact List.mem_filter.mpr ⟨h, bne_iff_ne.mpr hname⟩
  | group => exact h

end Item

namespace Policy

variable {p p' : Policy}

theorem Placed.items (h : p.Placed) (effect : Effect) : ∀ i ∈ p.items effect, i.Placed := by
  cases effect with
  | allow => exact h ("policyItems", _) List.mem_cons_self
  | deny => exact h ("denyPolicyItems", _) (List.mem_cons_of_mem _ List.mem_cons_self)

/-- Of an edited policy it is the items that allow or deny that have to be looked at. -/
theorem Placed.edited (h : p.Placed) (hf : p'.frame = p.frame)
    (hitems : ∀ effect, ∀ i ∈ p'.items effect, i.Placed) : p'.Placed := by
  intro l hl
  rcases Policy.mem_itemLists_of_frame hf hl with rfl | rfl | hl
  · exact hitems .allow
  · exact hitems .deny
  · exact h l hl

theorem placed_managed (service name : String) (path : Fields String) :
    (Policy.managed service name path).Placed := by
  have hnil : ∀ l ∈ (Policy.managed service name path).itemLists, l.2 = [] := by
    simp [Policy.managed, Policy.itemLists]
  intro l hl i hi
  rw [hnil l hl] at hi
  exact absurd hi List.not_mem_nil

theorem Placed.handOver (h : p.Placed) (accesses : List String) (previous : Option Principal)
    (new : Principal) : (p.handOver accesses previous new).Placed :=
  h.edited rfl fun effect i hi howner =>
    h.items effect i (mem_of_mem_handOver hi howner) howner

/-- Members may come and go, as long as the placeholder stays. -/
theorem Placed.mapPlaceholderItems (h : p.Placed) (accesses : Effect → List String)
    {f : Item → Item} (hf : ∀ i : Item, placeholder ∈ i.users → placeholder ∈ (f i).users) :
    (p.mapPlaceholderItems accesses f).Placed := by
  refine h.edited rfl fun effect i hi => ?_
  rw [items_mapPlaceholderItems] at hi
  obtain ⟨j, hj, rfl⟩ := List.mem_map.mp hi
  split
  · rename_i hplace
    exact fun _ => hf j (Item.isPlaceholderOf_iff.mp hplace).2.2
  · exact h.items effect j hj

end Policy

/-- The principal that is granted a role, or loses one, is not the placeholder. -/
def Event.SparesPlaceholder : Event → Prop
  | rolesGranted _ who | rolesRevoked _ who => who ≠ .placeholder
  | _ => True

namespace Keeper

variable {k : Keeper} {s t : Store} {role : Role} {event : Event}

/-! ## Edits keep the placeholder in its items -/

theorem placed_edit (hmode : k.mode = .ownerPlaceholder) {p : Policy} (h : p.Placed)
    (change : RoleChange) : (k.edit role change p).Placed := by
  have hgrant : ∀ {accesses : List String} {items : List Item}, (∀ i ∈ items, i.Placed) →
      ∀ i ∈ Holder.placeholder.grant accesses items, i.Placed := by
    intro accesses items hitems i hi
    rcases Holder.mem_grant_placeholder.mp hi with hi | ⟨_, _, _, rfl⟩
    · exact hitems i hi
    · exact fun _ => List.mem_singleton_self _
  have hrevoke : ∀ {accesses : List String} {items : List Item}, (∀ i ∈ items, i.Placed) →
      ∀ i ∈ Holder.placeholder.revoke accesses items, i.Placed :=
    fun hitems i hi => hitems i (Holder.mem_revoke_placeholder.mp hi).1
  refine h.edited (k.edit_frame role change p) fun effect => ?_
  rw [items_edit]
  cases change with
  | add o =>
      rw [editItems, holder, hmode]
      exact hgrant (h.items effect)
  | remove o =>
      rw [editItems, holder, hmode]
      exact hrevoke (h.items effect)
  | replace old new =>
      rw [editItems, holder, hmode]
      exact hgrant (hrevoke (h.items effect))

theorem placed_edits (hmode : k.mode = .ownerPlaceholder) (hevent : event.SparesPlaceholder) :
    ∀ x ∈ k.edits event, ∀ p : Policy, p.Placed → (x.2 p).Placed := by
  intro x hx p hp
  cases event with
  | roleCreated role | roleDeleted role | roleUpdated role changes =>
      obtain ⟨_, _, rfl⟩ := List.mem_map.mp hx
      exact placed_edit hmode hp _
  | ownerSet o previous new =>
      rw [List.mem_singleton.mp hx]
      exact hp.handOver _ previous new
  | rolesGranted roles who =>
      exact forall_memberEdits (P := fun f => (f p).Placed)
        (fun _ o => hp.mapPlaceholderItems (k.accesses o) fun _ => Item.placeholder_mem_attach)
        roles x hx
  | rolesRevoked roles who =>
      exact forall_memberEdits (P := fun f => (f p).Placed)
        (fun _ o => hp.mapPlaceholderItems (k.accesses o) fun _ =>
          Item.placeholder_mem_detach hevent) roles x hx
  | roleAcquired _ | principalAdded _ | principalRemoved _ | principalAcquired _ =>
      exact absurd hx List.not_mem_nil

/-- A store that the keeper makes from the empty one, by events of some kind alone. -/
inductive ReachedBy (k : Keeper) (kind : Event → Prop) : Store → Prop where
  | start : ReachedBy k kind {}
  | next {s : Store} (event : Event) (disturbances : List Disturbance) (hevent : kind event)
      (past : ReachedBy k kind s) : ReachedBy k kind (k.disturbed event disturbances s)

theorem ReachedBy.reached {kind : Event → Prop} (h : k.ReachedBy kind s) : k.Reached s := by
  induction h with
  | start => exact .start
  | next event disturbances _ _ ih => exact ih.next event disturbances

/-- An event that nothing disturbs. -/
theorem ReachedBy.handle {kind : Event → Prop} (h : k.ReachedBy kind s) (event : Event)
    (hevent : kind event) : k.ReachedBy kind ((k.handle event).run Store.perform s).2 := by
  rw [← disturbed_nil]
  exact h.next event [] hevent

/-- **The placeholder is in every item that is not an owner's.** -/
theorem ReachedBy.placed (hmode : k.mode = .ownerPlaceholder)
    (h : k.ReachedBy Event.SparesPlaceholder s) : ∀ e ∈ s.policies, e.2.Placed := by
  induction h with
  | start => exact fun _ he => absurd he List.not_mem_nil
  | next event disturbances hevent _ ih =>
      refine known_disturbed (fun _ _ h => h) (fun o name p hp => ?_) (placed_edits hmode hevent)
        disturbances ih
      obtain ⟨_, _, rfl⟩ := newPolicy_ok hp
      exact Policy.placed_managed _ _ _

/-! ## What is taken away -/

/-- The item is for an access that the object's entitlements stand for there, and not an owner's. -/
def Withdraws (k : Keeper) (o : Securable) (loc : Location) (effect : Effect) (i : Item) : Prop :=
  i.isOwner = false ∧ ∃ a, i.access? = some a ∧ k.Covers o loc effect a

/-- One removal takes just the items that the object covers. -/
theorem Wrote.hasItem_removed (hmode : k.mode = .ownerPlaceholder) (hk : s.Keyed) {o : Securable}
    (hplaced : ∀ loc effect i, k.HasItem s loc effect i → i.Placed)
    (h : k.Wrote role (.remove o) s t) (loc : Location) (effect : Effect) (i : Item) :
    k.HasItem t loc effect i ↔ k.HasItem s loc effect i ∧ ¬ k.Withdraws o loc effect i := by
  obtain ⟨loc', p, hloc, hsite, _, hedited⟩ := h.edited hk
  by_cases hhere : loc = loc'
  · subst hhere
    rw [hedited.here, items_edit, editItems, holder, hmode, Holder.mem_revoke_placeholder,
      ← hsite.edited.here]
    refine and_congr_right fun hi => ?_
    rw [← Bool.not_eq_true, Item.isPlaceholderOf_iff]
    refine not_congr ⟨?_, ?_⟩
    · rintro ⟨⟨a, ha, haccess⟩, howner, _⟩
      exact ⟨howner, a, haccess, (covers_iff hloc).mpr ⟨rfl, ha⟩⟩
    · rintro ⟨howner, a, haccess, hcovers⟩
      exact ⟨⟨a, ((covers_iff hloc).mp hcovers).2, haccess⟩, howner,
        hplaced loc effect i hi howner⟩
  · rw [hedited.elsewhere hhere, iff_self_and]
    rintro _ ⟨_, a, _, hcovers⟩
    exact hhere ((covers_iff hloc).mp hcovers).1

/-- **Removals, one after the other**, take just the items that one of the objects covers. -/
theorem hasItem_removals (hmode : k.mode = .ownerPlaceholder) (hs : s.Built)
    {os : List Securable} (hl : ∀ o ∈ os, k.layout.Legible o.object)
    (hplaced : ∀ loc effect i, k.HasItem s loc effect i → i.Placed)
    (h : Plan.InTurn Store.perform (k.removeObject role) s os t) (loc : Location) (effect : Effect)
    (i : Item) : k.HasItem t loc effect i
      ↔ k.HasItem s loc effect i ∧ ∀ o ∈ os, ¬ k.Withdraws o loc effect i := by
  induction h with
  | none s => simp
  | @next o os s s₁ t hrun _ ih =>
      obtain ⟨ho, hrest⟩ := List.forall_mem_cons.mp hl
      have hstep := Wrote.hasItem_removed hmode hs.keyed hplaced
        ((removeObject_wrote hs.keyed ho).of_run hrun)
      have hplaced₁ : ∀ loc effect i, k.HasItem s₁ loc effect i → i.Placed :=
        fun loc effect i hi => hplaced loc effect i ((hstep loc effect i).mp hi).1
      rw [ih (hs.of_run hrun) hrest hplaced₁, hstep, List.forall_mem_cons, and_assoc]

/-- The event takes the objects from a role: all that a role has, or one of them. -/
inductive Takes : Event → List Securable → Prop where
  | deleted (role : Role) : Takes (.roleDeleted role) role.securables
  | removed (role : Role) (o : Securable) : Takes (.roleUpdated role [.remove o]) [o]

/-- If it goes well, the objects were taken one after the other. -/
theorem Takes.inTurn (hmode : k.mode = .ownerPlaceholder) {os : List Securable}
    (h : Takes event os) (hrun : (k.handle event).run Store.perform s = (.ok true, t)) :
    ∃ role, Plan.InTurn Store.perform (k.removeObject role) s os t := by
  cases h with
  | deleted role =>
      obtain ⟨_, s₁, hremovals, hend⟩ := Plan.run_bind_ok hrun
      have hnotRole : ¬ k.mode = .role := by
        rw [hmode]
        simp
      rw [if_neg hnotRole] at hend
      cases hend
      exact ⟨role, Plan.InTurn.during.mp (Plan.run_forM_ok.mp hremovals)⟩
  | removed role o =>
      have hchanges := run_roleUpdated_ok.mp hrun
      cases hchanges with
      | next hremoved hnone =>
          cases hnone
          exact ⟨role, .next hremoved (.none _)⟩

/-- **What is taken from a role is taken from everyone.** In owner-placeholder mode, after any
events in which nobody asks for the placeholder to be granted a role or to lose one:

* the placeholder is in every item that is not an owner's;
* when a role is deleted, or loses an object, and that goes well, no item of roles is left for any
  access that an object which was taken away covers, and so nobody has it;
* every other item is there exactly if it was before. -/
theorem taken_from_everyone (hmode : k.mode = .ownerPlaceholder)
    (h : k.ReachedBy Event.SparesPlaceholder s) :
    (∀ e ∈ s.policies, e.2.Placed)
      ∧ ∀ {event os t}, Takes event os → (∀ o ∈ os, k.layout.Legible o.object) →
        (k.handle event).run Store.perform s = (.ok true, t) →
        (∀ o ∈ os, ∀ loc effect a, k.Covers o loc effect a →
          ∀ i, k.HasItem t loc effect i → Holder.grantsAccess a i = false)
        ∧ ∀ loc effect i, (∀ o ∈ os, ¬ k.Withdraws o loc effect i) →
          (k.HasItem t loc effect i ↔ k.HasItem s loc effect i) := by
  have hplaced : ∀ e ∈ s.policies, e.2.Placed := h.placed hmode
  refine ⟨hplaced, fun {event os t} htakes hl hrun => ?_⟩
  obtain ⟨role, hturn⟩ := htakes.inTurn hmode hrun
  have hitems := hasItem_removals hmode h.reached.sound.built hl
    (fun loc effect i ⟨e, he, _, hi⟩ => (hplaced e he).items effect i hi) hturn
  refine ⟨fun o ho loc effect a hcovers i hi => ?_, fun loc effect i hnot => ?_⟩
  · -- an item for the access would have been taken
    refine Bool.eq_false_iff.mpr fun hgrants => ?_
    obtain ⟨howner, haccess⟩ := Holder.grantsAccess_iff.mp hgrants
    exact ((hitems loc effect i).mp hi).2 o ho ⟨howner, a, haccess, hcovers⟩
  · rw [hitems, and_iff_left hnot]

/-- The role that a user holds is deleted. -/
def withoutBrowser : Store :=
  ((ofOwners.handle (.roleDeleted browser)).run Store.perform withBrowser).2

/-- The user was attached to the item for looking at the schema. Nobody is left there. -/
theorem taken_from_everyone_browser :
    (ofOwners.handle (.roleDeleted browser)).run Store.perform withBrowser
        = (.ok true, withoutBrowser)
      ∧ ofOwners.Attached withBrowser looking ⟨.user, "alice"⟩
      ∧ ∀ who, ¬ ofOwners.Attached withoutBrowser looking who := by
  have hreached : ofOwners.ReachedBy Event.SparesPlaceholder withBrowser := by
    have hnobody : ofOwners.ReachedBy Event.SparesPlaceholder {} := .start
    have halice : (⟨.user, "alice"⟩ : Principal) ≠ .placeholder := by decide
    exact (hnobody.handle (.roleCreated browser) trivial).handle (.rolesGranted [browser] _) halice
  have hrun : (ofOwners.handle (.roleDeleted browser)).run Store.perform withBrowser
      = (.ok true, withoutBrowser) := Plan.run_eq_ok (by decide +kernel)
  have htaken := (taken_from_everyone rfl hreached).2 (.deleted browser) (by decide +kernel) hrun
  refine ⟨hrun, attaches_iff.mp (by decide +kernel), ?_⟩
  rintro who ⟨i, hi, hgrants, _⟩
  have hnot := htaken.1 browsing List.mem_cons_self looking.location looking.effect looking.access
    (looking_needed (by decide)) i hi
  exact absurd hgrants (Bool.eq_false_iff.mp hnot)

end Keeper

end PolicyKeeper
