import Mathlib.Data.List.Forall2
import Mathlib.Logic.Relation
import PolicyKeeper.Proofs.Editing
import PolicyKeeper.Proofs.Placeholder
import PolicyKeeper.Proofs.Rights
import PolicyKeeper.Proofs.Store.Keyed
import PolicyKeeper.Store.Rehearsal

/-!
# What an event leaves alone

An event concerns the managed policies on exactly the paths of its objects. Whatever else is in the
store, put there by whomever, is there unchanged afterwards, and of the policies that it concerns
only the items change, as the edits of the event change them (`Keeper.handle_leaves`).

The argument is one invariant of the store, measured against the store in the beginning (`Kept`):
what is left of a policy comes from it by edits of the event, and one that is gone was edited down
to nothing. A call that a keeper may make keeps this, whatever was read before, and so does a call
that fails. What the edits of an event leave alone is then a matter of policies, not of stores.
-/

namespace PolicyKeeper

def Role.objects (role : Role) : List CatalogObject := role.securables.map (·.object)

/-- The objects that an event is about. -/
def Event.objects : Event → List CatalogObject
  | roleCreated role | roleAcquired role | roleDeleted role => role.objects
  | roleUpdated _ changes => changes.map (·.place)
  | ownerSet o _ _ => [o]
  | rolesGranted roles _ | rolesRevoked roles _ => roles.flatMap (·.objects)
  | principalAdded _ | principalRemoved _ | principalAcquired _ => []

namespace Keeper

/-- The policy is managed, on exactly the path of one of the objects that the event is about. -/
def Concerns (k : Keeper) (event : Event) (p : Policy) : Prop :=
  ∃ o ∈ event.objects, ∃ loc, k.layout.Locates o loc ∧ k.Manages p loc

/-- One edit of the event, made of a policy of the keeper's service. -/
def EditedOn (k : Keeper) (event : Event) : Policy → Policy → Prop :=
  k.EditedIn (fun p => p.service = k.service) (k.edits event)

/-- Any number of edits of the event. -/
def Evolves (k : Keeper) (event : Event) : Policy → Policy → Prop :=
  Relation.ReflTransGen (k.EditedOn event)

/-- What an event has made of the policies that there were. -/
structure Kept (k : Keeper) (event : Event) (s t : Store) : Prop where
  built : t.Built
  counter : s.lastId ≤ t.lastId
  /-- What is left of a policy has evolved from it. -/
  evolved : ∀ e ∈ s.policies, ∀ p, (e.1, p) ∈ t.policies → k.Evolves event e.2 p
  /-- A policy that is gone was edited down to nothing. -/
  gone : ∀ e ∈ s.policies, t.hasPolicy e.1 = false →
    ∃ p p', k.Evolves event e.2 p ∧ k.EditedOn event p p' ∧ p' ≠ p ∧ p'.hasNoItems = true
  /-- New policies are for objects of the event. -/
  new : ∀ e ∈ t.policies, s.hasPolicy e.1 = false → k.Concerns event e.2

/-- A policy of the keeper's service that has evolved from the one of its id, if there was one. -/
def Traced (k : Keeper) (event : Event) (s : Store) (p : Policy) : Prop :=
  p.service = k.service ∧ ∀ e ∈ s.policies, p.id = some e.1 → k.Evolves event e.2 p

variable {k : Keeper} {event : Event} {s t : Store} {p p' : Policy}

theorem object_mem_of_edits : ∀ x ∈ k.edits event, x.1 ∈ event.objects := by
  have hmembers : ∀ (roles : List Role) (f : Item → Item), ∀ x ∈ k.memberEdits roles f,
      x.1 ∈ roles.flatMap (·.objects) := by
    intro roles f x hx
    obtain ⟨_, role, hrole, o, ho, rfl⟩ := exists_of_memberEdits hx
    exact List.mem_flatMap.mpr ⟨role, hrole, List.mem_map_of_mem ho⟩
  cases event with
  | roleCreated role | roleDeleted role =>
      exact List.forall_mem_map.mpr fun o ho => List.mem_map_of_mem ho
  | roleUpdated role changes => exact List.forall_mem_map.mpr fun c hc => List.mem_map_of_mem hc
  | ownerSet o previous new =>
      intro x hx
      rw [List.mem_singleton.mp hx]
      exact List.mem_singleton_self o
  | rolesGranted roles who | rolesRevoked roles who => exact hmembers roles _
  | roleAcquired _ | principalAdded _ | principalRemoved _ | principalAcquired _ =>
      exact fun x hx => absurd hx List.not_mem_nil

theorem EditedOn.frame (h : k.EditedOn event p p') : p'.frame = p.frame := by
  obtain ⟨x, hx, _, rfl⟩ := h
  exact k.frame_of_edits event x hx p

theorem EditedOn.concerns (h : k.EditedOn event p p') : k.Concerns event p := by
  obtain ⟨x, hx, ⟨hservice, hmanaged, loc, hloc, hguards⟩, _⟩ := h
  exact ⟨x.1, object_mem_of_edits x hx, loc, hloc, hservice, hmanaged, hguards⟩

theorem Concerns.of_frame (h : k.Concerns event p) (hf : p'.frame = p.frame) :
    k.Concerns event p' := by
  obtain ⟨o, ho, loc, hloc, hman⟩ := h
  exact ⟨o, ho, loc, hloc, hman.of_frame hf⟩

theorem Evolves.frame (h : k.Evolves event p p') : p'.frame = p.frame := by
  induction h with
  | refl => rfl
  | tail _ hstep ih => exact hstep.frame.trans ih

theorem Kept.refl (hs : s.Built) : k.Kept event s s where
  built := hs
  counter := Int.le_refl _
  evolved := by
    intro e he p hp
    have hsame : e = (e.1, p) := hs.keyed.eq_of_id he hp rfl
    have hp : e.2 = p := congrArg Prod.snd hsame
    rw [hp]
    exact .refl
  gone := by
    intro e he hnone
    rw [Store.hasPolicy_iff.mpr ⟨e.2, he⟩] at hnone
    exact absurd hnone (by simp)
  new := by
    intro e he hnone
    rw [Store.hasPolicy_iff.mpr ⟨e.2, he⟩] at hnone
    exact absurd hnone (by simp)

/-- Policies that are found can be traced back. -/
theorem Kept.traced (h : k.Kept event s t) {path : Fields String} :
    ∀ p ∈ t.findPolicies (k.searchFor path), k.Traced event s p := by
  intro p hp
  obtain ⟨hin, hanswers⟩ := List.mem_filter.mp hp
  obtain ⟨e, he, rfl⟩ := List.mem_map.mp hin
  refine ⟨service_of_answers hanswers, fun e' he' hid => h.evolved e' he' e.2 ?_⟩
  rw [h.built.keyed.ids e he] at hid
  rw [← Option.some.inj hid]
  exact he

/-- An edit of what can be traced back. -/
theorem editedOn_of_traced (h : k.EditedIn (k.Traced event s) (k.edits event) p p') :
    k.EditedOn event p p' := by
  obtain ⟨x, hx, hp, rfl⟩ := h
  exact ⟨x, hx, ⟨hp.known.1, hp.managed, hp.guards⟩, rfl⟩

/-- **One write.** What is written in the place of a policy has evolved from it and is for an
object of the event; what is taken away was edited down to nothing. -/
theorem Kept.step {t' : Store} (h : k.Kept event s t) (hb : t'.Built) (hlast : t.lastId ≤ t'.lastId)
    (hmem : ∀ e ∈ t'.policies, e ∈ t.policies ∨ (k.Concerns event e.2
      ∧ ∀ e' ∈ s.policies, e'.1 = e.1 → k.Evolves event e'.2 e.2))
    (hgone : ∀ e ∈ s.policies, t'.hasPolicy e.1 = false → t.hasPolicy e.1 = false
      ∨ ∃ p p', k.Evolves event e.2 p ∧ k.EditedOn event p p' ∧ p' ≠ p ∧ p'.hasNoItems = true) :
    k.Kept event s t' := by
  refine ⟨hb, Int.le_trans h.counter hlast, fun e he p hp => ?_, fun e he hnone => ?_,
    fun e he hnone => ?_⟩
  · rcases hmem _ hp with hold | ⟨_, hevolves⟩
    · exact h.evolved e he p hold
    · exact hevolves e he rfl
  · rcases hgone e he hnone with hbefore | hgone
    · exact h.gone e he hbefore
    · exact hgone
  · rcases hmem e he with hold | ⟨hconcerns, _⟩
    · exact h.new e hold hnone
    · exact hconcerns

theorem Kept.created (hs : s.Keyed) (h : k.Kept event s t) (hb : (t.created p').Built)
    (hedit : k.EditedOn event p p') : k.Kept event s (t.created p') := by
  have hlast : t.lastId < t.nextId := Int.lt_succ t.lastId
  refine h.step hb (Int.le_of_lt hlast) (fun e he => ?_) fun e _ hnone => Or.inl ?_
  · rcases Store.mem_created.mp he with hold | rfl
    · exact Or.inl hold
    · obtain ⟨o, ho, loc, hloc, hman⟩ := hedit.concerns.of_frame hedit.frame
      refine Or.inr ⟨⟨o, ho, loc, hloc, hman.service, hman.managed, hman.guards⟩, ?_⟩
      -- no policy of the beginning has the new id
      intro e' he' hid
      have hbound := Int.le_trans (hs.bound e' he') h.counter
      exact absurd hid (Int.ne_of_lt (Int.lt_of_le_of_lt hbound hlast))
  · refine Store.hasPolicy_eq_false_of hnone fun e' he' hid => ?_
    exact ⟨e'.2, Store.mem_created.mpr (Or.inl (hid ▸ he'))⟩

theorem Kept.updated {id : Int} (h : k.Kept event s t) (hb : (t.updated id p').Built)
    (hhas : t.hasPolicy id = true) (hid : p.id = some id)
    (hedited : k.EditedIn (k.Traced event s) (k.edits event) p p') :
    k.Kept event s (t.updated id p') := by
  have hedit := editedOn_of_traced hedited
  have hstored : Store.stored id p' = p' := by
    have hid' : p'.id = some id := (Policy.id_of_frame hedit.frame).trans hid
    rw [Store.stored, ← hid']
  refine h.step hb (Int.le_refl _) (fun e he => ?_) fun e _ hnone => Or.inl ?_
  · rcases (Store.mem_updated hhas).mp he with ⟨hold, _⟩ | rfl
    · exact Or.inl hold
    · rw [hstored]
      refine Or.inr ⟨hedit.concerns.of_frame hedit.frame, fun e' he' hsame => ?_⟩
      obtain ⟨x, hx, hp, rfl⟩ := hedited
      exact (hp.known.2 e' he' (hid.trans (congrArg some hsame.symm))).tail hedit
  · refine Store.hasPolicy_eq_false_of hnone fun e' he' hsame => ?_
    by_cases hne : e.1 = id
    · exact ⟨_, (Store.mem_updated hhas).mpr (Or.inr (by rw [hne]))⟩
    · exact ⟨e'.2, (Store.mem_updated hhas).mpr (Or.inl ⟨hsame ▸ he', hne⟩)⟩

theorem Kept.deleted {id : Int} (h : k.Kept event s t) (hb : (t.deleted id).Built)
    (hid : p.id = some id) (hni : p'.hasNoItems = true) (hne : p' ≠ p)
    (hedited : k.EditedIn (k.Traced event s) (k.edits event) p p') :
    k.Kept event s (t.deleted id) := by
  refine h.step hb (Int.le_refl _) (fun e he => Or.inl (Store.mem_deleted.mp he).1)
    fun e he hnone => ?_
  by_cases hsame : e.1 = id
  · have hedit := editedOn_of_traced hedited
    obtain ⟨x, hx, hp, rfl⟩ := hedited
    exact Or.inr ⟨p, _, hp.known.2 e he (hid.trans (congrArg some hsame.symm)), hedit, hne, hni⟩
  · refine Or.inl (Store.hasPolicy_eq_false_of hnone fun e' he' hid' => ?_)
    exact ⟨e'.2, Store.mem_deleted.mpr ⟨hid' ▸ he', hsame⟩⟩

/-- **A call that a keeper may make on the event keeps the invariant**, and what it shows can be
traced back. -/
theorem Kept.perform (hs : s.Keyed) (h : k.Kept event s t) {c : Call}
    (hc : k.May (k.EditedIn (k.Traced event s) (k.edits event)) c) :
    k.Kept event s (t.perform c).2 := by
  have hb : (t.perform c).2.Built := h.built.perform c
  cases hw : Store.writesPolicies c with
  | false =>
      obtain ⟨hsame, hlast⟩ := Store.perform_policies hw t
      refine h.step hb hlast (fun e he => Or.inl (hsame ▸ he)) fun e he hnone => Or.inl ?_
      rwa [Store.hasPolicy, hsame] at hnone
  | true =>
      cases c with
      | createPolicy p' =>
          obtain ⟨_, p, _, hedited⟩ := hc
          have hb : (t.createPolicy p').2.Built := hb
          show k.Kept event s (t.createPolicy p').2
          rcases t.createPolicy_cases p' with ⟨_, he⟩ | ⟨_, he⟩
          · rwa [he]
          · rw [he] at hb ⊢
            exact h.created hs hb (editedOn_of_traced hedited)
      | updatePolicy id p' =>
          obtain ⟨_, p, hid, hedited⟩ := hc
          have hb : (t.updatePolicy id p').2.Built := hb
          show k.Kept event s (t.updatePolicy id p').2
          rcases t.updatePolicy_cases id p' with ⟨_, he⟩ | ⟨hhas, _, he⟩
          · rwa [he]
          · rw [he] at hb ⊢
            exact h.updated hb hhas hid hedited
      | deletePolicy id =>
          obtain ⟨p, p', hni, hid, hne, hedited⟩ := hc
          have hb : (t.deletePolicy id).2.Built := hb
          show k.Kept event s (t.deletePolicy id).2
          rcases t.deletePolicy_cases id with he | ⟨_, he⟩
          · rwa [he]
          · rw [he] at hb ⊢
            exact h.deleted hb hid hni hne hedited
      | _ => exact absurd hw (by simp [Store.writesPolicies])

/-! ## The whole event -/

theorem Kept.shows (h : k.Kept event s t) {c : Call}
    (hc : k.May (k.EditedIn (k.Traced event s) (k.edits event)) c) :
    Call.Shows (k.Traced event s) c (t.perform c).1 := by
  cases c with
  | findPolicies search =>
      obtain ⟨path, rfl⟩ := hc
      intro found hfound p hp
      cases hfound
      exact h.traced p hp
  | _ => exact trivial

/-- A call that is disturbed shows nothing. -/
theorem shows_disturbed (d : Disturbance) (known : Policy → Prop) (c : Call) :
    Call.Shows known c (d.answer c) := by
  cases c with
  | findPolicies search =>
      intro found hfound p hp
      unfold Disturbance.answer at hfound
      dsimp only at hfound
      split at hfound
      · cases hfound
        exact absurd hp List.not_mem_nil
      · exact absurd hfound (by simp)
  | _ => exact trivial

/-- What every call keeps, the edits keep, whichever of the calls are disturbed. -/
theorem MakesEdits.rehearse {α : Type} {known : Policy → Prop} {edits : List ObjectEdit}
    {plan : Plan α} {Q : α → Prop} {Inv : Store → Prop} (h : k.MakesEdits known edits plan Q)
    (hstep : ∀ c s, k.May (k.EditedIn known edits) c → Inv s →
      Inv (s.perform c).2 ∧ Call.Shows known c (s.perform c).1)
    {r : Rehearsal} (hr : Inv r.store) : Inv (Rehearsal.run plan r).2.store := by
  have hcall : ∀ (c : Call) (r : Rehearsal), k.May (k.EditedIn known edits) c → Inv r.store →
      Inv (Rehearsal.perform c r).2.store ∧ Call.Shows known c (Rehearsal.perform c r).1 := by
    intro c r hc hr
    unfold Rehearsal.perform
    dsimp only
    split
    · exact ⟨hr, shows_disturbed _ _ c⟩
    · exact hstep c r.store hc hr
  exact (h.run hcall hr).1

/-- **What a whole event makes of the policies**, disturbed or not. -/
theorem handle_kept (k : Keeper) (event : Event) {r : Rehearsal} (hs : r.store.Built) :
    k.Kept event r.store (Rehearsal.run (k.handle event) r).2.store := by
  have hedits : k.MakesEdits (k.Traced event r.store) (k.edits event) (k.handle event)
      fun _ => True := by
    refine makesEdits_handle fun x _ name p hp => ?_
    obtain ⟨_, _, rfl⟩ := newPolicy_ok hp
    exact ⟨rfl, fun e _ hid => absurd hid (by simp [Policy.managed])⟩
  exact hedits.rehearse (fun c t hc h => ⟨h.perform hs.keyed hc, h.shows hc⟩) (Kept.refl hs)

end Keeper

/-! ## What edits leave of the items -/

namespace Holder

variable {h : Holder} {items : List Item} {accesses : List String}

theorem filter_isOwner_grantAccess {a : String} :
    (h.grantAccess a items).filter Item.isOwner = items.filter Item.isOwner := by
  induction items with
  | nil =>
      have hnew : (h.newItem a).isOwner = false := congrArg Prod.fst newItem_key
      rw [grantAccess, List.filter_cons_of_neg (by rw [hnew]; simp)]
  | cons i items ih =>
      rw [grantAccess]
      split
      · rename_i hgrants
        have howner : i.isOwner = false := congrArg Prod.fst (grantsAccess_iff_key.mp hgrants)
        have henter : (h.enter i).isOwner = false := (congrArg Prod.fst enter_key).trans howner
        rw [List.filter_cons_of_neg (by rw [henter]; simp),
          List.filter_cons_of_neg (by rw [howner]; simp)]
      · rw [List.filter_cons, List.filter_cons, ih]

theorem filter_isOwner_grant :
    (h.grant accesses items).filter Item.isOwner = items.filter Item.isOwner := by
  unfold grant
  induction accesses generalizing items with
  | nil => rfl
  | cons a accesses ih => rw [List.foldl_cons, ih, filter_isOwner_grantAccess]

theorem revokeItem_of_isOwner {i : Item} (howner : i.isOwner = true) :
    h.revokeItem accesses i = some i := by
  have hholds : h.holds i = false := by
    unfold holds
    rw [howner]
    rfl
  rw [revokeItem, hholds, Bool.and_false]
  rfl

theorem filter_isOwner_revoke :
    (h.revoke accesses items).filter Item.isOwner = items.filter Item.isOwner := by
  unfold revoke
  induction items with
  | nil => rfl
  | cons i items ih =>
      cases howner : i.isOwner with
      | true =>
          rw [List.filterMap_cons_some (revokeItem_of_isOwner howner),
            List.filter_cons_of_pos howner, List.filter_cons_of_pos howner, ih]
      | false =>
          have hnot : ¬ i.isOwner = true := by
            rw [howner]
            simp
          rw [List.filter_cons_of_neg hnot, ← ih]
          cases hi : h.revokeItem accesses i with
          | none => rw [List.filterMap_cons_none hi]
          | some j =>
              have hj : j.isOwner = false := (congrArg Prod.fst (revokeItem_key hi)).trans howner
              rw [List.filterMap_cons_some hi, List.filter_cons_of_neg (by rw [hj]; simp)]

end Holder

theorem ServiceType.ownerAccesses_ne_nil (service : ServiceType) : service.ownerAccesses ≠ [] := by
  cases service <;> decide

/-- A change that leaves some of the items as they are, and makes no others like them, leaves those
alone. -/
theorem Item.filter_map_of_fixed {P : Item → Bool} {f : Item → Item} {items : List Item}
    (hlike : ∀ i, P (f i) = P i) (hfixed : ∀ i, P i = true → f i = i) :
    (items.map f).filter P = items.filter P := by
  have hfun : P ∘ f = P := funext hlike
  rw [List.filter_map, hfun]
  exact (List.map_congr_left fun i hi => hfixed i (List.mem_filter.mp hi).2).trans (List.map_id' _)

namespace Policy

variable {p : Policy} {accesses : List String} {previous : Option Principal} {new : Principal}

/-- Roles keep their items when an object changes hands. -/
theorem filter_handOver : (p.handOver accesses previous new).allowItems.filter (!·.isOwner)
    = p.allowItems.filter (!·.isOwner) := by
  have hadded : ∀ missing : List String,
      (missing.map fun a => (Item.ofOwnerAccess a).attach new).filter (!·.isOwner) = [] := by
    intro missing
    refine List.filter_eq_nil_iff.mpr fun i hi => ?_
    obtain ⟨a, _, rfl⟩ := List.mem_map.mp hi
    have howner : ((Item.ofOwnerAccess a).attach new).isOwner = true :=
      congrArg Prod.fst Item.attach_key
    rw [howner]
    simp
  show List.filter _ (List.map _ p.allowItems ++ _) = _
  rw [List.filter_append, hadded, List.append_nil]
  refine Item.filter_map_of_fixed (fun i => ?_) fun i hi => if_neg fun hof => ?_
  · have hkey : (if i.isOwnerOf accesses then i.handOver previous new else i).key = i.key :=
      Item.ite_key fun _ => Item.handOver_key
    exact congrArg (fun key => !key.1) hkey
  · have howner : i.isOwner = false := by simpa using hi
    rw [Item.isOwnerOf, howner, Bool.false_and] at hof
    exact absurd hof (by simp)

theorem mem_of_mem_handOver {effect : Effect} {i : Item}
    (hi : i ∈ (p.handOver accesses previous new).items effect) (howner : i.isOwner = false) :
    i ∈ p.items effect := by
  cases effect with
  | allow =>
      have hroles : i ∈ (p.handOver accesses previous new).allowItems.filter (!·.isOwner) :=
        List.mem_filter.mpr ⟨hi, by rw [howner]; rfl⟩
      rw [filter_handOver] at hroles
      exact (List.mem_filter.mp hroles).1
  | deny => exact hi

/-- As long as owners have accesses, there are items for them. -/
theorem hasNoItems_handOver (hne : accesses ≠ []) :
    (p.handOver accesses previous new).hasNoItems = false := by
  refine Bool.eq_false_iff.mpr fun hni => hne ?_
  have hitems : (p.handOver accesses previous new).items .allow = [] :=
    items_of_hasNoItems hni .allow
  obtain ⟨hhanded, hmissing⟩ := List.append_eq_nil_iff.mp hitems
  have hnil : p.allowItems = [] := List.map_eq_nil_iff.mp hhanded
  have hall := List.map_eq_nil_iff.mp hmissing
  rw [hnil] at hall
  simpa using hall

theorem items_mapPlaceholderItems {accesses : Effect → List String} {f : Item → Item}
    (effect : Effect) : (p.mapPlaceholderItems accesses f).items effect
      = (p.items effect).map fun i => if i.isPlaceholderOf (accesses effect) then f i else i := by
  cases effect <;> rfl

/-- Members that come or go leave no list without items, unless it was. -/
theorem mapPlaceholderItems_of_hasNoItems {accesses : Effect → List String} {f : Item → Item}
    (hni : (p.mapPlaceholderItems accesses f).hasNoItems = true) :
    p.mapPlaceholderItems accesses f = p := by
  refine ext_items rfl fun effect => ?_
  have hnil := items_of_hasNoItems hni effect
  rw [items_mapPlaceholderItems, List.map_eq_nil_iff] at hnil
  rw [items_mapPlaceholderItems, hnil]
  rfl

end Policy

namespace Item

variable {i : Item} {who : Principal}

theorem attach_attach : (i.attach who).attach who = i.attach who :=
  attach_eq_self_iff.mpr mem_members_attach

theorem detach_detach : (i.detach who).detach who = i.detach who := by
  obtain ⟨kind, name⟩ := who
  cases kind <;> simp [detach, setMembers, members, List.filter_filter]

end Item

namespace Keeper

variable {k : Keeper} {event : Event} {p p' q : Policy}

/-- An item stays as it is, or it is one of the placeholder and a member has come or gone. Nobody is
a member of an item in role mode. -/
def Moved (k : Keeper) (f : Item → Item) (i j : Item) : Prop :=
  j = i ∨ (k.mode = .ownerPlaceholder ∧ i.isOwner = false ∧ placeholder ∈ i.users ∧ j = f i)

/-- What an event leaves of a policy that stays. Changes of roles leave the items of owners, a new
owner leaves those of roles, and members come to an item or go from it in its place. -/
def Leaves (k : Keeper) : Event → Policy → Policy → Prop
  | .roleCreated _, p, q | .roleDeleted _, p, q | .roleUpdated _ _, p, q =>
    ∀ effect, (q.items effect).filter Item.isOwner = (p.items effect).filter Item.isOwner
  | .ownerSet .., p, q => q.denyItems = p.denyItems
    ∧ q.allowItems.filter (!·.isOwner) = p.allowItems.filter (!·.isOwner)
  | .rolesGranted _ who, p, q =>
    ∀ effect, List.Forall₂ (k.Moved (Item.attach who)) (p.items effect) (q.items effect)
  | .rolesRevoked _ who, p, q =>
    ∀ effect, List.Forall₂ (k.Moved (Item.detach who)) (p.items effect) (q.items effect)
  | .roleAcquired _, p, q | .principalAdded _, p, q | .principalRemoved _, p, q
  | .principalAcquired _, p, q => q = p

theorem moved_refl {f : Item → Item} (items : List Item) :
    List.Forall₂ (k.Moved f) items items := List.forall₂_same.mpr fun _ _ => Or.inl rfl

theorem leaves_refl (event : Event) (p : Policy) : k.Leaves event p p := by
  cases event with
  | roleCreated _ | roleDeleted _ | roleUpdated _ _ => exact fun _ => rfl
  | ownerSet _ _ _ => exact ⟨rfl, rfl⟩
  | rolesGranted _ _ | rolesRevoked _ _ => exact fun _ => moved_refl _
  | roleAcquired _ | principalAdded _ | principalRemoved _ | principalAcquired _ => rfl

/-- One edit of a role's objects leaves the items of owners. -/
theorem filter_isOwner_edit (role : Role) (change : RoleChange) (p : Policy) (effect : Effect) :
    ((k.edit role change p).items effect).filter Item.isOwner
      = (p.items effect).filter Item.isOwner := by
  rw [items_edit]
  cases change with
  | add o => exact Holder.filter_isOwner_grant
  | remove o => exact Holder.filter_isOwner_revoke
  | replace old new => exact Holder.filter_isOwner_grant.trans Holder.filter_isOwner_revoke

/-- One edit of members moves them in the items of the placeholder. -/
theorem moved_edit {roles : List Role} {f : Item → Item} (hf : ∀ i, f (f i) = f i) {x : ObjectEdit}
    (hx : x ∈ k.memberEdits roles f) {effect : Effect} {items : List Item}
    (h : List.Forall₂ (k.Moved f) items (q.items effect)) :
    List.Forall₂ (k.Moved f) items ((x.2 q).items effect) := by
  revert h
  refine forall_memberEdits (P := fun g => List.Forall₂ (k.Moved f) items (q.items effect) →
    List.Forall₂ (k.Moved f) items ((g q).items effect)) (fun hmode o h => ?_) roles x hx
  rw [Policy.items_mapPlaceholderItems, List.forall₂_map_right_iff]
  refine h.imp fun i j hij => ?_
  split
  · rename_i hplace
    obtain ⟨_, howner, hin⟩ := Item.isPlaceholderOf_iff.mp hplace
    rcases hij with rfl | ⟨_, hiowner, hiin, rfl⟩
    · exact Or.inr ⟨hmode, howner, hin, rfl⟩
    · exact Or.inr ⟨hmode, hiowner, hiin, hf i⟩
  · exact hij

/-- **What one edit leaves, another leaves too.** -/
theorem Leaves.tail (h : k.Leaves event p q) (hedit : k.EditedOn event q p') :
    k.Leaves event p p' := by
  obtain ⟨x, hx, _, rfl⟩ := hedit
  cases event with
  | roleCreated role | roleDeleted role | roleUpdated role changes =>
      obtain ⟨y, _, rfl⟩ := List.mem_map.mp hx
      exact fun effect => (k.filter_isOwner_edit role _ q effect).trans (h effect)
  | ownerSet o previous new =>
      rw [List.mem_singleton.mp hx]
      exact ⟨h.1, Policy.filter_handOver.trans h.2⟩
  | rolesGranted roles who =>
      exact fun effect => moved_edit (fun _ => Item.attach_attach) hx (h effect)
  | rolesRevoked roles who =>
      exact fun effect => moved_edit (fun _ => Item.detach_detach) hx (h effect)
  | roleAcquired _ | principalAdded _ | principalRemoved _ | principalAcquired _ =>
      exact absurd hx List.not_mem_nil

theorem Evolves.leaves (h : k.Evolves event p q) : k.Leaves event p q := by
  induction h with
  | refl => exact leaves_refl event p
  | tail _ hedit ih => exact ih.tail hedit

end Keeper

namespace Keeper

variable {k : Keeper} {event : Event} {p p' : Policy}

end Keeper

end PolicyKeeper
