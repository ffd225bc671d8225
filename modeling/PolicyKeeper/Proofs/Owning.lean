import PolicyKeeper.Proofs.Reaching

/-!
# Who owns an object

The catalogue tells the keeper of every change of hands, and the keeper keeps no record of owners.
What it knows of them is in the policies: an item for each access of owners, with the owner in it,
in the same list as the items of roles. Other events edit that list too, and delete a policy once
nothing is left in it.

If the catalogue names the previous owner each time, that is record enough. Events of roles and of
members leave the items of owners as they are, also those for accesses that roles have as well, and
a policy with such items is not deleted. So whatever happens in between, a handover finds the items
of the owner that it names, and turns them into those of the new one (`Policy.OwnedBy.handOver`).
Who owns what by the events, and by the policies, is the same at any time (`Keeper.Tenure.owned`).
-/

namespace PolicyKeeper

/-! ## Items of owners -/

/-- The item for an access of owners, with one owner in it. -/
def Item.ownedBy (who : Principal) (access : String) : Item :=
  (ofOwnerAccess access).setMembers who.kind [who.name]

/-- The items of an owner, if there is one. -/
def ownerItems (accesses : List String) : Option Principal → List Item
  | none => []
  | some who => accesses.map (Item.ownedBy who)

/-- What owners have in the policy is what this owner has. -/
structure Policy.OwnedBy (accesses : List String) (owner : Option Principal) (p : Policy) :
    Prop where
  allow : p.allowItems.filter Item.isOwner = ownerItems accesses owner
  deny : p.denyItems.filter Item.isOwner = []

namespace Item

variable {who previous new : Principal} {a : String} {accesses : List String}

theorem key_ownedBy : (ownedBy who a).key = (true, some a) := setMembers_key _ _

theorem attach_ofOwnerAccess : (ofOwnerAccess a).attach who = ownedBy who a := by
  obtain ⟨kind, name⟩ := who
  cases kind <;> rfl

theorem isOwnerOf_ownedBy (ha : a ∈ accesses) : (ownedBy who a).isOwnerOf accesses = true := by
  have hkey : (ownedBy who a).key = (true, some a) := key_ownedBy
  obtain ⟨howner, haccess⟩ := Prod.mk.inj hkey
  rw [isOwnerOf, howner, haccess]
  exact List.contains_iff_mem.mpr ha

/-- The previous owner leaves the item, and the new one has it alone. -/
theorem handOver_ownedBy : (ownedBy previous a).handOver (some previous) new = ownedBy new a := by
  have hleft : (ownedBy previous a).detach previous = ofOwnerAccess a := by
    obtain ⟨kind, name⟩ := previous
    cases kind <;> simp [detach, ownedBy, setMembers, members, ofOwnerAccess, ofAccess]
  have hnobody : (ofOwnerAccess a).detach ⟨.user, placeholder⟩ = ofOwnerAccess a := rfl
  show (((ownedBy previous a).detach previous).detach _).attach new = _
  rw [hleft, hnobody, attach_ofOwnerAccess]

end Item

namespace Policy

variable {p q : Policy} {accesses : List String} {owner : Option Principal} {new : Principal}

theorem OwnedBy.of_filter (h : p.OwnedBy accesses owner) (hsame : ∀ effect,
      (q.items effect).filter Item.isOwner = (p.items effect).filter Item.isOwner) :
    q.OwnedBy accesses owner :=
  ⟨(hsame .allow).trans h.allow, (hsame .deny).trans h.deny⟩

theorem ownedBy_of_hasNoItems (h : p.hasNoItems = true) : p.OwnedBy accesses none := by
  have hallow : p.allowItems = [] := items_of_hasNoItems h .allow
  have hdeny : p.denyItems = [] := items_of_hasNoItems h .deny
  exact ⟨by rw [hallow]; rfl, by rw [hdeny]; rfl⟩

/-- What has an owner has items. -/
theorem OwnedBy.hasNoItems (h : p.OwnedBy accesses (some new)) (hne : accesses ≠ []) :
    p.hasNoItems = false := by
  refine Bool.eq_false_iff.mpr fun hni => hne ?_
  have hnobody : p.OwnedBy accesses none := ownedBy_of_hasNoItems hni
  exact List.map_eq_nil_iff.mp (h.allow.symm.trans hnobody.allow)

/-- What owners have after an object has changed hands. -/
theorem filter_isOwner_handOver {previous : Option Principal} :
    (p.handOver accesses previous new).allowItems.filter Item.isOwner
      = (p.allowItems.filter Item.isOwner).map
          (fun i => if i.isOwnerOf accesses then i.handOver previous new else i)
        ++ (accesses.filter fun a => !p.allowItems.any fun i => i.isOwnerOf [a]).map
          (Item.ownedBy new) := by
  show List.filter _ (List.map _ p.allowItems ++ List.map _ _) = _
  rw [List.filter_append, List.filter_map]
  -- who an item belongs to is part of its key, which a handover leaves alone
  refine congrArg₂ (· ++ ·) (congrArg _ (congrArg₂ _ (funext fun i => ?_) rfl)) ?_
  · exact congrArg Prod.fst (Item.ite_key fun _ => Item.handOver_key)
  · rw [List.filter_eq_self.mpr]
    · exact List.map_congr_left fun _ _ => Item.attach_ofOwnerAccess
    · exact List.forall_mem_map.mpr fun a _ => congrArg Prod.fst Item.attach_key

/-- **A handover that names the owner makes the new one owner.** -/
theorem OwnedBy.handOver (h : p.OwnedBy accesses owner) (new : Principal) :
    (p.handOver accesses owner new).OwnedBy accesses (some new) := by
  refine ⟨?_, h.deny⟩
  rw [filter_isOwner_handOver, h.allow]
  cases owner with
  | none =>
      -- nobody has an item yet, so all are missing
      have hmissing : ∀ a ∈ accesses, (!p.allowItems.any fun i => i.isOwnerOf [a]) = true := by
        intro a _
        rw [Bool.not_eq_true', List.any_eq_false]
        intro i hi hof
        have howner : i.isOwner = true := congrArg Prod.fst (Item.isOwnerOf_iff_key.mp hof)
        exact List.filter_eq_nil_iff.mp h.allow i hi howner
      rw [List.filter_eq_self.mpr hmissing]
      rfl
  | some previous =>
      -- the previous owner has all, so none is missing
      have hmissing : ∀ a ∈ accesses, ¬ (!p.allowItems.any fun i => i.isOwnerOf [a]) = true := by
        intro a ha
        have hitem : Item.ownedBy previous a ∈ p.allowItems.filter Item.isOwner := by
          rw [h.allow]
          exact List.mem_map_of_mem ha
        rw [Bool.not_eq_true', Bool.not_eq_false, List.any_eq_true]
        exact ⟨_, (List.mem_filter.mp hitem).1, Item.isOwnerOf_iff_key.mpr Item.key_ownedBy⟩
      rw [List.filter_eq_nil_iff.mpr hmissing, List.map_nil, List.append_nil, ownerItems,
        List.map_map]
      refine List.map_congr_left fun a ha => ?_
      exact (if_pos (Item.isOwnerOf_ownedBy ha)).trans Item.handOver_ownedBy

end Policy

/-- The event is not one of an object that changes hands. -/
def Event.SparesOwners : Event → Prop
  | ownerSet .. => False
  | _ => True

namespace Keeper

variable {k : Keeper} {s t : Store} {event : Event} {owner : Location → Option Principal}
  {loc : Location} {id : Int} {p q : Policy} {new : Principal}

/-! ## Other edits leave them alone -/

theorem filter_isOwner_edits (hevent : event.SparesOwners) : ∀ x ∈ k.edits event,
    ∀ p effect, ((x.2 p).items effect).filter Item.isOwner
      = (p.items effect).filter Item.isOwner := by
  intro x hx p effect
  have hmembers : ∀ {roles : List Role} {f : Item → Item}, (∀ i, (f i).key = i.key) →
      x ∈ k.memberEdits roles f →
      ((x.2 p).items effect).filter Item.isOwner = (p.items effect).filter Item.isOwner := by
    intro roles f hf hx
    refine forall_memberEdits (P := fun g => ((g p).items effect).filter Item.isOwner
      = (p.items effect).filter Item.isOwner) (fun _ o => ?_) roles x hx
    rw [Policy.items_mapPlaceholderItems]
    -- the placeholder's items are those of roles, even if they are for accesses of owners
    refine Item.filter_map_of_fixed (fun i => congrArg Prod.fst (Item.ite_key hf)) fun i howner =>
      if_neg fun hplace => ?_
    rw [(Item.isPlaceholderOf_iff.mp hplace).2.1] at howner
    exact absurd howner (by simp)
  cases event with
  | roleCreated role | roleDeleted role | roleUpdated role changes =>
      obtain ⟨_, _, rfl⟩ := List.mem_map.mp hx
      exact k.filter_isOwner_edit role _ p effect
  | ownerSet o previous new => exact absurd hevent id
  | rolesGranted roles who => exact hmembers (fun _ => Item.attach_key) hx
  | rolesRevoked roles who => exact hmembers (fun _ => Item.detach_key) hx
  | roleAcquired _ | principalAdded _ | principalRemoved _ | principalAcquired _ =>
      exact absurd hx List.not_mem_nil

/-- However often a policy is edited, its owner stays. -/
theorem Evolves.ownedBy (hevent : event.SparesOwners) (h : k.Evolves event p q)
    {accesses : List String} {owner : Option Principal} (hp : p.OwnedBy accesses owner) :
    q.OwnedBy accesses owner := by
  induction h with
  | refl => exact hp
  | tail _ hedit ih =>
      obtain ⟨x, hx, _, rfl⟩ := hedit
      exact ih.of_filter (filter_isOwner_edits hevent x hx _)

/-! ## Owners of locations -/

/-- The policy has no owner if its location has none. -/
def Unowned (k : Keeper) (owner : Location → Option Principal) (p : Policy) : Prop :=
  ∀ loc, k.Manages p loc → owner loc = none → p.OwnedBy k.layout.service.ownerAccesses none

/-- The policies say who owns what: where there is an owner there is one policy, which is the
owner's, and elsewhere no policy has an owner. -/
structure Owned (k : Keeper) (owner : Location → Option Principal) (s : Store) : Prop where
  sound : s.Sound
  owned : ∀ loc who, owner loc = some who →
    ∃ id p, k.Only s loc id p ∧ p.OwnedBy k.layout.service.ownerAccesses (some who)
  unowned : ∀ e ∈ s.policies, k.Unowned owner e.2

open Classical in
/-- What has happened in the catalogue: who owns what by it, and the store that the keeper has made.
An object that changes hands is handed over by the owner it has, and that goes well. Anything else
may happen in between, with any calls disturbed. -/
inductive Tenure (k : Keeper) : (Location → Option Principal) → Store → Prop where
  | start : Tenure k (fun _ => none) {}
  /-- The owner that the object has is named, or nobody if it has none. -/
  | handedOver {owner : Location → Option Principal} {s t : Store} {o : CatalogObject}
      {loc : Location} {previous : Option Principal} {new : Principal} (past : Tenure k owner s)
      (legible : k.layout.Legible o) (place : k.layout.Locates o loc)
      (named : owner loc = previous)
      (run : (k.handle (.ownerSet o previous new)).run Store.perform s = (.ok true, t)) :
      Tenure k (Function.update owner loc (some new)) t
  | other {owner : Location → Option Principal} {s : Store} {event : Event}
      (disturbances : List Disturbance) (past : Tenure k owner s) (spares : event.SparesOwners) :
      Tenure k owner (k.disturbed event disturbances s)

theorem unowned_newPolicy {name : String} {o : CatalogObject} (h : k.newPolicy name o = .ok p) :
    k.Unowned owner p := by
  obtain ⟨_, _, rfl⟩ := newPolicy_ok h
  exact fun _ _ _ => Policy.ownedBy_of_hasNoItems rfl

theorem unowned_stored (id : Int) (p : Policy) (h : k.Unowned owner p) :
    k.Unowned owner (Store.stored id p) := by
  intro loc hman howner
  have hp := h loc ⟨hman.service, hman.managed, hman.guards⟩ howner
  exact ⟨hp.allow, hp.deny⟩

theorem unowned_edits (hevent : event.SparesOwners) :
    ∀ x ∈ k.edits event, ∀ p, k.Unowned owner p → k.Unowned owner (x.2 p) := by
  intro x hx p hp loc hman howner
  have hman : k.Manages p loc := hman.of_frame (k.frame_of_edits event x hx p).symm
  exact (hp loc hman howner).of_filter (filter_isOwner_edits hevent x hx p)

theorem Owned.start : k.Owned (fun _ => none) {} where
  sound := .empty
  owned := fun _ _ h => absurd h (by simp)
  unowned := fun _ he => absurd he List.not_mem_nil

/-- **Events of roles and members leave owners in their place.** -/
theorem Owned.other (h : k.Owned owner s) (hevent : event.SparesOwners)
    (disturbances : List Disturbance) : k.Owned owner (k.disturbed event disturbances s) := by
  have ht : (k.disturbed event disturbances s).Sound := sound_disturbed h.sound event disturbances
  have hkept : k.Kept event s (k.disturbed event disturbances s) :=
    k.handle_kept event (r := { store := s, disturbances }) h.sound.built
  refine ⟨ht, fun loc who howner => ?_, ?_⟩
  · -- the owner's policy is still there, since it cannot have lost all of its items
    obtain ⟨id, p, honly, hp⟩ := h.owned loc who howner
    cases hhas : (k.disturbed event disturbances s).hasPolicy id with
    | true =>
        obtain ⟨q, hq⟩ := Store.hasPolicy_iff.mp hhas
        have hevolves : k.Evolves event p q := hkept.evolved _ honly.mem q hq
        refine ⟨id, q, only_of_mem ht hq (honly.manages.of_frame hevolves.frame), ?_⟩
        exact hevolves.ownedBy hevent hp
    | false =>
        obtain ⟨q, q', hevolves, hedit, _, hni⟩ := hkept.gone _ honly.mem hhas
        have hq' := Evolves.ownedBy hevent (hevolves.tail hedit) hp
        rw [hq'.hasNoItems k.layout.service.ownerAccesses_ne_nil] at hni
        exact absurd hni (by simp)
  · -- and where there is no owner, no other event brings one
    exact known_disturbed unowned_stored (fun _ _ _ => unowned_newPolicy) (unowned_edits hevent)
      disturbances h.unowned

/-- What is in hand for a location is its owner's. -/
theorem Owned.site (h : k.Owned owner s) (hsite : k.Site s loc p) :
    p.OwnedBy k.layout.service.ownerAccesses (owner loc) := by
  cases howner : owner loc with
  | none =>
      cases hsite with
      | found only _ => exact h.unowned _ only.mem loc only.manages howner
      | fresh _ _ _ hitems => exact Policy.ownedBy_of_hasNoItems hitems
  | some who =>
      obtain ⟨id, q, honly, hq⟩ := h.owned loc who howner
      cases hsite with
      | found only _ =>
          cases honly.only _ only.mem only.manages
          exact hq
      | fresh vacant _ _ _ => exact absurd honly.manages (vacant _ honly.mem)

open Classical in
/-- Writing the policy of a new owner changes hands there, and nowhere else. -/
theorem Owned.rewritten (h : k.Owned owner s) (ht : t.Sound) (hw : k.Rewritten s loc id p t)
    (hman : k.Manages p loc) (hp : p.OwnedBy k.layout.service.ownerAccesses (some new)) :
    k.Owned (Function.update owner loc (some new)) t := by
  have hni : p.hasNoItems = false := hp.hasNoItems k.layout.service.ownerAccesses_ne_nil
  refine ⟨ht, fun loc' who howner => ?_, fun e he loc' hman' howner => ?_⟩
  · by_cases hhere : loc' = loc
    · subst hhere
      rw [Function.update_self] at howner
      cases howner
      exact ⟨id, _, hw.only hman hni, hp.allow, hp.deny⟩
    · rw [Function.update_of_ne hhere] at howner
      obtain ⟨id', q, honly, hq⟩ := h.owned loc' who howner
      exact ⟨id', q, hw.only_elsewhere hman hhere honly, hq⟩
  · have hhere : loc' ≠ loc := by
      rintro rfl
      rw [Function.update_self] at howner
      exact absurd howner (by simp)
    rw [Function.update_of_ne hhere] at howner
    rcases (hw e).mp he with ⟨hold, _⟩ | ⟨_, rfl⟩
    · exact h.unowned e hold loc' hman' howner
    · -- what was written is at the location of the new owner, and at no other
      exact absurd (hman'.guards.unique hman.guards) hhere

/-- A handover writes the policy in hand for the location, handed over. -/
theorem run_ownerSet (hs : s.Built) {o : CatalogObject} (hl : k.layout.Legible o)
    (hloc : k.layout.Locates o loc) {previous : Option Principal}
    (hrun : (k.handle (.ownerSet o previous new)).run Store.perform s = (.ok true, t)) :
    ∃ p id, k.Site s loc p
      ∧ k.Rewritten s loc id (p.handOver k.layout.service.ownerAccesses previous new) t := by
  obtain ⟨_, _, hset, hend⟩ := Plan.run_bind_ok hrun
  cases hend
  obtain ⟨_, s₁, haccount, hrest⟩ := Plan.run_bind_ok (Plan.run_during_ok hset)
  have hs₁ : s₁.Built := hs.of_run haccount
  have hsame : s₁.policies = s.policies := policies_ensureAccount haccount
  obtain ⟨p, s₂, hinHand, hwrite⟩ := Plan.run_bind_ok hrest
  rw [run_policyOrNew hl] at hinHand
  obtain ⟨hp, rfl⟩ := Prod.mk.inj hinHand
  obtain ⟨loc', hloc', hsite⟩ := site_of_inHand hs₁.keyed (Plan.ofResult_eq_ok hp)
  obtain rfl := hloc.unique hloc'
  let p' := p.handOver k.layout.service.ownerAccesses previous new
  have hni : p'.hasNoItems = false :=
    Policy.hasNoItems_handOver k.layout.service.ownerAccesses_ne_nil
  have hframe : p'.frame = p.frame := rfl
  obtain ⟨id, hw⟩ := hsite.run_writeBack hs₁.keyed hframe hni hwrite
  exact ⟨p, id, hsite.congr hsame.symm, fun e => hsame ▸ hw e⟩

open Classical in
/-- **An object that changes hands** changes the owner at its location. -/
theorem Owned.handedOver (h : k.Owned owner s) {o : CatalogObject} (hl : k.layout.Legible o)
    (hloc : k.layout.Locates o loc)
    (hrun : (k.handle (.ownerSet o (owner loc) new)).run Store.perform s = (.ok true, t)) :
    k.Owned (Function.update owner loc (some new)) t := by
  have ht : t.Sound := by
    have hsound := sound_disturbed (k := k) h.sound (.ownerSet o (owner loc) new) []
    rwa [disturbed_nil, hrun] at hsound
  obtain ⟨p, id, hsite, hw⟩ := run_ownerSet h.sound.built hl hloc hrun
  exact h.rewritten ht hw (hsite.manages.of_frame rfl) ((h.site hsite).handOver new)

/-- **Whatever has happened**, the policies say who owns what. -/
theorem Tenure.owned (h : k.Tenure owner s) : k.Owned owner s := by
  induction h with
  | start => exact .start
  | handedOver _ legible place named run ih =>
      subst named
      exact ih.handedOver legible place run
  | other disturbances _ spares ih => exact ih.other spares disturbances

/-- An event that nothing disturbs. -/
theorem Tenure.handle (h : k.Tenure owner s) (event : Event) (hevent : event.SparesOwners) :
    k.Tenure owner ((k.handle event).run Store.perform s).2 := by
  rw [← disturbed_nil]
  exact h.other [] hevent

/-- **Ownership is with the last owner alone.** In either mode, objects may change hands any number
of times, from users to groups and back, and anything may happen to roles and their holders in
between. Wherever an object has changed hands there is one managed policy. Of what it allows to
owners it has one item for each of their accesses, with just the last owner in it, among the users
or the groups as it is one; and it denies nothing to owners. -/
theorem owned_by_last (h : k.Tenure owner s) {who : Principal} (howner : owner loc = some who) :
    ∃ id p, k.Only s loc id p
      ∧ p.allowItems.filter Item.isOwner = k.layout.service.ownerAccesses.map (Item.ownedBy who)
      ∧ p.denyItems.filter Item.isOwner = [] := by
  obtain ⟨id, p, honly, hp⟩ := h.owned.owned loc who howner
  exact ⟨id, p, honly, hp.allow, hp.deny⟩

/-- A keeper of a file system in owner-placeholder mode. -/
def ofFiles : Keeper :=
  { service := "files", layout := ⟨.hdfs, "/warehouse"⟩, mode := .ownerPlaceholder }

def drawings : CatalogObject := ⟨"cat.db.drawings", .fileset⟩

/-- A role that is given accesses which owners have as well. -/
def drafter : Role := { name := "drafter", securables := [⟨drawings, [⟨.writeFileset, .allow⟩]⟩] }

/-- A user owns the drawings, and another holds the role. -/
def withDrafter : Store :=
  let owned := ((ofFiles.handle (.ownerSet drawings none ⟨.user, "alice"⟩)).run Store.perform {}).2
  let created := ((ofFiles.handle (.roleCreated drafter)).run Store.perform owned).2
  ((ofFiles.handle (.rolesGranted [drafter] ⟨.user, "bob"⟩)).run Store.perform created).2

/-- The drawings were handed over to a group, and the role is no more. -/
def withoutDrafter : Store :=
  let handedOver := ((ofFiles.handle (.ownerSet drawings (some ⟨.user, "alice"⟩)
    ⟨.group, "staff"⟩)).run Store.perform withDrafter).2
  ((ofFiles.handle (.roleDeleted drafter)).run Store.perform handedOver).2

/-- Where the drawings are. -/
def drawingsPath : Fields String := Fields.ofPairs [("path", "/warehouse/db/drawings")]

open Classical in
/-- The group owns the drawings, and has all three accesses alone. -/
theorem owned_by_last_staff :
    (∃ owner, ofFiles.Tenure owner withoutDrafter
        ∧ owner drawingsPath.get? = some ⟨.group, "staff"⟩)
      ∧ ∃ id p, ofFiles.Only withoutDrafter drawingsPath.get? id p
        ∧ p.allowItems.filter Item.isOwner
          = ["execute", "read", "write"].map (Item.ownedBy ⟨.group, "staff"⟩)
        ∧ p.denyItems.filter Item.isOwner = [] := by
  have hplace : ofFiles.layout.Locates drawings drawingsPath.get? :=
    Layout.locates_of_toOption (by decide +kernel)
  have hlegible : ofFiles.layout.Legible drawings := by decide +kernel
  have halice := Tenure.start.handedOver hlegible hplace rfl
    (Plan.run_eq_ok (by decide +kernel) : (ofFiles.handle
      (.ownerSet drawings none ⟨.user, "alice"⟩)).run Store.perform {} = (.ok true, _))
  have hbob : ofFiles.Tenure _ withDrafter :=
    (halice.handle (.roleCreated drafter) trivial).handle (.rolesGranted [drafter] _) trivial
  have hstaff := hbob.handedOver hlegible hplace (Function.update_self _ _ _)
    (Plan.run_eq_ok (by decide +kernel) : (ofFiles.handle (.ownerSet drawings
      (some ⟨.user, "alice"⟩) ⟨.group, "staff"⟩)).run Store.perform withDrafter = (.ok true, _))
  have hlast : ofFiles.Tenure _ withoutDrafter := hstaff.handle (.roleDeleted drafter) trivial
  exact ⟨⟨_, hlast, Function.update_self _ _ _⟩,
    owned_by_last hlast (Function.update_self _ _ _)⟩

end Keeper

end PolicyKeeper
