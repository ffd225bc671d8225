import PolicyKeeper.Proofs.Reaching

/-!
# What adding an object comes to

In a sound store nothing comes in the way of an object that is added to a role, with one exception.
If there is a policy at the location of the object, that is edited and written back under its own
name, which cannot be refused. If there is none and the object has no entitlement, there is nothing
to do. If there is none and it has one (`Keeper.Opens`), a policy is created, and the store refuses
it if its name is in use (`run_addObject_of_opens`).

Edits change neither which policies there are nor what they are called: a store has the same
*frames* afterwards (`Store.frames`), and what can be said of locations and names is said of those.
-/

namespace PolicyKeeper

/-! ## Items that are added -/

theorem Holder.grantAccess_ne_nil {h : Holder} {a : String} {items : List Item} :
    h.grantAccess a items ≠ [] := by
  cases items with
  | nil => exact List.cons_ne_nil _ _
  | cons i items =>
      rw [Holder.grantAccess]
      split <;> exact List.cons_ne_nil _ _

/-- Granting takes no item away, and grants something if there is something to grant. -/
theorem Holder.grant_eq_nil_iff {h : Holder} {accesses : List String} {items : List Item} :
    h.grant accesses items = [] ↔ accesses = [] ∧ items = [] := by
  unfold Holder.grant
  induction accesses generalizing items with
  | nil => simp
  | cons a accesses ih =>
      rw [List.foldl_cons, ih]
      simp [Holder.grantAccess_ne_nil]

theorem Policy.hasNoItems_grant {h : Holder} {accesses : Effect → List String} {p : Policy} :
    (p.grant h accesses).hasNoItems = true
      ↔ p.hasNoItems = true ∧ ∀ effect, accesses effect = [] := by
  have heffects : (∀ effect, accesses effect = []) ↔ accesses .allow = [] ∧ accesses .deny = [] :=
    ⟨fun h => ⟨h .allow, h .deny⟩, fun h effect => by cases effect <;> simp [h]⟩
  rw [heffects]
  simp only [Policy.hasNoItems, Policy.itemLists, Policy.grant, Policy.mapItems, List.all_cons,
    List.all_nil, Bool.and_eq_true, List.isEmpty_iff, Holder.grant_eq_nil_iff]
  tauto

/-- A service that knows all privileges of an object has an access for each. -/
theorem ServiceType.exists_access {service : ServiceType} {o : Securable}
    (h : service.checkPrivileges o = .ok ()) (hne : o.entitlements ≠ []) :
    ∃ effect, service.accesses o.entitlements effect ≠ [] := by
  unfold ServiceType.checkPrivileges at h
  split at h
  · exact absurd h (by simp)
  · rename_i hnone
    obtain ⟨e, he⟩ := List.exists_mem_of_ne_nil _ hne
    have hsupports : service.supports e.privilege = true := by
      simpa using List.find?_eq_none.mp hnone e he
    obtain ⟨a, ha⟩ := List.exists_mem_of_ne_nil (service.accessesOf e.privilege) (by
      simpa [ServiceType.supports] using hsupports)
    exact ⟨e.effect, List.ne_nil_of_mem (ServiceType.mem_accesses.mpr ⟨e, he, rfl, ha⟩)⟩

theorem ServiceType.accesses_nil {service : ServiceType} {effect : Effect} :
    service.accesses [] effect = [] := by
  simp [ServiceType.accesses]

/-! ## Frames -/

namespace Store

variable {s t : Store}

/-- The policies without the items that edits change. -/
def frames (s : Store) : List (Int × Policy) := s.policies.map fun e => (e.1, e.2.frame)

theorem exists_of_frames (h : t.frames = s.frames) {e : Int × Policy} (he : e ∈ t.policies) :
    ∃ p, (e.1, p) ∈ s.policies ∧ p.frame = e.2.frame := by
  have hmem : (e.1, e.2.frame) ∈ s.frames := h ▸ List.mem_map_of_mem he
  obtain ⟨⟨id, p⟩, hp, heq⟩ := List.mem_map.mp hmem
  obtain ⟨rfl, hframe⟩ := Prod.mk.inj heq
  exact ⟨p, hp, hframe⟩

/-- An edited policy in its own place. -/
theorem frames_updated (hk : s.Keyed) {id : Int} {p p' : Policy} (hp : (id, p) ∈ s.policies)
    (hf : p'.frame = p.frame) : (s.updated id p').frames = s.frames := by
  have hid : p'.id = some id := (Policy.id_of_frame hf).trans (hk.ids _ hp)
  have hstored : stored id p' = p' := by rw [stored, ← hid]
  show List.map _ (s.policies.map _) = _
  rw [List.map_map]
  refine List.map_congr_left fun e he => ?_
  rw [Function.comp_apply, hstored]
  by_cases hsame : e.1 = id
  · have heq : e = (id, p) := hk.eq_of_id he hp hsame
    rw [if_pos hsame, heq, hf]
  · rw [if_neg hsame]

theorem wroteBack_eq_updated {id : Int} {p : Policy} (hid : p.id = some id)
    (hni : p.hasNoItems = false) : s.wroteBack p = s.updated id p := by
  unfold wroteBack
  rw [hid, hni]

end Store

namespace Keeper

variable {k : Keeper} {s t : Store} {role : Role} {o : Securable} {loc : Location}

theorem vacant_of_frames (h : t.frames = s.frames) : k.Vacant t loc ↔ k.Vacant s loc := by
  have key : ∀ {s t : Store}, t.frames = s.frames → k.Vacant s loc → k.Vacant t loc := by
    intro s t h hs e he hman
    obtain ⟨p, hp, hframe⟩ := Store.exists_of_frames h he
    exact hs _ hp (hman.of_frame hframe)
  exact ⟨key h.symm, key h⟩

theorem exists_name_of_frames (h : t.frames = s.frames) {name : String} :
    (∃ e ∈ t.policies, e.2.name = name) ↔ ∃ e ∈ s.policies, e.2.name = name := by
  have key : ∀ {s t : Store}, t.frames = s.frames → (∃ e ∈ t.policies, e.2.name = name) →
      ∃ e ∈ s.policies, e.2.name = name := by
    intro s t h ht
    obtain ⟨e, he, hname⟩ := ht
    obtain ⟨p, hp, hframe⟩ := Store.exists_of_frames h he
    exact ⟨_, hp, (Policy.name_of_frame hframe).trans hname⟩
  exact ⟨key h, key h.symm⟩

/-! ## Adding an object -/

/-- The object is given something where there is no policy yet. -/
def Opens (k : Keeper) (s : Store) (o : Securable) : Prop :=
  o.entitlements ≠ [] ∧ ∃ loc, k.layout.Locates o.object loc ∧ k.Vacant s loc

/-- What an object of a role is written into: the policy in hand. -/
theorem run_addObject (hl : k.layout.Legible o.object)
    (hcheck : k.layout.service.checkPrivileges o = .ok ()) {p : Policy}
    (hp : k.inHand s role.name o.object = .ok p) :
    (k.addObject role o).run Store.perform s
      = (if k.granted role o p = p then pure () else persist (k.granted role o p) :
          Plan Unit).run Store.perform s := by
  unfold addObject
  rw [hcheck, Plan.run_bind, Plan.run_ofResult]
  show (k.policyOrNew role.name o.object >>= _).run Store.perform s = _
  rw [Plan.run_bind, run_policyOrNew hl, hp]
  rfl

theorem inHand_of_some {p : Policy} (h : k.located s o.object = .ok (some p)) :
    k.inHand s role.name o.object = .ok p := by
  rw [inHand, h]
  rfl

theorem inHand_of_none {p : Policy} (h : k.located s o.object = .ok none)
    (hnew : k.newPolicy role.name o.object = .ok p) :
    k.inHand s role.name o.object = .ok p := by
  rw [inHand, h]
  exact hnew

/-- **Adding where there is a policy, or nothing to add.** No policy comes or goes. -/
theorem run_addObject_of_not_opens (h : s.Sound) (hl : k.layout.Legible o.object)
    (hloc : k.layout.Locates o.object loc) (hcheck : k.layout.service.checkPrivileges o = .ok ())
    (hnot : ¬ k.Opens s o) :
    ∃ t, (k.addObject role o).run Store.perform s = (.ok (), t) ∧ t.frames = s.frames := by
  obtain ⟨found, hfound⟩ := located_ok h hl hloc
  cases found with
  | some p =>
      obtain ⟨_, id, _, honly, _⟩ := located_some hfound
      rw [run_addObject hl hcheck (inHand_of_some hfound)]
      split
      · exact ⟨s, rfl, rfl⟩
      · have hni : (k.granted role o p).hasNoItems = false := by
          refine Bool.eq_false_iff.mpr fun hnone => ?_
          have hitems := h.intact.items _ honly.mem
          rw [(Policy.hasNoItems_grant.mp hnone).1] at hitems
          exact absurd hitems (by simp)
        have hid : (k.granted role o p).id = some id := h.built.keyed.ids _ honly.mem
        refine ⟨_, run_persist_of_frame h honly.mem rfl, ?_⟩
        rw [Store.wroteBack_eq_updated hid hni]
        exact Store.frames_updated h.built.keyed honly.mem rfl
  | none =>
      -- no policy is opened there, so nothing is given
      obtain ⟨loc', hloc', hvacant⟩ := located_none hfound
      have hnil : o.entitlements = [] := by
        by_contra hne
        exact hnot ⟨hne, loc', hloc', hvacant⟩
      obtain ⟨p, hnew, _⟩ := site_of_newPolicy role.name hloc' hvacant
      have hsame : k.granted role o p = p := by
        show k.edit role (.add o) p = p
        refine edit_eq_self_iff.mpr fun effect => ?_
        rw [editItems, accesses, hnil, ServiceType.accesses_nil]
        rfl
      rw [run_addObject hl hcheck (inHand_of_none hfound hnew), if_pos hsame]
      exact ⟨s, rfl, rfl⟩

/-- The policy that is created for an object. -/
def opening (k : Keeper) (role : Role) (o : Securable) (path : Fields String) : Policy :=
  k.granted role o (Policy.managed k.service (policyName role.name o.object.fullName) path)

/-- **Adding where there is no policy** is creating one. -/
theorem run_addObject_of_opens (hl : k.layout.Legible o.object)
    (hcheck : k.layout.service.checkPrivileges o = .ok ()) (hopens : k.Opens s o) :
    ∃ path, k.layout.path o.object = .ok path ∧ k.Vacant s path.get?
      ∧ (k.addObject role o).run Store.perform s
        = (persist (k.opening role o path)).run Store.perform s
      ∧ (k.opening role o path).id = none ∧ (k.opening role o path).hasNoItems = false := by
  obtain ⟨hne, loc, ⟨path, hpath, rfl⟩, hvacant⟩ := hopens
  have hnew : k.newPolicy role.name o.object
      = .ok (Policy.managed k.service (policyName role.name o.object.fullName) path) := by
    rw [newPolicy, hpath]
    rfl
  have hni : (k.opening role o path).hasNoItems = false := by
    obtain ⟨effect, haccess⟩ := ServiceType.exists_access hcheck hne
    refine Bool.eq_false_iff.mpr fun hnone => haccess ?_
    exact (Policy.hasNoItems_grant.mp hnone).2 effect
  refine ⟨path, hpath, hvacant, ?_, rfl, hni⟩
  have hlocated : k.located s o.object = .ok none := located_of_vacant ⟨path, hpath, rfl⟩ hvacant
  rw [run_addObject hl hcheck (inHand_of_none hlocated hnew), if_neg fun hsame => ?_]
  · rfl
  · rw [opening, hsame] at hni
    exact absurd hni (by simp [Policy.managed, Policy.hasNoItems, Policy.itemLists])

/-- Where no policy is managed, none has the resource of the path. -/
theorem sameAs_of_vacant (h : s.Sound) {path : Fields String} (hvacant : k.Vacant s path.get?)
    {e : Int × Policy} (he : e ∈ s.policies) (hservice : e.2.service = k.service) :
    e.2.resources.sameAs (path.mapValues Resource.single) = false := by
  refine Bool.eq_false_iff.mpr fun hsame => ?_
  have hresources := Fields.sameAs_iff.mp hsame
  have hmanaged := List.contains_iff_mem.mpr (h.intact.wellKept e he).managed
  refine hvacant e he ⟨hservice, hmanaged, fun level => ?_⟩
  rw [hresources]
  exact Policy.managed_guards k.service "" path level

/-- **The name decides** whether the policy can be created. -/
theorem run_persist_opening (h : s.Sound) {path : Fields String} (hvacant : k.Vacant s path.get?)
    (hni : (k.opening role o path).hasNoItems = false) :
    ((∀ e ∈ s.policies, e.2.service = k.service →
          e.2.name ≠ policyName role.name o.object.fullName) →
        (persist (k.opening role o path)).run Store.perform s
          = (.ok (), s.created (k.opening role o path)))
      ∧ ∀ e ∈ s.policies, e.2.service = k.service →
        e.2.name = policyName role.name o.object.fullName → ∃ f holder,
          (persist (k.opening role o path)).run Store.perform s = (.error f, s)
            ∧ f.cause = .refused (.nameTaken (policyName role.name o.object.fullName) holder) := by
  let p := k.opening role o path
  have hrun : (persist p).run Store.perform s
      = ((Plan.call (.createPolicy p)).during (.creatingPolicy p.name) >>= fun _ =>
          pure () : Plan Unit).run Store.perform s := by
    unfold persist
    rw [hni]
    rfl
  rw [Plan.run_bind, Plan.run_during, Plan.run_call, Store.perform, Store.createPolicy] at hrun
  refine ⟨fun hfree => ?_, fun e he hservice hname => ?_⟩
  · have hnone : s.conflict? none p = none := Store.conflict?_eq_none_iff.mpr
      fun e he _ hservice => ⟨hfree e he hservice, sameAs_of_vacant h hvacant he hservice⟩
    rw [hnone] at hrun
    exact hrun
  · cases hconflict : s.conflict? none p with
    | none =>
        have hapart := (Store.conflict?_eq_none_iff.mp hconflict e he (by simp) hservice).1
        exact absurd hname hapart
    | some refusal =>
        rw [hconflict] at hrun
        obtain ⟨holder, rfl⟩ : ∃ holder, refusal = .nameTaken p.name holder := by
          obtain ⟨e', he', hfound⟩ := List.exists_of_findSome?_eq_some hconflict
          dsimp only at hfound
          split at hfound
          · exact absurd hfound (by simp)
          · rename_i hnot
            rw [not_or, not_not] at hnot
            split at hfound
            · exact ⟨e'.1, (Option.some.inj hfound).symm⟩
            · have hsame : e'.2.resources.sameAs p.resources = false :=
                sameAs_of_vacant h hvacant he' hnot.2
              rw [hsame] at hfound
              exact absurd hfound (by simp)
        exact ⟨_, holder, hrun, rfl⟩

end Keeper

end PolicyKeeper
