import PolicyKeeper.Proofs.Expelling
import PolicyKeeper.Proofs.Integrity
import PolicyKeeper.Proofs.Keeping
import PolicyKeeper.Proofs.Retrying

/-!
# Stores of one keeper

In a store that one keeper has made from the empty one, whatever events it was told of and however
they ended (`Keeper.Reached`), there is nothing but policies as it makes them. What is known of the
policies that it makes, and is kept by its edits, is known of all (`Keeper.Reached.known`). So the
store is intact (`Store.Sound`), and in role mode it is of the keeper's own policies, with a role in
every item that is not an owner's (`Keeper.Own`, `Keeper.Sole`).

So nothing can come in the way of an edit. The policy of an object is found if the object has a
path, and when it is written back nothing stands against it. In particular an object can always be
taken from a role (`Keeper.Sole.run_remove`).
-/

namespace PolicyKeeper

/-- Handing over an object adds items of owners at most. -/
theorem Policy.manned_handOver {p : Policy} (hp : p.Manned) (accesses : List String)
    (previous : Option Principal) (new : Principal) :
    (p.handOver accesses previous new).Manned :=
  fun effect i hi howner => hp effect i (mem_of_mem_handOver hi howner) howner

/-- A store that came about as stores do, and is intact. -/
structure Store.Sound (s : Store) : Prop where
  built : s.Built
  intact : s.Intact

theorem Store.Sound.empty : Store.Sound {} := ⟨.empty, .empty⟩

theorem Store.Sound.perform {s : Store} (h : s.Sound) {c : Call} (hc : c.Proper) :
    (s.perform c).2.Sound :=
  ⟨h.built.perform c, h.intact.perform h.built.keyed hc⟩

/-- It is sound as long as nobody has written policies. -/
theorem Store.Sound.congr {s t : Store} (h : s.Sound) (hb : t.Built)
    (hsame : t.policies = s.policies) : t.Sound :=
  ⟨hb, h.intact.of_subset fun _ he => hsame ▸ he⟩

namespace Keeper

/-- A policy as the keeper makes it in role mode. -/
structure Own (k : Keeper) (p : Policy) : Prop where
  service : p.service = k.service
  wellKept : p.WellKept
  manned : p.Manned

/-- A store in which nobody but the keeper has put policies. -/
structure Sole (k : Keeper) (s : Store) : Prop where
  built : s.Built
  intact : s.Intact
  own : ∀ e ∈ s.policies, k.Own e.2

/-- A store that the keeper makes from the empty one, event after event, where any calls may have
been disturbed. -/
inductive Reached (k : Keeper) : Store → Prop where
  | start : Reached k {}
  | next {s : Store} (event : Event) (disturbances : List Disturbance) (past : Reached k s) :
      Reached k (k.disturbed event disturbances s)

variable {k : Keeper} {s t : Store} {event : Event} {edits : List ObjectEdit} {p p' : Policy}
  {o : CatalogObject} {name : String}

/-! ## What the keeper makes is its own -/

theorem own_newPolicy (h : k.newPolicy name o = .ok p) : k.Own p := by
  obtain ⟨_, _, rfl⟩ := newPolicy_ok h
  exact ⟨rfl, Policy.wellKept_managed _ _ _, Policy.manned_of_hasNoItems rfl⟩

theorem own_edits (hmode : k.mode = .role) (event : Event) :
    ∀ x ∈ k.edits event, ∀ p, k.Own p → k.Own (x.2 p) := by
  have hmanned : ∀ x ∈ k.edits event, ∀ p : Policy, p.Manned → (x.2 p).Manned := by
    refine forall_edits (P := fun f => ∀ p : Policy, p.Manned → (f p).Manned) ?_ ?_ ?_ event
    · exact fun role change p hp => manned_edit hmode hp
    · exact fun previous new p hp => Policy.manned_handOver hp _ previous new
    · -- in role mode no members come and go
      intro hplaceholder
      rw [hmode] at hplaceholder
      exact absurd hplaceholder (by simp)
  intro x hx p hp
  have hservice := Policy.service_of_frame (k.frame_of_edits event x hx p)
  exact ⟨hservice.trans hp.service, wellKept_edits event x hx p hp.wellKept,
    hmanned x hx p hp.manned⟩

/-! ## Calls -/

section

variable {known : Policy → Prop} {c : Call}

/-- What a call writes is known, and has items. -/
theorem written_of_may (hedits : ∀ x ∈ edits, ∀ p, known p → known (x.2 p))
    (hc : k.May (k.EditedIn known edits) c) {p' : Policy}
    (hcall : c = .createPolicy p' ∨ ∃ id, c = .updatePolicy id p') :
    known p' ∧ p'.hasNoItems = false := by
  rcases hcall with rfl | ⟨_, rfl⟩
  all_goals
    obtain ⟨hni, _, _, x, hx, hp, rfl⟩ := hc
    exact ⟨hedits x hx _ hp.known, hni⟩

/-- So it is proper if what is known is well kept, -/
theorem proper_of_may (hwell : ∀ p, known p → p.WellKept)
    (hedits : ∀ x ∈ edits, ∀ p, known p → known (x.2 p))
    (hc : k.May (k.EditedIn known edits) c) : c.Proper := by
  cases c with
  | createPolicy p' => exact (written_of_may hedits hc (Or.inl rfl)).imp_left (hwell p')
  | updatePolicy id p' => exact (written_of_may hedits hc (Or.inr ⟨id, rfl⟩)).imp_left (hwell p')
  | _ => exact trivial

/-- and it adds nothing that is not known. -/
theorem known_perform (hstored : ∀ id p, known p → known (Store.stored id p))
    (hedits : ∀ x ∈ edits, ∀ p, known p → known (x.2 p))
    (hc : k.May (k.EditedIn known edits) c) (hall : ∀ e ∈ s.policies, known e.2) :
    ∀ e ∈ (s.perform c).2.policies, known e.2 := by
  intro e he
  rcases Store.mem_perform he with hold | ⟨p', hcall, heq⟩
  · exact hall e hold
  · rw [heq]
    exact hstored _ _ (written_of_may hedits hc (hcall.imp_right fun h => ⟨_, h⟩)).1

theorem shows_known (hall : ∀ e ∈ s.policies, known e.2) (c : Call) :
    Call.Shows known c (s.perform c).1 := by
  cases c with
  | findPolicies search =>
      intro found hfound p hp
      cases hfound
      obtain ⟨e, he, rfl⟩ := List.mem_map.mp (List.mem_filter.mp hp).1
      exact hall e he
  | _ => exact trivial

end

/-- What is known of all policies is known of them after an event, if its edits keep it. -/
theorem known_disturbed {known : Policy → Prop}
    (hstored : ∀ id p, known p → known (Store.stored id p))
    (hnew : ∀ o name p, k.newPolicy name o = .ok p → known p)
    (hedits : ∀ x ∈ k.edits event, ∀ p, known p → known (x.2 p))
    (disturbances : List Disturbance) (hall : ∀ e ∈ s.policies, known e.2) :
    ∀ e ∈ (k.disturbed event disturbances s).policies, known e.2 := by
  have hmakes : k.MakesEdits known (k.edits event) (k.handle event) fun _ => True :=
    makesEdits_handle fun x _ => hnew x.1
  have hstep : ∀ (c : Call) (s : Store), k.May (k.EditedIn known (k.edits event)) c →
      (∀ e ∈ s.policies, known e.2) →
      (∀ e ∈ (s.perform c).2.policies, known e.2) ∧ Call.Shows known c (s.perform c).1 :=
    fun c s hc hs => ⟨known_perform hstored hedits hc hs, shows_known hs c⟩
  exact hmakes.rehearse hstep hall

/-- **What is known of the policies that the keeper makes** is known of all in its store, if edits
keep it. -/
theorem Reached.known {known : Policy → Prop}
    (hstored : ∀ id p, known p → known (Store.stored id p))
    (hnew : ∀ o name p, k.newPolicy name o = .ok p → known p)
    (hedits : ∀ event, ∀ x ∈ k.edits event, ∀ p, known p → known (x.2 p)) (h : k.Reached s) :
    ∀ e ∈ s.policies, known e.2 := by
  induction h with
  | start => exact fun _ he => absurd he List.not_mem_nil
  | next event disturbances _ ih =>
      exact known_disturbed hstored hnew (hedits event) disturbances ih

theorem wellKept_newPolicy (h : k.newPolicy name o = .ok p) : p.WellKept := by
  obtain ⟨_, _, rfl⟩ := newPolicy_ok h
  exact Policy.wellKept_managed _ _ _

/-- A call that the keeper may make keeps a sound store sound, and shows well kept policies. -/
theorem sound_perform (event : Event) (c : Call) (s : Store)
    (hc : k.May (k.EditedIn Policy.WellKept (k.edits event)) c) (hs : s.Sound) :
    (s.perform c).2.Sound ∧ Call.Shows Policy.WellKept c (s.perform c).1 :=
  ⟨hs.perform (proper_of_may (fun _ hp => hp) (wellKept_edits event) hc),
    shows_known hs.intact.wellKept c⟩

/-- A sound store is sound after any event. -/
theorem sound_disturbed (h : s.Sound) (event : Event) (disturbances : List Disturbance) :
    (k.disturbed event disturbances s).Sound := by
  have hmakes : k.MakesEdits Policy.WellKept (k.edits event) (k.handle event) fun _ => True :=
    makesEdits_handle fun _ _ _ _ => wellKept_newPolicy
  exact hmakes.rehearse (sound_perform event) h

/-- **Whatever the keeper has done**, its store is sound. -/
theorem Reached.sound (h : k.Reached s) : s.Sound := by
  induction h with
  | start => exact .empty
  | next event disturbances _ ih => exact sound_disturbed ih event disturbances

/-- One change of a role. -/
theorem sound_applyChange (h : s.Sound) {role : Role} {change : RoleChange}
    {r : Except Failure Unit} (hrun : (k.applyChange role change).run Store.perform s = (r, t)) :
    t.Sound := by
  have hmakes : k.MakesEdits Policy.WellKept (k.edits (.roleUpdated role [change]))
      (k.applyChange role change) fun _ => True :=
    makesEdits_applyChange ⟨fun _ _ _ _ => wellKept_newPolicy, k.frame_of_edits _⟩
      (List.mem_singleton_self _)
  have hsound := (hmakes.run (sound_perform _) h).1
  rwa [hrun] at hsound

theorem Sole.sound (h : k.Sole s) : s.Sound := ⟨h.built, h.intact⟩

theorem own_stored (id : Int) (p : Policy) (h : k.Own p) : k.Own (Store.stored id p) :=
  ⟨h.service, ⟨h.wellKept.managed, h.wellKept.levels, h.wellKept.shapely⟩, h.manned⟩

/-- **A call that the keeper may make** adds only what is its own, and keeps the store intact. -/
theorem Sole.perform (h : k.Sole s) (hedits : ∀ x ∈ edits, ∀ p, k.Own p → k.Own (x.2 p))
    {c : Call} (hc : k.May (k.EditedIn k.Own edits) c) : k.Sole (s.perform c).2 := by
  have hsound := h.sound.perform (proper_of_may (fun _ => Own.wellKept) hedits hc)
  exact ⟨hsound.built, hsound.intact, known_perform own_stored hedits hc h.own⟩

/-- One change of a role. -/
theorem Sole.applyChange (hmode : k.mode = .role) (h : k.Sole s) {role : Role}
    {change : RoleChange} {r : Except Failure Unit}
    (hrun : (k.applyChange role change).run Store.perform s = (r, t)) : k.Sole t := by
  have hedits : k.MakesEdits k.Own (k.edits (.roleUpdated role [change]))
      (k.applyChange role change) fun _ => True :=
    makesEdits_applyChange ⟨fun _ _ _ _ => own_newPolicy, k.frame_of_edits _⟩
      (List.mem_singleton_self _)
  have hsole :=
    (hedits.run (fun c s hc hs => ⟨hs.perform (own_edits hmode _) hc, shows_known hs.own c⟩) h).1
  rwa [hrun] at hsole

/-- An event that nothing disturbs. -/
theorem Reached.handle (h : k.Reached s) (event : Event) :
    k.Reached ((k.handle event).run Store.perform s).2 := by
  rw [← disturbed_nil]
  exact h.next event []

/-- **In role mode** there is only what is the keeper's own. -/
theorem Reached.sole (hmode : k.mode = .role) (h : k.Reached s) : k.Sole s :=
  ⟨h.sound.built, h.sound.intact,
    h.known own_stored (fun _ _ _ => own_newPolicy) (own_edits hmode)⟩

/-- Stores with the same policies are the keeper's alike. -/
theorem Sole.congr (h : k.Sole s) (hb : t.Built) (hsame : t.policies = s.policies) :
    k.Sole t :=
  ⟨hb, h.intact.of_subset fun _ he => hsame ▸ he, fun e he => h.own e (hsame ▸ he)⟩

/-! ## Nothing comes in the way -/

/-- At most one policy is managed at a location. -/
theorem only_of_mem (h : s.Sound) {id : Int} (hp : (id, p) ∈ s.policies) {loc : Location}
    (hman : k.Manages p loc) : k.Only s loc id p where
  mem := hp
  manages := hman
  only := by
    intro e he hman'
    by_contra hne
    have hid : e.1 ≠ id := fun hid => hne (h.built.keyed.eq_of_id he hp hid)
    have hservice : e.2.service = p.service := hman'.service.trans hman.service.symm
    refine (h.intact.apart e he _ hp hid hservice).2 ?_
    -- one value at each level: the location says all of a resource
    rw [resources_of_guards (h.intact.wellKept e he) hman'.guards,
      resources_of_guards (h.intact.wellKept _ hp) hman.guards]

/-- The policy of an object is found, or there is none. -/
theorem located_ok (h : s.Sound) (hl : k.layout.Legible o) {loc : Location}
    (hloc : k.layout.Locates o loc) : ∃ found, k.located s o = .ok found := by
  obtain ⟨path, hpath, _⟩ := hloc
  obtain ⟨found, hsel⟩ := select_ok (k := k) h.built.keyed h.intact o path
  rw [select_findPolicies s (Layout.path_legible hl hpath)] at hsel
  refine ⟨found, ?_⟩
  unfold located
  rw [hpath]
  exact hsel

/-- Nothing stands against a policy whose items alone have changed. -/
theorem conflict?_of_frame (h : s.Sound) {id : Int} (hp : (id, p) ∈ s.policies)
    (hf : p'.frame = p.frame) : s.conflict? (some id) p' = none := by
  refine Store.conflict?_eq_none_iff.mpr fun e he hne hservice => ?_
  have hid : e.1 ≠ id := fun heq => hne (congrArg some heq)
  obtain ⟨hname, hresources⟩ :=
    h.intact.apart e he (id, p) hp hid (hservice.trans (Policy.service_of_frame hf))
  rw [Policy.name_of_frame hf, Policy.resources_of_frame hf]
  exact ⟨hname, Bool.eq_false_iff.mpr fun hsame => hresources (Fields.sameAs_iff.mp hsame)⟩

/-- So it can be put in the place of what it was. -/
theorem updatePolicy_of_frame (h : s.Sound) {id : Int} (hp : (id, p) ∈ s.policies)
    (hf : p'.frame = p.frame) :
    s.updatePolicy id p' = (.ok (Store.stored id p'), s.updated id p') :=
  Store.updatePolicy_of_eq_none (Store.hasPolicy_iff.mpr ⟨p, hp⟩) (conflict?_of_frame h hp hf)

/-- A policy that nothing stands against is written back. -/
theorem run_persist_of_eq_none {id : Int} (hid : p.id = some id) (hhas : s.hasPolicy id = true)
    (hnone : s.conflict? (some id) p = none) :
    (persist p).run Store.perform s = (.ok (), s.wroteBack p) := by
  unfold persist Store.wroteBack
  rw [hid]
  cases hni : p.hasNoItems with
  | true =>
      show ((Plan.call (.deletePolicy id)).during _ >>= fun _ => pure ()).run Store.perform s = _
      rw [Plan.run_bind, Plan.run_during, Plan.run_call, Store.perform,
        Store.deletePolicy_of_hasPolicy hhas]
      rfl
  | false =>
      show ((Plan.call (.updatePolicy id p)).during _ >>= fun _ => pure ()).run Store.perform s = _
      rw [Plan.run_bind, Plan.run_during, Plan.run_call, Store.perform,
        Store.updatePolicy_of_eq_none hhas hnone]
      rfl

/-- And an edited policy is written back. -/
theorem run_persist_of_frame (h : s.Sound) {id : Int} (hp : (id, p) ∈ s.policies)
    (hf : p'.frame = p.frame) :
    (persist p').run Store.perform s = (.ok (), s.wroteBack p') :=
  run_persist_of_eq_none ((Policy.id_of_frame hf).trans (h.built.keyed.ids _ hp))
    (Store.hasPolicy_iff.mpr ⟨p, hp⟩) (conflict?_of_frame h hp hf)

/-- **An object can always be taken from a role**, if it has a path. -/
theorem Sole.run_remove (h : k.Sole s) (role : Role) {o : Securable}
    (hl : k.layout.Legible o.object) {loc : Location} (hloc : k.layout.Locates o.object loc) :
    ∃ t, (k.applyChange role (.remove o)).run Store.perform s = (.ok (), t) := by
  obtain ⟨found, hfound⟩ := located_ok h.sound hl hloc
  show ∃ t, (k.removeObject role o).run Store.perform s = (.ok (), t)
  unfold removeObject
  rw [Plan.run_bind, run_findPolicy hl, hfound]
  cases found with
  | none => exact ⟨s, rfl⟩
  | some p =>
      show ∃ t, (if k.revoked role o p = p then _ else _ : Plan Unit).run Store.perform s = _
      split
      · exact ⟨s, rfl⟩
      · obtain ⟨_, id, _, honly, _⟩ := located_some hfound
        exact ⟨_, run_persist_of_frame h.sound honly.mem rfl⟩

/-! ## Rights and items -/

theorem Own.manages (h : k.Own p) : ∃ loc, k.Manages p loc := by
  refine ⟨fun level => (p.resources.get? level).bind fun r => r.values.head?, h.service,
    List.contains_iff_mem.mpr h.wellKept.managed, fun level => ?_⟩
  cases hr : p.resources.get? level with
  | none => rfl
  | some r =>
      obtain ⟨value, rfl⟩ := h.wellKept.levels level r hr
      exact ⟨rfl, value, rfl, rfl⟩

/-- **A role without rights is in no item**: all that the items say is said by the rights. -/
theorem Sole.unlisted (h : k.Sole s) (hnone : ∀ r ∈ k.rights s, r.role ≠ name) :
    s.Unlisted name := by
  intro e he effect i hi howner hrole
  have hown := h.own e he
  obtain ⟨loc, hman⟩ := hown.manages
  have hsome := (hown.wellKept.shapely.items effect).single i hi
  obtain ⟨access, haccess⟩ := Option.isSome_iff_exists.mp hsome
  -- the item is for one access at one location, and that is a right
  exact hnone ⟨loc, effect, access, name⟩ ⟨e, he, hman, i, hi, howner, haccess, hrole⟩ rfl

/-- And a role in no item has no rights. -/
theorem rights_of_unlisted (h : s.Unlisted name) : ∀ r ∈ k.rights s, r.role ≠ name := by
  rintro r ⟨e, he, _, i, hi, howner, _, hrole⟩ rfl
  exact h e he r.effect i hi howner hrole

end Keeper

end PolicyKeeper
