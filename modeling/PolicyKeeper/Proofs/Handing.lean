import PolicyKeeper.Proofs.Looking
import PolicyKeeper.Proofs.Owning
import PolicyKeeper.Proofs.Replacing
import PolicyKeeper.Proofs.Store.Accounts

/-!
# Changing hands

When an object changes hands, the previous owner and the placeholder leave the items of owners, the
new owner enters them, and an access of owners that has no item gets one. Nothing else may happen to
the policy, whatever is in it: its items may have been made by somebody else, have any number of
members, and be for other accesses (`Policy.ChangedHands`).

An item is its members and the rest (`Item.frame`), and of the members a handover makes a list that
it makes no more of: who has left is not there any more, and who has entered is
(`entered_filter_entered`). So a handover that is repeated changes nothing, and the store is left
alone the second time, even if the policy of the first time is not found again (`passOn_again`).
-/

namespace PolicyKeeper

/-! ## Members -/

/-- The users, or the groups, with the principal among them if it is one. -/
def Principal.entered (who : Principal) (kind : PrincipalKind) (names : List String) :
    List String :=
  if who.kind = kind ∧ who.name ∉ names then names ++ [who.name] else names

/-- Who stays in an item of owners that changes hands: not the previous owner, nor the
placeholder. -/
def Principal.stays (previous : Option Principal) (who : Principal) : Bool :=
  previous != some who && who != .placeholder

namespace Principal

variable {who : Principal} {kind : PrincipalKind} {names : List String} {name : String}
  {P : String → Bool}

theorem mem_entered :
    name ∈ who.entered kind names ↔ name ∈ names ∨ (⟨kind, name⟩ : Principal) = who := by
  obtain ⟨kind', name'⟩ := who
  unfold entered
  split
  · rename_i h
    obtain ⟨rfl, _⟩ := h
    simp
  · rename_i h
    refine ⟨Or.inl, ?_⟩
    rintro (hin | heq)
    · exact hin
    · cases heq
      by_contra hnot
      exact h ⟨rfl, hnot⟩

theorem filter_entered (hP : who.kind = kind → P who.name = false) :
    (who.entered kind names).filter P = names.filter P := by
  unfold entered
  split
  · rename_i h
    rw [List.filter_append, List.filter_cons_of_neg (by rw [hP h.1]; simp), List.filter_nil,
      List.append_nil]
  · rfl

/-- **Leaving and entering again changes nothing.** -/
theorem entered_filter_entered : who.entered kind ((who.entered kind (names.filter P)).filter P)
    = who.entered kind (names.filter P) := by
  have hself : (names.filter P).filter P = names.filter P := by
    rw [List.filter_filter]
    simp only [Bool.and_self]
  by_cases henters : who.kind = kind ∧ who.name ∉ names.filter P
  · have hfirst : who.entered kind (names.filter P) = names.filter P ++ [who.name] :=
      if_pos henters
    cases hstays : P who.name with
    | true =>
        -- who entered stays, and does not enter twice
        have hin : who.name ∈ names.filter P ++ [who.name] :=
          List.mem_append_right _ (List.mem_singleton_self _)
        have hsecond : (names.filter P ++ [who.name]).filter P = names.filter P ++ [who.name] := by
          rw [List.filter_append, hself, List.filter_cons_of_pos hstays, List.filter_nil]
        rw [hfirst, hsecond]
        exact if_neg fun hagain => hagain.2 hin
    | false =>
        rw [filter_entered fun _ => hstays, hself]
  · have hfirst : who.entered kind (names.filter P) = names.filter P := if_neg henters
    rw [hfirst, hself, hfirst]

end Principal

/-! ## Items -/

/-- All of an item but its users and groups. -/
def Item.frame (i : Item) : Item := { i with users := [], groups := [] }

/-- What becomes of an owner's item: nothing but its users and groups changes, the new owner is
among them, the previous one and the placeholder are not unless they are the new one, and all
others are there in their order. -/
structure Item.ChangedHands (previous : Option Principal) (new : Principal) (i j : Item) :
    Prop where
  frame : j.frame = i.frame
  entered : new.name ∈ j.members new.kind
  left : ∀ who, who ≠ new → previous = some who ∨ who = .placeholder →
    who.name ∉ j.members who.kind
  others : ∀ kind, (j.members kind).filter (fun name => (⟨kind, name⟩ : Principal) != new
      && Principal.stays previous ⟨kind, name⟩)
    = (i.members kind).filter fun name => (⟨kind, name⟩ : Principal) != new
      && Principal.stays previous ⟨kind, name⟩

namespace Item

variable {i j : Item} {who new : Principal} {previous : Option Principal} {kind : PrincipalKind}
  {items : List Item} {a : String}

theorem ext_members (hframe : j.frame = i.frame) (h : ∀ kind, j.members kind = i.members kind) :
    j = i := by
  have husers : j.users = i.users := h .user
  have hgroups : j.groups = i.groups := h .group
  cases i
  cases j
  simp_all [frame]

theorem frame_setMembers (kind : PrincipalKind) (names : List String) :
    (i.setMembers kind names).frame = i.frame := by
  cases kind <;> rfl

theorem frame_attach : (i.attach who).frame = i.frame := by
  unfold attach
  dsimp only
  split
  · rfl
  · exact frame_setMembers _ _

theorem frame_handOver : (i.handOver previous new).frame = i.frame := by
  unfold handOver
  rw [frame_attach, detach, frame_setMembers]
  cases previous with
  | none => rfl
  | some owner => exact frame_setMembers _ _

theorem members_attach : (i.attach who).members kind = who.entered kind (i.members kind) := by
  obtain ⟨kind', name⟩ := who
  unfold attach Principal.entered
  cases kind <;> cases kind' <;> simp only [List.contains_iff_mem] <;> split <;>
    simp_all [members, setMembers]

theorem members_detach : (i.detach who).members kind
    = (i.members kind).filter fun name => (⟨kind, name⟩ : Principal) != who := by
  obtain ⟨kind', name⟩ := who
  cases kind <;> cases kind' <;> simp [detach, members, setMembers, bne, BEq.beq]

/-- **The members of an item that changes hands.** -/
theorem members_handOver : (i.handOver previous new).members kind
    = new.entered kind
      ((i.members kind).filter fun name => Principal.stays previous ⟨kind, name⟩) := by
  unfold handOver
  rw [members_attach, ← Principal.placeholder, members_detach]
  refine congrArg _ ?_
  cases previous with
  | none =>
      refine List.filter_congr fun name _ => ?_
      simp [Principal.stays]
  | some owner =>
      rw [members_detach, List.filter_filter]
      refine List.filter_congr fun name _ => ?_
      rw [Principal.stays, Bool.and_comm]
      refine congrArg (· && _) ?_
      simp [bne, eq_comm]

theorem changedHands_handOver (i : Item) (previous : Option Principal) (new : Principal) :
    ChangedHands previous new i (i.handOver previous new) where
  frame := frame_handOver
  entered := by
    rw [members_handOver]
    exact Principal.mem_entered.mpr (Or.inr rfl)
  left := by
    intro who hne hor hin
    rw [members_handOver, Principal.mem_entered] at hin
    rcases hin with hin | hnew
    · have hstays := (List.mem_filter.mp hin).2
      rw [Principal.stays, Bool.and_eq_true, bne_iff_ne, bne_iff_ne] at hstays
      rcases hor with hprevious | hplaceholder
      · exact hstays.1 hprevious
      · exact hstays.2 hplaceholder
    · exact hne hnew
  others := by
    intro kind
    rw [members_handOver, Principal.filter_entered, List.filter_filter]
    · refine List.filter_congr fun name _ => ?_
      rw [Bool.and_assoc, Bool.and_self]
    · rintro rfl
      simp

/-- An item that has changed hands does not change if it does so again. -/
theorem handOver_handOver :
    (i.handOver previous new).handOver previous new = i.handOver previous new := by
  refine ext_members frame_handOver fun kind => ?_
  rw [members_handOver, members_handOver]
  exact Principal.entered_filter_entered

/-- A new item of owners is one with nobody in it that has changed hands. -/
theorem handOver_ofOwnerAccess : (ofOwnerAccess a).handOver previous new
    = (ofOwnerAccess a).attach new := by
  have hnobody : ∀ kind, (ofOwnerAccess a).members kind = [] := fun kind => by cases kind <;> rfl
  refine ext_members (frame_handOver.trans frame_attach.symm) fun kind => ?_
  rw [members_handOver, members_attach, hnobody]
  rfl

theorem isOwnerOf_handOver {accesses : List String} :
    (i.handOver previous new).isOwnerOf accesses = i.isOwnerOf accesses := by
  have hkey : (i.handOver previous new).key = i.key := handOver_key
  obtain ⟨howner, haccess⟩ := Prod.mk.inj hkey
  rw [isOwnerOf, isOwnerOf, howner, haccess]

theorem isOwnerOf_of_mem {accesses : List String} (ha : a ∈ accesses)
    (h : i.isOwnerOf [a] = true) : i.isOwnerOf accesses = true := by
  obtain ⟨howner, haccess⟩ := Prod.mk.inj (isOwnerOf_iff_key.mp h)
  rw [isOwnerOf, howner, haccess]
  exact List.contains_iff_mem.mpr ha

end Item

/-- Of well-shaped items at most one is an owner's for the access. -/
theorem Shaped.filter_isOwnerOf {items : List Item} {i : Item} {a : String} (h : Shaped items)
    (hi : i ∈ items) (hof : i.isOwnerOf [a] = true) : items.filter (Item.isOwnerOf [a]) = [i] := by
  refine List.perm_singleton.mp
    ((List.perm_ext_iff_of_nodup ?_ (List.nodup_singleton _)).mpr fun j => ?_)
  · exact (List.Nodup.of_map Item.key h.apart).filter _
  · rw [List.mem_filter, List.mem_singleton]
    refine ⟨fun hj => ?_, ?_⟩
    · have hkey : j.key = i.key :=
        (Item.isOwnerOf_iff_key.mp hj.2).trans (Item.isOwnerOf_iff_key.mp hof).symm
      exact List.inj_on_of_nodup_map h.apart hj.1 hi hkey
    · rintro rfl
      exact ⟨hi, hof⟩

/-! ## Policies -/

/-- What becomes of a policy: for each access of owners there is one item of owners, which is the
one there was with other members, or a new one. All other items that allow are as they were, in
their order, and so is the rest of the policy. It is well shaped, and done with. -/
structure Policy.ChangedHands (accesses : List String) (previous : Option Principal)
    (new : Principal) (p q : Policy) : Prop where
  owners : ∀ a ∈ accesses, ∃ i j, (p.allowItems.filter (Item.isOwnerOf [a]) = [i]
      ∨ p.allowItems.filter (Item.isOwnerOf [a]) = [] ∧ i = Item.ofOwnerAccess a)
    ∧ q.allowItems.filter (Item.isOwnerOf [a]) = [j] ∧ Item.ChangedHands previous new i j
  others : q.allowItems.filter (fun i => !i.isOwnerOf accesses)
    = p.allowItems.filter fun i => !i.isOwnerOf accesses
  rest : { q with allowItems := p.allowItems } = p
  shape : q.checkShape = .ok ()
  done : q.handOver accesses previous new = q

namespace Policy

variable {p : Policy} {accesses : List String} {previous : Option Principal} {new : Principal}
  {i : Item} {a : String}

theorem mem_handOver_of_mem (previous : Option Principal) (new : Principal)
    (hi : i ∈ p.allowItems) (hof : i.isOwnerOf accesses = true) :
    i.handOver previous new ∈ (p.handOver accesses previous new).allowItems :=
  List.mem_append_left _ (List.mem_map.mpr ⟨i, hi, if_pos hof⟩)

theorem mem_handOver_of_missing (previous : Option Principal) (new : Principal)
    (ha : a ∈ accesses) (hnone : p.allowItems.filter (Item.isOwnerOf [a]) = []) :
    (Item.ofOwnerAccess a).handOver previous new
      ∈ (p.handOver accesses previous new).allowItems := by
  rw [Item.handOver_ofOwnerAccess]
  refine List.mem_append_right _ (List.mem_map.mpr ⟨a, List.mem_filter.mpr ⟨ha, ?_⟩, rfl⟩)
  rw [Bool.not_eq_true', List.any_eq_false]
  exact List.filter_eq_nil_iff.mp hnone

theorem filter_isOwnerOf_handOver :
    (p.handOver accesses previous new).allowItems.filter (fun i => !i.isOwnerOf accesses)
      = p.allowItems.filter fun i => !i.isOwnerOf accesses := by
  have hadded : ∀ missing : List String, (∀ a ∈ missing, a ∈ accesses) →
      (missing.map fun a => (Item.ofOwnerAccess a).attach new).filter
        (fun i => !i.isOwnerOf accesses) = [] := by
    intro missing hmissing
    refine List.filter_eq_nil_iff.mpr (List.forall_mem_map.mpr fun a ha => ?_)
    rw [Item.attach_ofOwnerAccess, Item.isOwnerOf_ownedBy (hmissing a ha)]
    simp
  show List.filter _ (List.map _ p.allowItems ++ _) = _
  rw [List.filter_append, hadded _ fun a ha => (List.mem_filter.mp ha).1, List.append_nil]
  refine Item.filter_map_of_fixed (fun i => ?_) fun i hi => if_neg (by simpa using hi)
  split
  · rw [Item.isOwnerOf_handOver]
  · rfl

/-- **A policy that has changed hands** does not change if it does so again. -/
theorem handOver_handOver : (p.handOver accesses previous new).handOver accesses previous new
    = p.handOver accesses previous new := by
  -- no access of owners is without an item any more
  have hcovered : ∀ a ∈ accesses, ¬ (!(p.handOver accesses previous new).allowItems.any
      fun i => i.isOwnerOf [a]) = true := by
    intro a ha hmissing
    rw [Bool.not_eq_true', List.any_eq_false] at hmissing
    by_cases hnone : p.allowItems.filter (Item.isOwnerOf [a]) = []
    · refine hmissing _ (mem_handOver_of_missing previous new ha hnone) ?_
      rw [Item.isOwnerOf_handOver]
      exact Item.isOwnerOf_iff_key.mpr rfl
    · obtain ⟨i, hi⟩ := List.exists_mem_of_ne_nil _ hnone
      obtain ⟨hin, hof⟩ := List.mem_filter.mp hi
      refine hmissing _ (mem_handOver_of_mem previous new hin (Item.isOwnerOf_of_mem ha hof)) ?_
      rw [Item.isOwnerOf_handOver]
      exact hof
  -- and those that there are stay as they are
  have hstable : ∀ i ∈ (p.handOver accesses previous new).allowItems,
      (if i.isOwnerOf accesses then i.handOver previous new else i) = i := by
    intro j hj
    rcases List.mem_append.mp hj with hj | hj
    · obtain ⟨i, _, rfl⟩ := List.mem_map.mp hj
      split
      · rw [Item.handOver_handOver, ite_self]
      · rfl
    · obtain ⟨a, _, rfl⟩ := List.mem_map.mp hj
      have hnew : (Item.ofOwnerAccess a).handOver previous new
          = (Item.ofOwnerAccess a).attach new := Item.handOver_ofOwnerAccess
      rw [← hnew, Item.handOver_handOver, ite_self]
  refine ext_items rfl fun effect => ?_
  cases effect with
  | allow =>
      show List.map _ (p.handOver accesses previous new).allowItems ++ _ = _
      rw [List.filter_eq_nil_iff.mpr hcovered, List.map_nil, List.append_nil]
      exact (List.map_congr_left hstable).trans (List.map_id' _)
  | deny => rfl

theorem changedHands_handOver (hp : p.checkShape = .ok ()) (hnodup : accesses.Nodup)
    (previous : Option Principal) (new : Principal) :
    p.ChangedHands accesses previous new (p.handOver accesses previous new) := by
  have hshape : p.Shapely := checkShape_eq_ok_iff.mp hp
  have hshape' : (p.handOver accesses previous new).Shapely := hshape.handOver hnodup previous new
  refine ⟨fun a ha => ?_, filter_isOwnerOf_handOver, rfl, checkShape_eq_ok_iff.mpr hshape',
    handOver_handOver⟩
  by_cases hnone : p.allowItems.filter (Item.isOwnerOf [a]) = []
  · have hnew := mem_handOver_of_missing previous new ha hnone
    refine ⟨Item.ofOwnerAccess a, _, Or.inr ⟨hnone, rfl⟩, hshape'.allow.filter_isOwnerOf hnew ?_,
      Item.changedHands_handOver _ _ _⟩
    rw [Item.isOwnerOf_handOver]
    exact Item.isOwnerOf_iff_key.mpr rfl
  · obtain ⟨i, hi⟩ := List.exists_mem_of_ne_nil _ hnone
    obtain ⟨hin, hof⟩ := List.mem_filter.mp hi
    have hthere := mem_handOver_of_mem previous new hin
      (Item.isOwnerOf_of_mem ha hof)
    refine ⟨i, _, Or.inl (hshape.allow.filter_isOwnerOf hin hof),
      hshape'.allow.filter_isOwnerOf hthere ?_, Item.changedHands_handOver _ _ _⟩
    rw [Item.isOwnerOf_handOver]
    exact hof

end Policy

/-! ## Giving an object away again -/

namespace Keeper

variable {k : Keeper} {s t : Store} {o : CatalogObject} {previous : Option Principal}
  {new : Principal} {p : Policy}

theorem nodup_ownerAccesses (service : ServiceType) : service.ownerAccesses.Nodup := by
  cases service <;> decide

/-- What is left of giving an object to a new owner who has an account. -/
def passOn (k : Keeper) (o : CatalogObject) (previous : Option Principal) (new : Principal) :
    Plan Unit := do
  let p ← k.policyOrNew ownerRoleName o
  let p' := p.handOver k.layout.service.ownerAccesses previous new
  if p' = p then return
  persist p'

theorem run_setOwner : (k.setOwner o previous new).run Store.perform s
    = (k.passOn o previous new).run Store.perform (s.createAccount new).2 := rfl

theorem atomic_passOn : (k.passOn o previous new).Atomic Store.perform :=
  Plan.Atomic.after (readsOnly_policyOrNew _ _) fun _ => atomic_writeBack _ _

/-- What is in hand is handed over, and written unless that was no change. -/
theorem run_passOn (h : (k.policyOrNew ownerRoleName o).run Store.perform s = (.ok p, s)) :
    (k.passOn o previous new).run Store.perform s
      = (if p.handOver k.layout.service.ownerAccesses previous new = p then pure ()
        else persist (p.handOver k.layout.service.ownerAccesses previous new) :
          Plan Unit).run Store.perform s := by
  unfold passOn
  rw [Plan.run_bind, h]

theorem run_policyOrNew_found {role : String} (h : k.lookup s o = .ok (some p)) :
    (k.policyOrNew role o).run Store.perform s = (.ok p, s) := by
  unfold policyOrNew
  rw [Plan.run_bind, run_lookup, h]
  rfl

theorem run_policyOrNew_new {role : String} (h : k.lookup s o = .ok none)
    (hp : k.newPolicy role o = .ok p) :
    (k.policyOrNew role o).run Store.perform s = (.ok p, s) := by
  unfold policyOrNew
  rw [Plan.run_bind, run_lookup, h]
  show (Plan.ofResult (k.newPolicy role o)).run Store.perform s = _
  rw [hp]
  rfl

theorem policyOrNew_cases {role : String} {t : Store}
    (h : (k.policyOrNew role o).run Store.perform s = (.ok p, t)) :
    t = s ∧ (k.lookup s o = .ok (some p)
      ∨ k.lookup s o = .ok none ∧ k.newPolicy role o = .ok p) := by
  unfold policyOrNew at h
  obtain ⟨found, s₁, hfound, hrest⟩ := Plan.run_bind_ok h
  rw [run_lookup] at hfound
  obtain ⟨hlookup, rfl⟩ := Prod.mk.inj hfound
  cases found with
  | some q =>
      cases hrest
      exact ⟨rfl, Or.inl hlookup⟩
  | none =>
      rw [Plan.run_ofResult] at hrest
      obtain ⟨hnew, rfl⟩ := Prod.mk.inj hrest
      exact ⟨rfl, Or.inr ⟨hlookup, Plan.ofResult_eq_ok hnew⟩⟩

/-- A policy is not created twice, because its name is in use by then. -/
theorem run_persist_taken {q : Policy} (hid : q.id = none) (hni : q.hasNoItems = false)
    (hin : (s.nextId, Store.stored s.nextId q) ∈ (s.created q).policies) :
    ∃ e, (persist q).run Store.perform (s.created q) = (.error e, s.created q) := by
  rcases (s.created q).createPolicy_cases q with ⟨refusal, hrefused⟩ | ⟨hnone, _⟩
  · unfold persist
    rw [hid, hni]
    show ∃ e, ((Plan.call (.createPolicy q)).during _ >>= fun _ => pure ()).run Store.perform _ = _
    rw [Plan.run_bind, Plan.run_during, Plan.run_call, Store.perform, hrefused]
    exact ⟨_, rfl⟩
  · have hfree := Store.conflict?_eq_none_iff.mp hnone _ hin (by simp) rfl
    exact absurd rfl hfree.1

/-- A policy that was handed over in its place is found again, and done with. -/
theorem passOn_again_found (hs : s.Built) (h : k.lookup s o = .ok (some p))
    (hne : p.handOver k.layout.service.ownerAccesses previous new ≠ p)
    (hrun : (k.passOn o previous new).run Store.perform s = (.ok (), t)) :
    t.accounts = s.accounts ∧ (k.passOn o previous new).run Store.perform t = (.ok (), t) := by
  obtain ⟨id, hid, hin, hshape⟩ := lookup_some hs.keyed h
  let q := p.handOver k.layout.service.ownerAccesses previous new
  have hni : q.hasNoItems = false :=
    Policy.hasNoItems_handOver k.layout.service.ownerAccesses_ne_nil
  have hhas : s.hasPolicy id = true := Store.hasPolicy_iff.mpr ⟨p, hin⟩
  rw [run_passOn (run_policyOrNew_found h), if_neg hne] at hrun
  have hwrote : t = s.wroteBack q := (run_persist fun id' hid' => by
    rw [← Option.some.inj (hid.symm.trans hid')]
    exact hhas).of_run hrun
  have hid' : q.id = some id := hid
  rw [Store.wroteBack_eq_updated hid' hni] at hwrote
  subst hwrote
  have hstored : Store.stored id q = q := by rw [Store.stored, ← hid']
  have hthere : (id, q) ∈ (s.updated id q).policies :=
    (Store.mem_updated hhas).mpr (Or.inr (by rw [hstored]))
  have hframes : (s.updated id q).frames = s.frames := Store.frames_updated hs.keyed hin rfl
  have hfound : k.lookup (s.updated id q) o = .ok (some q) :=
    lookup_of_frames hs.keyed (hs.keyed.updated id q) hframes h hid hthere
      (hshape.handOver (nodup_ownerAccesses _) previous new)
  rw [run_passOn (run_policyOrNew_found hfound), if_pos Policy.handOver_handOver]
  exact ⟨rfl, rfl⟩

/-- A new policy that was handed over is found, and done with, or it is not found, and then the
store does not take it a second time. -/
theorem passOn_again_new (hs : s.Built) (h : k.lookup s o = .ok none)
    (hp : k.newPolicy ownerRoleName o = .ok p)
    (hrun : (k.passOn o previous new).run Store.perform s = (.ok (), t)) :
    t.accounts = s.accounts ∧ ∃ r, (k.passOn o previous new).run Store.perform t = (r, t)
      ∧ (k.layout.Legible o → r = .ok ()) := by
  obtain ⟨path, hpath, rfl⟩ := newPolicy_ok hp
  let p := Policy.managed k.service (policyName ownerRoleName o.fullName) path
  let q := p.handOver k.layout.service.ownerAccesses previous new
  have hni : q.hasNoItems = false :=
    Policy.hasNoItems_handOver k.layout.service.ownerAccesses_ne_nil
  have hne : q ≠ p := by
    intro hsame
    rw [hsame] at hni
    exact absurd hni (by simp [p, Policy.managed, Policy.hasNoItems, Policy.itemLists])
  rw [run_passOn (run_policyOrNew_new h hp), if_neg hne] at hrun
  have hid : q.id = none := rfl
  have hwrote : t = s.wroteBack q :=
    (run_persist fun id hid' => absurd (hid.symm.trans hid') (by simp)).of_run hrun
  have hcreated : s.wroteBack q = s.created q := by
    unfold Store.wroteBack
    rw [hid, hni]
  rw [hcreated] at hwrote
  subst hwrote
  have hthere : (s.nextId, Store.stored s.nextId q) ∈ (s.created q).policies :=
    Store.mem_created.mpr (Or.inr rfl)
  by_cases hself : ∀ l ∈ path.entries, Text.Glob.matchesValue l.2 l.2 = true
  · -- nothing else is at the path, or it would have been found
    have hvacant : k.Vacant s path.get? := by
      obtain ⟨path', hpath', hor⟩ := lookup_eq_none_iff.mp h
      cases hpath.symm.trans hpath'
      refine hor.resolve_right ?_
      rintro ⟨l, hl, hfalse⟩
      rw [hself l hl] at hfalse
      exact absurd hfalse (by simp)
    have hman : k.Manages (Store.stored s.nextId q) path.get? :=
      ⟨rfl, rfl, Policy.managed_guards k.service (policyName ownerRoleName o.fullName) path⟩
    have hshape : q.Shapely :=
      (Policy.shapely_managed _ _ _).handOver (nodup_ownerAccesses _) previous new
    have hfound : k.lookup (s.created q) o = .ok (some (Store.stored s.nextId q)) := by
      refine (lookup_eq_some_iff (hs.keyed.created q)).mpr ⟨path, s.nextId, hpath, hthere,
        ⟨hman, hself⟩, fun e he hmeets => ?_, hshape⟩
      rcases Store.mem_created.mp he with hold | hnew
      · exact absurd hmeets.1 (hvacant e hold)
      · exact hnew
    have hdone : (Store.stored s.nextId q).handOver k.layout.service.ownerAccesses previous new
        = Store.stored s.nextId q := by
      have hsame : q.handOver k.layout.service.ownerAccesses previous new = q :=
        Policy.handOver_handOver
      show Store.stored s.nextId (q.handOver _ _ _) = _
      rw [hsame]
    refine ⟨rfl, .ok (), ?_, fun _ => rfl⟩
    rw [run_passOn (run_policyOrNew_found hfound), if_pos hdone]
    rfl
  · have hlookup : k.lookup (s.created q) o = .ok none := by
      refine lookup_eq_none_iff.mpr ⟨path, hpath, Or.inr ?_⟩
      simpa using hself
    obtain ⟨e, hrefused⟩ := run_persist_taken hid hni hthere
    rw [run_passOn (run_policyOrNew_new hlookup hp), if_neg hne]
    refine ⟨rfl, _, hrefused, fun hl => absurd (fun l hl' => ?_) hself⟩
    exact Text.Glob.matchesValue_self (Layout.path_legible hl hpath l hl')

/-- **Passing an object on again** leaves the store as it is. -/
theorem passOn_again (hs : s.Built) {r : Except Failure Unit}
    (hrun : (k.passOn o previous new).run Store.perform s = (r, t)) :
    t.accounts = s.accounts ∧ ∃ r', (k.passOn o previous new).run Store.perform t = (r', t)
      ∧ (k.layout.Legible o → r = .ok () → r' = .ok ()) := by
  have hpasses : (k.passOn o previous new).Passes Store.perform s t := by
    have hend : (k.passOn o previous new).Passes Store.perform s
        ((k.passOn o previous new).run Store.perform s).2 := (k.passOn o previous new).passes_run s
    rwa [hrun] at hend
  rcases atomic_passOn s t hpasses with hsame | ⟨_, hok⟩
  · rw [hsame] at hrun ⊢
    exact ⟨rfl, r, hrun, fun _ hr => hr⟩
  · obtain ⟨p, s₁, hinHand, _⟩ := Plan.run_bind_ok hok
    obtain ⟨rfl, hfound | ⟨hnone, hnew⟩⟩ := policyOrNew_cases hinHand
    · by_cases hsame : p.handOver k.layout.service.ownerAccesses previous new = p
      · -- then nothing was written the first time
        rw [run_passOn (run_policyOrNew_found hfound), if_pos hsame] at hok
        cases hok
        exact ⟨rfl, r, hrun, fun _ hr => hr⟩
      · obtain ⟨haccounts, hagain⟩ := passOn_again_found hs hfound hsame hok
        exact ⟨haccounts, .ok (), hagain, fun _ _ => rfl⟩
    · obtain ⟨haccounts, r', hagain, hr'⟩ := passOn_again_new hs hnone hnew hok
      exact ⟨haccounts, r', hagain, fun hl _ => hr' hl⟩

/-- The whole event, once the new owner has an account. -/
theorem run_given {r : Except Failure Unit}
    (h : (k.passOn o previous new).run Store.perform (s.createAccount new).2 = (r, t)) :
    ∃ r', (k.handle (.ownerSet o previous new)).run Store.perform s = (r', t)
      ∧ (r' = .ok true ↔ r = .ok ()) := by
  show ∃ r', ((k.setOwner o previous new).during _ >>= fun _ => pure true).run Store.perform s
    = (r', t) ∧ _
  rw [Plan.run_bind, Plan.run_during, run_setOwner, h]
  cases r with
  | error e => exact ⟨_, rfl, by simp⟩
  | ok u => exact ⟨_, rfl, by simp⟩

/-- **An object changes hands.** For every well-shaped policy, whatever accesses owners have, and
for every previous and new owner, a handover makes of the policy just what it should. And on every
store that could be built, for every object, giving the object to the same owner again leaves the
store as the first time has left it; it goes well again if the first time went well and no set
begins in the names of the object. -/
theorem changes_hands (previous : Option Principal) (new : Principal) :
    (∀ (p : Policy) (accesses : List String), p.checkShape = .ok () → accesses.Nodup →
        p.ChangedHands accesses previous new (p.handOver accesses previous new))
      ∧ ∀ (k : Keeper) (o : CatalogObject) (s : Store), s.Built →
        let given := k.handle (.ownerSet o previous new)
        let first := given.run Store.perform s
        let second := given.run Store.perform first.2
        second.2 = first.2 ∧ (k.layout.Legible o → first.1 = .ok true → second.1 = .ok true) := by
  refine ⟨fun p accesses hp hnodup => Policy.changedHands_handOver hp hnodup previous new, ?_⟩
  intro k o s hs
  have hs₁ : (s.createAccount new).2.Built := hs.perform (.createAccount new)
  rcases hpassed : (k.passOn o previous new).run Store.perform (s.createAccount new).2 with ⟨r, t⟩
  obtain ⟨first, hfirst, hok⟩ := run_given hpassed
  obtain ⟨haccounts, r', hagain, hr'⟩ := passOn_again hs₁ hpassed
  -- the new owner has an account by then
  rw [← Store.createAccount_of_accounts haccounts] at hagain
  obtain ⟨second, hsecond, hok'⟩ := run_given hagain
  rw [Store.createAccount_of_accounts haccounts] at hsecond
  dsimp only
  rw [hfirst, hsecond]
  exact ⟨rfl, fun hl hfirst => hok'.mpr (hr' hl (hok.mp hfirst))⟩

/-- Items as somebody else may have made them: one of an owner with others in it, and the
placeholder, one of an owner for another access, and one of a role. -/
def crowdedItems : List Item :=
  [{ Item.ofOwnerAccess "read" with users := ["bob", placeholder, "alice"] },
    { Item.ofOwnerAccess "admin" with users := ["alice"] },
    { Item.ofAccess "read" with users := ["alice"], roles := ["drafter"] }]

def crowdedPolicy : Policy :=
  { Policy.managed "files" "drawings" drawingsPath with allowItems := crowdedItems }

def withCrowded : Store := (({} : Store).insertPolicy crowdedPolicy).2

def staffTakesOver : Plan Bool :=
  ofFiles.handle (.ownerSet drawings (some ⟨.user, "alice"⟩) ⟨.group, "staff"⟩)

def withStaff : Store := (staffTakesOver.run Store.perform withCrowded).2

/-- Alice's drawings are given to a group, and once more. -/
theorem changes_hands_crowded :
    crowdedPolicy.checkShape = .ok () ∧ ["execute", "read", "write"].Nodup
      ∧ crowdedPolicy.ChangedHands ["execute", "read", "write"] (some ⟨.user, "alice"⟩)
        ⟨.group, "staff"⟩ (crowdedPolicy.handOver ["execute", "read", "write"]
          (some ⟨.user, "alice"⟩) ⟨.group, "staff"⟩)
      ∧ withCrowded.Built ∧ withStaff ≠ withCrowded
      ∧ (staffTakesOver.run Store.perform withStaff).2 = withStaff := by
  have hshape : crowdedPolicy.checkShape = .ok () := by decide +kernel
  have hnodup : ["execute", "read", "write"].Nodup := by decide
  have hbuilt : withCrowded.Built := .insert crowdedPolicy .empty
  obtain ⟨hpolicy, hstore⟩ := changes_hands (some ⟨.user, "alice"⟩) ⟨.group, "staff"⟩
  exact ⟨hshape, hnodup, hpolicy _ _ hshape hnodup, hbuilt, by decide +kernel,
    (hstore ofFiles drawings _ hbuilt).1⟩

end Keeper

end PolicyKeeper
