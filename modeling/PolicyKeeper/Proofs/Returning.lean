import Mathlib.Data.List.TakeWhile
import PolicyKeeper.Proofs.Carrying
import PolicyKeeper.Proofs.Declining

/-!
# Roles that are given back

Whoever is granted roles and then loses them leaves no trace, if there was none before. That is not
because each write is taken back by another. Granting a role reads the policies of all its objects
first and writes them then, so of two objects at one path the second writes over what the first has
written; a role is taken one object after the other, from what is there by then; and roles may share
items, or be named twice.

What carries the argument is what is on loan (`Keeper.OnLoan`). Every item is as it was, or the
principal has come to it and one of the objects that are still to be given back grants it. Granting
leaves no more than that, in whatever order it has written. Giving an object back makes good what it
grants (`OnLoan.run_revokeObject`), and once all are given back nothing is left on loan.

In role mode the same is a matter of members, and of one native role at a time.
-/

namespace PolicyKeeper

namespace Item

variable {i : Item} {who : Principal} {accesses : List String}

/-- Whoever is in no item cannot leave it, -/
theorem detach_of_not_mem (h : who.name ∉ i.members who.kind) : i.detach who = i := by
  have hstay : (i.members who.kind).filter (· != who.name) = i.members who.kind := by
    refine List.filter_eq_self.mpr fun name hname => bne_iff_ne.mpr ?_
    rintro rfl
    exact h hname
  rw [detach, hstay]
  cases who.kind <;> rfl

/-- and leaves it as it was after coming to it. -/
theorem detach_attach (h : who.name ∉ i.members who.kind) : (i.attach who).detach who = i := by
  have hattach : i.attach who = i.setMembers who.kind (i.members who.kind ++ [who.name]) :=
    if_neg fun hin => h (List.contains_iff_mem.mp hin)
  have hset : ∀ (kind : PrincipalKind) (names names' : List String),
      (i.setMembers kind names).setMembers kind names' = i.setMembers kind names' := by
    intro kind names names'
    cases kind <;> rfl
  have hleft : (i.members who.kind ++ [who.name]).filter (· != who.name)
      = (i.members who.kind).filter (· != who.name) := by
    rw [List.filter_append]
    simp
  rw [hattach, detach, members_setMembers, hset, hleft]
  exact detach_of_not_mem h

/-- Coming to an item of the placeholder does not change whose it is. -/
theorem isPlaceholderOf_attach (h : placeholder ∈ i.users) :
    (i.attach who).isPlaceholderOf accesses = i.isPlaceholderOf accesses := by
  have hkey : (i.attach who).key = i.key := attach_key
  have haccess : (i.attach who).access? = i.access? := congrArg Prod.snd hkey
  have howner : (i.attach who).isOwner = i.isOwner := congrArg Prod.fst hkey
  have hthere : (i.attach who).users.contains placeholder = i.users.contains placeholder := by
    rw [List.contains_iff_mem.mpr h, List.contains_iff_mem.mpr (placeholder_mem_attach h)]
  rw [isPlaceholderOf, isPlaceholderOf, haccess, howner, hthere]

end Item

/-- Of an edited policy it is the items that allow or deny that have to be looked at. -/
theorem Policy.Shapely.edited {p q : Policy} (h : p.Shapely) (hf : q.frame = p.frame)
    (hkeys : ∀ effect, (q.items effect).map Item.key = (p.items effect).map Item.key) :
    q.Shapely := by
  have hitems : ∀ effect, Shaped (q.items effect) := fun effect =>
    (h.items effect).of_sublist (hkeys effect ▸ List.Sublist.refl _)
  intro l hl
  rcases mem_itemLists_of_frame hf hl with rfl | rfl | hl
  · exact hitems .allow
  · exact hitems .deny
  · exact h l hl

namespace Keeper

open Plan

variable {k : Keeper} {s t u : Store} {who : Principal} {roles : List Role} {role : Role}
  {os all : List Securable} {o : Securable} {p q : Policy} {effect : Effect} {i : Item}
  {name : String} {r : NativeRole}

/-! ## What is on loan in a policy -/

/-- One of the objects is at the place of the policy and grants the item, which is the
placeholder's. -/
def Grants (k : Keeper) (os : List Securable) (p : Policy) (effect : Effect) (i : Item) : Prop :=
  ∃ o ∈ os, (∃ loc, k.layout.Locates o.object loc ∧ k.Manages p loc)
    ∧ i.isPlaceholderOf (k.accesses o effect) = true

/-- All is as it was, but that the principal has come to items that the objects grant. -/
structure Lent (k : Keeper) (who : Principal) (os : List Securable) (p q : Policy) : Prop where
  frame : q.frame = p.frame
  items : ∀ effect, List.Forall₂
    (fun i j => j = i ∨ (k.Grants os p effect i ∧ j = i.attach who)) (p.items effect)
    (q.items effect)

theorem Lent.refl : k.Lent who os p p :=
  ⟨rfl, fun _ => List.forall₂_same.mpr fun _ _ => Or.inl rfl⟩

/-- No object has anything on loan. -/
theorem Lent.eq (h : k.Lent who [] p q) : q = p := by
  refine Policy.ext_items h.frame fun effect => ?_
  rw [← List.forall₂_eq_eq_eq]
  refine (h.items effect).flip.imp fun i j hij => hij.resolve_right ?_
  rintro ⟨⟨_, hnone, _⟩, _⟩
  exact absurd hnone List.not_mem_nil

theorem Lent.shapely (h : k.Lent who os p q) : q.Shapely ↔ p.Shapely := by
  have hkeys : ∀ effect, (p.items effect).map Item.key = (q.items effect).map Item.key := by
    intro effect
    rw [← List.forall₂_eq_eq_eq, List.forall₂_map_left_iff, List.forall₂_map_right_iff]
    refine (h.items effect).imp fun i j hij => ?_
    rcases hij with rfl | ⟨_, rfl⟩
    · rfl
    · exact Item.attach_key.symm
  exact ⟨fun hq => hq.edited h.frame.symm hkeys,
    fun hp => hp.edited h.frame fun effect => (hkeys effect).symm⟩

/-- The principal comes to what one of the objects grants. -/
theorem Lent.attached (h : k.Lent who os p q) (ho : o ∈ os)
    (hplace : ∃ loc, k.layout.Locates o.object loc ∧ k.Manages p loc) :
    k.Lent who os p (q.mapPlaceholderItems (k.accesses o) (Item.attach who)) := by
  refine ⟨h.frame, fun effect => ?_⟩
  rw [Policy.items_mapPlaceholderItems, List.forall₂_map_right_iff]
  refine (h.items effect).imp fun i j hij => ?_
  split
  · rename_i hof
    right
    rcases hij with rfl | ⟨hgrants, rfl⟩
    · exact ⟨⟨o, ho, hplace, hof⟩, rfl⟩
    · exact ⟨hgrants, Item.attach_attach⟩
  · exact hij

/-- **Granting roles lends no more than their objects grant**, however often it writes a policy. -/
theorem Evolves.lent (h : k.Evolves (.rolesGranted roles who) p q) :
    k.Lent who (roles.flatMap (·.securables)) p q := by
  induction h with
  | refl => exact .refl
  | tail _ hedit ih =>
      obtain ⟨x, hx, hready, rfl⟩ := hedit
      obtain ⟨_, role, hrole, o, ho, rfl⟩ := exists_of_memberEdits hx
      obtain ⟨loc, hloc, hguards⟩ := hready.guards
      have hman : k.Manages p loc :=
        Manages.of_frame ⟨hready.known, hready.managed, hguards⟩ ih.frame.symm
      exact ih.attached (List.mem_flatMap.mpr ⟨role, hrole, ho⟩) ⟨loc, hloc, hman⟩

/-- **An object is given back**: the principal leaves what it grants, and what is on loan then is
what the others grant. -/
theorem Lent.detached (h : k.Lent who (o :: os) p q)
    (habsent : ∀ effect, ∀ i ∈ p.items effect, i.isPlaceholderOf (k.accesses o effect) = true →
      who.name ∉ i.members who.kind) :
    k.Lent who os p (q.mapPlaceholderItems (k.accesses o) (Item.detach who)) := by
  refine ⟨h.frame, fun effect => ?_⟩
  rw [Policy.items_mapPlaceholderItems, List.forall₂_map_right_iff]
  have hitems := (List.forall₂_and_left _ _).mpr ⟨habsent effect, h.items effect⟩
  refine hitems.imp fun i j hij => ?_
  obtain ⟨hnot, rfl | ⟨⟨o', ho', hplace, hof'⟩, rfl⟩⟩ := hij
  · -- nobody has come to the item, so nobody leaves it
    left
    split
    · rename_i hof
      exact Item.detach_of_not_mem (hnot hof)
    · rfl
  · have hsame : (i.attach who).isPlaceholderOf (k.accesses o effect)
        = i.isPlaceholderOf (k.accesses o effect) :=
      Item.isPlaceholderOf_attach (Item.isPlaceholderOf_iff.mp hof').2.2
    rw [hsame]
    split
    · rename_i hof
      exact Or.inl (Item.detach_attach (hnot hof))
    · rename_i hof
      -- it must be another object that grants the item
      rcases List.mem_cons.mp ho' with rfl | ho'
      · exact absurd hof' hof
      · exact Or.inr ⟨⟨o', ho', hplace, hof'⟩, rfl⟩

/-- An object has nothing on loan elsewhere. -/
theorem Lent.elsewhere (h : k.Lent who (o :: os) p q)
    (hnot : ¬ ∃ loc, k.layout.Locates o.object loc ∧ k.Manages p loc) : k.Lent who os p q := by
  refine ⟨h.frame, fun effect => (h.items effect).imp fun i j hij => hij.imp_right ?_⟩
  rintro ⟨⟨o', ho', hplace, hof⟩, hj⟩
  rcases List.mem_cons.mp ho' with rfl | ho'
  · exact absurd hplace hnot
  · exact ⟨⟨o', ho', hplace, hof⟩, hj⟩

/-! ## What is on loan in the store -/

/-- A store in which some objects are still to be given back, and nothing else is different. -/
structure OnLoan (k : Keeper) (who : Principal) (os : List Securable) (s t : Store) : Prop
    extends Reframed s t where
  lent : ∀ e ∈ s.policies, ∀ q, (e.1, q) ∈ t.policies → k.Lent who os e.2 q

theorem onLoan_of_granted (hs : s.Built) {granted : Except Failure Bool}
    (hrun : (k.handle (.rolesGranted roles who)).run Store.perform s = (granted, t)) :
    k.OnLoan who (roles.flatMap (·.securables)) s t := by
  have hnil : k.disturbed (.rolesGranted roles who) [] s = t := by rw [disturbed_nil, hrun]
  refine ⟨reframed_of_run rfl hs hrun, fun e he q hq => ?_⟩
  rw [← hnil] at hq
  exact ((k.handle_kept _ (r := { store := s }) hs).evolved e he q hq).lent

/-- Nothing is on loan any more. -/
theorem OnLoan.policies_eq (h : k.OnLoan who [] s t) : t.policies = s.policies := by
  have hall := Store.forall₂_of_frames (R := fun p q => q = p) h.frames
    fun e he q hq => (h.lent e he q hq).eq
  rw [← List.forall₂_eq_eq_eq]
  exact hall.flip.imp fun e e' he => Prod.ext he.1 he.2

/-- What has been put in the place of the policy of an object. -/
theorem OnLoan.next (hs : s.Keyed) (h : k.OnLoan who (o :: os) s t) {loc : Location} {id : Int}
    (hloc : k.layout.Locates o.object loc) (honly : k.Only s loc id p) (hq : k.Lent who os p q)
    (hu : Reframed s u) (hmem : ∀ e ∈ u.policies, e = (id, q) ∨ (e ∈ t.policies ∧ e.1 ≠ id)) :
    k.OnLoan who os s u := by
  refine ⟨hu, fun e he q' hq' => ?_⟩
  rcases hmem _ hq' with heq | ⟨hold, hne⟩
  · obtain ⟨hid, rfl⟩ := Prod.mk.inj heq
    cases hs.eq_of_id he honly.mem hid
    exact hq
  · -- the object was found, so no other policy is at its place
    refine (h.lent e he q' hold).elsewhere ?_
    rintro ⟨loc', hloc', hman⟩
    rw [hloc'.unique hloc] at hman
    exact hne (congrArg Prod.fst (honly.only e he hman))

/-- The principal is in no item that the objects grant. -/
def AbsentFrom (k : Keeper) (s : Store) (who : Principal) (os : List Securable) : Prop :=
  ∀ e ∈ s.policies, ∀ effect, ∀ i ∈ e.2.items effect, k.Grants os e.2 effect i →
    who.name ∉ i.members who.kind

/-- A policy with other items is written back in its place, if nothing stands against it. -/
theorem Reframed.run_persistChange (hs : s.Keyed) (h : Reframed s t) {id : Int} {q' : Policy}
    (hp : (id, p) ∈ s.policies) (hq : (id, q) ∈ t.policies) (hf : q'.frame = q.frame)
    (hni : q'.hasNoItems = true → q' = q) (hfree : q' ≠ q → s.conflict? (some id) p = none) :
    ∃ u, (persistChange q q').run Store.perform t = (.ok (), u) ∧ Reframed s u
      ∧ ∀ e ∈ u.policies, e = (id, q') ∨ (e ∈ t.policies ∧ e.1 ≠ id) := by
  unfold persistChange
  by_cases hsame : q' = q
  · rw [if_pos hsame]
    refine ⟨t, rfl, h, fun e he => ?_⟩
    by_cases hid : e.1 = id
    · rw [hsame]
      exact Or.inl (h.built.keyed.eq_of_id he hq hid)
    · exact Or.inr ⟨he, hid⟩
  · rw [if_neg hsame]
    obtain ⟨_, hold, hframe⟩ := Store.exists_of_frames h.frames hq
    cases hs.eq_of_id hold hp rfl
    have hf : q'.frame = p.frame := hf.trans hframe.symm
    have hid : q'.id = some id := (Policy.id_of_frame hf).trans (hs.ids _ hp)
    have hhas : t.hasPolicy id = true := Store.hasPolicy_iff.mpr ⟨q, hq⟩
    have hnone : t.conflict? (some id) q' = none :=
      (Store.conflict?_of_frames h.frames hf (some id)).trans (hfree hsame)
    have hni : q'.hasNoItems = false := Bool.eq_false_iff.mpr fun hni' => hsame (hni hni')
    have hupdated := h.updatePolicy hs hp hf
    rw [Store.updatePolicy_of_eq_none hhas hnone] at hupdated
    refine ⟨t.updated id q', ?_, hupdated, fun e he => ?_⟩
    · rw [run_persist_of_eq_none hid hhas hnone, Store.wroteBack_eq_updated hid hni]
    · rw [Store.mem_updated hhas, Store.stored, ← hid] at he
      exact he.symm

/-- **Giving one object back** goes well, if its policy was found before anything was lent. -/
theorem OnLoan.run_revokeObject (hs : s.Keyed) (habsent : k.AbsentFrom s who all) (ho : o ∈ all)
    (hfound : ∃ p, k.lookup s o.object = .ok (some p)) (h : k.OnLoan who (o :: os) s t)
    (role : Role) :
    ∃ u, (k.revokeObject who role o).run Store.perform t = (.ok (), u) ∧ k.OnLoan who os s u := by
  obtain ⟨p, hfound⟩ := hfound
  obtain ⟨loc, id, hloc, honly, hshape⟩ := lookup_only hs hfound
  have hp : (id, p) ∈ s.policies := honly.mem
  have habsent : ∀ effect, ∀ i ∈ p.items effect, i.isPlaceholderOf (k.accesses o effect) = true →
      who.name ∉ i.members who.kind := by
    intro effect i hi hof
    exact habsent _ hp effect i hi ⟨o, ho, ⟨loc, hloc, honly.manages⟩, hof⟩
  obtain ⟨q, hq, _⟩ := Store.exists_of_frames h.frames.symm hp
  have hq : (id, q) ∈ t.policies := hq
  have hlent : k.Lent who (o :: os) p q := h.lent _ hp q hq
  have hagain : k.lookup t o.object = .ok (some q) :=
    lookup_of_frames hs h.built.keyed h.frames hfound (hs.ids _ hp) hq (hlent.shapely.mpr hshape)
  let q' := q.mapPlaceholderItems (k.accesses o) (Item.detach who)
  have hreturned : k.Lent who os p q' := hlent.detached habsent
  have hrun : (k.revokeObject who role o).run Store.perform t
      = (persistChange q q').run Store.perform t := by
    unfold revokeObject
    rw [run_bind, run_during, run_lookup, hagain]
    rfl
  -- a policy that something was lent in was written before, so it can be written again
  have hfree : q' ≠ q → s.conflict? (some id) p = none := by
    intro hne
    refine (h.taken _ hp).resolve_left fun hstill => hne ?_
    cases h.built.keyed.eq_of_id hstill hq rfl
    have hnone : k.Lent who [] p q' := Lent.refl.detached habsent
    exact hnone.eq
  have hframe : q'.frame = q.frame := rfl
  obtain ⟨u, hwritten, hu, hmem⟩ := h.toReframed.run_persistChange hs hp hq hframe
    Policy.mapPlaceholderItems_of_hasNoItems hfree
  exact ⟨u, hrun.trans hwritten, h.next hs hloc honly hreturned hu hmem⟩

/-! ## Giving back all -/

/-- Steps one after the other, each of which makes good the first of what is due. -/
theorem run_forM_of_due {α β : Type} {f : α → Plan Unit} {due : α → List β}
    {I : List β → Store → Prop} {xs : List α} (rest : List β)
    (hstep : ∀ x ∈ xs, ∀ rest t, I (due x ++ rest) t →
      ∃ u, (f x).run Store.perform t = (.ok (), u) ∧ I rest u)
    (h : I (xs.flatMap due ++ rest) t) :
    ∃ u, (xs.forM f).run Store.perform t = (.ok (), u) ∧ I rest u := by
  induction xs generalizing t with
  | nil => exact ⟨t, rfl, h⟩
  | cons x xs ih =>
      rw [List.flatMap_cons, List.append_assoc] at h
      obtain ⟨t₁, hfirst, h₁⟩ := hstep x List.mem_cons_self _ _ h
      obtain ⟨u, hrest, hu⟩ := ih (fun y hy => hstep y (List.mem_cons_of_mem _ hy)) h₁
      refine ⟨u, ?_, hu⟩
      show (f x >>= fun _ => xs.forM f).run Store.perform t = _
      rw [run_bind, hfirst]
      exact hrest

/-- **Giving all objects back** leaves the policies as they were. -/
theorem OnLoan.run_revokeRoles (hmode : k.mode = .ownerPlaceholder) (hs : s.Keyed)
    (habsent : k.AbsentFrom s who (roles.flatMap (·.securables)))
    (hfound : ∀ role ∈ roles, ∀ o ∈ role.securables, ∃ p, k.lookup s o.object = .ok (some p))
    (h : k.OnLoan who (roles.flatMap (·.securables)) s t) :
    ∃ u, (k.revokeRoles roles who).run Store.perform t = (.ok true, u)
      ∧ u.policies = s.policies := by
  have hrole : ∀ role ∈ roles, ∀ os t, k.OnLoan who (role.securables ++ os) s t →
      ∃ u, (k.revokeRole who role).run Store.perform t = (.ok (), u) ∧ k.OnLoan who os s u := by
    intro role hrole os t h
    have hdue : role.securables.flatMap (fun o => [o]) = role.securables :=
      List.flatMap_singleton' _
    rw [← hdue] at h
    unfold revokeRole
    rw [hmode]
    refine run_forM_of_due (I := fun os t => k.OnLoan who os s t) os (fun o ho os t h => ?_) h
    exact h.run_revokeObject hs habsent (List.mem_flatMap.mpr ⟨role, hrole, ho⟩)
      (hfound role hrole o ho) role
  rw [← List.append_nil (roles.flatMap _)] at h
  obtain ⟨u, hrun, hu⟩ := run_forM_of_due (I := fun os t => k.OnLoan who os s t) [] hrole h
  refine ⟨u, ?_, hu.policies_eq⟩
  unfold revokeRoles
  rw [run_bind, hrun]
  rfl

/-- What was found for a grant was found before it. -/
theorem found_of_granted (hs : s.Built)
    (hgranted : (k.handle (.rolesGranted roles who)).run Store.perform s = (.ok true, t)) :
    ∀ role ∈ roles, ∀ o ∈ role.securables, ∃ p, k.lookup s o.object = .ok (some p) := by
  intro role hrole o ho
  obtain ⟨before, after, rfl⟩ := List.append_of_mem hrole
  obtain ⟨u, v, hbefore, hgrant⟩ := run_grantEach_true_split hgranted
  have hbefore : (k.handle (.rolesGranted before who)).run Store.perform s = (.ok true, u) :=
    hbefore
  -- granting the roles before it has moved no policy, and left each in its shape
  have hlent := onLoan_of_granted hs hbefore
  obtain ⟨q, hq⟩ := finds_iff.mp (finds_of_grantRole hgrant o ho)
  obtain ⟨id, hid, hin, hshape⟩ := lookup_some hlent.built.keyed hq
  obtain ⟨p, hp, _⟩ := Store.exists_of_frames hlent.frames hin
  have hp : (id, p) ∈ s.policies := hp
  exact ⟨p, lookup_of_frames hlent.built.keyed hs.keyed hlent.frames.symm hq hid hp
    ((hlent.lent _ hp q hin).shapely.mp hshape)⟩

/-! ## Native roles -/

/-- In owner-placeholder mode nobody comes to a native role, -/
theorem roles_grantEach (hmode : k.mode = .ownerPlaceholder) (who : Principal) (roles : List Role)
    (s : Store) :
    ((k.grantEach who roles).run Store.perform s).2.roles = s.roles := by
  have hspares : (k.grantEach who roles).SparesRoles := by
    refine (granting_grantEach who roles).imp fun c hc => ?_
    rcases hc with hsearch | hwrites | ⟨hrole, _⟩
    · exact Store.changesRoles_of_search hsearch
    · exact Store.changesRoles_of_writes hwrites
    · rw [hmode] at hrole
      exact absurd hrole (by simp)
  exact hspares.run s

/-- and nobody leaves one. -/
theorem roles_revokeRoles (hmode : k.mode = .ownerPlaceholder) (who : Principal) (roles : List Role)
    (s : Store) :
    ((k.revokeRoles roles who).run Store.perform s).2.roles = s.roles := by
  have hspares : (k.revokeRoles roles who).SparesRoles := by
    refine SparesRoles.bind (abides_forM fun role _ => ?_) fun _ => sparesRoles_pure true
    unfold revokeRole
    rw [hmode]
    exact abides_forM fun o _ => (writesLast_revokeObject who role o).sparesRoles
  exact hspares.run s

theorem role?_joined (h : s.role? name = some r) (role : Role) :
    (k.joined who role.name s).role? name
      = some (if name = role.name then r.join (k.roleRequest name who) else r) := by
  unfold joined
  rw [Store.role?_changeRole NativeRole.name_join, Store.role?_createRole_of_eq_some h,
    Option.map_some]
  split
  · rename_i hname
    rw [hname]
  · rfl

theorem role?_left (h : s.role? name = some r) (role : Role) :
    (k.left who role.name s).role? name
      = some (if name = role.name then r.leave (k.roleRequest name who) else r) := by
  unfold left
  split
  · rw [Store.role?_changeRole NativeRole.name_leave, h, Option.map_some]
    split
    · rename_i hname
      rw [hname]
    · rfl
  · rename_i hnone
    rw [h, if_neg]
    rintro rfl
    rw [h] at hnone
    exact hnone rfl

/-- Steps for roles, each of which changes the native role of its name alone, change it once for
all if to change it twice makes no difference. -/
theorem role?_foldl {f : Role → Store → Store} {g : NativeRole → NativeRole}
    (hg : ∀ r, g (g r) = g r) (hf : ∀ {s r}, s.role? name = some r → ∀ role : Role,
      (f role s).role? name = some (if name = role.name then g r else r))
    (roles : List Role) (h : s.role? name = some r) :
    (roles.foldl (fun s role => f role s) s).role? name
      = some (if name ∈ roles.map Role.name then g r else r) := by
  induction roles generalizing s r with
  | nil => exact h
  | cons role roles ih =>
      rw [List.foldl_cons, ih (hf h role), List.map_cons]
      simp only [List.mem_cons]
      by_cases hname : name = role.name
      · -- whether a later role has the name makes no difference
        rw [if_pos hname, if_pos (Or.inl hname), hg, ite_self]
      · rw [if_neg hname]
        simp only [hname, false_or]

/-- **Leaving native roles undoes joining them**, for those that were no members. -/
theorem role?_left_joined (h : s.role? name = some r)
    (habsent : ∀ role ∈ roles, ∀ r, s.role? role.name = some r → who ∉ r.members) :
    (roles.foldl (fun s role => k.left who role.name s)
      (roles.foldl (fun s role => k.joined who role.name s) s)).role? name = some r := by
  have hjoined : (roles.foldl (fun s role => k.joined who role.name s) s).role? name
      = some (if name ∈ roles.map Role.name then r.join (k.roleRequest name who) else r) :=
    role?_foldl (fun _ => NativeRole.join_join) role?_joined roles h
  rw [role?_foldl (fun _ => NativeRole.leave_leave) role?_left roles hjoined]
  split
  · rename_i hin
    obtain ⟨role, hrole, rfl⟩ := List.mem_map.mp hin
    refine congrArg some (NativeRole.leave_join fun other hother => ?_)
    rw [members_roleRequest] at hother
    rw [Set.mem_singleton_iff.mp hother]
    exact habsent role hrole r h
  · rfl

/-! ## Granting and revoking -/

/-- The principal has nothing of what granting the roles gives: it is in none of their native roles,
or in no item that their objects grant. -/
def Absent (k : Keeper) (s : Store) (who : Principal) (roles : List Role) : Prop :=
  match k.mode with
  | .role => ∀ role ∈ roles, ∀ r, s.role? role.name = some r → who ∉ r.members
  | .ownerPlaceholder => k.AbsentFrom s who (roles.flatMap (·.securables))

theorem policies_left : (k.left who name s).policies = s.policies := by
  unfold left
  split
  · rfl
  · rfl

theorem policies_foldl {f : Role → Store → Store} (hf : ∀ role s, (f role s).policies = s.policies)
    (roles : List Role) (s : Store) :
    (roles.foldl (fun s role => f role s) s).policies = s.policies := by
  induction roles generalizing s with
  | nil => rfl
  | cons role roles ih => exact (ih (f role s)).trans (hf role s)

/-- In role mode all roles are joined, and then all are left. -/
theorem rolesRevoked_undoes_native (hmode : k.mode = .role) (hs : s.Built)
    (habsent : ∀ role ∈ roles, ∀ r, s.role? role.name = some r → who ∉ r.members)
    (hgranted : (k.handle (.rolesGranted roles who)).run Store.perform s = (.ok true, t)) :
    ∃ u, (k.handle (.rolesRevoked roles who)).run Store.perform t = (.ok true, u)
      ∧ u.policies = s.policies ∧ ∀ name r, s.role? name = some r → u.role? name = some r := by
  let s₁ := (s.createAccount who).2
  have hpolicies : s₁.policies = s.policies := Store.policies_createAccount who s
  have hroles : ∀ name, s₁.role? name = s.role? name := by
    intro name
    have hsame : s₁.roles = s.roles := Store.roles_perform (c := .createAccount who) rfl s
    rw [Store.role?, hsame, ← Store.role?]
  have hfinds : ∀ role ∈ roles, k.findsAll s₁ role = true := by
    intro role hrole
    rw [findsAll_congr hpolicies]
    exact List.all_eq_true.mpr fun o ho =>
      finds_iff.mpr (found_of_granted hs hgranted role hrole o ho)
  -- nothing was declined, so the principal has joined all of them
  have hjoined : t = roles.foldl (fun s role => k.joined who role.name s) s₁ := by
    have hrun : ((k.grantEach who roles).run Store.perform s₁).2 = _ :=
      run_grantEach_native hmode roles
    have hgranted : (k.grantEach who roles).run Store.perform s₁ = (.ok true, t) := hgranted
    rwa [hgranted, List.takeWhile_eq_self_iff.mpr hfinds] at hrun
  refine ⟨_, run_revokeRoles_native hmode roles, ?_, fun name r hr => ?_⟩
  · rw [policies_foldl (fun _ _ => policies_left), hjoined,
      policies_foldl (fun _ _ => policies_joined), hpolicies]
  · rw [hjoined]
    refine role?_left_joined ((hroles name).trans hr) fun role hrole r hr => ?_
    exact habsent role hrole r ((hroles role.name).symm.trans hr)

/-- **Revoking roles undoes granting them.** On every store, in either mode, for all roles and every
principal: if all are granted, and before that the principal was in no native role of the roles, or
in no item of the placeholder that an object of the roles grants, then revoking them goes well, and
afterwards each policy is what it was before the grant, as is each native role that there was. -/
theorem rolesRevoked_undoes (hs : s.Built) (habsent : k.Absent s who roles)
    (hgranted : (k.handle (.rolesGranted roles who)).run Store.perform s = (.ok true, t)) :
    ∃ u, (k.handle (.rolesRevoked roles who)).run Store.perform t = (.ok true, u)
      ∧ u.policies = s.policies ∧ ∀ name r, s.role? name = some r → u.role? name = some r := by
  unfold Absent at habsent
  cases hmode : k.mode with
  | role =>
      rw [hmode] at habsent
      exact rolesRevoked_undoes_native hmode hs habsent hgranted
  | ownerPlaceholder =>
      rw [hmode] at habsent
      obtain ⟨u, hrevoked, hpolicies⟩ := (onLoan_of_granted hs hgranted).run_revokeRoles hmode
        hs.keyed habsent (found_of_granted hs hgranted)
      refine ⟨u, hrevoked, hpolicies, fun name r hr => ?_⟩
      -- the native roles have not been touched on the way
      have hcame : t.roles = s.roles := by
        have hsame := roles_grantEach hmode who roles (s.createAccount who).2
        have hgranted : (k.grantEach who roles).run Store.perform (s.createAccount who).2
            = (.ok true, t) := hgranted
        rw [hgranted] at hsame
        exact hsame.trans (Store.roles_perform (c := .createAccount who) rfl s)
      have hwent : u.roles = t.roles := by
        have hsame := roles_revokeRoles hmode who roles t
        rwa [hrevoked] at hsame
      rwa [Store.role?, hwent, hcame]

/-- Two of its objects are at the path of one schema, and share it with another role. -/
def lodger : Role :=
  { name := "lodger"
    securables := [schemaDb "depot" [.createTable], schemaDb "cat" [.useSchema]] }

def withLodger : Store :=
  ((ofOwners.handle (.rolesGranted [lodger] ⟨.user, "bob"⟩)).run Store.perform withBrowser).2

/-- A role that a user holds already is granted twice to a group of the same name. -/
def withVisited : Store :=
  ((ofTables.handle (.rolesGranted [visitor] ⟨.user, "alice"⟩)).run Store.perform withVisitor).2

def withVisitedTwice : Store :=
  ((ofTables.handle (.rolesGranted [visitor, visitor] ⟨.group, "alice"⟩)).run
    Store.perform withVisited).2

/-- The lodger comes to one item only, as the second object has written over what the first had. It
is given back, and so is what the visitor was granted twice. -/
theorem rolesRevoked_undoes_lodger :
    (withLodger.policies.map (fun e => e.2.allowItems.map Item.users)
          = [[["{OWNER}", "alice"], ["{OWNER}", "alice", "bob"]]]
        ∧ ∃ u, (ofOwners.handle (.rolesRevoked [lodger] ⟨.user, "bob"⟩)).run
            Store.perform withLodger = (.ok true, u)
          ∧ u.policies = withBrowser.policies)
      ∧ ∃ r u, withVisited.role? visitor.name = some r
        ∧ (ofTables.handle (.rolesRevoked [visitor, visitor] ⟨.group, "alice"⟩)).run
            Store.perform withVisitedTwice = (.ok true, u)
        ∧ u.role? visitor.name = some r := by
  have hbob : ofOwners.Absent withBrowser ⟨.user, "bob"⟩ [lodger] := by
    have hallow : ∀ e ∈ withBrowser.policies, ∀ i ∈ e.2.items .allow, "bob" ∉ i.users := by
      decide +kernel
    have hdeny : ∀ e ∈ withBrowser.policies, ∀ i ∈ e.2.items .deny, "bob" ∉ i.users := by
      decide +kernel
    intro e he effect i hi _
    cases effect with
    | allow => exact hallow e he i hi
    | deny => exact hdeny e he i hi
  have halice : ofTables.Absent withVisited ⟨.group, "alice"⟩ [visitor, visitor] := by
    have hgroups : ∀ role ∈ [visitor, visitor], ∀ r ∈ withVisited.role? role.name,
        "alice" ∉ r.names .group := by decide +kernel
    exact hgroups
  have hvisited : withVisited.Built := ((withAuditor_reached.handle _).handle _).sound.built
  refine ⟨⟨by decide +kernel, ?_⟩, ?_⟩
  · obtain ⟨u, hrevoked, hpolicies, _⟩ :=
      rolesRevoked_undoes withBrowser_built hbob (Plan.run_eq_ok (by decide +kernel))
    exact ⟨u, hrevoked, hpolicies⟩
  · obtain ⟨u, hrevoked, _, hroles⟩ :=
      rolesRevoked_undoes hvisited halice (Plan.run_eq_ok (by decide +kernel))
    have hthere : (withVisited.role? visitor.name).isSome = true := by decide +kernel
    obtain ⟨r, hr⟩ := Option.isSome_iff_exists.mp hthere
    exact ⟨r, u, hr, hrevoked, hroles _ r hr⟩

end Keeper

end PolicyKeeper
