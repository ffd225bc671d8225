import PolicyKeeper.Proofs.Listing
import PolicyKeeper.Proofs.Settling

/-!
# Without a role

A role is taken out of every item that it is in as a role. An item that had nobody else in it goes,
and so does a policy that is left without items. What remains of the policies is the store without
the role (`Store.without`): what everybody else has from it.

A change of the role makes no difference to that. What is granted is in an item that the role is
taken out of again, and what is revoked would have gone anyway. This needs that every item of roles
has a role in it (`Item.Manned`), since an empty item that the role enters would go with it. The
keeper makes no such items.
-/

namespace PolicyKeeper

/-- An item that is no owner's has a role in it. -/
def Item.Manned (i : Item) : Prop := i.isOwner = false → i.roles ≠ []

/-- All items of the policy are manned. -/
def Policy.Manned (p : Policy) : Prop := ∀ effect, ∀ i ∈ p.items effect, i.Manned

namespace Holder

variable {h : Holder} {name access : String} {i j : Item} {items : List Item}
  {accesses : List String}

/-- What is left of an item when the holder is out of it. -/
def expelItem (h : Holder) (i : Item) : Option Item := if h.holds i then h.leave i else some i

/-- What is left of the items. -/
def expel (h : Holder) (items : List Item) : List Item := items.filterMap h.expelItem

theorem expelItem_of_not_holds (hnot : h.holds i = false) : h.expelItem i = some i := by
  rw [expelItem, hnot]
  rfl

/-! ## Manned items -/

theorem manned_enter : ((role name).enter i).Manned := by
  intro _
  unfold enter
  dsimp only
  split
  · rename_i hin
    exact List.ne_nil_of_mem (List.contains_iff_mem.mp hin)
  · exact List.append_ne_nil_of_right_ne_nil _ (List.cons_ne_nil _ _)

theorem manned_leave (hleave : (role name).leave i = some j) : j.Manned := by
  intro _
  unfold leave at hleave
  dsimp only at hleave
  split at hleave
  · exact absurd hleave (by simp)
  · rename_i hsome
    cases hleave
    exact fun hnil => hsome (List.isEmpty_iff.mpr hnil)

theorem manned_grantAccess (hitems : ∀ i ∈ items, i.Manned) :
    ∀ i ∈ (role name).grantAccess access items, i.Manned := by
  induction items with
  | nil =>
      intro i hi _
      rw [List.mem_singleton.mp hi]
      exact List.cons_ne_nil _ _
  | cons j items ih =>
      obtain ⟨hj, hrest⟩ := List.forall_mem_cons.mp hitems
      rw [grantAccess]
      split
      · exact List.forall_mem_cons.mpr ⟨manned_enter, hrest⟩
      · exact List.forall_mem_cons.mpr ⟨hj, ih hrest⟩

theorem manned_grant (hitems : ∀ i ∈ items, i.Manned) :
    ∀ i ∈ (role name).grant accesses items, i.Manned := by
  unfold grant
  induction accesses generalizing items with
  | nil => exact hitems
  | cons a accesses ih => exact ih (manned_grantAccess hitems)

theorem manned_revoke (hitems : ∀ i ∈ items, i.Manned) :
    ∀ i ∈ (role name).revoke accesses items, i.Manned := by
  intro j hj
  obtain ⟨i, hi, hrevoke⟩ := List.mem_filterMap.mp hj
  unfold revokeItem at hrevoke
  split at hrevoke
  · exact manned_leave hrevoke
  · cases hrevoke
    exact hitems _ hi

/-! ## Granting and revoking leave no trace -/

/-- Who is out of an item for some accesses is out of it, and who is not is taken out now. -/
theorem expel_revoke : h.expel (h.revoke accesses items) = h.expel items := by
  unfold expel revoke
  rw [List.filterMap_filterMap]
  refine List.filterMap_congr fun i _ => ?_
  unfold revokeItem
  split
  · rename_i hc
    rw [Bool.and_eq_true] at hc
    -- the holder is out of what is left, so nothing more is taken from it
    have hexpel : h.expelItem i = h.leave i := if_pos hc.2
    rw [hexpel]
    cases hleave : h.leave i with
    | none => rfl
    | some j => exact expelItem_of_not_holds (holds_of_leave hleave)
  · rfl

theorem expelItem_enter (hi : grantsAccess access i = true) (hmanned : i.Manned) :
    (role name).expelItem ((role name).enter i) = (role name).expelItem i := by
  have howner : i.isOwner = false := (grantsAccess_iff.mp hi).1
  unfold enter
  dsimp only
  split
  · rfl
  · rename_i hnot
    have hnotin : name ∉ i.roles := fun hin => hnot (List.contains_iff_mem.mpr hin)
    have hholds : (role name).holds i = false := by
      show (!i.isOwner && i.roles.contains name) = false
      rw [Bool.eq_false_iff.mpr hnot, Bool.and_false]
    have hentered : (role name).holds { i with roles := i.roles ++ [name] } = true := by
      show (!i.isOwner && (i.roles ++ [name]).contains name) = true
      rw [howner, List.contains_iff_mem.mpr
        (List.mem_append_right _ (List.mem_singleton_self name))]
      rfl
    -- the role came in last, and the others are left, of which there is one at least
    have hroles : (i.roles ++ [name]).filter (· != name) = i.roles := by
      have hothers : ∀ r ∈ i.roles, (r != name) = true :=
        fun r hr => bne_iff_ne.mpr fun heq => hnotin (heq ▸ hr)
      have hname : [name].filter (· != name) = [] := by simp
      rw [List.filter_append, List.filter_eq_self.mpr hothers, hname, List.append_nil]
    have hempty : i.roles.isEmpty = false :=
      Bool.eq_false_iff.mpr fun h => hmanned howner (List.isEmpty_iff.mp h)
    rw [expelItem_of_not_holds hholds, expelItem, if_pos hentered]
    show (if ((i.roles ++ [name]).filter (· != name)).isEmpty then none
      else some { i with roles := (i.roles ++ [name]).filter (· != name) }) = some i
    rw [hroles, hempty]
    rfl

theorem expel_grantAccess (hitems : ∀ i ∈ items, i.Manned) :
    (role name).expel ((role name).grantAccess access items) = (role name).expel items := by
  induction items with
  | nil =>
      have hholds : (role name).holds ((role name).newItem access) = true :=
        List.contains_iff_mem.mpr (List.mem_singleton_self name)
      have hnew : (role name).expelItem ((role name).newItem access) = none := by
        rw [expelItem, if_pos hholds]
        show (if ([name].filter (· != name)).isEmpty then none else _) = none
        simp
      exact List.filterMap_cons_none hnew
  | cons i items ih =>
      obtain ⟨hi, hrest⟩ := List.forall_mem_cons.mp hitems
      rw [grantAccess]
      split
      · rename_i hgrants
        rw [expel, expel, List.filterMap_cons, List.filterMap_cons, expelItem_enter hgrants hi]
      · have ih := ih hrest
        rw [expel, expel] at ih ⊢
        rw [List.filterMap_cons, List.filterMap_cons, ih]

/-- Who enters manned items is taken out of them again. -/
theorem expel_grant (hitems : ∀ i ∈ items, i.Manned) :
    (role name).expel ((role name).grant accesses items) = (role name).expel items := by
  unfold grant
  induction accesses generalizing items with
  | nil => rfl
  | cons a accesses ih =>
      rw [List.foldl_cons, ih (manned_grantAccess hitems), expel_grantAccess hitems]

end Holder

/-! ## Policies -/

namespace Policy

variable {p q : Policy} {h : Holder} {name : String}

/-- What is left of a policy. -/
def expel (h : Holder) (p : Policy) : Policy := p.mapItems fun _ => h.expel

theorem items_expel (effect : Effect) : (p.expel h).items effect = h.expel (p.items effect) := by
  cases effect <;> rfl

theorem manned_of_hasNoItems (hni : p.hasNoItems = true) : p.Manned := by
  intro effect i hi
  rw [items_of_hasNoItems hni] at hi
  exact absurd hi List.not_mem_nil

/-- Out of a policy in which the holder holds nothing, nothing is taken. -/
theorem expel_eq_self (hnot : ∀ effect, ∀ i ∈ p.items effect, h.holds i = false) :
    p.expel h = p := by
  refine ext_items rfl fun effect => ?_
  rw [items_expel, Holder.expel,
    List.filterMap_congr fun i hi => Holder.expelItem_of_not_holds (hnot effect i hi),
    List.filterMap_some]

theorem expel_of_hasNoItems (hni : p.hasNoItems = true) : p.expel h = p := by
  refine expel_eq_self fun effect i hi => ?_
  rw [items_of_hasNoItems hni] at hi
  exact absurd hi List.not_mem_nil

end Policy

namespace Keeper

variable {k : Keeper} {role : Role} {change : RoleChange} {effect : Effect} {items : List Item}
  {p : Policy}

theorem holder_of_role (hmode : k.mode = .role) (role : Role) :
    k.holder role = .role role.name := by
  rw [holder, hmode]

theorem manned_editItems (hmode : k.mode = .role) (hitems : ∀ i ∈ items, i.Manned) :
    ∀ i ∈ k.editItems role change effect items, i.Manned := by
  unfold editItems
  rw [holder_of_role hmode]
  cases change with
  | add o => exact Holder.manned_grant hitems
  | remove o => exact Holder.manned_revoke hitems
  | replace old new => exact Holder.manned_grant (Holder.manned_revoke hitems)

theorem manned_edit (hmode : k.mode = .role) (hp : p.Manned) :
    (k.edit role change p).Manned := by
  intro effect
  rw [items_edit]
  exact manned_editItems hmode (hp effect)

theorem expel_editItems (hmode : k.mode = .role) (hitems : ∀ i ∈ items, i.Manned) :
    (Holder.role role.name).expel (k.editItems role change effect items)
      = (Holder.role role.name).expel items := by
  unfold editItems
  rw [holder_of_role hmode]
  cases change with
  | add o => exact Holder.expel_grant hitems
  | remove o => exact Holder.expel_revoke
  | replace old new =>
      exact (Holder.expel_grant (Holder.manned_revoke hitems)).trans Holder.expel_revoke

/-- **An edit for a role makes no difference to what is left without it.** -/
theorem expel_edit (hmode : k.mode = .role) (hp : p.Manned) :
    (k.edit role change p).expel (.role role.name) = p.expel (.role role.name) := by
  refine Policy.ext_items (k.edit_frame role change p) fun effect => ?_
  rw [Policy.items_expel, Policy.items_expel, items_edit, expel_editItems hmode (hp effect)]

end Keeper

/-! ## Stores -/

namespace Store

variable {s s' : Store} {name : String}

/-- What is left of one policy, if there are items left. -/
def entryWithout (name : String) (e : Int × Policy) : Option (Int × Policy) :=
  if (e.2.expel (.role name)).hasNoItems then none else some (e.1, e.2.expel (.role name))

/-- The policies without the role. -/
def without (name : String) (s : Store) : List (Int × Policy) :=
  s.policies.filterMap (entryWithout name)

/-- No item but an owner's has the role in it. -/
def Unlisted (name : String) (s : Store) : Prop :=
  ∀ e ∈ s.policies, ∀ effect, ∀ i ∈ e.2.items effect, i.isOwner = false → name ∉ i.roles

instance (name : String) (s : Store) : Decidable (s.Unlisted name) :=
  decidable_of_iff (∀ e ∈ s.policies, ∀ i ∈ e.2.items .allow ++ e.2.items .deny,
      i.isOwner = false → name ∉ i.roles) <| by
    refine forall_congr' fun e => forall_congr' fun _ => ⟨fun h effect i hi => ?_, fun h i hi => ?_⟩
    · cases effect with
      | allow => exact h i (List.mem_append_left _ hi)
      | deny => exact h i (List.mem_append_right _ hi)
    · exact (List.mem_append.mp hi).elim (h .allow i) (h .deny i)

theorem without_congr (h : s'.policies = s.policies) : s'.without name = s.without name := by
  rw [without, without, h]

/-- **Without a role that is in no item, everything is left.** -/
theorem without_eq_policies (hitems : ∀ e ∈ s.policies, e.2.hasNoItems = false)
    (hunlisted : s.Unlisted name) : s.without name = s.policies := by
  have hsame : ∀ e ∈ s.policies, entryWithout name e = some e := by
    intro e he
    have hexpel : e.2.expel (.role name) = e.2 := by
      refine Policy.expel_eq_self fun effect i hi => ?_
      show (!i.isOwner && i.roles.contains name) = false
      cases howner : i.isOwner with
      | true => rfl
      | false =>
          have hnot := hunlisted e he effect i hi howner
          exact Bool.eq_false_iff.mpr fun hin => hnot (List.contains_iff_mem.mp hin)
    rw [entryWithout, hexpel, hitems e he]
    rfl
  rw [without, List.filterMap_congr hsame, List.filterMap_some]

theorem without_deleted (hk : s.Keyed) {id : Int} {p : Policy} (hp : (id, p) ∈ s.policies)
    (hempty : (p.expel (.role name)).hasNoItems = true) :
    (s.deleted id).without name = s.without name := by
  show (s.policies.filter _).filterMap _ = s.policies.filterMap _
  rw [List.filterMap_filter]
  refine List.filterMap_congr fun e he => ?_
  by_cases hid : e.1 = id
  · -- what goes is not there without the role either
    have hsame : e = (id, p) := hk.eq_of_id he hp hid
    rw [if_neg (by simp [hid]), hsame, entryWithout, if_pos hempty]
  · rw [if_pos (bne_iff_ne.mpr hid)]

theorem without_updated (hk : s.Keyed) {id : Int} {p p' : Policy} (hp : (id, p) ∈ s.policies)
    (hid : p'.id = some id) (hexpel : p'.expel (.role name) = p.expel (.role name)) :
    (s.updated id p').without name = s.without name := by
  have hstored : stored id p' = p' := by rw [stored, ← hid]
  show (s.policies.map _).filterMap _ = s.policies.filterMap _
  rw [List.filterMap_map]
  refine List.filterMap_congr fun e he => ?_
  show entryWithout name (if e.1 = id then (id, stored id p') else e) = _
  split
  · rename_i heid
    have hsame : e = (id, p) := hk.eq_of_id he hp heid
    rw [hsame, hstored, entryWithout, entryWithout, hexpel]
  · rfl

theorem without_created {p : Policy} (hempty : (p.expel (.role name)).hasNoItems = true) :
    (s.created p).without name = s.without name := by
  have hentry : entryWithout name (s.nextId, stored s.nextId p) = none := if_pos hempty
  show (s.policies ++ [(s.nextId, stored s.nextId p)]).filterMap _ = _
  rw [List.filterMap_append, List.filterMap_cons_none hentry, List.filterMap_nil,
    List.append_nil]
  rfl

end Store

namespace Keeper

variable {k : Keeper} {s s' : Store} {role : Role} {change : RoleChange} {loc : Location}
  {p p' : Policy}

/-- Writing a policy back makes no difference if it makes none to the policy. -/
theorem Site.without_wroteBack (hk : s.Keyed) (h : k.Site s loc p) (hf : p'.frame = p.frame)
    {name : String} (hexpel : p'.expel (.role name) = p.expel (.role name)) :
    (s.wroteBack p').without name = s.without name := by
  have hid : p'.id = p.id := Policy.id_of_frame hf
  unfold Store.wroteBack
  cases h with
  | found only hp =>
      rw [hid, hp]
      cases hni : p'.hasNoItems with
      | true =>
          refine Store.without_deleted hk only.mem ?_
          rw [← hexpel, Policy.expel_of_hasNoItems hni, hni]
      | false => exact Store.without_updated hk only.mem (hid.trans hp) hexpel
  | fresh _ hp _ hitems =>
      rw [hid, hp]
      cases p'.hasNoItems with
      | true => rfl
      | false =>
          refine Store.without_created ?_
          rw [hexpel, Policy.expel_of_hasNoItems hitems, hitems]

/-- **A change of a role leaves the store without the role as it was.** -/
theorem Wrote.without_eq (hmode : k.mode = .role) (hk : s.Keyed)
    (hmanned : ∀ e ∈ s.policies, e.2.Manned) (h : k.Wrote role change s s') :
    s'.without role.name = s.without role.name := by
  obtain ⟨_, loc, p, _, hsite, _, hwrite⟩ := h
  rcases hwrite with ⟨_, rfl⟩ | rfl
  · rfl
  · have hp : p.Manned := by
      cases hsite with
      | found only _ => exact hmanned _ only.mem
      | fresh _ _ _ hitems =>
          -- a new policy has no items to begin with
          exact Policy.manned_of_hasNoItems hitems
    exact hsite.without_wroteBack hk (k.edit_frame role change p) (expel_edit hmode hp)

end Keeper

end PolicyKeeper
