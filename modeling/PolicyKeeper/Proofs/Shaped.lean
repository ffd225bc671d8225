import Mathlib.Data.List.Nodup
import PolicyKeeper.Policy.Grant
import PolicyKeeper.Policy.Ownership
import PolicyKeeper.Policy.Shape

/-!
# Edits keep the shape

A list of items is well shaped if each item is for one access and no two items have the same access
and the same kind of holder, that is, the same key. `checkShape` accepts just the policies all of
whose lists are. The edits keep this because of what they do to keys: they change items without
touching the key, drop some, and add only items whose key is not there yet.
-/

namespace PolicyKeeper

/-- What tells an item from the others of its list: whether it is an owner's, and its access. -/
def Item.key (i : Item) : Bool × Option String := (i.isOwner, i.access?)

/-- Each item is for one access, and no two have one key. -/
structure Shaped (items : List Item) : Prop where
  single : ∀ i ∈ items, i.access?.isSome = true
  apart : (items.map Item.key).Nodup

/-- All lists of the policy are well shaped. -/
def Policy.Shapely (p : Policy) : Prop := ∀ l ∈ p.itemLists, Shaped l.2

theorem shaped_nil : Shaped [] := ⟨fun _ hi => absurd hi List.not_mem_nil, List.nodup_nil⟩

theorem shaped_cons {i : Item} {items : List Item} : Shaped (i :: items)
    ↔ i.access?.isSome = true ∧ i.key ∉ items.map Item.key ∧ Shaped items := by
  refine ⟨?_, ?_⟩
  · intro h
    have hapart := List.nodup_cons.mp h.apart
    exact ⟨h.single i List.mem_cons_self, hapart.1,
      fun j hj => h.single j (List.mem_cons_of_mem _ hj), hapart.2⟩
  · intro h
    obtain ⟨hi, hnot, h⟩ := h
    refine ⟨fun j hj => ?_, List.nodup_cons.mpr ⟨hnot, h.apart⟩⟩
    rcases List.mem_cons.mp hj with rfl | hj
    · exact hi
    · exact h.single j hj

/-- Items whose keys are among well shaped ones, each no more often, are well shaped. -/
theorem Shaped.of_sublist {items items' : List Item} (h : Shaped items)
    (hsub : (items'.map Item.key).Sublist (items.map Item.key)) : Shaped items' := by
  refine ⟨fun i hi => ?_, h.apart.sublist hsub⟩
  obtain ⟨j, hj, hkey⟩ := List.mem_map.mp (hsub.subset (List.mem_map_of_mem hi))
  have haccess : j.access? = i.access? := congrArg Prod.snd hkey
  rw [← haccess]
  exact h.single j hj

theorem Shaped.map {items : List Item} (h : Shaped items) {f : Item → Item}
    (hf : ∀ i, (f i).key = i.key) : Shaped (items.map f) := by
  have hkeys : (items.map f).map Item.key = items.map Item.key := by
    rw [List.map_map]
    exact List.map_congr_left fun i _ => hf i
  exact h.of_sublist (hkeys ▸ List.Sublist.refl _)

/-! ## What the check accepts -/

theorem checkItem_eq_ok_iff {list : String} {seen seen' : List (Bool × String)} {i : Item} :
    Policy.checkItem list seen i = .ok seen'
      ↔ ∃ a, i.access? = some a ∧ (i.isOwner, a) ∉ seen ∧ seen' = (i.isOwner, a) :: seen := by
  unfold Policy.checkItem
  cases i.access? with
  | none => simp
  | some a =>
      by_cases hseen : (i.isOwner, a) ∈ seen
      · simp [hseen]
      · simp [hseen, eq_comm]

/-- The check goes through if the items are well shaped and have no key of those seen before. -/
theorem foldlM_checkItem {list : String} {items : List Item} {seen : List (Bool × String)} :
    (∃ seen', items.foldlM (Policy.checkItem list) seen = .ok seen')
      ↔ Shaped items ∧ ∀ i ∈ items, ∀ x ∈ seen, i.key ≠ (x.1, some x.2) := by
  -- each item puts its key among those seen, so the rest must avoid it too
  induction items generalizing seen with
  | nil =>
      refine ⟨fun _ => ⟨shaped_nil, fun i hi => ?_⟩, fun _ => ⟨seen, rfl⟩⟩
      exact absurd hi List.not_mem_nil
  | cons i items ih =>
      rw [List.foldlM_cons, shaped_cons, List.forall_mem_cons]
      cases hi : Policy.checkItem list seen i with
      | error flaw =>
          refine ⟨?_, ?_⟩
          · intro h
            obtain ⟨_, h⟩ := h
            exact absurd h (by simp [bind, Except.bind])
          · intro h
            obtain ⟨⟨hsome, _, _⟩, hseen, _⟩ := h
            obtain ⟨a, ha⟩ := Option.isSome_iff_exists.mp hsome
            have hnot : (i.isOwner, a) ∉ seen := by
              intro hmem
              refine hseen _ hmem ?_
              rw [Item.key, ha]
            have hok : Policy.checkItem list seen i = .ok ((i.isOwner, a) :: seen) :=
              checkItem_eq_ok_iff.mpr ⟨a, ha, hnot, rfl⟩
            rw [hi] at hok
            exact absurd hok (by simp)
      | ok seen' =>
          obtain ⟨a, ha, hnot, rfl⟩ := checkItem_eq_ok_iff.mp hi
          have hkey : i.key = (i.isOwner, some a) := by rw [Item.key, ha]
          show (∃ seen', items.foldlM (Policy.checkItem list) ((i.isOwner, a) :: seen)
            = Except.ok seen') ↔ _
          rw [ih, hkey, ha]
          refine ⟨?_, ?_⟩
          · intro h
            obtain ⟨hshaped, hall⟩ := h
            refine ⟨⟨rfl, fun hmem => ?_, hshaped⟩, fun x hx heq => ?_, fun j hj x hx => ?_⟩
            · obtain ⟨j, hj, hjkey⟩ := List.mem_map.mp hmem
              exact hall j hj _ List.mem_cons_self hjkey
            · obtain ⟨howner, haccess⟩ := Prod.mk.inj heq
              cases haccess
              exact hnot (howner ▸ hx)
            · exact hall j hj x (List.mem_cons_of_mem _ hx)
          · intro h
            obtain ⟨⟨_, hfirst, hshaped⟩, _, hrest⟩ := h
            refine ⟨hshaped, fun j hj x hx heq => ?_⟩
            rcases List.mem_cons.mp hx with rfl | hx
            · exact hfirst (List.mem_map.mpr ⟨j, hj, heq⟩)
            · exact hrest j hj x hx heq

theorem checkItems_eq_ok_iff {list : String} {items : List Item} :
    Policy.checkItems list items = .ok () ↔ Shaped items := by
  have hfold := @foldlM_checkItem list items []
  rw [and_iff_left fun i _ x hx => absurd hx List.not_mem_nil] at hfold
  rw [← hfold, Policy.checkItems]
  cases items.foldlM (Policy.checkItem list) [] with
  | error flaw => simp [Except.map]
  | ok seen => simp [Except.map]

theorem forM_eq_ok_iff {α ε : Type} {f : α → Except ε Unit} {xs : List α} :
    xs.forM f = .ok () ↔ ∀ x ∈ xs, f x = .ok () := by
  induction xs with
  | nil => exact ⟨fun _ x hx => absurd hx List.not_mem_nil, fun _ => rfl⟩
  | cons x xs ih =>
      rw [List.forall_mem_cons, ← ih]
      show (f x >>= fun _ => xs.forM f) = .ok () ↔ _
      cases f x with
      | error e => simp [bind, Except.bind]
      | ok u => simp [bind, Except.bind]

/-- **The check accepts the well shaped policies.** -/
theorem checkShape_eq_ok_iff {p : Policy} : p.checkShape = .ok () ↔ p.Shapely := by
  have hlists : (p.itemLists.forM fun l => Policy.checkItems l.1 l.2) = .ok () ↔ p.Shapely :=
    forM_eq_ok_iff.trans (forall_congr' fun l => forall_congr' fun _ => checkItems_eq_ok_iff)
  rw [← hlists, Policy.checkShape]
  cases p.itemLists.forM fun l => Policy.checkItems l.1 l.2 with
  | error flaw => simp
  | ok u => simp

theorem Policy.shapely_managed (service name : String) (path : Fields String) :
    (Policy.managed service name path).Shapely := by
  have hnil : ∀ l ∈ (Policy.managed service name path).itemLists, l.2 = [] := by
    simp [Policy.managed, Policy.itemLists]
  intro l hl
  rw [hnil l hl]
  exact shaped_nil

/-! ## Items with new keys -/

/-- Items whose keys are those of well shaped ones and some more, all new and different. -/
theorem Shaped.of_append {items items' : List Item} {more : List (Bool × Option String)}
    (h : Shaped items) (hkeys : items'.map Item.key = items.map Item.key ++ more)
    (hmore : ∀ x ∈ more, x.2.isSome = true ∧ x ∉ items.map Item.key) (hnodup : more.Nodup) :
    Shaped items' := by
  refine ⟨?_, ?_⟩
  · intro i hi
    have hmem : i.key ∈ items'.map Item.key := List.mem_map_of_mem hi
    rw [hkeys] at hmem
    rcases List.mem_append.mp hmem with hmem | hmem
    · obtain ⟨j, hj, hkey⟩ := List.mem_map.mp hmem
      have haccess : j.access? = i.access? := congrArg Prod.snd hkey
      rw [← haccess]
      exact h.single j hj
    · exact (hmore _ hmem).1
  · rw [hkeys]
    refine List.nodup_append.mpr ⟨h.apart, hnodup, fun x hx y hy heq => ?_⟩
    exact (hmore y hy).2 (heq ▸ hx)

/-! ## Granting and revoking -/

namespace Holder

variable {h : Holder} {a : String} {i j : Item} {items : List Item}

theorem enter_key : (h.enter i).key = i.key := by
  cases h with
  | placeholder => rfl
  | role name =>
      unfold enter
      dsimp only
      split
      · rfl
      · rfl

theorem newItem_key : (h.newItem a).key = (false, some a) := by
  cases h <;> rfl

theorem grantsAccess_iff_key : grantsAccess a i = true ↔ i.key = (false, some a) := by
  unfold grantsAccess
  rw [Bool.and_eq_true, Bool.not_eq_true', beq_iff_eq, Item.key, Prod.mk.injEq]

/-- Granting adds the key of the access if it is not there. -/
theorem grantAccess_keys : (h.grantAccess a items).map Item.key = items.map Item.key
    ∨ (false, some a) ∉ items.map Item.key
      ∧ (h.grantAccess a items).map Item.key = items.map Item.key ++ [(false, some a)] := by
  induction items with
  | nil =>
      refine Or.inr ⟨List.not_mem_nil, ?_⟩
      rw [grantAccess, List.map_singleton, newItem_key]
      rfl
  | cons i items ih =>
      rw [grantAccess]
      split
      · rw [List.map_cons, enter_key]
        exact Or.inl rfl
      · rename_i hnot
        rw [List.map_cons, List.map_cons]
        rcases ih with hsame | ⟨hnew, hkeys⟩
        · exact Or.inl (congrArg (i.key :: ·) hsame)
        · refine Or.inr ⟨fun hmem => ?_, congrArg (i.key :: ·) hkeys⟩
          rcases List.mem_cons.mp hmem with heq | hmem
          · exact hnot (grantsAccess_iff_key.mpr heq.symm)
          · exact hnew hmem

theorem shaped_grantAccess (hs : Shaped items) : Shaped (h.grantAccess a items) := by
  rcases @grantAccess_keys h a items with hsame | ⟨hnew, hkeys⟩
  · exact hs.of_sublist (hsame ▸ List.Sublist.refl _)
  · refine hs.of_append hkeys (fun x hx => ?_) (List.nodup_singleton _)
    rw [List.mem_singleton.mp hx]
    exact ⟨rfl, hnew⟩

theorem shaped_grant {accesses : List String} (hs : Shaped items) :
    Shaped (h.grant accesses items) := by
  unfold grant
  induction accesses generalizing items with
  | nil => exact hs
  | cons a accesses ih => exact ih (shaped_grantAccess hs)

theorem leave_key (hleave : h.leave i = some j) : j.key = i.key := by
  cases h with
  | placeholder => exact absurd hleave (by simp [leave])
  | role name =>
      unfold leave at hleave
      dsimp only at hleave
      split at hleave
      · exact absurd hleave (by simp)
      · cases hleave
        rfl

theorem revokeItem_key {accesses : List String} (hrevoke : h.revokeItem accesses i = some j) :
    j.key = i.key := by
  unfold revokeItem at hrevoke
  split at hrevoke
  · exact leave_key hrevoke
  · cases hrevoke
    rfl

theorem shaped_revoke {accesses : List String} (hs : Shaped items) :
    Shaped (h.revoke accesses items) := by
  refine hs.of_sublist ?_
  unfold revoke
  induction items with
  | nil => exact List.Sublist.refl _
  | cons i items ih =>
      have hrest := ih (shaped_cons.mp hs).2.2
      cases hi : h.revokeItem accesses i with
      | none =>
          rw [List.filterMap_cons_none hi]
          exact hrest.cons _
      | some j =>
          rw [List.filterMap_cons_some hi, List.map_cons, revokeItem_key hi]
          exact hrest.cons_cons _

end Holder

/-! ## Owners and principals -/

namespace Item

variable {i : Item} {who : Principal}

theorem setMembers_key (kind : PrincipalKind) (names : List String) :
    (i.setMembers kind names).key = i.key := by
  cases kind <;> rfl

theorem attach_key : (i.attach who).key = i.key := by
  unfold attach
  dsimp only
  split
  · rfl
  · exact setMembers_key _ _

theorem detach_key : (i.detach who).key = i.key := setMembers_key _ _

theorem handOver_key {previous : Option Principal} {new : Principal} :
    (i.handOver previous new).key = i.key := by
  unfold handOver
  rw [attach_key, detach_key]
  cases previous with
  | none => rfl
  | some owner => exact detach_key

theorem ite_key {c : Prop} [Decidable c] {f : Item → Item} (hf : ∀ i, (f i).key = i.key) :
    (if c then f i else i).key = i.key := by
  split
  · exact hf i
  · rfl

theorem isOwnerOf_iff_key {a : String} : i.isOwnerOf [a] = true ↔ i.key = (true, some a) := by
  unfold isOwnerOf key
  rw [Bool.and_eq_true, Prod.mk.injEq]
  refine and_congr_right fun _ => ?_
  cases i.access? with
  | none => simp
  | some b => simp

end Item

namespace Policy

variable {p : Policy}

theorem Shapely.allow (h : p.Shapely) : Shaped p.allowItems :=
  h ("policyItems", _) List.mem_cons_self

theorem Shapely.deny (h : p.Shapely) : Shaped p.denyItems :=
  h ("denyPolicyItems", _) (List.mem_cons_of_mem _ List.mem_cons_self)

theorem Shapely.items (h : p.Shapely) (effect : Effect) : Shaped (p.items effect) := by
  cases effect with
  | allow => exact h.allow
  | deny => exact h.deny

/-- New items that allow or deny do not spoil the other lists. -/
theorem Shapely.withItems (h : p.Shapely) {allow deny : List Item} (hallow : Shaped allow)
    (hdeny : Shaped deny) : { p with allowItems := allow, denyItems := deny }.Shapely := by
  intro l hl
  rcases List.mem_cons.mp hl with rfl | hl
  · exact hallow
  rcases List.mem_cons.mp hl with rfl | hl
  · exact hdeny
  exact h l (List.mem_cons_of_mem _ (List.mem_cons_of_mem _ hl))

theorem Shapely.grant (hp : p.Shapely) (h : Holder) (accesses : Effect → List String) :
    (p.grant h accesses).Shapely :=
  hp.withItems (Holder.shaped_grant hp.allow) (Holder.shaped_grant hp.deny)

theorem Shapely.revoke (hp : p.Shapely) (h : Holder) (accesses : Effect → List String) :
    (p.revoke h accesses).Shapely :=
  hp.withItems (Holder.shaped_revoke hp.allow) (Holder.shaped_revoke hp.deny)

theorem Shapely.mapPlaceholderItems (hp : p.Shapely) (accesses : Effect → List String)
    {f : Item → Item} (hf : ∀ i, (f i).key = i.key) :
    (p.mapPlaceholderItems accesses f).Shapely :=
  hp.withItems (hp.allow.map fun _ => Item.ite_key hf) (hp.deny.map fun _ => Item.ite_key hf)

/-- The owner items that are missing get keys of their own. -/
theorem Shapely.handOver (hp : p.Shapely) {accesses : List String} (hnodup : accesses.Nodup)
    (previous : Option Principal) (new : Principal) :
    (p.handOver accesses previous new).Shapely := by
  -- missing is what no item has as an owner's key, so the new keys are new
  let missing := accesses.filter fun a => !p.allowItems.any fun i => i.isOwnerOf [a]
  have hkeys : (p.handOver accesses previous new).allowItems.map Item.key
      = p.allowItems.map Item.key ++ missing.map fun a => (true, some a) := by
    show List.map Item.key (_ ++ _) = _
    rw [List.map_append, List.map_map, List.map_map]
    refine congrArg₂ (· ++ ·) (List.map_congr_left fun _ _ => ?_) ?_
    · exact Item.ite_key fun _ => Item.handOver_key
    · exact List.map_congr_left fun a _ => Item.attach_key
  have hallow : Shaped (p.handOver accesses previous new).allowItems := by
    refine hp.allow.of_append hkeys (fun x hx => ?_) ?_
    · obtain ⟨a, ha, rfl⟩ := List.mem_map.mp hx
      refine ⟨rfl, fun hmem => ?_⟩
      obtain ⟨i, hi, hkey⟩ := List.mem_map.mp hmem
      have hnone := (List.mem_filter.mp ha).2
      rw [Bool.not_eq_true', List.any_eq_false] at hnone
      exact hnone i hi (Item.isOwnerOf_iff_key.mpr hkey)
    · refine List.Nodup.map (fun a b hab => ?_) (hnodup.filter _)
      exact Option.some.inj (Prod.mk.inj hab).2
  exact hp.withItems hallow hp.deny

end Policy

end PolicyKeeper
