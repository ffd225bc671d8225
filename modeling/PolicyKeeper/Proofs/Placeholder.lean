import Mathlib.Logic.Basic
import PolicyKeeper.Policy.Ownership

/-!
# Beside the placeholder

A principal that holds something should stand beside the placeholder in the items for it. An item
lacks the principal if it should but does not (`Item.Lacks`). Attaching the principal to the
placeholder's items for some accesses leaves the lacks of all other accesses and no others, and it
is a change exactly if there was one to make good.
-/

namespace PolicyKeeper

/-- The item is a placeholder's for this access alone, is no owner's, and has not the principal in
it. -/
structure Item.Lacks (i : Item) (who : Principal) (access : String) : Prop where
  owner : i.isOwner = false
  access : i.access? = some access
  placeholder : placeholder ∈ i.users
  absent : who.name ∉ i.members who.kind

/-- One of the items lacks the principal for the access. -/
def Lacking (items : List Item) (who : Principal) (access : String) : Prop :=
  ∃ i ∈ items, i.Lacks who access

namespace Item

variable {i : Item} {who : Principal} {access : String} {accesses : List String}

theorem members_setMembers (kind : PrincipalKind) (names : List String) :
    (i.setMembers kind names).members kind = names := by
  cases kind <;> rfl

theorem mem_members_attach : who.name ∈ (i.attach who).members who.kind := by
  unfold attach
  dsimp only
  split
  · rename_i h
    exact List.contains_iff_mem.mp h
  · rw [members_setMembers]
    exact List.mem_append_right _ (List.mem_singleton_self _)

/-- Whoever is in the item already is not attached again. -/
theorem attach_eq_self_iff : i.attach who = i ↔ who.name ∈ i.members who.kind := by
  refine ⟨?_, ?_⟩
  · intro h
    rw [← h]
    exact mem_members_attach
  · intro h
    unfold attach
    dsimp only
    rw [if_pos (List.contains_iff_mem.mpr h)]

theorem isPlaceholderOf_iff : i.isPlaceholderOf accesses = true ↔
    (∃ a ∈ accesses, i.access? = some a) ∧ i.isOwner = false ∧ placeholder ∈ i.users := by
  unfold isPlaceholderOf
  rw [Bool.and_eq_true, Bool.and_eq_true, Bool.not_eq_true', List.contains_iff_mem]
  refine and_congr_left fun _ => ?_
  cases i.access? with
  | none => simp
  | some a => simp

/-- The item lacks the principal for one of the accesses if it is a placeholder's for one of them
and attaching makes a difference. -/
theorem lacks_some_iff : (∃ a ∈ accesses, i.Lacks who a)
    ↔ i.isPlaceholderOf accesses = true ∧ i.attach who ≠ i := by
  rw [isPlaceholderOf_iff, Ne, attach_eq_self_iff]
  refine ⟨?_, ?_⟩
  · intro h
    obtain ⟨a, ha, h⟩ := h
    exact ⟨⟨⟨a, ha, h.access⟩, h.owner, h.placeholder⟩, h.absent⟩
  · intro h
    obtain ⟨⟨⟨a, ha, haccess⟩, howner, hplace⟩, habsent⟩ := h
    exact ⟨a, ha, howner, haccess, hplace, habsent⟩

/-- The placeholder's items for the accesses take the principal in. -/
def serve (who : Principal) (accesses : List String) (i : Item) : Item :=
  if i.isPlaceholderOf accesses then i.attach who else i

theorem serve_lacks :
    (i.serve who accesses).Lacks who access ↔ i.Lacks who access ∧ access ∉ accesses := by
  unfold serve
  split
  · rename_i h
    obtain ⟨⟨a, ha, haccess⟩, _, _⟩ := isPlaceholderOf_iff.mp h
    refine ⟨?_, ?_⟩
    · intro hl
      exact absurd mem_members_attach hl.absent
    · intro h
      obtain ⟨hl, hnot⟩ := h
      rw [hl.access] at haccess
      cases haccess
      exact absurd ha hnot
  · rename_i h
    refine ⟨fun hl => ⟨hl, fun ha => h ?_⟩, And.left⟩
    exact isPlaceholderOf_iff.mpr ⟨⟨access, ha, hl.access⟩, hl.owner, hl.placeholder⟩

theorem serve_ne_self_iff : i.serve who accesses ≠ i ↔ ∃ a ∈ accesses, i.Lacks who a := by
  rw [lacks_some_iff]
  unfold serve
  split
  · rename_i h
    exact (and_iff_right h).symm
  · rename_i h
    exact ⟨fun hne => absurd rfl hne, fun hl => absurd hl.1 h⟩

end Item

theorem lacking_map_serve {items : List Item} {who : Principal} {access : String}
    {accesses : List String} : Lacking (items.map (Item.serve who accesses)) who access
      ↔ Lacking items who access ∧ access ∉ accesses := by
  refine ⟨?_, ?_⟩
  · intro h
    obtain ⟨_, hj, hl⟩ := h
    obtain ⟨i, hi, rfl⟩ := List.mem_map.mp hj
    obtain ⟨hli, hnot⟩ := Item.serve_lacks.mp hl
    exact ⟨⟨i, hi, hli⟩, hnot⟩
  · intro h
    obtain ⟨⟨i, hi, hl⟩, hnot⟩ := h
    exact ⟨_, List.mem_map_of_mem hi, Item.serve_lacks.mpr ⟨hl, hnot⟩⟩

theorem map_serve_ne_self_iff {items : List Item} {who : Principal} {accesses : List String} :
    items.map (Item.serve who accesses) ≠ items ↔ ∃ a ∈ accesses, Lacking items who a := by
  have hmap : items.map (Item.serve who accesses) = items
      ↔ ∀ i ∈ items, i.serve who accesses = i := by
    conv => lhs; rhs; rw [← List.map_id items]
    exact List.map_inj_left
  rw [Ne, hmap]
  refine ⟨?_, ?_⟩
  · intro h
    obtain ⟨i, hi, hne⟩ : ∃ i ∈ items, i.serve who accesses ≠ i := by
      simpa only [not_forall, exists_prop] using h
    obtain ⟨a, ha, hl⟩ := Item.serve_ne_self_iff.mp hne
    exact ⟨a, ha, i, hi, hl⟩
  · rintro ⟨a, ha, i, hi, hl⟩ hall
    exact Item.serve_ne_self_iff.mpr ⟨a, ha, hl⟩ (hall i hi)

namespace Policy

variable {p : Policy} {who : Principal} {accesses : Effect → List String}

/-- **Attaching to the placeholder's items makes good the lacks of the accesses**, and those
only. -/
theorem lacking_attach {effect : Effect} {access : String} :
    Lacking ((p.mapPlaceholderItems accesses (Item.attach who)).items effect) who access
      ↔ Lacking (p.items effect) who access ∧ access ∉ accesses effect := by
  cases effect with
  | allow => exact lacking_map_serve
  | deny => exact lacking_map_serve

/-- It is a change exactly if there is something to make good. -/
theorem attach_ne_self_iff : p.mapPlaceholderItems accesses (Item.attach who) ≠ p
    ↔ ∃ effect, ∃ a ∈ accesses effect, Lacking (p.items effect) who a := by
  have hparts : p.mapPlaceholderItems accesses (Item.attach who) = p
      ↔ ∀ effect, (p.items effect).map (Item.serve who (accesses effect)) = p.items effect := by
    refine ⟨?_, ?_⟩
    · intro h effect
      cases effect with
      | allow => exact congrArg Policy.allowItems h
      | deny => exact congrArg Policy.denyItems h
    · intro h
      have hallow : p.allowItems.map (Item.serve who (accesses .allow)) = p.allowItems := h .allow
      have hdeny : p.denyItems.map (Item.serve who (accesses .deny)) = p.denyItems := h .deny
      show { p with allowItems := p.allowItems.map (Item.serve who (accesses .allow))
                    denyItems := p.denyItems.map (Item.serve who (accesses .deny)) } = p
      rw [hallow, hdeny]
  rw [Ne, hparts, not_forall]
  exact exists_congr fun effect => map_serve_ne_self_iff

theorem hasNoItems_attach :
    (p.mapPlaceholderItems accesses (Item.attach who)).hasNoItems = p.hasNoItems := by
  simp [hasNoItems, itemLists, mapPlaceholderItems]

end Policy

end PolicyKeeper
