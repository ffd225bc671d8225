import PolicyKeeper.Policy.Grant

/-!
# Who is listed

An item gives its access to the roles in it, unless it has several accesses or is an owner's. Seen
as pairs of an access and a role, the items of a list are edited as sets are: granting adds the
pairs of the role, revoking takes them away, and neither touches a pair of another role, although
roles share items and an item may hold a role twice.
-/

namespace PolicyKeeper

/-- The item is for this access alone, is no owner's, and has the role in it. -/
structure Item.Lists (i : Item) (access role : String) : Prop where
  owner : i.isOwner = false
  access : i.access? = some access
  role : role ∈ i.roles

/-- One of the items lists the role for the access. -/
def Listed (items : List Item) (access role : String) : Prop :=
  ∃ i ∈ items, i.Lists access role

theorem listed_cons {i : Item} {items : List Item} {access role : String} :
    Listed (i :: items) access role ↔ i.Lists access role ∨ Listed items access role := by
  refine ⟨?_, ?_⟩
  · intro h
    obtain ⟨j, hj, hl⟩ := h
    rcases List.mem_cons.mp hj with rfl | hj
    · exact Or.inl hl
    · exact Or.inr ⟨j, hj, hl⟩
  · intro h
    rcases h with hl | ⟨j, hj, hl⟩
    · exact ⟨i, List.mem_cons_self, hl⟩
    · exact ⟨j, List.mem_cons_of_mem _ hj, hl⟩

theorem not_listed_nil {access role : String} : ¬ Listed [] access role := by
  intro h
  obtain ⟨i, hi, _⟩ := h
  exact List.not_mem_nil hi

namespace Holder

variable {name access role a : String} {i : Item} {items : List Item}

/-! ## Granting -/

theorem grantsAccess_iff :
    grantsAccess access i = true ↔ i.isOwner = false ∧ i.access? = some access := by
  unfold grantsAccess
  rw [Bool.and_eq_true, Bool.not_eq_true', beq_iff_eq]

theorem newItem_lists :
    ((Holder.role name).newItem a).Lists access role ↔ access = a ∧ role = name := by
  refine ⟨?_, ?_⟩
  · intro h
    obtain ⟨_, haccess, hrole⟩ := h
    exact ⟨(Option.some.inj haccess).symm, List.mem_singleton.mp hrole⟩
  · intro h
    obtain ⟨rfl, rfl⟩ := h
    exact ⟨rfl, rfl, List.mem_singleton_self _⟩

/-- Entering an item adds the one pair of the role and the item's access. -/
theorem enter_lists (h : grantsAccess a i = true) :
    ((Holder.role name).enter i).Lists access role
      ↔ i.Lists access role ∨ (access = a ∧ role = name) := by
  obtain ⟨howner, haccess⟩ := grantsAccess_iff.mp h
  unfold enter
  dsimp only
  split
  · rename_i hin
    refine ⟨Or.inl, ?_⟩
    intro h
    rcases h with hl | ⟨rfl, rfl⟩
    · exact hl
    · exact ⟨howner, haccess, List.contains_iff_mem.mp hin⟩
  · refine ⟨?_, ?_⟩
    · intro h
      obtain ⟨_, ha, hr⟩ := h
      rcases List.mem_append.mp hr with hr | hr
      · exact Or.inl ⟨howner, ha, hr⟩
      · have hsame : some a = some access := haccess.symm.trans ha
        exact Or.inr ⟨(Option.some.inj hsame).symm, List.mem_singleton.mp hr⟩
    · intro h
      rcases h with hl | ⟨rfl, rfl⟩
      · exact ⟨hl.owner, hl.access, List.mem_append_left _ hl.role⟩
      · exact ⟨howner, haccess, List.mem_append_right _ (List.mem_singleton_self _)⟩

theorem listed_grantAccess :
    Listed ((Holder.role name).grantAccess a items) access role
      ↔ Listed items access role ∨ (access = a ∧ role = name) := by
  induction items with
  | nil =>
      rw [grantAccess, listed_cons, newItem_lists]
      refine ⟨?_, ?_⟩
      · intro h
        rcases h with h | h
        · exact Or.inr h
        · exact absurd h not_listed_nil
      · intro h
        rcases h with h | h
        · exact absurd h not_listed_nil
        · exact Or.inl h
  | cons i items ih =>
      rw [grantAccess]
      split
      · rename_i h
        rw [listed_cons, listed_cons, enter_lists h, or_right_comm]
      · rw [listed_cons, listed_cons, ih, or_assoc]

/-- **Granting adds the pairs of the role.** -/
theorem listed_grant {accesses : List String} :
    Listed ((Holder.role name).grant accesses items) access role
      ↔ Listed items access role ∨ (access ∈ accesses ∧ role = name) := by
  unfold grant
  induction accesses generalizing items with
  | nil =>
      rw [List.foldl_nil]
      exact ⟨Or.inl, fun h => h.resolve_right fun h' => List.not_mem_nil h'.1⟩
  | cons a accesses ih =>
      rw [List.foldl_cons, ih, listed_grantAccess, List.mem_cons, or_and_right, or_assoc]

/-! ## Revoking -/

/-- Leaving an item takes the role out of it, and no other. An item that goes had no other. -/
theorem leave_lists :
    (∃ j, (Holder.role name).leave i = some j ∧ j.Lists access role)
      ↔ i.Lists access role ∧ role ≠ name := by
  have hmem : role ∈ i.roles.filter (· != name) ↔ role ∈ i.roles ∧ role ≠ name := by
    rw [List.mem_filter, bne_iff_ne]
  unfold leave
  dsimp only
  split
  · rename_i hempty
    rw [List.isEmpty_iff.mp hempty] at hmem
    refine ⟨?_, ?_⟩
    · intro h
      obtain ⟨j, hj, _⟩ := h
      exact absurd hj (by simp)
    · intro h
      obtain ⟨hl, hne⟩ := h
      exact absurd (hmem.mpr ⟨hl.role, hne⟩) List.not_mem_nil
  · refine ⟨?_, ?_⟩
    · intro h
      obtain ⟨j, hj, hl⟩ := h
      cases hj
      obtain ⟨hrole, hne⟩ := hmem.mp hl.role
      exact ⟨⟨hl.owner, hl.access, hrole⟩, hne⟩
    · intro h
      obtain ⟨hl, hne⟩ := h
      exact ⟨_, rfl, hl.owner, hl.access, hmem.mpr ⟨hl.role, hne⟩⟩

theorem revokeItem_lists {accesses : List String} :
    (∃ j, (Holder.role name).revokeItem accesses i = some j ∧ j.Lists access role)
      ↔ i.Lists access role ∧ ¬ (access ∈ accesses ∧ role = name) := by
  unfold revokeItem
  split
  · rename_i hc
    rw [leave_lists]
    rw [Bool.and_eq_true] at hc
    refine and_congr_right fun hl => ?_
    -- the item is for one of the accesses, so all its pairs are
    have hin : access ∈ accesses := by
      have h := hc.1
      rw [hl.access] at h
      exact List.contains_iff_mem.mp h
    exact not_congr ⟨fun h => ⟨hin, h⟩, And.right⟩
  · rename_i hc
    refine ⟨?_, ?_⟩
    · intro h
      obtain ⟨j, hj, hl⟩ := h
      cases hj
      refine ⟨hl, fun ⟨hin, hrole⟩ => hc ?_⟩
      have hholds : (Holder.role name).holds i = true := by
        show (!i.isOwner && i.roles.contains name) = true
        rw [hl.owner, ← hrole, List.contains_iff_mem.mpr hl.role]
        rfl
      rw [hl.access, hholds, Bool.and_true]
      exact List.contains_iff_mem.mpr hin
    · intro h
      obtain ⟨hl, _⟩ := h
      exact ⟨i, rfl, hl⟩

/-- **Revoking takes away the pairs of the role**, and leaves those of all others. -/
theorem listed_revoke {accesses : List String} :
    Listed ((Holder.role name).revoke accesses items) access role
      ↔ Listed items access role ∧ ¬ (access ∈ accesses ∧ role = name) := by
  unfold revoke Listed
  refine ⟨?_, ?_⟩
  · intro h
    obtain ⟨j, hj, hl⟩ := h
    obtain ⟨i, hi, hr⟩ := List.mem_filterMap.mp hj
    obtain ⟨hli, hnot⟩ := revokeItem_lists.mp ⟨j, hr, hl⟩
    exact ⟨⟨i, hi, hli⟩, hnot⟩
  · intro h
    obtain ⟨⟨i, hi, hl⟩, hnot⟩ := h
    obtain ⟨j, hr, hlj⟩ := revokeItem_lists.mpr ⟨hl, hnot⟩
    exact ⟨j, List.mem_filterMap.mpr ⟨i, hi, hr⟩, hlj⟩

end Holder

end PolicyKeeper
