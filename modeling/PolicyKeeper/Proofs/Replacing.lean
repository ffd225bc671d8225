import PolicyKeeper.Proofs.Holding
import PolicyKeeper.Proofs.Rights

/-!
# Replacing beside the placeholder

In owner-placeholder mode a principal holds an access by being attached to the placeholder's item
for it. When the entitlements on an object are replaced, the items of the old ones are taken away
first, with everyone in them, and those of the new ones are added after that. An access that stands
on both sides goes through both. So its item comes back with nobody in it but the placeholder, and
whoever was attached has to be attached again (`Keeper.attached_replaced`).

Only an item without the placeholder is passed over by both steps, and keeps everyone.
-/

namespace PolicyKeeper

/-- The placeholder, as a user. -/
def Principal.placeholder : Principal := ⟨.user, PolicyKeeper.placeholder⟩

namespace Holder

variable {a : String} {accesses : List String} {i : Item} {items : List Item}

/-! ## Revoking from the placeholder, and granting to it -/

theorem mem_revoke_placeholder :
    i ∈ placeholder.revoke accesses items ↔ i ∈ items ∧ i.isPlaceholderOf accesses = false := by
  have hitem : ∀ j : Item, placeholder.revokeItem accesses j
      = if j.isPlaceholderOf accesses then none else some j := fun _ => rfl
  unfold revoke
  rw [List.mem_filterMap]
  refine ⟨?_, ?_⟩
  · intro h
    obtain ⟨j, hj, hij⟩ := h
    rw [hitem] at hij
    split at hij
    · exact absurd hij (by simp)
    · rename_i hnot
      cases hij
      exact ⟨hj, Bool.eq_false_iff.mpr hnot⟩
  · intro h
    obtain ⟨hi, hnot⟩ := h
    refine ⟨i, hi, ?_⟩
    rw [hitem, if_neg (Bool.eq_false_iff.mp hnot)]

/-- An access that no item is for gets one; otherwise nothing happens. -/
theorem grantAccess_placeholder : placeholder.grantAccess a items
    = if items.any (grantsAccess a) then items else items ++ [placeholder.newItem a] := by
  induction items with
  | nil => rfl
  | cons j items ih =>
      rw [grantAccess, List.any_cons]
      by_cases hj : grantsAccess a j = true
      · rw [if_pos hj, hj, Bool.true_or]
        rfl
      · rw [if_neg hj, Bool.eq_false_iff.mpr hj, Bool.false_or, ih]
        split <;> rfl

theorem grantsAccess_newItem {b : String} :
    grantsAccess b (placeholder.newItem a) = true ↔ a = b := by
  rw [grantsAccess_iff]
  exact ⟨fun h => Option.some.inj h.2, fun h => ⟨rfl, congrArg some h⟩⟩

theorem mem_grant_placeholder : i ∈ placeholder.grant accesses items
    ↔ i ∈ items ∨ ∃ a ∈ accesses, (∀ j ∈ items, grantsAccess a j = false)
      ∧ i = placeholder.newItem a := by
  unfold grant
  induction accesses generalizing items with
  | nil => simp
  | cons a accesses ih =>
      rw [List.foldl_cons, ih, grantAccess_placeholder, List.exists_mem_cons_iff]
      by_cases hany : items.any (grantsAccess a) = true
      · -- the access has an item, so it adds none
        obtain ⟨j, hj, hgrants⟩ := List.any_eq_true.mp hany
        have hnone : ¬ ((∀ j ∈ items, grantsAccess a j = false) ∧ i = placeholder.newItem a) :=
          fun h => absurd hgrants (Bool.eq_false_iff.mp (h.1 j hj))
        rw [if_pos hany, or_iff_right hnone]
      · have hfree : ∀ j ∈ items, grantsAccess a j = false := fun j hj =>
          Bool.eq_false_iff.mpr fun hgrants => hany (List.any_eq_true.mpr ⟨j, hj, hgrants⟩)
        rw [if_neg hany, List.mem_append, List.mem_singleton, or_assoc]
        refine or_congr_right ?_
        -- a second item for the same access would not be added, and is the same item anyway
        refine ⟨?_, ?_⟩
        · intro h
          rcases h with rfl | ⟨b, hb, hnone, rfl⟩
          · exact Or.inl ⟨hfree, rfl⟩
          · exact Or.inr ⟨b, hb, fun j hj => hnone j (List.mem_append_left _ hj), rfl⟩
        · intro h
          rcases h with ⟨_, rfl⟩ | ⟨b, hb, hnone, rfl⟩
          · exact Or.inl rfl
          · by_cases hab : a = b
            · exact Or.inl (by rw [hab])
            · refine Or.inr ⟨b, hb, fun j hj => ?_, rfl⟩
              rcases List.mem_append.mp hj with hj | hj
              · exact hnone j hj
              · rw [List.mem_singleton.mp hj]
                exact Bool.eq_false_iff.mpr fun hgrants => hab (grantsAccess_newItem.mp hgrants)

/-- An item for an access on both sides was there without the placeholder, or is new and holds the
placeholder alone. -/
theorem mem_replaced {old new : List String} (hold : a ∈ old) (hnew : a ∈ new)
    (hgrants : grantsAccess a i = true) :
    i ∈ placeholder.grant new (placeholder.revoke old items)
      ↔ (i ∈ items ∧ PolicyKeeper.placeholder ∉ i.users)
        ∨ (i = placeholder.newItem a
          ∧ ∀ j ∈ items, grantsAccess a j = true → PolicyKeeper.placeholder ∈ j.users) := by
  have hrevoked : ∀ j : Item, grantsAccess a j = true →
      (j.isPlaceholderOf old = false ↔ PolicyKeeper.placeholder ∉ j.users) := by
    intro j hj
    obtain ⟨howner, haccess⟩ := grantsAccess_iff.mp hj
    rw [← Bool.not_eq_true, Item.isPlaceholderOf_iff]
    exact not_congr ⟨fun h => h.2.2, fun h => ⟨⟨a, hold, haccess⟩, howner, h⟩⟩
  rw [mem_grant_placeholder, mem_revoke_placeholder, hrevoked i hgrants]
  refine or_congr_right ⟨?_, ?_⟩
  · intro h
    obtain ⟨b, _, hnone, rfl⟩ := h
    obtain rfl := grantsAccess_newItem.mp hgrants
    refine ⟨rfl, fun j hj hjgrants => by_contra fun hnot => ?_⟩
    -- an item without the placeholder is not taken away, and would do for the access
    have hleft := mem_revoke_placeholder.mpr ⟨hj, (hrevoked j hjgrants).mpr hnot⟩
    exact absurd hjgrants (Bool.eq_false_iff.mp (hnone j hleft))
  · intro h
    obtain ⟨rfl, hall⟩ := h
    refine ⟨a, hnew, fun j hj => Bool.eq_false_iff.mpr fun hjgrants => ?_, rfl⟩
    obtain ⟨hin, hnot⟩ := mem_revoke_placeholder.mp hj
    exact (hrevoked j hjgrants).mp hnot (hall j hin hjgrants)

end Holder

/-- Well shaped items have one item of roles for an access at most. -/
theorem Shaped.grants_unique {items : List Item} (h : Shaped items) {a : String} {i j : Item}
    (hi : i ∈ items) (hj : j ∈ items) (hia : Holder.grantsAccess a i = true)
    (hja : Holder.grantsAccess a j = true) : i = j := by
  refine List.inj_on_of_nodup_map h.apart hi hj ?_
  rw [Holder.grantsAccess_iff_key.mp hia, Holder.grantsAccess_iff_key.mp hja]

namespace Keeper

variable {k : Keeper} {s t : Store} {role : Role} {old new : Securable} {n : Need}

/-- The principal is in an item of roles for the access, in a managed policy at the location. -/
def Attached (k : Keeper) (s : Store) (n : Need) (who : Principal) : Prop :=
  ∃ i, k.HasItem s n.location n.effect i
    ∧ Holder.grantsAccess n.access i = true ∧ who.name ∈ i.members who.kind

theorem items_replaced (hmode : k.mode = .ownerPlaceholder) (p : Policy) (effect : Effect) :
    (k.edit role (.replace old new) p).items effect
      = Holder.placeholder.grant (k.accesses new effect)
        (Holder.placeholder.revoke (k.accesses old effect) (p.items effect)) := by
  rw [items_edit, editItems, holder, hmode]

theorem mem_members_newItem {a : String} {who : Principal} :
    who.name ∈ (Holder.placeholder.newItem a).members who.kind ↔ who = Principal.placeholder := by
  obtain ⟨kind, name⟩ := who
  cases kind with
  | user =>
      exact List.mem_singleton.trans ⟨congrArg (Principal.mk .user), congrArg Principal.name⟩
  | group =>
      refine ⟨fun h => absurd h List.not_mem_nil, fun h => ?_⟩
      exact absurd (congrArg Principal.kind h) (by simp [Principal.placeholder])

/-- What is attached for an access that is on both sides. -/
theorem attached_of_wrote (hmode : k.mode = .ownerPlaceholder) (hk : s.Keyed)
    (h : k.Wrote role (.replace old new) s t) (hold : n ∈ k.needsOf old)
    (hnew : n ∈ k.needsOf new) :
    (¬ k.Attached s n .placeholder → ∀ who, k.Attached s n who → k.Attached t n who)
      ∧ (k.Attached s n .placeholder → ∀ who, k.Attached t n who ↔ who = .placeholder) := by
  obtain ⟨loc, p, hloc, hsite, hshape, hafter⟩ := h.edited hk
  have hn : n.location = loc := hnew.1.unique hloc
  have hin : ∀ {o : Securable}, n ∈ k.needsOf o → n.access ∈ k.accesses o n.effect :=
    fun ho => ((covers_iff ho.1).mp ho).2
  have hthen : ∀ who, k.Attached t n who ↔
      ∃ i ∈ (k.edit role (.replace old new) p).items n.effect,
        Holder.grantsAccess n.access i = true ∧ who.name ∈ i.members who.kind :=
    fun who => exists_congr fun i => and_congr_left fun _ => hn ▸ hafter.here n.effect i
  have hbefore : ∀ who, k.Attached s n who ↔ ∃ i ∈ p.items n.effect,
      Holder.grantsAccess n.access i = true ∧ who.name ∈ i.members who.kind :=
    fun who => exists_congr fun i => and_congr_left fun _ => hn ▸ hsite.edited.here n.effect i
  have hmem : ∀ i, Holder.grantsAccess n.access i = true →
      (i ∈ (k.edit role (.replace old new) p).items n.effect
        ↔ (i ∈ p.items n.effect ∧ placeholder ∉ i.users)
          ∨ (i = Holder.placeholder.newItem n.access ∧ ∀ j ∈ p.items n.effect,
            Holder.grantsAccess n.access j = true → placeholder ∈ j.users)) := by
    intro i hgrants
    rw [items_replaced hmode]
    exact Holder.mem_replaced (hin hold) (hin hnew) hgrants
  refine ⟨?_, ?_⟩
  · intro hnone who hwho
    obtain ⟨i, hi, hgrants, hmember⟩ := (hbefore who).mp hwho
    have hnot : placeholder ∉ i.users :=
      fun hplace => hnone ((hbefore .placeholder).mpr ⟨i, hi, hgrants, hplace⟩)
    exact (hthen who).mpr ⟨i, (hmem i hgrants).mpr (Or.inl ⟨hi, hnot⟩), hgrants, hmember⟩
  · intro hplace who
    -- no other item is for the access, so the placeholder is in all that are
    obtain ⟨j, hj, hjgrants, hjplace⟩ := (hbefore .placeholder).mp hplace
    have hall : ∀ i ∈ p.items n.effect, Holder.grantsAccess n.access i = true →
        placeholder ∈ i.users := by
      intro i hi hgrants
      rwa [(hshape.items n.effect).grants_unique hi hj hgrants hjgrants]
    rw [hthen]
    refine ⟨?_, ?_⟩
    · intro h
      obtain ⟨i, hi, hgrants, hmember⟩ := h
      rcases (hmem i hgrants).mp hi with ⟨hi, hnot⟩ | ⟨rfl, _⟩
      · exact absurd (hall i hi hgrants) hnot
      · exact mem_members_newItem.mp hmember
    · rintro rfl
      have hgrants : Holder.grantsAccess n.access (Holder.placeholder.newItem n.access) = true :=
        Holder.grantsAccess_newItem.mpr rfl
      exact ⟨_, (hmem _ hgrants).mpr (Or.inr ⟨rfl, hall⟩), hgrants, mem_members_newItem.mpr rfl⟩

/-- **What a replacement keeps of those attached.** For an access that stands on both sides: whoever
was attached to its item stays attached if the placeholder is not in the item; if it is, nobody but
the placeholder is attached afterwards. So everyone stays exactly if the placeholder was not there,
or nobody else was. -/
theorem attached_replaced (hmode : k.mode = .ownerPlaceholder) (hs : s.Built)
    (hp : (RoleChange.replace old new).Proper) (hl : k.layout.Legible old.object)
    (hrun : (k.handle (.roleUpdated role [.replace old new])).run Store.perform s = (.ok true, t))
    (hold : n ∈ k.needsOf old) (hnew : n ∈ k.needsOf new) :
    (¬ k.Attached s n .placeholder → ∀ who, k.Attached s n who → k.Attached t n who)
      ∧ (k.Attached s n .placeholder → ∀ who, k.Attached t n who ↔ who = .placeholder)
      ∧ ((∀ who, k.Attached s n who → k.Attached t n who)
        ↔ (k.Attached s n .placeholder → ∀ who, k.Attached s n who → who = .placeholder)) := by
  have hplace : k.layout.Legible new.object := hp.same_object ▸ hl
  have hwrote : k.Wrote role (.replace old new) s t := wrote_of_roleUpdated hs.keyed hplace hrun
  obtain ⟨hkept, hlost⟩ := attached_of_wrote hmode hs.keyed hwrote hold hnew
  refine ⟨hkept, hlost, ?_, ?_⟩
  · intro h hat who hwho
    exact (hlost hat who).mp (h who hwho)
  · intro h who hwho
    by_cases hat : k.Attached s n .placeholder
    · exact (hlost hat who).mpr (h hat who hwho)
    · exact hkept hat who hwho

/-! ## A holder that is left behind -/

/-- Whether the principal is attached to an item of roles for an access at a path. -/
def attaches (k : Keeper) (s : Store) (path : Fields String) (effect : Effect) (access : String)
    (who : Principal) : Bool :=
  s.policies.any fun e => ((e.2.isManaged && e.2.isAt path) && e.2.service == k.service) &&
    (e.2.items effect).any fun i =>
      Holder.grantsAccess access i && (i.members who.kind).contains who.name

theorem attaches_iff {path : Fields String} {effect : Effect} {access : String}
    {who : Principal} : k.attaches s path effect access who = true
      ↔ k.Attached s ⟨path.get?, effect, access⟩ who := by
  unfold attaches
  rw [List.any_eq_true]
  refine ⟨?_, ?_⟩
  · intro h
    obtain ⟨e, he, h⟩ := h
    rw [Bool.and_eq_true, manages_iff, List.any_eq_true] at h
    obtain ⟨hm, i, hi, h⟩ := h
    rw [Bool.and_eq_true, List.contains_iff_mem] at h
    exact ⟨i, ⟨e, he, hm, hi⟩, h.1, h.2⟩
  · intro h
    obtain ⟨i, ⟨e, he, hm, hi⟩, hgrants, hmember⟩ := h
    refine ⟨e, he, ?_⟩
    rw [Bool.and_eq_true, manages_iff, List.any_eq_true]
    refine ⟨hm, i, hi, ?_⟩
    rw [Bool.and_eq_true, List.contains_iff_mem]
    exact ⟨hgrants, hmember⟩

/-- What a role may do with the schema at first, and what it keeps of that. -/
def browsing : Securable := schemaDb "cat" [.useSchema, .createTable]

def browsingLess : Securable := schemaDb "cat" [.useSchema]

def browser : Role := { name := "browser", securables := [browsing] }

/-- The store in which a user holds the role. -/
def withBrowser : Store :=
  let created := ((ofOwners.handle (.roleCreated browser)).run Store.perform {}).2
  ((ofOwners.handle (.rolesGranted [browser] ⟨.user, "alice"⟩)).run Store.perform created).2

theorem withBrowser_built : withBrowser.Built := (Store.Built.empty.run _).run _

/-- The store in which the role has lost one of its two privileges. -/
def withBrowserLess : Store :=
  ((ofOwners.handle (.roleUpdated browser [.replace browsing browsingLess])).run Store.perform
    withBrowser).2

theorem browser_updated :
    (ofOwners.handle (.roleUpdated browser [.replace browsing browsingLess])).run Store.perform
      withBrowser = (.ok true, withBrowserLess) :=
  Plan.run_eq_ok (by decide +kernel)

/-- Looking at the schema is allowed before and after. -/
def looking : Need := ⟨(Fields.ofPairs [("database", "db")]).get?, .allow, "select"⟩

theorem looking_needed {privileges : List Privilege} (h : Privilege.useSchema ∈ privileges) :
    looking ∈ ofOwners.needsOf (schemaDb "cat" privileges) := by
  have hloc : ofOwners.layout.Locates ⟨"cat" ++ ".db", .schema⟩ looking.location :=
    Layout.locates_of_toOption (by decide +kernel)
  exact ⟨hloc, ⟨.useSchema, .allow⟩, List.mem_map_of_mem h, rfl, by decide +kernel⟩

/-- **A replacement that goes well can leave a holder out**, though the access stands on both
sides. -/
theorem not_attached_browser :
    (ofOwners.handle (.roleUpdated browser [.replace browsing browsingLess])).run Store.perform
        withBrowser = (.ok true, withBrowserLess)
      ∧ looking ∈ ofOwners.needsOf browsing ∧ looking ∈ ofOwners.needsOf browsingLess
      ∧ ofOwners.Attached withBrowser looking ⟨.user, "alice"⟩
      ∧ ¬ ofOwners.Attached withBrowserLess looking ⟨.user, "alice"⟩ := by
  refine ⟨browser_updated, looking_needed (by decide), looking_needed (by decide), ?_, ?_⟩
  · exact attaches_iff.mp (by decide +kernel)
  · intro h
    exact absurd (attaches_iff.mpr h) (by decide +kernel)

/-- After it, only the placeholder is attached. -/
theorem attached_browserLess :
    {who | ofOwners.Attached withBrowserLess looking who} = {Principal.placeholder} := by
  have hkept := attached_replaced rfl withBrowser_built (by decide +kernel) (by decide +kernel)
    browser_updated (looking_needed (by decide)) (looking_needed (by decide))
  have hplaceholder : ofOwners.Attached withBrowser looking .placeholder :=
    attaches_iff.mp (by decide +kernel)
  exact Set.ext (hkept.2.1 hplaceholder)

end Keeper

end PolicyKeeper
