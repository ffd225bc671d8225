import PolicyKeeper.Proofs.Replacing
import PolicyKeeper.Proofs.Retrying
import PolicyKeeper.Proofs.Settling

/-!
# Writing only what is needed

Whether an object has to be written down when it is added to a role, or taken from one, can be told
beforehand from the items at its location. Adding it takes a write if for one of its accesses there
is no item that serves the holder: an item with the role in it, or any item of roles if the holder
is the placeholder (`Keeper.Served`). Taking it away takes one if there is an item for one of its
accesses with the holder in it (`Keeper.Held`).

A keeper does not look for this. It edits the policy in hand and writes it back if the edit has
changed it, so what has to be shown is when edits change nothing (`Holder.grant_eq_self_iff`,
`Holder.revoke_eq_self_iff`). What they leave behind they would leave alone, so the same change made
again takes no write.
-/

namespace PolicyKeeper

namespace Holder

variable {h : Holder} {a : String} {accesses : List String} {i : Item} {items : List Item}

/-- The item does for the holder as it is. -/
def Serves (h : Holder) (i : Item) : Prop :=
  match h with
  | role name => name ∈ i.roles
  | placeholder => True

theorem enter_eq_self_iff : h.enter i = i ↔ h.Serves i := by
  cases h with
  | placeholder => exact iff_of_true rfl trivial
  | role name =>
      unfold enter
      dsimp only
      split
      · rename_i hin
        exact iff_of_true rfl (List.contains_iff_mem.mp hin)
      · rename_i hout
        refine iff_of_false (fun heq => ?_) fun hin => hout (List.contains_iff_mem.mpr hin)
        have hroles : i.roles ++ [name] = i.roles := congrArg Item.roles heq
        exact absurd hroles (by simp)

theorem grantAccess_eq_self_iff (hs : Shaped items) :
    h.grantAccess a items = items ↔ ∃ i ∈ items, grantsAccess a i = true ∧ h.Serves i := by
  induction items with
  | nil => simp [grantAccess]
  | cons i items ih =>
      rw [grantAccess]
      by_cases hi : grantsAccess a i = true
      · rw [if_pos hi]
        refine ⟨?_, ?_⟩
        · intro heq
          exact ⟨i, List.mem_cons_self, hi, enter_eq_self_iff.mp (List.cons.inj heq).1⟩
        · intro h
          obtain ⟨j, hj, hgrants, hserves⟩ := h
          -- no other item is for the access
          obtain rfl := hs.grants_unique hj List.mem_cons_self hgrants hi
          rw [enter_eq_self_iff.mpr hserves]
      · rw [if_neg hi, List.cons_inj_right, ih (shaped_cons.mp hs).2.2, List.exists_mem_cons_iff,
          or_iff_right fun h => hi h.1]

/-- **Granting changes nothing** exactly if each access has an item that serves the holder. -/
theorem grant_eq_self_iff (hs : Shaped items) : h.grant accesses items = items
    ↔ ∀ a ∈ accesses, ∃ i ∈ items, grantsAccess a i = true ∧ h.Serves i := by
  -- what granting leaves has all accesses, so items that it leaves as they are had them
  have hall : h.grant accesses items = items ↔ h.HasAll accesses items :=
    ⟨fun heq => heq ▸ hasAll_grant, HasAll.grant_eq⟩
  rw [hall]
  exact forall₂_congr fun _ _ => grantAccess_eq_self_iff hs

/-- **Revoking changes nothing** exactly if no item for one of the accesses has the holder in it. -/
theorem revoke_eq_self_iff : h.revoke accesses items = items
    ↔ ∀ a ∈ accesses, ¬ ∃ i ∈ items, grantsAccess a i = true ∧ h.holds i = true := by
  have hnone : h.revoke accesses items = items ↔ h.HasNone accesses items :=
    ⟨fun heq => heq ▸ hasNone_revoke, HasNone.revoke_eq⟩
  rw [hnone]
  refine ⟨?_, ?_⟩
  · intro hnone a ha hheld
    obtain ⟨i, hi, hgrants, hholds⟩ := hheld
    have haccess : i.access?.any accesses.contains = true := by
      rw [(grantsAccess_iff.mp hgrants).2, Option.any_some, List.contains_iff_mem]
      exact ha
    have hnot := hnone i hi
    rw [haccess, hholds] at hnot
    exact absurd hnot (by simp)
  · intro hnot i hi
    refine Bool.eq_false_iff.mpr fun hheld => ?_
    rw [Bool.and_eq_true, Option.any_eq_true] at hheld
    obtain ⟨⟨a, haccess, ha⟩, hholds⟩ := hheld
    have howner : i.isOwner = false := by
      unfold holds at hholds
      rw [Bool.and_eq_true, Bool.not_eq_true'] at hholds
      exact hholds.1
    exact hnot a (List.contains_iff_mem.mp ha)
      ⟨i, hi, grantsAccess_iff.mpr ⟨howner, haccess⟩, hholds⟩

end Holder

namespace Keeper

variable {k : Keeper} {s t : Store} {role : Role} {o : Securable} {loc : Location} {p : Policy}

/-- An item of roles for the access does for the role: the role is in it, or in owner-placeholder
mode it is there at all. -/
def Served (k : Keeper) (role : Role) (s : Store) (n : Need) : Prop :=
  ∃ i, k.HasItem s n.location n.effect i
    ∧ Holder.grantsAccess n.access i = true ∧ (k.holder role).Serves i

/-- An item of roles for the access has the role in it, or in owner-placeholder mode the
placeholder. -/
def Held (k : Keeper) (role : Role) (s : Store) (n : Need) : Prop :=
  ∃ i, k.HasItem s n.location n.effect i
    ∧ Holder.grantsAccess n.access i = true ∧ (k.holder role).holds i = true

/-! ## When there is nothing to do -/

/-- What an object needs is its accesses, all at its location. -/
theorem forall_needsOf (hloc : k.layout.Locates o.object loc) {P : Need → Prop} :
    (∀ n ∈ k.needsOf o, P n) ↔ ∀ effect, ∀ a ∈ k.accesses o effect, P ⟨loc, effect, a⟩ := by
  refine ⟨?_, ?_⟩
  · intro h effect a ha
    exact h ⟨loc, effect, a⟩ ((covers_iff hloc).mpr ⟨rfl, ha⟩)
  · rintro h ⟨loc', effect, a⟩ hn
    obtain ⟨rfl, ha⟩ := (covers_iff hloc).mp hn
    exact h effect a ha

theorem idle_add_iff (hloc : k.layout.Locates o.object loc) (hsite : k.Site s loc p)
    (hshape : p.Shapely) :
    k.Idle role (.add o) p ↔ ∀ n ∈ k.needsOf o, k.Served role s n := by
  have hidle : k.Idle role (.add o) p ↔ ∀ effect,
      (k.holder role).grant (k.accesses o effect) (p.items effect) = p.items effect :=
    @edit_eq_self_iff k role (.add o) p
  rw [hidle, forall_needsOf hloc]
  refine forall_congr' fun effect => ?_
  rw [Holder.grant_eq_self_iff (hshape.items effect)]
  exact forall₂_congr fun _ _ => hsite.edited.exists_here.symm

theorem idle_remove_iff (hloc : k.layout.Locates o.object loc) (hsite : k.Site s loc p) :
    k.Idle role (.remove o) p ↔ ∀ n ∈ k.needsOf o, ¬ k.Held role s n := by
  have hidle : k.Idle role (.remove o) p ↔ ∀ effect,
      (k.holder role).revoke (k.accesses o effect) (p.items effect) = p.items effect :=
    @edit_eq_self_iff k role (.remove o) p
  rw [hidle, forall_needsOf hloc]
  refine forall_congr' fun effect => ?_
  rw [Holder.revoke_eq_self_iff]
  exact forall₂_congr fun _ _ => not_congr hsite.edited.exists_here.symm

/-! ## Once and again -/

/-- An object that is added or taken away takes a write if there is something to do, and then there
is nothing to do any more. -/
theorem run_twice (hs : s.Built) (change : RoleChange) (halike : change.Alike change)
    (hl : k.layout.Legible change.place)
    (hrun : (k.applyChange role change).run Store.perform s = (.ok (), t)) :
    (∃ loc p, k.layout.Locates change.place loc ∧ k.Site s loc p ∧ p.Shapely
        ∧ ((¬ k.Idle role change p ∧ t.writes = s.writes + 1) ∨ (k.Idle role change p ∧ t = s)))
      ∧ (k.applyChange role change).run Store.perform t = (.ok (), t) := by
  have hmade : k.Performed role change s t := (applyChange_performed hs.keyed hl).of_run hrun
  refine ⟨?_, (hmade.wrote.settled hs.keyed halike).run (hs.of_run hrun).keyed hl⟩
  obtain ⟨_, loc, p, hloc, hsite, hshape, hwrite⟩ := hmade
  refine ⟨loc, p, hloc, hsite, hshape, hwrite.symm.imp_left fun h => ?_⟩
  obtain ⟨hbusy, rfl⟩ := h
  -- only what is taken away and granted again can be busy and come to nothing
  have hne : k.edit role change p ≠ p := by
    cases change with
    | add o | remove o => exact hbusy
    | replace old new => exact absurd halike id
  exact ⟨hbusy, hsite.writes_wroteBack (k.edit_frame role change p) hne⟩

/-- **Adding and removing write exactly what is needed.** When an object is added to a role and that
goes well,

* one policy was written if for an access of the object no item of roles served the role, and
  nothing has changed if for each access one did;
* the same object is added again without doing anything.

The same is true of an object that is taken from a role, where it takes a write if an item of
roles for an access had the role, or the placeholder, in it. -/
theorem writes_exactly_if_needed (hs : s.Built) (hl : k.layout.Legible o.object) :
    (∀ {t}, (k.addObject role o).run Store.perform s = (.ok (), t) →
      (((∃ n ∈ k.needsOf o, ¬ k.Served role s n) ∧ t.writes = s.writes + 1)
          ∨ ((∀ n ∈ k.needsOf o, k.Served role s n) ∧ t = s))
        ∧ (k.addObject role o).run Store.perform t = (.ok (), t))
      ∧ ∀ {t}, (k.removeObject role o).run Store.perform s = (.ok (), t) →
        (((∃ n ∈ k.needsOf o, k.Held role s n) ∧ t.writes = s.writes + 1)
            ∨ ((∀ n ∈ k.needsOf o, ¬ k.Held role s n) ∧ t = s))
          ∧ (k.removeObject role o).run Store.perform t = (.ok (), t) := by
  refine ⟨fun hrun => ?_, fun hrun => ?_⟩
  · obtain ⟨⟨loc, p, hloc, hsite, hshape, hwrite⟩, hagain⟩ :=
      run_twice hs (.add o) trivial hl hrun
    refine ⟨?_, hagain⟩
    rw [idle_add_iff hloc hsite hshape] at hwrite
    simpa only [not_forall, exists_prop] using hwrite
  · obtain ⟨⟨loc, p, hloc, hsite, _, hwrite⟩, hagain⟩ :=
      run_twice hs (.remove o) trivial hl hrun
    refine ⟨?_, hagain⟩
    rw [idle_remove_iff hloc hsite] at hwrite
    simpa only [not_forall, exists_prop, not_not] using hwrite

/-- A role that gains the schema of the shared policy. An owner's item there lists it already. -/
def reader : Role := { name := "reader", securables := [browsingLess] }

def withReader : Store :=
  ((ofTables.addObject reader browsingLess).run Store.perform withShared).2

def withoutReader : Store :=
  ((ofTables.removeObject reader browsingLess).run Store.perform withReader).2

/-- It takes one write to let the role into the auditor's item, and one to take it out again. -/
theorem writes_exactly_if_needed_reader :
    (¬ ∀ n ∈ ofTables.needsOf browsingLess, ofTables.Served reader withShared n)
      ∧ withReader.writes = withShared.writes + 1
      ∧ (ofTables.addObject reader browsingLess).run Store.perform withReader = (.ok (), withReader)
      ∧ (∃ n ∈ ofTables.needsOf browsingLess, ofTables.Held reader withReader n)
      ∧ withoutReader.writes = withReader.writes + 1
      ∧ (ofTables.removeObject reader browsingLess).run Store.perform withoutReader
        = (.ok (), withoutReader) := by
  have hlegible : ofTables.layout.Legible browsingLess.object := by decide +kernel
  have hadded : (ofTables.addObject reader browsingLess).run Store.perform withShared
      = (.ok (), withReader) := Plan.run_eq_ok (by decide +kernel)
  have hremoved : (ofTables.removeObject reader browsingLess).run Store.perform withReader
      = (.ok (), withoutReader) := Plan.run_eq_ok (by decide +kernel)
  have hbuilt : withReader.Built := sharedPolicy_built.of_run hadded
  obtain ⟨hwrite, hagain⟩ := (writes_exactly_if_needed sharedPolicy_built hlegible).1 hadded
  obtain ⟨hwrite', hagain'⟩ := (writes_exactly_if_needed hbuilt hlegible).2 hremoved
  have hchanged : withReader ≠ withShared := by decide +kernel
  have hchanged' : withoutReader ≠ withReader := by decide +kernel
  obtain ⟨⟨n, hn, hunserved⟩, hone⟩ := hwrite.resolve_right fun h => hchanged h.2
  obtain ⟨hheld, hone'⟩ := hwrite'.resolve_right fun h => hchanged' h.2
  exact ⟨fun h => hunserved (h n hn), hone, hagain, hheld, hone', hagain'⟩

end Keeper

end PolicyKeeper
