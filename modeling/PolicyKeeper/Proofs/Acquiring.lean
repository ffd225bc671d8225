import PolicyKeeper.Proofs.Naming
import PolicyKeeper.Proofs.Undoing

/-!
# Roles that are acquired and granted

Two events ask whether every object of a role has a managed policy (`Keeper.HasPolicy`): one that
loads the role, and one that lets a principal hold it, which is declined if an object has none. In a
sound store both give the same answer and neither fails (`run_acquired_granted`). What the second
writes on the way are policies that are there, with the items changed and nothing else, so the store
refuses none of them.

Whether a role that was just created has all its policies depends on its entitlements
(`hasPolicy_created`). An object with an entitlement has a policy by then, whoever made it. An
object without one may have none, because nothing was written for it. When an object is replaced,
the items left in its policy count, too (`hasPolicy_updated`), because a policy without any goes.
-/

namespace PolicyKeeper

theorem Policy.hasNoItems_mapPlaceholderItems {accesses : Effect → List String} {f : Item → Item}
    {p : Policy} : (p.mapPlaceholderItems accesses f).hasNoItems = p.hasNoItems := by
  simp [Policy.hasNoItems, Policy.itemLists, Policy.mapPlaceholderItems]

namespace Keeper

variable {k : Keeper} {s t u : Store} {role : Role} {o : Securable} {os : List Securable}
  {loc : Location} {who : Principal}

/-- The object has a managed policy. -/
def HasPolicy (k : Keeper) (s : Store) (o : CatalogObject) : Prop :=
  ∃ loc, k.layout.Locates o loc ∧ ¬ k.Vacant s loc

/-- Looking for the policy of an object says whether there is one. -/
theorem found_cases (h : s.Sound) {o : CatalogObject} (hl : k.layout.Legible o)
    (hloc : ∃ loc, k.layout.Locates o loc) :
    (∃ p id, k.located s o = .ok (some p) ∧ (id, p) ∈ s.policies ∧ k.HasPolicy s o)
      ∨ (k.located s o = .ok none ∧ ¬ k.HasPolicy s o) := by
  obtain ⟨_, hplace⟩ := hloc
  obtain ⟨found, hfound⟩ := located_ok h hl hplace
  cases found with
  | some p =>
      obtain ⟨loc, id, hloc, honly, _⟩ := located_some hfound
      exact Or.inl ⟨p, id, hfound, honly.mem, loc, hloc, fun hv => hv _ honly.mem honly.manages⟩
  | none =>
      obtain ⟨loc, hloc, hvacant⟩ := located_none hfound
      refine Or.inr ⟨hfound, fun hhas => ?_⟩
      obtain ⟨loc', hloc', hnot⟩ := hhas
      rw [hloc'.unique hloc] at hnot
      exact hnot hvacant

/-! ## Asking -/

/-- **Loading a role** says whether all its objects have policies. -/
theorem run_allHavePolicies (h : s.Sound) (hl : ∀ o ∈ os, k.layout.Legible o.object)
    (hloc : ∀ o ∈ os, ∃ loc, k.layout.Locates o.object loc) :
    ∃ answer, (k.allHavePolicies os).run Store.perform s = (.ok answer, s)
      ∧ (answer = true ↔ ∀ o ∈ os, k.HasPolicy s o.object) := by
  induction os with
  | nil => exact ⟨true, rfl, by simp⟩
  | cons o os ih =>
      rw [List.forall_mem_cons] at hl hloc
      obtain ⟨answer, hrun, hanswer⟩ := ih hl.2 hloc.2
      simp only [List.forall_mem_cons]
      unfold allHavePolicies
      rw [Plan.run_bind, run_findPolicy hl.1]
      rcases found_cases h hl.1 hloc.1 with ⟨p, _, hfound, _, hhas⟩ | ⟨hfound, hnot⟩
      · rw [hfound]
        exact ⟨answer, hrun, by rw [hanswer, and_iff_right hhas]⟩
      · rw [hfound]
        exact ⟨false, rfl, by simp [hnot]⟩

/-- What a principal is to be written into, if all objects have policies. -/
theorem run_policiesOf (h : s.Sound) (hl : ∀ o ∈ os, k.layout.Legible o.object)
    (hloc : ∀ o ∈ os, ∃ loc, k.layout.Locates o.object loc) :
    ((k.policiesOf role os).run Store.perform s = (.ok none, s)
        ∧ ¬ ∀ o ∈ os, k.HasPolicy s o.object)
      ∨ ∃ read, (k.policiesOf role os).run Store.perform s = (.ok (some read), s)
        ∧ (∀ x ∈ read, ∃ id, (id, x.2) ∈ s.policies) ∧ ∀ o ∈ os, k.HasPolicy s o.object := by
  induction os with
  | nil => exact Or.inr ⟨[], rfl, by simp, by simp⟩
  | cons o os ih =>
      rw [List.forall_mem_cons] at hl hloc
      simp only [List.forall_mem_cons]
      unfold policiesOf
      rw [Plan.run_bind, Plan.run_during, run_findPolicy hl.1]
      rcases found_cases h hl.1 hloc.1 with ⟨p, id, hfound, hp, hhas⟩ | ⟨hfound, hnot⟩
      · rw [hfound]
        show ((k.policiesOf role os >>= fun more =>
            (pure (more.map ((o, p) :: ·)) : Plan (Option (List (Securable × Policy))))).run
          Store.perform s = _ ∧ _) ∨ ∃ read, (k.policiesOf role os >>= fun more =>
            (pure (more.map ((o, p) :: ·)) : Plan (Option (List (Securable × Policy))))).run
          Store.perform s = _ ∧ _
        rw [Plan.run_bind]
        rcases ih hl.2 hloc.2 with ⟨hrun, hnot⟩ | ⟨read, hrun, hread, hall⟩
        · rw [hrun]
          exact Or.inl ⟨rfl, fun hall => hnot hall.2⟩
        · rw [hrun]
          exact Or.inr ⟨(o, p) :: read, rfl, List.forall_mem_cons.mpr ⟨⟨id, hp⟩, hread⟩, hhas, hall⟩
      · rw [hfound]
        exact Or.inl ⟨rfl, fun hall => hnot hall.1⟩

/-! ## Writing what was read before -/

/-- Members can be written into a policy that was read before, as long as only items have changed
since. -/
theorem run_persistChange (hread : s.Sound) (h : t.Sound) (hframes : t.frames = s.frames) {id : Int}
    {p : Policy} (hp : (id, p) ∈ s.policies) (o : Securable) (who : Principal) :
    ∃ u, (persistChange p (p.mapPlaceholderItems (k.accesses o) (Item.attach who))).run
        Store.perform t = (.ok (), u) ∧ u.Sound ∧ u.frames = s.frames := by
  let p' := p.mapPlaceholderItems (k.accesses o) (Item.attach who)
  show ∃ u, (if p' = p then pure () else persist p' : Plan Unit).run Store.perform t = _ ∧ _
  split
  · exact ⟨t, rfl, h, hframes⟩
  · obtain ⟨q, hq, hsame⟩ := Store.exists_of_frames hframes.symm hp
    have hf : p'.frame = q.frame := hsame.symm
    have hni : p'.hasNoItems = false :=
      Policy.hasNoItems_mapPlaceholderItems.trans (hread.intact.items _ hp)
    have hkept : p'.WellKept := by
      have hwell := hread.intact.wellKept _ hp
      exact hwell.of_frame rfl (hwell.shapely.mapPlaceholderItems _ fun _ => Item.attach_key)
    have hid : p'.id = some id := hread.built.keyed.ids _ hp
    have hwritten := run_persist_of_frame h hq hf
    rw [Store.wroteBack_eq_updated hid hni] at hwritten
    refine ⟨_, hwritten, ?_, (Store.frames_updated h.built.keyed hq hf).trans hframes⟩
    have hproper : (Call.updatePolicy id p').Proper := ⟨hkept, hni⟩
    have hsound := h.perform hproper
    rwa [Store.perform, updatePolicy_of_frame h hq hf] at hsound

theorem run_persistChanges (hread : s.Sound) (h : t.Sound) (hframes : t.frames = s.frames)
    {read : List (Securable × Policy)} (hp : ∀ x ∈ read, ∃ id, (id, x.2) ∈ s.policies)
    (who : Principal) :
    ∃ u, (read.forM fun x => persistChange x.2
      (x.2.mapPlaceholderItems (k.accesses x.1) (Item.attach who))).run Store.perform t
        = (.ok (), u) := by
  induction read generalizing t with
  | nil => exact ⟨t, rfl⟩
  | cons x read ih =>
      rw [List.forall_mem_cons] at hp
      obtain ⟨id, hfirst⟩ := hp.1
      obtain ⟨t₁, hrun, hsound, hsame⟩ := run_persistChange hread h hframes hfirst x.1 who
      obtain ⟨u, hrest⟩ := ih hsound hsame hp.2
      refine ⟨u, ?_⟩
      show ((persistChange x.2 _) >>= fun _ => _).run Store.perform t = _
      rw [Plan.run_bind, hrun]
      exact hrest

/-! ## Letting a principal hold a role -/

/-- A request of the keeper is about one role. -/
theorem targets_roleRequest (k : Keeper) (name : String) (who : Principal) :
    (k.roleRequest name who).targets = [name] := by
  unfold roleRequest
  split <;> rfl

/-- The store in which a principal has joined the native role of a name. -/
def joined (k : Keeper) (who : Principal) (name : String) (s : Store) : Store :=
  (s.createRole (nativeRole name)).2.changeRole name (NativeRole.join (k.roleRequest name who))

/-- In role mode the principal becomes a member of the native role, which is there by then. -/
theorem run_join (k : Keeper) (name : String) (who : Principal) (s : Store) :
    (Plan.call (.grantRoles k.service (k.roleRequest name who))).run Store.perform
      (s.createRole (nativeRole name)).2 = (.ok (), k.joined who name s) := by
  have hthere : ((s.createRole (nativeRole name)).2.role? name).isSome = true :=
    Store.role?_createRole
  rw [Plan.run_call, Store.perform, Store.grantRoles, targets_roleRequest, Store.changeRoles,
    if_pos hthere]
  rfl

/-- **Granting one role** comes to the same answer as loading it. -/
theorem run_grantRole (h : s.Sound) (hl : ∀ o ∈ role.securables, k.layout.Legible o.object)
    (hloc : ∀ o ∈ role.securables, ∃ loc, k.layout.Locates o.object loc) (who : Principal) :
    ∃ answer u, (k.grantRole who role).run Store.perform s = (.ok answer, u)
      ∧ (answer = true ↔ ∀ o ∈ role.securables, k.HasPolicy s o.object) := by
  unfold grantRole
  rw [Plan.run_bind]
  rcases run_policiesOf h hl hloc with ⟨hrun, hnot⟩ | ⟨read, hrun, hread, hall⟩
  · rw [hrun]
    exact ⟨false, s, rfl, by simp [hnot]⟩
  · rw [hrun]
    refine ⟨true, ?_⟩
    dsimp only
    cases hmode : k.mode with
    | role =>
        refine ⟨k.joined who role.name s, ?_, by simpa using hall⟩
        show (k.ensureNativeRole role.name >>= fun _ => _).run Store.perform s = _
        rw [Plan.run_bind, run_ensureNativeRole]
        show ((Plan.call (.grantRoles k.service (k.roleRequest role.name who))).during _ >>=
          fun _ => _).run Store.perform _ = _
        rw [Plan.run_bind, Plan.run_during, run_join]
        rfl
    | ownerPlaceholder =>
        obtain ⟨u, hwritten⟩ := @run_persistChanges k s s h h rfl read hread who
        refine ⟨u, ?_, by simpa using hall⟩
        show ((read.forM fun x => persistChange x.2
          (x.2.mapPlaceholderItems (k.accesses x.1) (Item.attach who))) >>= fun _ =>
            pure true).run Store.perform s = _
        rw [Plan.run_bind, hwritten]
        rfl

theorem hasPolicy_congr (hsame : t.policies = s.policies) {o : CatalogObject} :
    k.HasPolicy t o ↔ k.HasPolicy s o := by
  unfold HasPolicy Vacant
  rw [hsame]

theorem run_rolesGranted (h : s.Sound) (hl : ∀ o ∈ role.securables, k.layout.Legible o.object)
    (hloc : ∀ o ∈ role.securables, ∃ loc, k.layout.Locates o.object loc) (who : Principal) :
    ∃ answer u, (k.handle (.rolesGranted [role] who)).run Store.perform s = (.ok answer, u)
      ∧ (answer = true ↔ ∀ o ∈ role.securables, k.HasPolicy s o.object) := by
  let s₁ := (s.createAccount who).2
  have hsame : s₁.policies = s.policies := Store.policies_createAccount who s
  have hsound : s₁.Sound := h.congr (h.built.perform (.createAccount who)) hsame
  obtain ⟨answer, u, hrun, hanswer⟩ := run_grantRole hsound hl hloc who
  simp only [hasPolicy_congr hsame] at hanswer
  refine ⟨answer, u, ?_, hanswer⟩
  show ((k.grantRole who role) >>= fun granted =>
    if granted then k.grantEach who [] else pure false).run Store.perform s₁ = _
  rw [Plan.run_bind, hrun]
  cases answer <;> rfl

theorem run_acquired_granted (h : s.Sound) (hl : ∀ o ∈ role.securables, k.layout.Legible o.object)
    (hloc : ∀ o ∈ role.securables, ∃ loc, k.layout.Locates o.object loc) (who : Principal) :
    ∃ answer u, (k.handle (.roleAcquired role)).run Store.perform s = (.ok answer, s)
      ∧ (k.handle (.rolesGranted [role] who)).run Store.perform s = (.ok answer, u)
      ∧ (answer = true ↔ ∀ o ∈ role.securables, k.HasPolicy s o.object) := by
  obtain ⟨answer, hacquired, hanswer⟩ := run_allHavePolicies h hl hloc
  obtain ⟨answer', u, hgranted, hanswer'⟩ := run_rolesGranted h hl hloc who
  have hsame : answer' = answer := Bool.eq_iff_iff.mpr (hanswer'.trans hanswer.symm)
  rw [hsame] at hgranted
  exact ⟨answer, u, hacquired, hgranted, hanswer⟩

/-! ## After a role was created -/

/-- What was added to a role has a path, and privileges that the service knows. -/
theorem admitted_of_run (hs : s.Built) (hl : ∀ o ∈ os, k.layout.Legible o.object)
    {task : Securable → Task}
    (hrun : (os.forM fun o => (k.addObject role o).during (task o)).run Store.perform s
      = (.ok (), t)) :
    ∀ o ∈ os, (∃ loc, k.layout.Locates o.object loc)
      ∧ k.layout.service.checkPrivileges o = .ok () := by
  induction os generalizing s with
  | nil => exact fun _ ho => absurd ho List.not_mem_nil
  | cons o os ih =>
      rw [List.forall_mem_cons] at hl ⊢
      obtain ⟨_, s₁, hfirst, hrest⟩ := Plan.run_bind_ok hrun
      have hfirst := Plan.run_during_ok hfirst
      have hwrote : k.Wrote role (.add o) s s₁ := (addObject_wrote hs.keyed hl.1).of_run hfirst
      obtain ⟨hadmits, loc, _, hloc, _⟩ := hwrote
      exact ⟨⟨⟨loc, hloc⟩, hadmits⟩, ih (hs.of_run hfirst) hl.2 hrest⟩

/-- **Which objects of a new role have policies**: those that had one, and those at the location of
which something was given to the role. -/
theorem hasPolicy_created (h : k.Reached s) (hl : ∀ o ∈ role.securables, k.layout.Legible o.object)
    (hcreated : (k.handle (.roleCreated role)).run Store.perform s = (.ok true, t)) :
    (∀ o ∈ role.securables, ∃ loc, k.layout.Locates o.object loc)
      ∧ ∀ o : CatalogObject, k.HasPolicy t o ↔ k.HasPolicy s o ∨ ∃ x ∈ role.securables,
        x.entitlements ≠ [] ∧ ∃ loc, k.layout.Locates x.object loc ∧ k.layout.Locates o loc := by
  obtain ⟨s₁, hb, hsame, hobjects⟩ := roleCreated_objects (k := k) h.sound.built role
  rw [hobjects] at hcreated
  obtain ⟨_, t', hrun, hend⟩ := Plan.run_bind_ok hcreated
  cases hend
  have hadmitted := admitted_of_run hb hl hrun
  have hlocated := fun o ho => (hadmitted o ho).1
  refine ⟨hlocated, fun o => ?_⟩
  obtain ⟨hfree, htaken⟩ := run_additions (h.sound.congr hb hsame) (hsame ▸ h.service) hl hlocated
    (fun o ho => (hadmitted o ho).2) fun o => .creatingRole role.name o.object.fullName
  have hopened : k.Opened role.name s₁ role.securables t := by
    by_cases hnames : k.NamesFree s₁ role.name role.securables
    · obtain ⟨t', hrun', hopened⟩ := hfree hnames
      cases hrun.symm.trans hrun'
      exact hopened
    · obtain ⟨f, _, _, _, hrefused, _⟩ := htaken hnames
      exact absurd (congrArg Prod.fst (hrun.symm.trans hrefused)) (by simp)
  rw [← hasPolicy_congr hsame]
  unfold HasPolicy
  simp only [hopened.vacant, not_and_or, not_forall, not_not, exists_prop]
  refine ⟨?_, ?_⟩
  · rintro ⟨loc, hloc, hnot | ⟨x, hx, hne, hat⟩⟩
    · exact Or.inl ⟨loc, hloc, hnot⟩
    · exact Or.inr ⟨x, hx, hne, loc, hat, hloc⟩
  · rintro (⟨loc, hloc, hnot⟩ | ⟨x, hx, hne, loc, hat, hloc⟩)
    · exact ⟨loc, hloc, Or.inl hnot⟩
    · exact ⟨loc, hloc, Or.inr ⟨x, hx, hne, hat⟩⟩

/-! ## After an object was replaced -/

/-- The role is given something on the object, or the policy of the object has items left when what
the role had before is taken from it. -/
def Remains (k : Keeper) (s : Store) (role : Role) (old new : Securable) : Prop :=
  new.entitlements ≠ [] ∨ ∃ e ∈ s.policies,
    (∃ loc, k.layout.Locates new.object loc ∧ k.Manages e.2 loc)
      ∧ (k.revoked role old e.2).hasNoItems = false

/-- Where a change is made, there is a policy unless the edit has left no items. -/
theorem Wrote.vacant_here (h : s.Sound) {change : RoleChange} (hw : k.Wrote role change s t)
    (hloc : k.layout.Locates change.place loc) : ∃ p, k.Site s loc p
      ∧ (k.Vacant t loc ↔ (k.edit role change p).hasNoItems = true) := by
  obtain ⟨_, loc₁, p, hloc₁, hsite, _, hwrite⟩ := hw
  obtain rfl := hloc₁.unique hloc
  refine ⟨p, hsite, ?_⟩
  rcases hwrite with ⟨hsame, rfl⟩ | rfl
  · rw [hsame]
    cases hsite with
    | found only _ =>
        rw [h.intact.items _ only.mem]
        exact iff_of_false (fun hv => hv _ only.mem only.manages) (by simp)
    | fresh vacant _ _ hitems => exact iff_of_true vacant hitems
  · obtain ⟨id, hrewritten⟩ := hsite.rewritten h.built.keyed (k.edit_frame role change p)
    exact hrewritten.vacant_iff (hsite.manages.of_frame (k.edit_frame role change p))

/-- A change makes no difference elsewhere. -/
theorem Wrote.vacant_elsewhere (hk : s.Keyed) {change : RoleChange} (hw : k.Wrote role change s t)
    {loc' : Location} (hloc : k.layout.Locates change.place loc) (hne : loc' ≠ loc) :
    k.Vacant t loc' ↔ k.Vacant s loc' := by
  obtain ⟨_, loc₁, p, hloc₁, hsite, _, hwrite⟩ := hw
  obtain rfl := hloc₁.unique hloc
  rcases hwrite with ⟨_, rfl⟩ | rfl
  · exact Iff.rfl
  · obtain ⟨id, hrewritten⟩ := hsite.rewritten hk (k.edit_frame role change p)
    have hman := hsite.manages.of_frame (k.edit_frame role change p)
    refine ⟨fun hvacant e he hthere => ?_, hrewritten.vacant_elsewhere hman hne⟩
    refine hvacant e ((hrewritten e).mpr (Or.inl ⟨he, fun hhere => ?_⟩)) hthere
    exact hne (hthere.guards.unique hhere.guards)

theorem Wrote.vacant_replaced (h : s.Sound) {old new : Securable}
    (hw : k.Wrote role (.replace old new) s t) (hloc : k.layout.Locates new.object loc) :
    k.Vacant t loc ↔ ¬ k.Remains s role old new := by
  obtain ⟨p, hsite, hvacant⟩ := hw.vacant_here h hloc
  have hgiven : (∀ effect, k.accesses new effect = []) ↔ new.entitlements = [] := by
    refine ⟨fun hnone => ?_, fun hnil effect => ?_⟩
    · by_contra hne
      obtain ⟨effect, haccess⟩ := ServiceType.exists_access hw.1 hne
      exact haccess (hnone effect)
    · rw [accesses, hnil, ServiceType.accesses_nil]
  have hedit : (k.edit role (.replace old new) p).hasNoItems = true
      ↔ (k.revoked role old p).hasNoItems = true ∧ new.entitlements = [] := by
    rw [← hgiven]
    exact Policy.hasNoItems_grant
  -- what is in hand is the policy at the location, if there is one
  have hleft : (∃ e ∈ s.policies, (∃ loc, k.layout.Locates new.object loc ∧ k.Manages e.2 loc)
      ∧ (k.revoked role old e.2).hasNoItems = false)
        ↔ (k.revoked role old p).hasNoItems = false := by
    cases hsite with
    | found only _ =>
        refine ⟨?_, fun hni => ⟨_, only.mem, ⟨loc, hloc, only.manages⟩, hni⟩⟩
        rintro ⟨e, he, ⟨loc', hloc', hman⟩, hni⟩
        rw [hloc'.unique hloc] at hman
        cases only.only e he hman
        exact hni
    | fresh vacant _ _ hitems =>
        refine iff_of_false ?_ ?_
        · rintro ⟨e, he, ⟨loc', hloc', hman⟩, _⟩
          rw [hloc'.unique hloc] at hman
          exact vacant e he hman
        · have hnone : k.edit role (.remove old) p = p := by
            refine edit_eq_self_iff.mpr fun effect => ?_
            rw [Policy.items_of_hasNoItems hitems]
            exact revoke_nil _ _
          have hrevoked : k.revoked role old p = p := hnone
          rw [hrevoked, hitems]
          simp
  rw [hvacant, hedit, Remains, hleft, not_or, not_not, Bool.not_eq_false, and_comm]

/-- **Which objects have policies once one was replaced**: at its location those for which something
remains, and elsewhere those that had one before. -/
theorem hasPolicy_updated (h : s.Sound) {old new : Securable} (hl : k.layout.Legible new.object)
    (hupdated : (k.handle (.roleUpdated role [.replace old new])).run Store.perform s
      = (.ok true, t)) :
    ∃ loc, k.layout.Locates new.object loc ∧ ∀ o : CatalogObject, k.HasPolicy t o
      ↔ (k.layout.Locates o loc ∧ k.Remains s role old new)
        ∨ (¬ k.layout.Locates o loc ∧ k.HasPolicy s o) := by
  have hl : k.layout.Legible (RoleChange.replace old new).place := hl
  have hwrote : k.Wrote role (.replace old new) s t :=
    wrote_of_roleUpdated h.built.keyed hl hupdated
  obtain ⟨loc, hloc⟩ : ∃ loc, k.layout.Locates new.object loc := by
    obtain ⟨_, loc, _, hloc, _⟩ := hwrote
    exact ⟨loc, hloc⟩
  refine ⟨loc, hloc, fun o => ?_⟩
  by_cases hhere : k.layout.Locates o loc
  · have hiff := not_congr (hwrote.vacant_replaced h hloc)
    rw [not_not] at hiff
    simp only [hhere, true_and, not_true, false_and, or_false, ← hiff]
    refine ⟨fun hhas => ?_, fun hnot => ⟨loc, hhere, hnot⟩⟩
    obtain ⟨loc', hloc', hnot⟩ := hhas
    rwa [hloc'.unique hhere] at hnot
  · simp only [hhere, false_and, not_false_iff, true_and, false_or]
    refine exists_congr fun loc' => and_congr_right fun hloc' => not_congr ?_
    refine hwrote.vacant_elsewhere h.built.keyed hloc fun heq => hhere ?_
    exact heq ▸ hloc'

/-- **A role that was created or updated is acquired and granted**, as far as anything was given. In
whatever store the keeper has made, in either mode, and for any principal, loading a role and
granting it come to the same answer. Directly after the role was created, the answer is yes if and
only if each of its objects had a policy before or is at the location of an object that has
entitlements, as it is itself if it has any. Directly after an object of a role was replaced, the
answer for any role is yes if and only if each of its objects at the location of that one has a
policy of which something remains, and each of the others had one before. -/
theorem acquired_and_granted (h : k.Reached s) (who : Principal) :
    (∀ (role : Role) (t : Store), (∀ o ∈ role.securables, k.layout.Legible o.object) →
        (k.handle (.roleCreated role)).run Store.perform s = (.ok true, t) →
        ∃ answer u, (k.handle (.roleAcquired role)).run Store.perform t = (.ok answer, t)
          ∧ (k.handle (.rolesGranted [role] who)).run Store.perform t = (.ok answer, u)
          ∧ (answer = true ↔ ∀ o ∈ role.securables, k.HasPolicy s o.object
            ∨ ∃ x ∈ role.securables, x.entitlements ≠ []
              ∧ ∃ loc, k.layout.Locates x.object loc ∧ k.layout.Locates o.object loc))
      ∧ ∀ (role other : Role) (old new : Securable) (t : Store), k.layout.Legible new.object →
        (k.handle (.roleUpdated role [.replace old new])).run Store.perform s = (.ok true, t) →
        (∀ o ∈ other.securables, k.layout.Legible o.object
          ∧ ∃ loc, k.layout.Locates o.object loc) →
        ∃ answer u place, k.layout.Locates new.object place
          ∧ (k.handle (.roleAcquired other)).run Store.perform t = (.ok answer, t)
          ∧ (k.handle (.rolesGranted [other] who)).run Store.perform t = (.ok answer, u)
          ∧ (answer = true ↔ ∀ o ∈ other.securables,
            (k.layout.Locates o.object place ∧ k.Remains s role old new)
              ∨ (¬ k.layout.Locates o.object place ∧ k.HasPolicy s o.object)) := by
  have hafter : ∀ {event : Event} {t : Store},
      (k.handle event).run Store.perform s = (.ok true, t) → t.Sound := by
    intro event t hrun
    have hreached := h.handle event
    rw [hrun] at hreached
    exact hreached.sound
  refine ⟨fun role t hl hcreated => ?_, fun role other old new t hl hupdated hothers => ?_⟩
  · obtain ⟨hloc, hpolicies⟩ := hasPolicy_created h hl hcreated
    obtain ⟨answer, u, hacquired, hgranted, hanswer⟩ :=
      run_acquired_granted (hafter hcreated) hl hloc who
    simp only [hpolicies] at hanswer
    exact ⟨answer, u, hacquired, hgranted, hanswer⟩
  · obtain ⟨place, hplace, hpolicies⟩ := hasPolicy_updated h.sound hl hupdated
    obtain ⟨answer, u, hacquired, hgranted, hanswer⟩ := run_acquired_granted (hafter hupdated)
      (fun o ho => (hothers o ho).1) (fun o ho => (hothers o ho).2) who
    simp only [hpolicies] at hanswer
    exact ⟨answer, u, place, hplace, hacquired, hgranted, hanswer⟩

/-- The visitor after its first object was replaced. -/
def resident : Role :=
  { visitor with securables := schemaDb "cat" [.createTable] :: visitor.securables.tail }

def withResident : Store :=
  ((ofTables.handle (.roleUpdated visitor [.replace (schemaDb "cat" [.useSchema])
    (schemaDb "cat" [.createTable])])).run Store.perform withVisitor).2

/-- The visitor is acquired and granted as soon as it is created. So it is, too, when it was given
something else on its schema, where others have items. -/
theorem acquired_and_granted_visitor :
    (∃ u, (ofTables.handle (.roleAcquired visitor)).run Store.perform withVisitor
          = (.ok true, withVisitor)
        ∧ (ofTables.handle (.rolesGranted [visitor] ⟨.user, "alice"⟩)).run Store.perform withVisitor
          = (.ok true, u))
      ∧ ∃ u, (ofTables.handle (.roleAcquired resident)).run Store.perform withResident
          = (.ok true, withResident)
        ∧ (ofTables.handle (.rolesGranted [resident] ⟨.user, "alice"⟩)).run Store.perform
          withResident = (.ok true, u) := by
  have hcreated : (ofTables.handle (.roleCreated visitor)).run Store.perform withAuditor
      = (.ok true, withVisitor) := Plan.run_eq_ok (by decide +kernel)
  have hupdated : (ofTables.handle (.roleUpdated visitor [.replace (schemaDb "cat" [.useSchema])
      (schemaDb "cat" [.createTable])])).run Store.perform withVisitor = (.ok true, withResident) :=
    Plan.run_eq_ok (by decide +kernel)
  have hlegible : ∀ o ∈ visitor.securables, ofTables.layout.Legible o.object := by decide +kernel
  have hgiven : ∀ o ∈ visitor.securables, o.entitlements ≠ [] := by decide +kernel
  obtain ⟨hlocated, hpolicies⟩ := hasPolicy_created withAuditor_reached hlegible hcreated
  have hgave : ∀ o ∈ visitor.securables, ∃ x ∈ visitor.securables, x.entitlements ≠ []
      ∧ ∃ loc, ofTables.layout.Locates x.object loc ∧ ofTables.layout.Locates o.object loc := by
    intro o ho
    obtain ⟨loc, hloc⟩ := hlocated o ho
    exact ⟨o, ho, hgiven o ho, loc, hloc, hloc⟩
  refine ⟨?_, ?_⟩
  · obtain ⟨answer, u, hacquired, hgranted, hanswer⟩ :=
      (acquired_and_granted withAuditor_reached ⟨.user, "alice"⟩).1 visitor _ hlegible hcreated
    obtain rfl : answer = true := hanswer.mpr fun o ho => Or.inr (hgave o ho)
    exact ⟨u, hacquired, hgranted⟩
  · have hobjects : ∀ o ∈ resident.securables, ∃ x ∈ visitor.securables, x.object = o.object := by
      decide +kernel
    obtain ⟨answer, u, place, hplace, hacquired, hgranted, hanswer⟩ := (acquired_and_granted
      (withAuditor_reached.handle (.roleCreated visitor)) ⟨.user, "alice"⟩).2 visitor resident
      _ _ _ (by decide +kernel) hupdated fun o ho => by
        obtain ⟨x, hx, heq⟩ := hobjects o ho
        exact heq ▸ ⟨hlegible x hx, hlocated x hx⟩
    obtain rfl : answer = true := by
      refine hanswer.mpr fun o ho => ?_
      obtain ⟨x, hx, heq⟩ := hobjects o ho
      by_cases hhere : ofTables.layout.Locates o.object place
      · exact Or.inl ⟨hhere, Or.inl (by decide +kernel)⟩
      · exact Or.inr ⟨hhere, heq ▸ (hpolicies x.object).mpr (Or.inr (hgave x hx))⟩
    exact ⟨u, hacquired, hgranted⟩

/-- A role without a privilege on its object. -/
def idle : Role := { name := "idler", securables := [schemaDb "cat" []] }

/-- The same role while it has one. -/
def busy : Role := { name := "idler", securables := [schemaDb "cat" [.useSchema]] }

def withIdle : Store := ((ofTables.handle (.roleCreated idle)).run Store.perform {}).2

def withBusy : Store := ((ofTables.handle (.roleCreated busy)).run Store.perform {}).2

def withBusyIdle : Store :=
  ((ofTables.handle (.roleUpdated busy [.replace (schemaDb "cat" [.useSchema])
    (schemaDb "cat" [])])).run Store.perform withBusy).2

/-- **Not every role that was created or updated is acquired.** Nothing is written for an object
without privileges, so a role that has one is declined although it was created. So is a role whose
object has lost its privileges in an update, because the policy has gone with them. -/
theorem not_acquired_and_granted :
    ((ofTables.handle (.roleCreated idle)).run Store.perform {} = (.ok true, withIdle)
        ∧ (ofTables.handle (.roleAcquired idle)).run Store.perform withIdle = (.ok false, withIdle)
        ∧ ∃ u, (ofTables.handle (.rolesGranted [idle] ⟨.user, "alice"⟩)).run Store.perform withIdle
          = (.ok false, u))
      ∧ (ofTables.handle (.roleUpdated busy [.replace (schemaDb "cat" [.useSchema])
            (schemaDb "cat" [])])).run Store.perform withBusy = (.ok true, withBusyIdle)
        ∧ ∃ u, (ofTables.handle (.rolesGranted [idle] ⟨.user, "alice"⟩)).run Store.perform
          withBusyIdle = (.ok false, u) :=
  ⟨⟨Plan.run_eq_ok (by decide +kernel), by decide +kernel, _, Plan.run_eq_ok (by decide +kernel)⟩,
    Plan.run_eq_ok (by decide +kernel), _, Plan.run_eq_ok (by decide +kernel)⟩

end Keeper

end PolicyKeeper
