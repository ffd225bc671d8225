import Mathlib.Data.List.Induction
import PolicyKeeper.Proofs.Adding
import PolicyKeeper.Proofs.Text.Splitting

/-!
# Policies that are called the same

A policy is called after the role that it is created for and the full name of the object, with a
hyphen between them, and the service has one policy of each name only. The name of a role may have
hyphens in it, and so may the names of the catalogue. So two policies on different paths may be
called the same, and then the second of them cannot be created.

This is all that can keep a role from being created, if all its objects have paths and all its
privileges are known. Which policies a creation has to create is known beforehand, from the objects
and from the locations that have policies (`Keeper.Founds`), and so is what they are called
(`Keeper.NamesFree`). And for two policies to be called the same, one of the two roles must be
called what the other is called, with a hyphen and more after it, and a dot in what is more
(`Nested`).
-/

namespace PolicyKeeper

/-! ## Names with hyphens -/

/-- One name is the other with a hyphen and a text with a dot after it. -/
def Nested (short long : String) : Prop :=
  ∃ mid, '.' ∈ mid.toList ∧ long = short ++ "-" ++ mid

/-- A text that has two hyphens is put together in two ways. -/
theorem hyphen_cases {a b c d : List Char} (h : a ++ '-' :: b = c ++ '-' :: d) :
    (a = c ∧ b = d) ∨ (∃ mid, c = a ++ '-' :: mid ∧ b = mid ++ '-' :: d)
      ∨ ∃ mid, a = c ++ '-' :: mid ∧ d = mid ++ '-' :: b := by
  rcases List.append_eq_append_iff.mp h with ⟨w, hc, hb⟩ | ⟨w, ha, hd⟩
  · cases w with
    | nil => exact Or.inl ⟨by simpa using hc.symm, by simpa using hb⟩
    | cons x mid =>
        obtain ⟨rfl, hrest⟩ := List.cons.inj hb
        exact Or.inr (Or.inl ⟨mid, hc, hrest⟩)
  · cases w with
    | nil => exact Or.inl ⟨by simpa using ha, by simpa using hd.symm⟩
    | cons x mid =>
        obtain ⟨rfl, hrest⟩ := List.cons.inj hd
        exact Or.inr (Or.inr ⟨mid, ha, hrest⟩)

/-- What has no dot in it goes to the first name, and makes no difference to the others, nor to how
many there are. -/
theorem CatalogObject.names_of_append {o o' : CatalogObject} {mid : List Char} (hmid : '.' ∉ mid)
    (h : o.fullName.toList = mid ++ '-' :: o'.fullName.toList) :
    o.names.tail = o'.names.tail ∧ o.names.length = o'.names.length := by
  unfold CatalogObject.names Text.split
  rw [h]
  cases hsplit : Text.splitChars '.' o'.fullName.toList with
  | nil => exact absurd hsplit (Text.splitChars_ne_nil _ _)
  | cons piece pieces =>
      have hdot : '.' ∉ ['-'] := by decide
      have hhyphen : Text.splitChars '.' ('-' :: o'.fullName.toList) = ('-' :: piece) :: pieces :=
        Text.splitChars_append hdot hsplit
      rw [Text.splitChars_append hmid hhyphen]
      exact ⟨rfl, rfl⟩

/-- Roots are told by the number of names that lead to them. -/
theorem ObjectKind.isRoot_of_levels {kind kind' : ObjectKind} (h : kind.levels = kind'.levels) :
    kind.isRoot = kind'.isRoot := by
  cases kind <;> cases kind' <;> simp_all [levels, isRoot]

/-- The catalogue does not matter to where an object is. -/
theorem Layout.Locates.eq_of_tail {l : Layout} {o o' : CatalogObject} {loc loc' : Location}
    (hloc : l.Locates o loc) (hloc' : l.Locates o' loc') (hroot : o.kind.isRoot = o'.kind.isRoot)
    (htail : o.names.tail = o'.names.tail) : loc = loc' := by
  obtain ⟨path, hpath, rfl⟩ := hloc
  obtain ⟨path', hpath', rfl⟩ := hloc'
  rw [Layout.path_eq_of_tail hpath hpath' hroot htail]

namespace Keeper

variable {k : Keeper} {s t : Store} {role : Role} {o : Securable} {os : List Securable}
  {loc : Location} {name : String}

/-- **When policies on two paths are called the same.** One of the names that they are called after
is nested in the other, or else one of the objects has not as many names as its kind has levels. -/
theorem nested_of_policyName_eq {maker other : String} {o o' : CatalogObject} {loc loc' : Location}
    (hloc : k.layout.Locates o loc) (hloc' : k.layout.Locates o' loc') (hne : loc ≠ loc')
    (h : policyName maker o.fullName = policyName other o'.fullName) :
    Nested maker other ∨ Nested other maker
      ∨ o.names.length ≠ o.kind.levels ∨ o'.names.length ≠ o'.kind.levels := by
  -- otherwise they have the same names, but for the catalogue, and are at one place
  have hplace : o.names.tail = o'.names.tail ∧ o.names.length = o'.names.length →
      o.names.length ≠ o.kind.levels ∨ o'.names.length ≠ o'.kind.levels := by
    intro hnames
    rw [← not_and_or]
    intro hlevels
    have hsame : o.kind.levels = o'.kind.levels := by rw [← hlevels.1, ← hlevels.2, hnames.2]
    exact hne (hloc.eq_of_tail hloc' (ObjectKind.isRoot_of_levels hsame) hnames.1)
  have hnested : ∀ {short long : String} {mid : List Char}, '.' ∈ mid →
      long.toList = short.toList ++ '-' :: mid → Nested short long := by
    intro short long mid hdot hlong
    refine ⟨String.ofList mid, by simpa using hdot, String.toList_inj.mp ?_⟩
    simpa using hlong
  have hchars : maker.toList ++ '-' :: o.fullName.toList
      = other.toList ++ '-' :: o'.fullName.toList := by
    have := congrArg String.toList h
    simpa [policyName] using this
  rcases hyphen_cases hchars with ⟨_, hfull⟩ | ⟨mid, hlong, hfull⟩ | ⟨mid, hlong, hfull⟩
  · refine Or.inr (Or.inr (hplace ?_))
    unfold CatalogObject.names
    rw [String.toList_inj.mp hfull]
    exact ⟨rfl, rfl⟩
  · by_cases hdot : '.' ∈ mid
    · exact Or.inl (hnested hdot hlong)
    · exact Or.inr (Or.inr (hplace (CatalogObject.names_of_append hdot hfull)))
  · by_cases hdot : '.' ∈ mid
    · exact Or.inr (Or.inl (hnested hdot hlong))
    · have hnames := CatalogObject.names_of_append hdot hfull
      exact Or.inr (Or.inr (hplace ⟨hnames.1.symm, hnames.2.symm⟩))

/-! ## The policies that are created for a role -/

/-- After these objects, this one is the first to be given something at a location without a
policy. -/
def Founds (k : Keeper) (s : Store) (before : List Securable) (o : Securable) : Prop :=
  o.entitlements ≠ [] ∧ ∃ loc, k.layout.Locates o.object loc ∧ k.Vacant s loc
    ∧ ∀ x ∈ before, x.entitlements ≠ [] → ¬ k.layout.Locates x.object loc

/-- A policy of this name is created for one of the objects. -/
def Founded (k : Keeper) (s : Store) (role : String) (os : List Securable) (name : String) :
    Prop :=
  ∃ before o, before ++ [o] <+: os ∧ k.Founds s before o
    ∧ policyName role o.object.fullName = name

/-- A policy has the name, or has been given it for one of the objects. -/
def Taken (k : Keeper) (s : Store) (role : String) (os : List Securable) (name : String) : Prop :=
  (∃ e ∈ s.policies, e.2.name = name) ∨ k.Founded s role os name

/-- No policy that is created for the objects has a name that is taken by then. -/
def NamesFree (k : Keeper) (s : Store) (role : String) (os : List Securable) : Prop :=
  ∀ before o, before ++ [o] <+: os → k.Founds s before o →
    ¬ k.Taken s role before (policyName role o.object.fullName)

/-- One object more is the last of those that come after others. -/
theorem prefix_concat {before : List Securable} {x : Securable} :
    before ++ [x] <+: os ++ [o] ↔ before ++ [x] <+: os ∨ (before = os ∧ x = o) := by
  rw [List.prefix_concat_iff, or_comm]
  refine or_congr_right ⟨fun h => ?_, fun h => by rw [h.1, h.2]⟩
  obtain ⟨rfl, hlast⟩ := List.append_inj' h rfl
  exact ⟨rfl, List.singleton_inj.mp hlast⟩

theorem taken_concat : k.Taken s role.name (os ++ [o]) name ↔ k.Taken s role.name os name
    ∨ (k.Founds s os o ∧ policyName role.name o.object.fullName = name) := by
  unfold Taken Founded
  simp only [prefix_concat, or_and_right, exists_or, and_assoc, exists_and_left, exists_eq_left,
    or_assoc]

theorem namesFree_concat : k.NamesFree s role.name (os ++ [o]) ↔ k.NamesFree s role.name os
    ∧ (k.Founds s os o → ¬ k.Taken s role.name os (policyName role.name o.object.fullName)) := by
  unfold NamesFree
  simp only [prefix_concat, or_imp, forall_and]
  refine and_congr_right fun _ => ⟨fun h => h os o ⟨rfl, rfl⟩, fun h before x heq => ?_⟩
  obtain ⟨rfl, rfl⟩ := heq
  exact h

/-- What has become of the store when the objects were added. -/
structure Opened (k : Keeper) (role : String) (s : Store) (os : List Securable) (t : Store) :
    Prop where
  sound : t.Sound
  service : ∀ e ∈ t.policies, e.2.service = k.service
  /-- Where something was given, there is a policy now. -/
  vacant : ∀ loc, k.Vacant t loc ↔ k.Vacant s loc
    ∧ ∀ o ∈ os, o.entitlements ≠ [] → ¬ k.layout.Locates o.object loc
  names : ∀ name, (∃ e ∈ t.policies, e.2.name = name) ↔ k.Taken s role os name

theorem Opened.start (h : s.Sound) (hservice : ∀ e ∈ s.policies, e.2.service = k.service) :
    k.Opened role.name s [] s where
  sound := h
  service := hservice
  vacant := fun loc => by simp
  names := fun name => by simp [Taken, Founded]

theorem Opened.opens_iff (h : k.Opened role.name s os t) : k.Opens t o ↔ k.Founds s os o := by
  refine and_congr_right fun _ => exists_congr fun loc => and_congr_right fun _ => ?_
  exact h.vacant loc

theorem manages_opening (path : Fields String) :
    k.Manages (k.opening role o path) path.get? := by
  have hnew : k.Manages (Policy.managed k.service (policyName role.name o.object.fullName) path)
      path.get? := ⟨rfl, by simp [Policy.managed, Policy.isManaged], Policy.managed_guards _ _ _⟩
  exact hnew.of_frame rfl

theorem vacant_created {p : Policy} : k.Vacant (s.created p) loc
    ↔ k.Vacant s loc ∧ ¬ k.Manages p loc := by
  unfold Vacant
  refine ⟨fun h => ⟨fun e he => h e (Store.mem_created.mpr (Or.inl he)), fun hman => ?_⟩,
    fun h e he hman => ?_⟩
  · exact h _ (Store.mem_created.mpr (Or.inr rfl)) ⟨hman.service, hman.managed, hman.guards⟩
  · rcases Store.mem_created.mp he with hold | rfl
    · exact h.1 e hold hman
    · exact h.2 ⟨hman.service, hman.managed, hman.guards⟩

theorem exists_name_created {p : Policy} : (∃ e ∈ (s.created p).policies, e.2.name = name)
    ↔ (∃ e ∈ s.policies, e.2.name = name) ∨ p.name = name := by
  simp only [Store.mem_created, or_and_right, exists_or, exists_eq_left]
  rfl

/-- **One more object**, unless the name of its policy is taken. -/
theorem Opened.step (h : k.Opened role.name s os t) (hl : k.layout.Legible o.object)
    (hloc : k.layout.Locates o.object loc) (hcheck : k.layout.service.checkPrivileges o = .ok ())
    (hfree : k.Founds s os o → ¬ k.Taken s role.name os (policyName role.name o.object.fullName)) :
    ∃ u, (k.addObject role o).run Store.perform t = (.ok (), u)
      ∧ k.Opened role.name s (os ++ [o]) u := by
  by_cases hopens : k.Opens t o
  · obtain ⟨path, hpath, hvacant, hrun, hid, hni⟩ := run_addObject_of_opens hl hcheck hopens
    have hfounds := h.opens_iff.mp hopens
    have hcreated := (run_persist_opening h.sound hvacant hni).1 fun e he _ hname =>
      hfree hfounds ((h.names _).mp ⟨e, he, hname⟩)
    rw [hcreated] at hrun
    have hchange : (k.applyChange role (.add o)).run Store.perform t = _ := hrun
    -- the new policy is at the location of the object, and nowhere else
    have hplace : ∀ loc', k.Manages (k.opening role o path) loc'
        ↔ k.layout.Locates o.object loc' := by
      refine fun loc' => ⟨fun hman => ?_, fun hloc' => ?_⟩
      · exact ⟨path, hpath, (manages_opening path).guards.unique hman.guards⟩
      · rw [hloc'.unique ⟨path, hpath, rfl⟩]
        exact manages_opening path
    refine ⟨_, hrun, sound_applyChange h.sound hchange, fun e he => ?_, fun loc' => ?_,
      fun name => ?_⟩
    · rcases Store.mem_created.mp he with hold | rfl
      · exact h.service e hold
      · rfl
    · rw [vacant_created, h.vacant, hplace, List.forall_mem_append, List.forall_mem_singleton,
        and_assoc]
      refine and_congr_right fun _ => and_congr_right fun _ => ?_
      exact ⟨fun hnot _ => hnot, fun hnot => hnot hfounds.1⟩
    · rw [taken_concat, ← h.names, exists_name_created]
      exact or_congr_right ⟨fun hname => ⟨hfounds, hname⟩, And.right⟩
  · obtain ⟨u, hrun, hframes⟩ :=
      @run_addObject_of_not_opens k t role o loc h.sound hl hloc hcheck hopens
    have hchange : (k.applyChange role (.add o)).run Store.perform t = _ := hrun
    have hnot := mt h.opens_iff.mpr hopens
    refine ⟨u, hrun, sound_applyChange h.sound hchange, fun e he => ?_, fun loc' => ?_,
      fun name => ?_⟩
    · obtain ⟨p, hp, hframe⟩ := Store.exists_of_frames hframes he
      rw [← h.service _ hp]
      exact (Policy.service_of_frame hframe).symm
    · rw [vacant_of_frames hframes, List.forall_mem_append, List.forall_mem_singleton, ← and_assoc,
        ← h.vacant]
      exact ⟨fun hv => ⟨hv, fun hne hat => hopens ⟨hne, loc', hat, hv⟩⟩, And.left⟩
    · rw [exists_name_of_frames hframes, h.names, taken_concat]
      exact ⟨Or.inl, fun h => h.resolve_right fun h => hnot h.1⟩

/-- If it is taken, that is the end of it. -/
theorem Opened.refused (h : k.Opened role.name s os t) (hl : k.layout.Legible o.object)
    (hcheck : k.layout.service.checkPrivileges o = .ok ()) (hfounds : k.Founds s os o)
    (htaken : k.Taken s role.name os (policyName role.name o.object.fullName)) :
    ∃ f name holder, (k.addObject role o).run Store.perform t = (.error f, t)
      ∧ f.cause = .refused (.nameTaken name holder) := by
  obtain ⟨path, _, hvacant, hrun, _, hni⟩ :=
    @run_addObject_of_opens k t role o hl hcheck (h.opens_iff.mpr hfounds)
  obtain ⟨e, he, hname⟩ := (h.names _).mpr htaken
  obtain ⟨f, holder, hrefused, hcause⟩ :=
    (run_persist_opening h.sound hvacant hni).2 e he (h.service e he) hname
  exact ⟨f, _, holder, hrun.trans hrefused, hcause⟩

/-- **All objects of a role are added, or a name is taken.** -/
theorem run_additions (h : s.Sound) (hservice : ∀ e ∈ s.policies, e.2.service = k.service)
    (hl : ∀ o ∈ os, k.layout.Legible o.object)
    (hloc : ∀ o ∈ os, ∃ loc, k.layout.Locates o.object loc)
    (hcheck : ∀ o ∈ os, k.layout.service.checkPrivileges o = .ok ()) (task : Securable → Task) :
    (k.NamesFree s role.name os → ∃ t,
        (os.forM fun o => (k.addObject role o).during (task o)).run Store.perform s = (.ok (), t)
          ∧ k.Opened role.name s os t)
      ∧ (¬ k.NamesFree s role.name os → ∃ f name holder t,
        (os.forM fun o => (k.addObject role o).during (task o)).run Store.perform s = (.error f, t)
          ∧ f.cause = .refused (.nameTaken name holder)) := by
  induction os using List.reverseRecOn with
  | nil =>
      refine ⟨fun _ => ⟨s, rfl, .start h hservice⟩, fun hnot => ?_⟩
      exact absurd (fun before o hb => absurd hb (by simp)) hnot
  | append_singleton os o ih =>
      rw [List.forall_mem_append, List.forall_mem_singleton] at hl hloc hcheck
      obtain ⟨hok, herr⟩ := ih hl.1 hloc.1 hcheck.1
      rw [namesFree_concat, Plan.forM_append, Plan.run_bind]
      by_cases hfree : k.NamesFree s role.name os
      · obtain ⟨t, hrun, hopened⟩ := hok hfree
        obtain ⟨loc, hlast⟩ := hloc.2
        rw [hrun]
        show (_ → ∃ u, ((k.addObject role o).during (task o) >>= fun _ => pure ()).run
            Store.perform t = (.ok (), u) ∧ _) ∧ (_ → ∃ f name holder u,
          ((k.addObject role o).during (task o) >>= fun _ => pure ()).run
            Store.perform t = (.error f, u) ∧ _)
        rw [Plan.run_bind, Plan.run_during]
        refine ⟨fun hnames => ?_, fun hnot => ?_⟩
        · obtain ⟨u, hadded, hopened⟩ := hopened.step hl.2 hlast hcheck.2 hnames.2
          rw [hadded]
          exact ⟨u, rfl, hopened⟩
        · simp only [hfree, true_and, Classical.not_imp, not_not] at hnot
          obtain ⟨f, name, holder, hrefused, hcause⟩ :=
            hopened.refused hl.2 hcheck.2 hnot.1 hnot.2
          rw [hrefused]
          exact ⟨f.during (task o), name, holder, t, rfl, hcause⟩
      · obtain ⟨f, name, holder, t, hrun, hcause⟩ := herr hfree
        rw [hrun]
        exact ⟨fun hnames => absurd hnames.1 hfree, fun _ => ⟨f, name, holder, t, rfl, hcause⟩⟩

/-! ## What the policies of a store are called -/

/-- The policy is called after an object on its path, by whatever name that was for. -/
def Called (k : Keeper) (p : Policy) : Prop :=
  ∃ maker o loc, p.name = policyName maker o.fullName ∧ k.layout.Locates o loc ∧ k.Manages p loc

theorem Called.of_frame {p p' : Policy} (h : k.Called p) (hf : p'.frame = p.frame) :
    k.Called p' := by
  obtain ⟨maker, o, loc, hname, hloc, hman⟩ := h
  exact ⟨maker, o, loc, (Policy.name_of_frame hf).trans hname, hloc, hman.of_frame hf⟩

theorem Reached.called (h : k.Reached s) : ∀ e ∈ s.policies, k.Called e.2 := by
  refine h.known ?_ ?_ fun event x hx p hp => hp.of_frame (k.frame_of_edits event x hx p)
  · intro id p hp
    obtain ⟨maker, o, loc, hname, hloc, hman⟩ := hp
    exact ⟨maker, o, loc, hname, hloc, hman.service, hman.managed, hman.guards⟩
  · intro o maker p hp
    obtain ⟨path, hpath, rfl⟩ := newPolicy_ok hp
    exact ⟨maker, o, path.get?, rfl, ⟨path, hpath, rfl⟩, rfl,
      by simp [Policy.managed, Policy.isManaged], Policy.managed_guards _ _ _⟩

theorem Reached.service (h : k.Reached s) : ∀ e ∈ s.policies, e.2.service = k.service := by
  intro e he
  obtain ⟨_, _, _, _, _, hman⟩ := h.called e he
  exact hman.service

/-! ## Creating a role -/

/-- The native role of a new role, if there is to be one, is no matter of policies. -/
theorem roleCreated_objects (hs : s.Built) (role : Role) : ∃ s₁, s₁.Built
    ∧ s₁.policies = s.policies
    ∧ (k.handle (.roleCreated role)).run Store.perform s
      = ((role.securables.forM fun o => (k.addObject role o).during
          (.creatingRole role.name o.object.fullName)) >>= fun _ => pure true).run
        Store.perform s₁ := by
  show ∃ s₁, _ ∧ _ ∧ (k.roleCreated role).run Store.perform s = _
  unfold roleCreated
  split
  · refine ⟨(s.createRole (nativeRole role.name)).2,
      hs.perform (.createRole k.service (nativeRole role.name)),
      (Store.perform_policies (c := .createRole k.service (nativeRole role.name)) rfl s).1, ?_⟩
    rw [Plan.run_bind, run_ensureNativeRole]
  · exact ⟨s, hs, rfl, rfl⟩

/-- **Only a name that is taken keeps a role from being created.** In whatever store the keeper has
made, in either mode, let all objects of a role have paths, and let all their privileges be known.
The role is created if every policy that it needs has a name that is not taken, and is refused by
the name if not. The policies in the store are called after objects on their paths, and two policies
on different paths are called the same only if one of the names that they are called after is nested
in the other; or if one of the objects has not as many names as its kind has levels. -/
theorem roleCreated_unless_taken (h : k.Reached s)
    (hl : ∀ o ∈ role.securables, k.layout.Legible o.object)
    (hloc : ∀ o ∈ role.securables, ∃ loc, k.layout.Locates o.object loc)
    (hcheck : ∀ o ∈ role.securables, k.layout.service.checkPrivileges o = .ok ()) :
    (k.NamesFree s role.name role.securables →
        ∃ t, (k.handle (.roleCreated role)).run Store.perform s = (.ok true, t))
      ∧ (¬ k.NamesFree s role.name role.securables → ∃ f name holder t,
        (k.handle (.roleCreated role)).run Store.perform s = (.error f, t)
          ∧ f.cause = .refused (.nameTaken name holder))
      ∧ (∀ e ∈ s.policies, k.Called e.2)
      ∧ ∀ (maker other : String) (o o' : CatalogObject) (loc loc' : Location),
        k.layout.Locates o loc → k.layout.Locates o' loc' → loc ≠ loc' →
          policyName maker o.fullName = policyName other o'.fullName →
          Nested maker other ∨ Nested other maker
            ∨ o.names.length ≠ o.kind.levels ∨ o'.names.length ≠ o'.kind.levels := by
  obtain ⟨s₁, hb, hsame, hnative⟩ := roleCreated_objects (k := k) h.sound.built role
  have hservice : ∀ e ∈ s₁.policies, e.2.service = k.service := hsame ▸ h.service
  obtain ⟨hfree, htaken⟩ := run_additions (h.sound.congr hb hsame) hservice hl hloc hcheck
    fun o => .creatingRole role.name o.object.fullName
  have hnames : k.NamesFree s₁ role.name role.securables
      ↔ k.NamesFree s role.name role.securables := by
    unfold NamesFree Taken Founded Founds Vacant
    rw [hsame]
  rw [hnative, Plan.run_bind, ← hnames]
  refine ⟨fun hyes => ?_, fun hno => ?_, h.called, fun _ _ _ _ _ _ => nested_of_policyName_eq⟩
  · obtain ⟨t, hrun, _⟩ := hfree hyes
    rw [hrun]
    exact ⟨t, rfl⟩
  · obtain ⟨f, name, holder, t, hrun, hcause⟩ := htaken hno
    rw [hrun]
    exact ⟨f, name, holder, t, rfl, hcause⟩

/-- A role whose name has hyphens and dots in it. -/
def longNamed : Role := { name := "a-b.c", securables := [schemaDb "x" [.useSchema]] }

/-- A role whose name is the beginning of that, with a table whose catalogue and schema are named
accordingly. -/
def shortNamed : Role :=
  { name := "a", securables := [⟨⟨"b.c-x.db", .table⟩, [⟨.selectTable, .allow⟩]⟩] }

def withLongNamed : Store := ((ofTables.handle (.roleCreated longNamed)).run Store.perform {}).2

/-- No policy is on the table, but the name of its policy is taken. -/
theorem roleCreated_unless_taken_shortNamed :
    ∃ f name holder t,
      (ofTables.handle (.roleCreated shortNamed)).run Store.perform withLongNamed = (.error f, t)
        ∧ f.cause = .refused (.nameTaken name holder) := by
  have hpath : ofTables.layout.path ⟨"b.c-x.db", .table⟩
      = .ok (Fields.ofPairs [("database", "c-x"), ("table", "db")]) := by decide +kernel
  have hlocates : ofTables.layout.Locates ⟨"b.c-x.db", .table⟩
      (Fields.ofPairs [("database", "c-x"), ("table", "db")]).get? := ⟨_, hpath, rfl⟩
  have htaken : ¬ ofTables.NamesFree withLongNamed shortNamed.name shortNamed.securables := by
    intro hfree
    refine hfree [] _ (List.prefix_refl _) ⟨by simp, _, hlocates, ?_, by simp⟩ (Or.inl ?_)
    · exact managedAt_eq_nil_iff.mp (by decide +kernel)
    · decide +kernel
  have hreached : ofTables.Reached withLongNamed := Reached.start.handle _
  exact (roleCreated_unless_taken hreached (by decide +kernel)
    (fun o ho => by rw [List.mem_singleton.mp ho]; exact ⟨_, hlocates⟩) (by decide +kernel)).2.1
      htaken

/-- **A role can be kept from being created by its name.** Its policy is called what the policy of
another role is called, although they are on different paths. -/
theorem not_roleCreated_always :
    policyName longNamed.name "x.db" = policyName shortNamed.name "b.c-x.db"
      ∧ (ofTables.layout.path ⟨"x.db", .schema⟩).toOption.map Fields.entries
        = some [("database", "db")]
      ∧ (ofTables.layout.path ⟨"b.c-x.db", .table⟩).toOption.map Fields.entries
        = some [("database", "c-x"), ("table", "db")]
      ∧ (∀ o ∈ shortNamed.securables, ofTables.layout.Legible o.object
        ∧ ofTables.layout.service.checkPrivileges o = .ok ())
      ∧ ((ofTables.handle (.roleCreated longNamed)).run Store.perform {}).1.toOption = some true
      ∧ ((ofTables.handle (.roleCreated shortNamed)).run Store.perform withLongNamed).1.toBool
        = false := by
  decide +kernel

end Keeper

end PolicyKeeper
