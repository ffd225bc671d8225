import PolicyKeeper.Policy.Path
import PolicyKeeper.Policy.Shape
import PolicyKeeper.Proofs.Fields

/-!
# Locations

A path is a table with an order, and so is the resource of a policy. What counts is neither order
nor representation but the *location*: which value there is at each level. A policy guards a
location if it has exactly those levels, one value at each, and excludes nothing. `Policy.isAt`
decides just that, so a policy guards at most one location, and the policies at a path are those
that guard the path's location.

The values of a path come from the names of an object and from the root directory, so a path has no
brackets in it if those have none.
-/

namespace PolicyKeeper

/-- The one value at each level, if there is one. -/
abbrev Location := String → Option String

/-- The policy has the levels of the location, each with its one value, and excludes nothing. -/
def Policy.Guards (p : Policy) (loc : Location) : Prop :=
  ∀ level, match p.resources.get? level with
    | none => loc level = none
    | some r => r.isExcludes = false ∧ ∃ value, r.values = [value] ∧ loc level = some value

/-- A policy guards one location at most. -/
theorem Policy.Guards.unique {p : Policy} {loc loc' : Location} (h : p.Guards loc)
    (h' : p.Guards loc') : loc = loc' := by
  funext level
  have hl := h level
  have hl' := h' level
  cases hr : p.resources.get? level with
  | none =>
      rw [hr] at hl hl'
      rw [hl, hl']
  | some r =>
      rw [hr] at hl hl'
      obtain ⟨_, v, hv, hloc⟩ := hl
      obtain ⟨_, v', hv', hloc'⟩ := hl'
      rw [hv] at hv'
      cases hv'
      rw [hloc, hloc']

/-- At a level of a path it has the one value that the path has there. -/
theorem Policy.Guards.values_eq {p : Policy} {path : Fields String} (h : p.Guards path.get?)
    {l : String × String} (hl : l ∈ path.entries) :
    ∃ r, p.resources.get? l.1 = some r ∧ r.values = [l.2] := by
  have hlevel := h l.1
  rw [Fields.get?_eq_some_iff.mpr hl] at hlevel
  cases hr : p.resources.get? l.1 with
  | none =>
      rw [hr] at hlevel
      exact absurd hlevel (by simp)
  | some r =>
      rw [hr] at hlevel
      obtain ⟨_, v, hv, hloc⟩ := hlevel
      cases hloc
      exact ⟨r, rfl, hv⟩

/-- **Being at a path is guarding its location.** -/
theorem Policy.isAt_iff {p : Policy} {path : Fields String} :
    p.isAt path = true ↔ p.Guards path.get? := by
  unfold Policy.isAt
  rw [Bool.and_eq_true, beq_iff_eq, List.all_eq_true]
  refine ⟨?_, ?_⟩
  · intro h
    obtain ⟨hsize, hall⟩ := h
    have hval : ∀ e ∈ path.entries, ∃ r, p.resources.get? e.1 = some r
        ∧ r.isExcludes = false ∧ r.values = [e.2] := by
      intro e he
      have h := hall e he
      split at h
      · rename_i r hr
        rw [Bool.and_eq_true, Bool.not_eq_true', beq_iff_eq] at h
        exact ⟨r, hr, h.1, h.2⟩
      · exact absurd h (by simp)
    have hkeys : ∀ key ∈ path.keys, key ∈ p.resources.keys := by
      intro key hkey
      obtain ⟨e, he, rfl⟩ := List.mem_map.mp hkey
      obtain ⟨r, hr, _⟩ := hval e he
      exact List.mem_map_of_mem (Fields.get?_eq_some_iff.mp hr)
    intro level
    split
    · rename_i hr
      refine Fields.get?_eq_none_iff.mpr fun hm => ?_
      exact Fields.get?_eq_none_iff.mp hr (hkeys level hm)
    · -- the resource has no level beside those of the path, since it has no more of them
      rename_i r hr
      have hmem : level ∈ p.resources.keys :=
        List.mem_map_of_mem (f := Prod.fst) (Fields.get?_eq_some_iff.mp hr)
      obtain ⟨e, he, rfl⟩ := List.mem_map.mp (Fields.mem_keys_of_covers hsize hkeys hmem)
      obtain ⟨r', hr', hex, hv⟩ := hval e he
      rw [hr] at hr'
      cases hr'
      exact ⟨hex, e.2, hv, Fields.get?_eq_some_iff.mpr he⟩
  · intro h
    have hkeys : p.resources.keys.Perm path.keys := by
      refine (List.perm_ext_iff_of_nodup p.resources.nodup path.nodup).mpr fun level => ?_
      rw [← not_iff_not]
      refine Fields.get?_eq_none_iff.symm.trans (Iff.trans ?_ Fields.get?_eq_none_iff)
      have hl := h level
      split at hl
      · rename_i hr
        exact ⟨fun _ => hl, fun _ => hr⟩
      · rename_i r hr
        obtain ⟨_, v, _, hv⟩ := hl
        rw [hr, hv]
        exact ⟨fun hn => absurd hn (by simp), fun hn => absurd hn (by simp)⟩
    have hlen := hkeys.length_eq
    rw [Fields.keys, Fields.keys, List.length_map, List.length_map] at hlen
    refine ⟨hlen, fun e he => ?_⟩
    have hl := h e.1
    have hpath : path.get? e.1 = some e.2 := Fields.get?_eq_some_iff.mpr he
    split at hl
    · rw [hpath] at hl
      exact absurd hl (by simp)
    · rename_i r hr
      obtain ⟨hex, v, hv, hloc⟩ := hl
      rw [hpath] at hloc
      cases hloc
      rw [hr]
      simp [hex, hv]

/-- A managed policy guards the location of the path it was made for. -/
theorem Policy.managed_guards (service name : String) (path : Fields String) :
    (Policy.managed service name path).Guards path.get? := by
  intro level
  show match (path.mapValues Resource.single).get? level with
    | none => _
    | some r => _
  rw [Fields.get?_mapValues]
  cases path.get? level with
  | none => rfl
  | some v => exact ⟨rfl, v, rfl, rfl⟩

/-! ## The location of an object -/

namespace Layout

/-- The object has a path in the service, and this is the location of it. -/
def Locates (l : Layout) (o : CatalogObject) (loc : Location) : Prop :=
  ∃ path, l.path o = .ok path ∧ path.get? = loc

theorem Locates.unique {l : Layout} {o : CatalogObject} {loc loc' : Location}
    (h : l.Locates o loc) (h' : l.Locates o loc') : loc = loc' := by
  obtain ⟨path, hp, rfl⟩ := h
  obtain ⟨path', hp', rfl⟩ := h'
  rw [hp] at hp'
  cases hp'
  rfl

theorem locates_of_toOption {l : Layout} {o : CatalogObject} {path : Fields String}
    (h : (l.path o).toOption = some path) : l.Locates o path.get? := by
  cases hp : l.path o with
  | error f =>
      rw [hp] at h
      exact absurd h (by simp [Except.toOption])
  | ok path' =>
      rw [hp] at h
      cases h
      exact ⟨path, hp, rfl⟩

/-- An object has a location if it has a path. -/
theorem exists_locates_iff {l : Layout} {o : CatalogObject} :
    (∃ loc, l.Locates o loc) ↔ (l.path o).toBool = true := by
  unfold Locates
  cases l.path o with
  | error f => simp [Except.toBool]
  | ok path => simp [Except.toBool]

/-- **No set begins in the names of the object, nor in the root directory** if the service goes by
directories. -/
def Legible (l : Layout) (o : CatalogObject) : Prop :=
  (l.service = .hdfs → '[' ∉ l.root.toList) ∧ ∀ name ∈ o.names, '[' ∉ name.toList

instance (l : Layout) (o : CatalogObject) : Decidable (l.Legible o) :=
  inferInstanceAs (Decidable (_ ∧ _))

theorem not_mem_directory {l : Layout} {c : Char} (hc : c ≠ '/') (hroot : c ∉ l.root.toList)
    {names : List String} (hnames : ∀ name ∈ names, c ∉ name.toList) :
    c ∉ (l.directory names).toList := by
  have key : ∀ (names : List String) (path : String), c ∉ path.toList →
      (∀ name ∈ names, c ∉ name.toList) →
      c ∉ (names.foldl (fun path name => path ++ "/" ++ name) path).toList := by
    intro names
    induction names with
    | nil => exact fun _ hpath _ => hpath
    | cons name names ih =>
        intro path hpath hnames
        refine ih _ ?_ fun n hn => hnames n (List.mem_cons_of_mem _ hn)
        have hname := hnames name List.mem_cons_self
        simp [hpath, hname, hc]
  -- the root loses slashes at its end and gains no character
  refine key names _ (fun hm => hroot ?_) hnames
  rw [rootWithoutSlash, String.toList_ofList, List.mem_reverse] at hm
  exact List.mem_reverse.mp ((List.dropWhile_sublist _).subset hm)

/-- What a path is made of: wildcards for a root, the names below the catalogue in a SQL service,
or the one directory they lead to. -/
theorem values_eq {l : Layout} {o : CatalogObject} {vs : List String} (h : l.values o = .ok vs) :
    vs = if o.kind.isRoot then List.replicate l.service.levels.length wildcard
      else match l.service with
        | .hadoopSql => o.names.tail
        | .hdfs => [l.directory o.names.tail] := by
  unfold Layout.values at h
  split at h
  · rename_i hroot
    rw [if_pos hroot]
    exact (Except.ok.inj h).symm
  · rename_i hroot
    rw [if_neg hroot]
    split at h
    case h_1 hs _ | h_2 hs _ | h_3 hs _ | h_4 hs _ | h_5 hs _ =>
      rw [hs]
      exact (Except.ok.inj h).symm
    case h_6 => exact absurd h (by simp)

/-- An object without a path is one that the service does not support. -/
theorem values_error {l : Layout} {o : CatalogObject} {f : Fault} (h : l.values o = .error f) :
    ∃ flaw, f = .unsupportedObject o.fullName flaw := by
  unfold Layout.values at h
  split at h
  · exact absurd h (by simp)
  · split at h
    case h_6 =>
      cases h
      exact ⟨_, rfl⟩
    all_goals exact absurd h (by simp)

theorem values_legible {l : Layout} {o : CatalogObject} {vs : List String}
    (hl : l.Legible o) (h : l.values o = .ok vs) : ∀ v ∈ vs, '[' ∉ v.toList := by
  have htail : ∀ name ∈ o.names.tail, '[' ∉ name.toList :=
    fun name hn => hl.2 name (List.mem_of_mem_tail hn)
  intro v hv
  rw [values_eq h] at hv
  split at hv
  · rw [List.eq_of_mem_replicate hv]
    decide
  · split at hv
    case h_1 => exact htail v hv
    case h_2 hs =>
      rw [List.mem_singleton.mp hv]
      exact not_mem_directory (by decide) (hl.1 hs) htail

theorem levels_nodup (service : ServiceType) : service.levels.Nodup := by
  cases service <;> decide

/-- Of two lists side by side, what is too much of the longer one is left out. -/
theorem map_fst_zip_eq_take {α β : Type} (as : List α) (bs : List β) :
    (as.zip bs).map Prod.fst = as.take bs.length := by
  induction as generalizing bs with
  | nil => rw [List.zip_nil_left, List.map_nil, List.take_nil]
  | cons a as ih =>
      cases bs with
      | nil => rfl
      | cons b bs => rw [List.zip_cons_cons, List.map_cons, ih, List.length_cons,
          List.take_succ_cons]

theorem map_snd_zip_eq_take {α β : Type} (as : List α) (bs : List β) :
    (as.zip bs).map Prod.snd = bs.take as.length := by
  induction as generalizing bs with
  | nil => rw [List.zip_nil_left, List.map_nil, List.length_nil, List.take_zero]
  | cons a as ih =>
      cases bs with
      | nil => rfl
      | cons b bs => rw [List.zip_cons_cons, List.map_cons, ih, List.length_cons,
          List.take_succ_cons]

/-- A path is the levels of the service beside the values. -/
theorem path_entries {l : Layout} {o : CatalogObject} {path : Fields String}
    (h : l.path o = .ok path) :
    ∃ vs, l.values o = .ok vs ∧ path.entries = l.service.levels.zip vs := by
  unfold Layout.path at h
  cases hv : l.values o with
  | error f =>
      rw [hv] at h
      exact absurd h (by simp [Except.map])
  | ok vs =>
      rw [hv] at h
      cases h
      refine ⟨vs, rfl, Fields.entries_ofPairs ?_⟩
      rw [map_fst_zip_eq_take]
      exact (levels_nodup l.service).sublist (List.take_sublist _ _)

/-- Below the catalogue, names are all that counts. -/
theorem path_eq_of_tail {l : Layout} {o o' : CatalogObject} {path path' : Fields String}
    (h : l.path o = .ok path) (h' : l.path o' = .ok path')
    (hroot : o.kind.isRoot = o'.kind.isRoot) (htail : o.names.tail = o'.names.tail) :
    path = path' := by
  obtain ⟨vs, hvs, hentries⟩ := path_entries h
  obtain ⟨vs', hvs', hentries'⟩ := path_entries h'
  have hvalues : vs = vs' := by rw [values_eq hvs, values_eq hvs', hroot, htail]
  exact Fields.ext_entries (by rw [hentries, hentries', hvalues])

theorem path_error {l : Layout} {o : CatalogObject} {f : Fault} (h : l.path o = .error f) :
    ∃ flaw, f = .unsupportedObject o.fullName flaw := by
  unfold Layout.path at h
  cases hv : l.values o with
  | ok vs =>
      rw [hv] at h
      exact absurd h (by simp [Except.map])
  | error fault =>
      rw [hv] at h
      cases h
      exact values_error hv

/-- No set begins in the path of an object whose names have none. -/
theorem path_legible {l : Layout} {o : CatalogObject} {path : Fields String} (hl : l.Legible o)
    (h : l.path o = .ok path) : ∀ e ∈ path.entries, '[' ∉ e.2.toList := by
  obtain ⟨vs, hvs, he⟩ := path_entries h
  intro e hmem
  rw [he] at hmem
  exact values_legible hl hvs e.2 (List.of_mem_zip hmem).2

end Layout

end PolicyKeeper
