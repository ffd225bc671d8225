import PolicyKeeper.Proofs.Location

/-!
# What of a name is in the path

Below the catalogue every name of an object should be in its path. A directory takes any number of
names, but a SQL service has only so many levels, and the names that are too many for them are left
out without a word (`Layout.path_spells`). Nor is a path refused for being empty, or for being the
root directory, where there is no name to put into it.

Neither can happen to an object whose full name was checked, since there are then just as many names
as its kind has levels. An object that came in a document may be called anything. So translating is
faithful (`Layout.Faithful`) exactly for roots, for kinds that the service does not know, and where
the names fit (`Layout.faithful_iff`).
-/

namespace PolicyKeeper

namespace CatalogObject

/-- **What it takes to be an object**: as many names as the kind has levels, and none that is
blank. -/
theorem ofName?_eq_ok_iff {fullName : String} {kind : ObjectKind} {o : CatalogObject} :
    ofName? fullName kind = .ok o ↔ o = ⟨fullName, kind⟩
      ∧ (∀ name ∈ o.names, Text.isAllBlank name = false) ∧ o.names.length = o.kind.levels := by
  unfold ofName?
  dsimp only
  split
  · rename_i hblank
    refine ⟨fun h => absurd h (by simp), ?_⟩
    intro h
    obtain ⟨rfl, hnames, _⟩ := h
    obtain ⟨name, hmem, hname⟩ := List.any_eq_true.mp hblank
    rw [hnames name hmem] at hname
    exact absurd hname (by simp)
  · rename_i hblank
    split
    · rename_i hlevels
      refine ⟨fun h => absurd h (by simp), ?_⟩
      intro h
      obtain ⟨rfl, _, hcount⟩ := h
      exact absurd hcount hlevels
    · rename_i hlevels
      rw [Bool.not_eq_true, List.any_eq_false] at hblank
      refine ⟨fun h => ?_, fun h => by rw [h.1]⟩
      obtain rfl := (Except.ok.inj h).symm
      exact ⟨rfl, fun name hmem => Bool.not_eq_true _ ▸ hblank name hmem, not_not.mp hlevels⟩

theorem names_ne_nil (o : CatalogObject) : o.names ≠ [] := by
  intro h
  exact Text.splitChars_ne_nil '.' o.fullName.toList (List.map_eq_nil_iff.mp h)

end CatalogObject

/-- The kinds of objects below the catalogue that the service knows. -/
def ServiceType.kinds : ServiceType → List ObjectKind
  | hadoopSql => [.schema, .table, .column]
  | hdfs => [.schema, .fileset]

/-- There are names to put into a path, and no more than it has room for. -/
def ServiceType.Fits (service : ServiceType) (names : List String) : Prop :=
  names ≠ [] ∧ (service = .hadoopSql → names.length ≤ service.levels.length)

/-- The names that a path has room for. -/
def ServiceType.room : ServiceType → List String → List String
  | hadoopSql, names => names.take hadoopSql.levels.length
  | hdfs, names => names

theorem ServiceType.Fits.room_eq {service : ServiceType} {names : List String}
    (h : service.Fits names) : service.room names = names := by
  cases service with
  | hadoopSql => exact List.take_of_length_le (h.2 rfl)
  | hdfs => rfl

namespace Layout

variable {l : Layout} {o : CatalogObject} {path : Fields String} {names : List String}

/-- **All the names are in the path, in order, and nothing else is.** Each is the value at one of
the first levels, or all make up the directory, each after a slash. -/
def Spells (l : Layout) (path : Fields String) (names : List String) : Prop :=
  match l.service with
  | .hadoopSql => path.keys <+: l.service.levels ∧ path.entries.map Prod.snd = names
  | .hdfs => ∃ directory, path.entries = [("path", directory)]
      ∧ directory.toList = l.rootWithoutSlash.toList ++ names.flatMap fun name => '/' :: name.toList

/-- **What translating an object should come to.** -/
structure Faithful (l : Layout) (o : CatalogObject) : Prop where
  /-- There is one way to fail. -/
  fault : ∀ f, l.path o = .error f → ∃ flaw, f = .unsupportedObject o.fullName flaw
  /-- A root covers everything, at every level. -/
  root : o.kind.isRoot = true → ∀ path, l.path o = .ok path →
    path.entries = l.service.levels.map fun level => (level, wildcard)
  /-- Below a root the path is not empty, and every name is in it. -/
  whole : o.kind.isRoot = false → ∀ path, l.path o = .ok path →
    path.entries ≠ [] ∧ l.Spells path o.names.tail
  /-- There is no path if there are no names for it, or too many. -/
  refused : o.kind.isRoot = false → ¬ l.service.Fits o.names.tail → (l.path o).toBool = false

/-! ## Directories -/

/-- A directory is the root directory and the names, each after a slash. -/
theorem toList_directory (l : Layout) (names : List String) : (l.directory names).toList
    = l.rootWithoutSlash.toList ++ names.flatMap fun name => '/' :: name.toList := by
  unfold directory
  generalize l.rootWithoutSlash = path
  induction names generalizing path with
  | nil => rw [List.foldl_nil, List.flatMap_nil, List.append_nil]
  | cons name names ih =>
      rw [List.foldl_cons, ih, List.flatMap_cons, String.toList_append, String.toList_append]
      simp

/-! ## Paths -/

/-- A path begins at the outermost level and leaves none out. -/
theorem path_keys (h : l.path o = .ok path) : path.keys <+: l.service.levels := by
  obtain ⟨vs, _, hentries⟩ := path_entries h
  rw [Fields.keys, hentries, map_fst_zip_eq_take]
  exact List.take_prefix _ _

/-- Which objects have a path depends on their kind alone. -/
theorem path_toBool_iff :
    (l.path o).toBool = true ↔ o.kind.isRoot = true ∨ o.kind ∈ l.service.kinds := by
  have hvalues : (l.path o).toBool = (l.values o).toBool := by
    unfold Layout.path
    cases l.values o with
    | error f => rfl
    | ok vs => rfl
  rw [hvalues, Layout.values]
  cases l.service with
  | hadoopSql => cases o.kind <;> simp [ObjectKind.isRoot, ServiceType.kinds, Except.toBool]
  | hdfs => cases o.kind <;> simp [ObjectKind.isRoot, ServiceType.kinds, Except.toBool]

theorem known_of_path (hroot : o.kind.isRoot = false) (h : l.path o = .ok path) :
    o.kind ∈ l.service.kinds := by
  refine (path_toBool_iff.mp (congrArg Except.toBool h)).resolve_left fun hyes => ?_
  rw [hroot] at hyes
  exact absurd hyes (by simp)

theorem path_of_root (hroot : o.kind.isRoot = true) (h : l.path o = .ok path) :
    path.entries = l.service.levels.map fun level => (level, wildcard) := by
  obtain ⟨vs, hvs, hentries⟩ := path_entries h
  rw [hentries, values_eq hvs, if_pos hroot]
  cases l.service with
  | hadoopSql => rfl
  | hdfs => rfl

/-- **A path has as many names in it as there is room for.** -/
theorem path_spells (hroot : o.kind.isRoot = false) (h : l.path o = .ok path) :
    l.Spells path (l.service.room o.names.tail) := by
  obtain ⟨vs, hvs, hentries⟩ := path_entries h
  rw [values_eq hvs, hroot, if_neg (by simp)] at hentries
  unfold Spells
  cases hservice : l.service with
  | hadoopSql =>
      rw [hservice] at hentries
      refine ⟨hservice ▸ path_keys h, ?_⟩
      rw [hentries, map_snd_zip_eq_take]
      rfl
  | hdfs =>
      rw [hservice] at hentries
      exact ⟨_, hentries, toList_directory l o.names.tail⟩

theorem Spells.ne_nil (h : l.Spells path names) (hnames : names ≠ []) : path.entries ≠ [] := by
  intro hnil
  unfold Spells at h
  split at h
  · rw [hnil] at h
    exact hnames h.2.symm
  · obtain ⟨directory, hentries, _⟩ := h
    rw [hnil] at hentries
    exact absurd hentries (by simp)

/-- **A checked name fits**, since each kind that a service knows has few enough levels. -/
theorem fits_of_kind (hlevels : o.names.length = o.kind.levels) (hkind : o.kind ∈ l.service.kinds) :
    l.service.Fits o.names.tail := by
  have hcount : o.names.tail.length = o.kind.levels - 1 := by rw [List.length_tail, hlevels]
  have hbounds : 1 ≤ o.kind.levels - 1
      ∧ (l.service = .hadoopSql → o.kind.levels - 1 ≤ l.service.levels.length) := by
    revert hkind
    cases l.service with
    | hadoopSql => cases o.kind <;> decide
    | hdfs => cases o.kind <;> decide
  rw [← hcount] at hbounds
  exact ⟨List.ne_nil_of_length_pos hbounds.1, hbounds.2⟩

/-! ## Faithful translations -/

theorem faithful_of_root (hroot : o.kind.isRoot = true) : l.Faithful o where
  fault := fun _ => path_error
  root := fun hroot _ => path_of_root hroot
  whole := fun hnot => absurd hroot (by rw [hnot]; simp)
  refused := fun hnot => absurd hroot (by rw [hnot]; simp)

/-- Kinds that the service does not know are refused, whatever the object is called. -/
theorem faithful_of_unknown (hkind : o.kind ∉ l.service.kinds) : l.Faithful o where
  fault := fun _ => path_error
  root := fun hroot _ => path_of_root hroot
  whole := fun hroot _ hpath => absurd (known_of_path hroot hpath) hkind
  refused := by
    intro hroot _
    rw [← Bool.not_eq_true, path_toBool_iff, hroot]
    intro h
    exact hkind (h.resolve_left (by simp))

theorem faithful_of_fits (hfits : l.service.Fits o.names.tail) : l.Faithful o where
  fault := fun _ => path_error
  root := fun hroot _ => path_of_root hroot
  whole := by
    intro hroot path hpath
    have hspells := path_spells hroot hpath
    rw [hfits.room_eq] at hspells
    exact ⟨hspells.ne_nil hfits.1, hspells⟩
  refused := fun _ hnot => absurd hfits hnot

/-- What does not fit would be refused, but kinds that the service knows have a path. -/
theorem Faithful.fits (h : l.Faithful o) (hroot : o.kind.isRoot = false)
    (hkind : o.kind ∈ l.service.kinds) : l.service.Fits o.names.tail := by
  by_contra hnot
  have hrefused := h.refused hroot hnot
  rw [path_toBool_iff.mpr (Or.inr hkind)] at hrefused
  exact absurd hrefused (by simp)

/-- **Translating is faithful exactly where the names fit**, in every layout and whatever an object
may be called: on roots, on kinds that the service does not know, and else if there is a name below
the catalogue, and in a SQL service no more of them than levels. Where it is not, the path has the
names that there is room for, perhaps none. Whether there is a path depends on the kind alone, and
objects whose names were checked are translated faithfully. -/
theorem faithful_iff (l : Layout) (o : CatalogObject) :
    (l.Faithful o ↔ o.kind.isRoot = true ∨ o.kind ∉ l.service.kinds ∨ l.service.Fits o.names.tail)
      ∧ (o.kind.isRoot = false → ∀ path, l.path o = .ok path →
        l.Spells path (l.service.room o.names.tail))
      ∧ ((l.path o).toBool = true ↔ o.kind.isRoot = true ∨ o.kind ∈ l.service.kinds)
      ∧ (CatalogObject.ofName? o.fullName o.kind = .ok o → l.Faithful o) := by
  refine ⟨⟨fun h => ?_, fun h => ?_⟩, fun hroot path => path_spells hroot, path_toBool_iff,
    fun hchecked => ?_⟩
  · by_cases hroot : o.kind.isRoot = true
    · exact Or.inl hroot
    · by_cases hkind : o.kind ∈ l.service.kinds
      · exact Or.inr (Or.inr (h.fits (Bool.eq_false_iff.mpr hroot) hkind))
      · exact Or.inr (Or.inl hkind)
  · rcases h with hroot | hkind | hfits
    · exact faithful_of_root hroot
    · exact faithful_of_unknown hkind
    · exact faithful_of_fits hfits
  · by_cases hkind : o.kind ∈ l.service.kinds
    · exact faithful_of_fits
        (fits_of_kind (CatalogObject.ofName?_eq_ok_iff.mp hchecked).2.2 hkind)
    · exact faithful_of_unknown hkind

/-- A SQL service. -/
def inTables : Layout := { service := .hadoopSql }

/-- A field of a column that is a record, called after the column. -/
def nestedField : CatalogObject := ⟨"cat.db.people.address.city", .column⟩

/-- A schema that is called like a catalogue. -/
def nameless : CatalogObject := ⟨"cat", .schema⟩

/-- A file system. -/
def inWarehouse : Layout := { service := .hdfs, root := "/warehouse/" }

/-- A fileset that is called as filesets are has all of its name in its path, and of the field there
are the first three names. -/
theorem faithful_iff_fileset : inWarehouse.Faithful ⟨"cat.db.files", .fileset⟩
    ∧ ∃ path, inTables.path nestedField = .ok path
      ∧ inTables.Spells path ["db", "people", "address"] := by
  have hpath : inTables.path nestedField
      = .ok (Fields.ofPairs [("database", "db"), ("table", "people"), ("column", "address")]) := by
    decide +kernel
  obtain ⟨_, hspells, _, _⟩ := faithful_iff inTables nestedField
  obtain ⟨_, _, _, hchecked⟩ := faithful_iff inWarehouse ⟨"cat.db.files", .fileset⟩
  have hroom : inTables.service.room nestedField.names.tail = ["db", "people", "address"] := by
    decide +kernel
  exact ⟨hchecked (by decide +kernel), _, hpath, hroom ▸ hspells rfl _ hpath⟩

/-- **Names are left out without a word**: what is granted on the field is granted on the whole
column. And the schema, which has no name of its own, has a path without levels. -/
theorem not_faithful_nestedField :
    (inTables.path nestedField).toOption.map Fields.entries
        = some [("database", "db"), ("table", "people"), ("column", "address")]
      ∧ inTables.path nestedField = inTables.path ⟨"cat.db.people.address", .column⟩
      ∧ (inTables.path nameless).toOption.map Fields.entries = some []
      ∧ ¬ inTables.Faithful nestedField ∧ ¬ inTables.Faithful nameless := by
  refine ⟨by decide +kernel, by decide +kernel, by decide +kernel, fun h => ?_, fun h => ?_⟩
  · have hfits : ¬ inTables.service.Fits nestedField.names.tail :=
      fun hfits => absurd (hfits.2 rfl) (by decide +kernel)
    exact absurd (h.refused rfl hfits) (by decide +kernel)
  · have hfits : ¬ inTables.service.Fits nameless.names.tail :=
      fun hfits => hfits.1 (by decide +kernel)
    exact absurd (h.refused rfl hfits) (by decide +kernel)

end Layout

end PolicyKeeper
