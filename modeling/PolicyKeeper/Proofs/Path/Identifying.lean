import Mathlib.Data.List.Nodup
import PolicyKeeper.Proofs.Path.Translating
import PolicyKeeper.Proofs.Text.Splitting

/-!
# What a path tells of its object

A path does not say which catalogue its object is in, but all else can be read off it: two objects
have one path only if both are roots, or if they are of one kind and have the same names below the
catalogue (`Layout.path_identifies`). For that the names must not hold slashes, which would be taken
for steps of a directory, and none may be the wildcard, which stands for everything.

Paths are nested like the objects: what is directly inside another object has the path of that, and
its own name at the end (`Layout.Extends`). Slashes at the end of the root directory do not count.
-/

namespace PolicyKeeper

/-! ## Objects -/

namespace CatalogObject

/-- The full name was checked, and its parts are neither wildcards nor directories. -/
structure Ordinary (o : CatalogObject) : Prop where
  checked : ofName? o.fullName o.kind = .ok o
  noSlash : ∀ name ∈ o.names, '/' ∉ name.toList
  noWildcard : ∀ name ∈ o.names, name ≠ wildcard

theorem Ordinary.levels {o : CatalogObject} (h : o.Ordinary) : o.names.length = o.kind.levels :=
  (ofName?_eq_ok_iff.mp h.checked).2.2

/-- Both cover everything, or they are the same thing in two catalogues, or in one. -/
def AlikeBelow (o o' : CatalogObject) : Prop :=
  (o.kind.isRoot = true ∧ o'.kind.isRoot = true)
    ∨ (o.kind.isRoot = false ∧ o'.kind.isRoot = false ∧ o.kind = o'.kind
      ∧ o.names.tail = o'.names.tail)

/-- An object has the names of the object around it, and its own. -/
theorem names_of_parent? {o outer : CatalogObject} (h : o.parent? = some outer.fullName) :
    o.names = outer.names ++ [o.name] := Text.split_of_beforeLast? h

end CatalogObject

/-! ## Tables with an order -/

/-- Two tables with the same names in the same order are the same if they give the same answers. -/
theorem Fields.eq_of_keys {α : Type} {f g : Fields α} (hkeys : f.keys = g.keys)
    (h : f.get? = g.get?) : f = g := by
  have hentries : ∀ f : Fields α,
      f.entries = f.keys.filterMap fun key => (f.get? key).map fun value => (key, value) := by
    intro f
    rw [Fields.keys, List.filterMap_map]
    refine (List.filterMap_some.symm.trans (List.filterMap_congr fun e he => ?_))
    have hget : f.get? e.1 = some e.2 := get?_eq_some_iff.mpr he
    show some e = (f.get? e.1).map fun value => (e.1, value)
    rw [hget]
    rfl
  refine ext_entries ?_
  rw [hentries f, hentries g, hkeys, h]

/-- A new last element stands beside the next one of the other list. -/
theorem zip_concat_of_getElem? {α β : Type} {as : List α} {bs : List β} {a : α} {b : β}
    (h : as[bs.length]? = some a) : as.zip (bs ++ [b]) = as.zip bs ++ [(a, b)] := by
  induction bs generalizing as with
  | nil =>
      cases as with
      | nil => exact absurd h (by simp)
      | cons first as =>
          obtain rfl : first = a := by simpa using h
          rw [List.nil_append, List.zip_cons_cons, List.zip_nil_right, List.zip_nil_right,
            List.nil_append]
  | cons first bs ih =>
      cases as with
      | nil => exact absurd h (by simp)
      | cons x as =>
          rw [List.cons_append, List.zip_cons_cons, List.zip_cons_cons, List.cons_append, ih]
          simpa using h

namespace Layout

variable {l : Layout} {o o' outer : CatalogObject} {path path' around : Fields String}
  {names names' : List String}

/-- **One path goes a step further than another**: it has the name at one more level, or at the end
of the directory. -/
def Extends (l : Layout) (around path : Fields String) (name : String) : Prop :=
  match l.service with
  | .hadoopSql => ∃ level, l.service.levels[around.size]? = some level
      ∧ path.entries = around.entries ++ [(level, name)]
  | .hdfs => ∃ directory, around.entries = [("path", directory)]
      ∧ path.entries = [("path", directory ++ "/" ++ name)]

/-! ## What is spelt -/

/-- Names without slashes can be read off what is put together from them. -/
theorem eq_of_flatMap_slash (hnames : ∀ name ∈ names, '/' ∉ name.toList)
    (hnames' : ∀ name ∈ names', '/' ∉ name.toList)
    (h : (names.flatMap fun name => '/' :: name.toList)
      = names'.flatMap fun name => '/' :: name.toList) : names = names' := by
  have hsplit : ∀ {names : List String}, (∀ name ∈ names, '/' ∉ name.toList) →
      Text.splitChars '/' (names.flatMap fun name => '/' :: name.toList)
        = [] :: names.map String.toList := by
    intro names hnames
    rw [← Text.splitChars_flatMap (List.forall_mem_map.mpr hnames), List.flatMap_map]
  have hpieces := (hsplit hnames).symm.trans (h ▸ hsplit hnames')
  exact List.map_injective_iff.mpr (fun a b => String.toList_inj.mp) (List.cons.inj hpieces).2

/-- **A path spells one list of names only.** -/
theorem Spells.unique (h : l.Spells path names) (h' : l.Spells path names')
    (hnames : ∀ name ∈ names, '/' ∉ name.toList) (hnames' : ∀ name ∈ names', '/' ∉ name.toList) :
    names = names' := by
  unfold Spells at h h'
  split at h
  · rename_i hservice
    rw [hservice] at h'
    exact h.2.symm.trans h'.2
  · rename_i hservice
    rw [hservice] at h'
    obtain ⟨directory, hentries, hspelt⟩ := h
    obtain ⟨directory', hentries', hspelt'⟩ := h'
    rw [hentries] at hentries'
    cases hentries'
    exact eq_of_flatMap_slash hnames hnames'
      (List.append_cancel_left (hspelt.symm.trans hspelt'))

/-- A checked name is spelt in full. -/
theorem spells_of_checked (hlevels : o.names.length = o.kind.levels) (hroot : o.kind.isRoot = false)
    (h : l.path o = .ok path) : l.Spells path o.names.tail := by
  have hspells := path_spells hroot h
  rwa [(fits_of_kind hlevels (known_of_path hroot h)).room_eq] at hspells

/-- What covers everything spells no names. -/
theorem not_spells_of_root
    (hentries : path.entries = l.service.levels.map fun level => (level, wildcard))
    (hnames : names ≠ []) (hplain : ∀ name ∈ names, name ≠ wildcard) : ¬ l.Spells path names := by
  intro h
  obtain ⟨name, rest, rfl⟩ := List.exists_cons_of_ne_nil hnames
  unfold Spells at h
  split at h
  · rename_i hservice
    rw [hentries, hservice] at h
    have hfirst : wildcard = name := (List.cons.inj h.2).1
    exact hplain name List.mem_cons_self hfirst.symm
  · rename_i hservice
    obtain ⟨directory, hdirectory, hspelt⟩ := h
    rw [hentries, hservice] at hdirectory
    cases hdirectory
    have hslash : '/' ∈ wildcard.toList := by
      rw [hspelt]
      simp
    exact absurd hslash (by decide)

/-! ## Two objects -/

/-- The order of the levels is fixed, so paths that are the same as tables are the same. -/
theorem path_sameAs_iff (h : l.path o = .ok path) (h' : l.path o' = .ok path') :
    path.sameAs path' = true ↔ path = path' := by
  rw [Fields.sameAs_iff]
  refine ⟨fun hget => ?_, fun heq => by rw [heq]⟩
  have hperm : path.keys.Perm path'.keys := by
    refine (List.perm_ext_iff_of_nodup path.nodup path'.nodup).mpr fun level => ?_
    rw [← not_iff_not]
    exact Fields.get?_eq_none_iff.symm.trans (hget ▸ Fields.get?_eq_none_iff)
  have hstart := List.prefix_of_prefix_length_le (path_keys h) (path_keys h')
    (Nat.le_of_eq hperm.length_eq)
  exact Fields.eq_of_keys (hstart.eq_of_length hperm.length_eq) hget

/-- Kinds that one service knows are told apart by their levels. -/
theorem kind_eq_of_levels {service : ServiceType} {kind kind' : ObjectKind}
    (hkind : kind ∈ service.kinds) (hkind' : kind' ∈ service.kinds)
    (h : kind.levels = kind'.levels) : kind = kind' := by
  have hnodup : (service.kinds.map ObjectKind.levels).Nodup := by
    cases service with
    | hadoopSql => decide
    | hdfs => decide
  exact List.inj_on_of_nodup_map hnodup hkind hkind' h

theorem ordinary_tail (h : o.Ordinary) : (∀ name ∈ o.names.tail, '/' ∉ name.toList)
    ∧ ∀ name ∈ o.names.tail, name ≠ wildcard :=
  ⟨fun name hmem => h.noSlash name (List.mem_of_mem_tail hmem),
    fun name hmem => h.noWildcard name (List.mem_of_mem_tail hmem)⟩

/-- A root has no path of what is below. -/
theorem path_ne_of_root (ho' : o'.Ordinary) (h : l.path o = .ok path) (h' : l.path o' = .ok path')
    (hroot : o.kind.isRoot = true) (hroot' : o'.kind.isRoot = false) : path ≠ path' := by
  intro heq
  subst heq
  have hfits := fits_of_kind ho'.levels (known_of_path hroot' h')
  exact not_spells_of_root (path_of_root hroot h) hfits.1 (ordinary_tail ho').2
    (spells_of_checked ho'.levels hroot' h')

/-- **Two objects share a path exactly if they are alike below the catalogue.** -/
theorem path_eq_iff (ho : o.Ordinary) (ho' : o'.Ordinary) (h : l.path o = .ok path)
    (h' : l.path o' = .ok path') : path = path' ↔ o.AlikeBelow o' := by
  refine ⟨fun heq => ?_, ?_⟩
  · cases hroot : o.kind.isRoot with
    | true =>
        cases hroot' : o'.kind.isRoot with
        | true => exact Or.inl ⟨hroot, hroot'⟩
        | false => exact absurd heq (path_ne_of_root ho' h h' hroot hroot')
    | false =>
        cases hroot' : o'.kind.isRoot with
        | true => exact absurd heq.symm (path_ne_of_root ho h' h hroot' hroot)
        | false =>
            subst heq
            have htail : o.names.tail = o'.names.tail :=
              (spells_of_checked ho.levels hroot h).unique (spells_of_checked ho'.levels hroot' h')
                (ordinary_tail ho).1 (ordinary_tail ho').1
            -- as many names, so as many levels, and the service has one kind for each
            have hlevels : o.kind.levels = o'.kind.levels := by
              have hcount := congrArg List.length htail
              have hpos := List.length_pos_of_ne_nil o.names_ne_nil
              have hpos' := List.length_pos_of_ne_nil o'.names_ne_nil
              rw [List.length_tail, List.length_tail] at hcount
              rw [← ho.levels, ← ho'.levels]
              omega
            exact Or.inr ⟨hroot, hroot', kind_eq_of_levels (known_of_path hroot h)
              (known_of_path hroot' h') hlevels, htail⟩
  · intro halike
    rcases halike with ⟨hroot, hroot'⟩ | ⟨hroot, hroot', _, htail⟩
    · exact Fields.ext_entries ((path_of_root hroot h).trans (path_of_root hroot' h').symm)
    · exact path_eq_of_tail h h' (hroot.trans hroot'.symm) htail

/-! ## An object and what is around it -/

theorem directory_concat (l : Layout) (names : List String) (name : String) :
    l.directory (names ++ [name]) = l.directory names ++ "/" ++ name := by
  unfold directory
  rw [List.foldl_append]
  rfl

/-- **What is directly inside has the path of what is around it, and its own name.** -/
theorem path_extends (hlevels : o.names.length = o.kind.levels) (h : l.path o = .ok path)
    (haround : l.path outer = .ok around) (hroot : o.kind.isRoot = false)
    (hroot' : outer.kind.isRoot = false) (hparent : o.parent? = some outer.fullName) :
    l.Extends around path o.name := by
  obtain ⟨vs, hvs, hentries⟩ := path_entries h
  obtain ⟨vs', hvs', hentries'⟩ := path_entries haround
  rw [values_eq hvs, hroot, if_neg (by simp)] at hentries
  rw [values_eq hvs', hroot', if_neg (by simp)] at hentries'
  have htail : o.names.tail = outer.names.tail ++ [o.name] := by
    rw [CatalogObject.names_of_parent? hparent, List.tail_append_of_ne_nil outer.names_ne_nil]
  rw [htail] at hentries
  unfold Extends
  cases hservice : l.service with
  | hadoopSql =>
      rw [hservice] at hentries hentries'
      -- the last name is one of those that there is room for
      have hroom : outer.names.tail.length < ServiceType.hadoopSql.levels.length := by
        have hfits := fits_of_kind hlevels (known_of_path hroot h)
        have hcount := hfits.2 hservice
        rw [htail, hservice, List.length_append, List.length_singleton] at hcount
        exact hcount
      have hsize : around.size = outer.names.tail.length := by
        rw [Fields.size, hentries', List.length_zip]
        exact Nat.min_eq_right (Nat.le_of_lt hroom)
      have hlevel := List.getElem?_eq_getElem hroom
      rw [hentries, hentries', hsize]
      exact ⟨_, hlevel, zip_concat_of_getElem? hlevel⟩
  | hdfs =>
      rw [hservice] at hentries hentries'
      exact ⟨_, hentries', by rw [hentries, directory_concat]; rfl⟩

/-! ## The root directory -/

/-- The layout with some more slashes at the end of the root directory. -/
def slashed (l : Layout) (count : Nat) : Layout :=
  { l with root := l.root ++ String.ofList (List.replicate count '/') }

theorem rootWithoutSlash_slashed (l : Layout) (count : Nat) :
    (l.slashed count).rootWithoutSlash = l.rootWithoutSlash := by
  unfold rootWithoutSlash slashed
  rw [String.toList_append, String.toList_ofList, List.reverse_append, List.reverse_replicate,
    List.dropWhile_append_of_pos]
  intro c hc
  rw [List.eq_of_mem_replicate hc]
  rfl

/-- Slashes at the end of the root directory make no difference. -/
theorem path_slashed (l : Layout) (count : Nat) (o : CatalogObject) :
    (l.slashed count).path o = l.path o := by
  have hdirectory : ∀ names, (l.slashed count).directory names = l.directory names := by
    intro names
    unfold directory
    rw [rootWithoutSlash_slashed]
  unfold Layout.path Layout.values
  simp only [hdirectory]
  rfl

/-- **Paths identify objects up to the catalogue.** In every layout:

* two objects with checked names, none of them a wildcard or with a slash in it, share a path
  exactly if both are roots, or if they are of one kind and have the same names below the catalogue;
  and it makes no difference whether paths are compared as tables or as they are;
* the path of an object goes one step further than that of the object around it, by its own name;
* the path is the same with any number of slashes after the root directory. -/
theorem path_identifies (l : Layout) :
    (∀ o o' path path', o.Ordinary → o'.Ordinary → l.path o = .ok path → l.path o' = .ok path' →
        (path = path' ↔ o.AlikeBelow o') ∧ (path.sameAs path' = true ↔ o.AlikeBelow o'))
      ∧ (∀ o outer path around, CatalogObject.ofName? o.fullName o.kind = .ok o →
        l.path o = .ok path → l.path outer = .ok around → o.kind.isRoot = false →
        outer.kind.isRoot = false → o.parent? = some outer.fullName →
        l.Extends around path o.name)
      ∧ ∀ count o, (l.slashed count).path o = l.path o := by
  refine ⟨fun o o' path path' ho ho' h h' => ?_, fun o outer path around hchecked h haround hroot
    hroot' hparent => ?_, path_slashed l⟩
  · rw [path_sameAs_iff h h']
    exact ⟨path_eq_iff ho ho' h h', path_eq_iff ho ho' h h'⟩
  · exact path_extends (CatalogObject.ofName?_eq_ok_iff.mp hchecked).2.2 h haround hroot hroot'
      hparent

/-- A fileset. -/
def files : CatalogObject := ⟨"cat.db.files", .fileset⟩

/-- The fileset of the same name in another catalogue. -/
def copies : CatalogObject := ⟨"prod.db.files", .fileset⟩

/-- The schema that the fileset is in. -/
def shelf : CatalogObject := ⟨"cat.db", .schema⟩

theorem path_identifies_files : inWarehouse.path files = inWarehouse.path copies
    ∧ inWarehouse.path files ≠ inWarehouse.path shelf
    ∧ ∃ path around, inWarehouse.path files = .ok path ∧ inWarehouse.path shelf = .ok around
      ∧ inWarehouse.Extends around path "files"
      ∧ (inWarehouse.slashed 3).path files = .ok path := by
  have hfiles : inWarehouse.path files
      = .ok (Fields.ofPairs [("path", "/warehouse/db/files")]) := by decide +kernel
  have hcopies : inWarehouse.path copies
      = .ok (Fields.ofPairs [("path", "/warehouse/db/files")]) := by decide +kernel
  have hshelf : inWarehouse.path shelf = .ok (Fields.ofPairs [("path", "/warehouse/db")]) := by
    decide +kernel
  have hordinary : files.Ordinary ∧ copies.Ordinary ∧ shelf.Ordinary :=
    ⟨⟨by decide +kernel, by decide +kernel, by decide +kernel⟩,
      ⟨by decide +kernel, by decide +kernel, by decide +kernel⟩,
      ⟨by decide +kernel, by decide +kernel, by decide +kernel⟩⟩
  obtain ⟨hshared, hextends, hslashed⟩ := path_identifies inWarehouse
  have hsame := (hshared _ _ _ _ hordinary.1 hordinary.2.1 hfiles hcopies).1.mpr
    (Or.inr ⟨rfl, rfl, rfl, by decide +kernel⟩)
  have hother : ¬ files.AlikeBelow shelf := by
    intro halike
    rcases halike with ⟨hroot, _⟩ | ⟨_, _, hkind, _⟩
    · exact absurd hroot (by decide)
    · exact absurd hkind (by decide)
  refine ⟨by rw [hfiles, hcopies, hsame], fun heq => hother ?_, _, _, hfiles, hshelf, ?_, ?_⟩
  · rw [hfiles, hshelf] at heq
    exact (hshared _ _ _ _ hordinary.1 hordinary.2.2 hfiles hshelf).1.mp (Except.ok.inj heq)
  · exact hextends files shelf _ _ hordinary.1.checked hfiles hshelf rfl rfl (by decide +kernel)
  · rw [hslashed, hfiles]

end Layout

end PolicyKeeper
