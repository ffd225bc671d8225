import PolicyKeeper.Proofs.Path.Identifying

/-!
# Full names

A full name is taken apart in three ways: into all of its names, into the last of them, and into
what is before that, which is the full name of the object around. Each goes through the text by
itself, the second and the third from the end. They agree on every text, whether it was checked or
not, and wherever it has its dots: the names are what the full name is put together of, with dots
between them and in none of them, and there is only one way to see it so. An object whose full name
was checked lies in an object whose full name would pass the same check.
-/

namespace PolicyKeeper.CatalogObject

variable {o : CatalogObject}

/-- **The full name is put together of the names**: there are dots between them, and in none of
them. -/
structure MadeOf (fullName : String) (names : List String) : Prop where
  nonempty : names ≠ []
  noDot : ∀ name ∈ names, '.' ∉ name.toList
  joined : ".".intercalate names = fullName

/-- There is something in the name but white space. -/
def Visible (name : String) : Prop := ∃ c ∈ name.toList, Text.isBlank c = false

theorem visible_iff {name : String} : Visible name ↔ Text.isAllBlank name = false := by
  rw [Visible, Text.isAllBlank, List.all_eq_false]
  simp only [Bool.not_eq_true]

/-- A full name is put together of its names, and of no others. -/
theorem madeOf_iff {names : List String} : MadeOf o.fullName names ↔ names = o.names := by
  have hdot : String.singleton '.' = "." := by decide
  unfold CatalogObject.names
  rw [Text.eq_split_iff, hdot]
  exact ⟨fun h => ⟨h.nonempty, h.noDot, h.joined⟩, fun h => ⟨h.1, h.2.1, h.2.2⟩⟩

/-- **What it takes to be checked.** -/
theorem ofName?_self_iff : ofName? o.fullName o.kind = .ok o
    ↔ o.names.length = o.kind.levels ∧ ∀ name ∈ o.names, Visible name := by
  simp only [visible_iff]
  rw [ofName?_eq_ok_iff]
  exact ⟨fun h => ⟨h.2.2, h.2.1⟩, fun h => ⟨rfl, h.2, h.1⟩⟩

/-! ## The object around -/

theorem parent?_eq_none_iff : o.parent? = none ↔ o.names.length = 1 := by
  cases hparent : o.parent? with
  | none =>
      have hnot := Text.beforeLast?_eq_none_iff.mp hparent
      refine iff_of_true rfl ?_
      rw [names, Text.split_of_not_mem hnot]
      rfl
  | some outer =>
      -- there is the own name, and in front of it at least one more
      have hnames : o.names = (⟨outer, o.kind⟩ : CatalogObject).names ++ [o.name] :=
        names_of_parent? hparent
      have hfront := List.length_pos_of_ne_nil (names_ne_nil ⟨outer, o.kind⟩)
      refine iff_of_false (by simp) fun hone => ?_
      rw [hnames, List.length_append, List.length_singleton] at hone
      omega

/-- The names of the object around are all but the last. -/
theorem dropLast_names {outer : CatalogObject} (h : o.parent? = some outer.fullName) :
    o.names.dropLast = outer.names := by
  rw [names_of_parent? h, List.dropLast_concat]

/-- What is around an object that was checked passes the check itself, as anything that has one
level less. -/
theorem checked_of_parent? (outer : CatalogObject) (hchecked : ofName? o.fullName o.kind = .ok o)
    (hparent : o.parent? = some outer.fullName) (hlevels : outer.kind.levels + 1 = o.kind.levels) :
    ofName? outer.fullName outer.kind = .ok outer := by
  obtain ⟨hcount, hvisible⟩ := ofName?_self_iff.mp hchecked
  have houter := dropLast_names hparent
  refine ofName?_self_iff.mpr ⟨?_, fun name hname => hvisible name ?_⟩
  · rw [← houter, List.length_dropLast, hcount]
    omega
  · rw [← houter] at hname
    exact List.mem_of_mem_take (List.dropLast_eq_take ▸ hname)

/-- **Full names are taken apart consistently.** For every text and every kind:

* there is exactly one list of names that the full name is put together of;
* the object is taken if there are as many of them as the kind has levels, and something can be seen
  in each, and else it is not;
* the own name is the last of the names;
* there is no object around if there is one name only, and else its full name is put together of
  all names but the last;
* if the object was taken, then what is around it is taken as any kind with one level less. -/
theorem names_consistent (o : CatalogObject) :
    (∀ names, MadeOf o.fullName names ↔ names = o.names)
      ∧ ((∃ o', ofName? o.fullName o.kind = .ok o')
        ↔ o.names.length = o.kind.levels ∧ ∀ name ∈ o.names, Visible name)
      ∧ o.names.getLast? = some o.name
      ∧ (o.parent? = none ↔ o.names.length = 1)
      ∧ ∀ outer, o.parent? = some outer → MadeOf outer o.names.dropLast
        ∧ ∀ o', ofName? o.fullName o.kind = .ok o' →
          ∀ kind : ObjectKind, kind.levels + 1 = o'.kind.levels →
            ofName? outer kind = .ok ⟨outer, kind⟩ := by
  have hself : ∀ {o'}, ofName? o.fullName o.kind = .ok o' → o' = o :=
    fun h => (ofName?_eq_ok_iff.mp h).1
  refine ⟨fun names => madeOf_iff, ⟨?_, ?_⟩, Text.getLast?_split '.' o.fullName,
    parent?_eq_none_iff, fun outer hparent => ⟨?_, ?_⟩⟩
  · rintro ⟨o', h⟩
    obtain rfl := hself h
    exact ofName?_self_iff.mp h
  · exact fun h => ⟨o, ofName?_self_iff.mpr h⟩
  · exact (madeOf_iff (o := ⟨outer, o.kind⟩)).mpr (dropLast_names hparent)
  · intro o' h kind hlevels
    obtain rfl := hself h
    exact checked_of_parent? ⟨outer, kind⟩ h hparent hlevels

/-- A table in a schema whose name begins with a no-break space. -/
def orders : CatalogObject := ⟨"shop.\u00a0sales.orders", .table⟩

/-- A space in a name does no harm, so the table is taken, and what is around it is taken as a
schema. A name of nothing but spaces is refused. -/
theorem names_consistent_orders :
    ofName? orders.fullName .table = .ok orders
      ∧ MadeOf "shop.\u00a0sales" ["shop", "\u00a0sales"]
      ∧ ofName? "shop.\u00a0sales" .schema = .ok ⟨"shop.\u00a0sales", .schema⟩
      ∧ ¬ ∃ o, ofName? "shop.\u00a0\u2003.orders" .table = .ok o := by
  have hchecked : ofName? orders.fullName orders.kind = .ok orders := by decide +kernel
  have hparent : orders.parent? = some "shop.\u00a0sales" := by decide +kernel
  have hnames : orders.names.dropLast = ["shop", "\u00a0sales"] := by decide +kernel
  obtain ⟨_, _, _, _, houter⟩ := names_consistent orders
  obtain ⟨hmade, htaken⟩ := houter _ hparent
  refine ⟨hchecked, hnames ▸ hmade, htaken orders hchecked .schema rfl, fun h => ?_⟩
  obtain ⟨_, hiff, _⟩ := names_consistent ⟨"shop.\u00a0\u2003.orders", .table⟩
  have hvisible := (hiff.mp h).2 "\u00a0\u2003" (by decide +kernel)
  have hblank : Text.isAllBlank "\u00a0\u2003" = true := by decide +kernel
  rw [visible_iff, hblank] at hvisible
  exact absurd hvisible (by simp)

end PolicyKeeper.CatalogObject
