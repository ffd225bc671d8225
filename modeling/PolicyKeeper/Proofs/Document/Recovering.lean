import PolicyKeeper.Proofs.Document.Records

/-!
# What is written is read back

Writing and reading a record go by the same names, with the same default for what is not there. So
a record comes back from its own document, item by item and with all that it keeps (`Beside`), in
order. There is one way to lose something: what is kept beside a record must not have a name that
the record knows, or it is read as the member of that name.
-/

namespace PolicyKeeper

open Json (Members ofTexts)
open Json.Members (Apart Slots ofSlots)

/-- What is kept beside the members that a record knows: it has names of its own, and its values are
such as are kept. -/
structure Beside (known : List String) (extra : Fields Json) : Prop where
  free : ∀ e ∈ extra.entries, e.1 ∉ known
  proper : ∀ e ∈ extra.entries, e.2.IsProper

theorem Beside.of_kept {ms : Members} {known : List String} {extra : Fields Json}
    (h : ms.kept? known = some extra) : Beside known extra :=
  ⟨fun _ he => (Members.of_mem_kept h he).1, fun _ he => (Members.of_mem_kept h he).2⟩

/-- An id has 64 bits. -/
def IsIdIfAny (id : Option Int) : Prop := ∀ n ∈ id, Json.isId n = true

theorem id?_int {n : Int} (h : Json.isId n = true) : Json.id? (.int n) = some n := if_pos h

theorem isIdIfAny_of_maybe {ms : Members} {name : String} {id : Option Int}
    (h : ms.maybe? name Json.id? = some id) : IsIdIfAny id := by
  rcases Members.maybe?_eq_some_iff.mp h with ⟨_, rfl⟩ | ⟨v, n, _, _, hv, rfl⟩
  · exact fun _ h => absurd h (by simp)
  · intro m hm
    cases hm
    cases v with
    | int k =>
        rw [Json.id?] at hv
        split at hv
        · cases hv
          assumption
        · exact absurd hv (by simp)
    | _ => exact absurd hv (by simp [Json.id?])

/-! ## Records that keep nothing -/

theorem Resource.toldBy_slots (r : Resource) : r.ToldBy (ofSlots r.slots ++ []) where
  values := r.apart.get? ofTexts (by simp [slots]) (Json.texts?_ofTexts _)
  isExcludes := r.apart.get? .bool (by simp [slots]) rfl
  isRecursive := r.apart.get? .bool (by simp [slots]) rfl

theorem Resource.ofJson?_toJson (r : Resource) : ofJson? r.toJson = some r := by
  rw [toJson_eq, ofJson?_eq_some_iff]
  exact ⟨_, rfl, r.toldBy_slots⟩

theorem Access.toldBy_slots (a : Access) : a.ToldBy (ofSlots a.slots ++ []) where
  type := a.apart.need? .str (by simp [slots]) rfl
  isAllowed := a.apart.get? .bool (by simp [slots]) rfl

theorem Access.ofJson?_toJson (a : Access) : ofJson? a.toJson = some a := by
  rw [toJson_eq, ofJson?_eq_some_iff]
  exact ⟨_, rfl, a.toldBy_slots⟩

theorem RoleMember.toldBy_slots (m : RoleMember) : m.ToldBy (ofSlots m.slots ++ []) where
  name := m.apart.need? .str (by simp [slots]) rfl
  isAdmin := m.apart.get? .bool (by simp [slots]) rfl

theorem RoleMember.ofJson?_toJson (m : RoleMember) : ofJson? m.toJson = some m := by
  rw [toJson_eq, ofJson?_eq_some_iff]
  exact ⟨_, rfl, m.toldBy_slots⟩

/-! ## Items -/

namespace Item

variable {i : Item}

/-- What the item keeps is apart from its members. -/
def KeptApart (i : Item) : Prop := Beside memberNames i.extra

theorem KeptApart.toldBy_slots (h : i.KeptApart) :
    i.ToldBy (ofSlots i.slots ++ i.extra.entries) :=
  have hap := apart h.free
  { accesses := hap.get? (fun as => .arr (as.map Access.toJson)) (by simp [slots])
      (Json.list?_map fun a _ => a.ofJson?_toJson)
    users := hap.get? ofTexts (by simp [slots]) (Json.texts?_ofTexts _)
    groups := hap.get? ofTexts (by simp [slots]) (Json.texts?_ofTexts _)
    roles := hap.get? ofTexts (by simp [slots]) (Json.texts?_ofTexts _)
    delegateAdmin := hap.get? .bool (by simp [slots]) rfl
    extra := hap.kept? h.proper }

/-- Whatever is read as an item keeps the rest apart. -/
theorem keptApart_of_ofJson? {v : Json} (h : ofJson? v = some i) : i.KeptApart := by
  obtain ⟨ms, _, htold⟩ := ofJson?_eq_some_iff.mp h
  exact .of_kept htold.extra

theorem KeptApart.ofJson?_toJson (h : i.KeptApart) : ofJson? i.toJson = some i := by
  rw [toJson_eq, ofJson?_eq_some_iff]
  exact ⟨_, rfl, h.toldBy_slots⟩

end Item

/-! ## Policies -/

namespace Policy

variable {p : Policy}

/-- What the policy keeps is apart from its members, and its id is one. -/
structure KeptApart (p : Policy) : Prop where
  id : IsIdIfAny p.id
  items : ∀ l ∈ p.itemLists, ∀ i ∈ l.2, i.KeptApart
  extra : Beside memberNames p.extra

theorem KeptApart.toldBy_slots (h : p.KeptApart) :
    p.ToldBy (ofSlots p.slots ++ p.extra.entries) :=
  have hap := apart h.extra.free
  { id := hap.maybe? .int (by simp [slots]) (fun n hn => id?_int (h.id n hn)) (by simp)
    guid := hap.maybe? .str (by simp [slots]) (fun _ _ => rfl) (by simp)
    service := hap.need? .str (by simp [slots]) rfl
    name := hap.need? .str (by simp [slots]) rfl
    description := hap.maybe? .str (by simp [slots]) (fun _ _ => rfl) (by simp)
    isEnabled := hap.get? .bool (by simp [slots]) rfl
    labels := hap.get? ofTexts (by simp [slots]) (Json.texts?_ofTexts _)
    resources := hap.get? (fun rs => .obj (rs.mapValues Resource.toJson).entries)
      (by simp [slots, resourcesJson]) (Json.table?_mapValues fun e _ => e.2.ofJson?_toJson)
    items := fun l hl => hap.get? itemsJson (mem_slots_of_mem_itemLists hl)
      (Json.list?_map fun i hi => (h.items l hl i hi).ofJson?_toJson)
    extra := hap.kept? h.extra.proper }

/-- Whatever is read as a policy keeps the rest apart. -/
theorem keptApart_of_ofJson? {v : Json} (h : ofJson? v = some p) : p.KeptApart := by
  obtain ⟨ms, _, htold⟩ := ofJson?_eq_some_iff.mp h
  refine ⟨isIdIfAny_of_maybe htold.id, fun l hl i hi => ?_, .of_kept htold.extra⟩
  rcases Members.get?_eq_some_iff.mp (htold.items l hl) with ⟨_, hnone⟩ | ⟨v, _, hv⟩
  · exact absurd (hnone ▸ hi) (by simp)
  · obtain ⟨w, hw⟩ := Json.exists_of_list? hv hi
    exact Item.keptApart_of_ofJson? hw

theorem KeptApart.ofJson?_toJson (h : p.KeptApart) : ofJson? p.toJson = some p := by
  rw [toJson_eq, ofJson?_eq_some_iff]
  exact ⟨_, rfl, h.toldBy_slots⟩

end Policy

/-! ## Native roles and accounts -/

namespace NativeRole

variable {r : NativeRole}

/-- What the role keeps is apart from its members, and its id is one. -/
structure KeptApart (r : NativeRole) : Prop where
  id : IsIdIfAny r.id
  extra : Beside memberNames r.extra

theorem KeptApart.toldBy_slots (h : r.KeptApart) :
    r.ToldBy (ofSlots r.slots ++ r.extra.entries) :=
  have hap := apart h.extra.free
  have hmembers (members : List RoleMember) :
      Json.list? RoleMember.ofJson? (membersJson members) = some members :=
    Json.list?_map fun m _ => m.ofJson?_toJson
  { id := hap.maybe? .int (by simp [slots]) (fun n hn => id?_int (h.id n hn)) (by simp)
    name := hap.need? .str (by simp [slots]) rfl
    description := hap.maybe? .str (by simp [slots]) (fun _ _ => rfl) (by simp)
    users := hap.get? membersJson (by simp [slots]) (hmembers _)
    groups := hap.get? membersJson (by simp [slots]) (hmembers _)
    roles := hap.get? membersJson (by simp [slots]) (hmembers _)
    extra := hap.kept? h.extra.proper }

/-- Whatever is read as a native role keeps the rest apart. -/
theorem keptApart_of_ofJson? {v : Json} (h : ofJson? v = some r) : r.KeptApart := by
  obtain ⟨ms, _, htold⟩ := ofJson?_eq_some_iff.mp h
  exact ⟨isIdIfAny_of_maybe htold.id, .of_kept htold.extra⟩

theorem KeptApart.ofJson?_toJson (h : r.KeptApart) : ofJson? r.toJson = some r := by
  rw [toJson_eq, ofJson?_eq_some_iff]
  exact ⟨_, rfl, h.toldBy_slots⟩

end NativeRole

namespace Profile

variable {p : Profile}

/-- What the profile keeps is apart from its members, and its id is one. -/
structure KeptApart (p : Profile) : Prop where
  id : IsIdIfAny p.id
  extra : Beside memberNames p.extra

theorem KeptApart.toldBy_slots (h : p.KeptApart) :
    p.ToldBy (ofSlots p.slots ++ p.extra.entries) :=
  have hap := apart h.extra.free
  { id := hap.maybe? .int (by simp [slots]) (fun n hn => id?_int (h.id n hn)) (by simp)
    name := hap.need? .str (by simp [slots]) rfl
    description := hap.maybe? .str (by simp [slots]) (fun _ _ => rfl) (by simp)
    extra := hap.kept? h.extra.proper }

/-- Whatever is read as a profile keeps the rest apart. -/
theorem keptApart_of_ofJson? {v : Json} (h : ofJson? v = some p) : p.KeptApart := by
  obtain ⟨ms, _, htold⟩ := ofJson?_eq_some_iff.mp h
  exact ⟨isIdIfAny_of_maybe htold.id, .of_kept htold.extra⟩

theorem KeptApart.ofJson?_toJson (h : p.KeptApart) : ofJson? p.toJson = some p := by
  rw [toJson_eq, ofJson?_eq_some_iff]
  exact ⟨_, rfl, h.toldBy_slots⟩

end Profile

/-! ## All records that keep what they do not know -/

/-- **A record is recovered from its document exactly if what it keeps is apart.** Nothing else is
asked of a policy, a native role or an account: its lists, tables and defaults may be whatever they
like. -/
theorem recovered_iff_keptApart :
    (∀ p : Policy, Policy.ofJson? p.toJson = some p ↔ p.KeptApart)
      ∧ (∀ r : NativeRole, NativeRole.ofJson? r.toJson = some r ↔ r.KeptApart)
      ∧ (∀ p : Profile, Profile.ofJson? p.toJson = some p ↔ p.KeptApart) :=
  ⟨fun _ => ⟨Policy.keptApart_of_ofJson?, Policy.KeptApart.ofJson?_toJson⟩,
    fun _ => ⟨NativeRole.keptApart_of_ofJson?, NativeRole.KeptApart.ofJson?_toJson⟩,
    fun _ => ⟨Profile.keptApart_of_ofJson?, Profile.KeptApart.ofJson?_toJson⟩⟩

end PolicyKeeper
