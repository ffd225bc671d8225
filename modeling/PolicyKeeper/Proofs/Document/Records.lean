import PolicyKeeper.Document.Policy
import PolicyKeeper.Proofs.Json.Members

/-!
# The records of the policy service, member by member

A record is told by the members of a document if each of its values is what is read under a name,
and reading a document is finding the record that its members tell. What is written is told again by
its own members, if the rest of the record does not get in the way.
-/

namespace PolicyKeeper

open Json (Members ofTexts)
open Json.Members (Apart Slots ofSlots)

variable {v : Json} {ms extra : Members}

/-! ## Resources and items -/

namespace Resource

variable {r : Resource}

/-- The values under the names that are known. -/
def slots (r : Resource) : Slots :=
  [("values", some (ofTexts r.values)), ("isExcludes", some (.bool r.isExcludes)),
    ("isRecursive", some (.bool r.isRecursive))]

theorem toJson_eq (r : Resource) : r.toJson = .obj (ofSlots r.slots ++ []) := rfl

theorem apart (r : Resource) : Apart r.slots [] :=
  ⟨by simp [slots], fun _ h => absurd h (by simp)⟩

/-- The members tell the values at a level. -/
structure ToldBy (ms : Members) (r : Resource) : Prop where
  values : ms.get? "values" Json.texts? [] = some r.values
  isExcludes : ms.get? "isExcludes" Json.bool? false = some r.isExcludes
  isRecursive : ms.get? "isRecursive" Json.bool? false = some r.isRecursive

theorem ofJson?_eq_some_iff :
    ofJson? v = some r ↔
      ∃ ms, v.membersOrItems? ["values", "isExcludes", "isRecursive"] = some ms ∧ r.ToldBy ms := by
  simp only [ofJson?, Option.bind_eq_bind, Option.bind_eq_some_iff, Option.pure_def,
    Option.some.injEq]
  constructor
  · rintro ⟨ms, hms, _, hvalues, _, hexcludes, _, hrecursive, rfl⟩
    exact ⟨ms, hms, hvalues, hexcludes, hrecursive⟩
  · rintro ⟨ms, hms, h⟩
    exact ⟨ms, hms, _, h.values, _, h.isExcludes, _, h.isRecursive, rfl⟩

end Resource

namespace Access

variable {a : Access}

/-- The values under the names that are known. -/
def slots (a : Access) : Slots :=
  [("type", some (.str a.type)), ("isAllowed", some (.bool a.isAllowed))]

theorem toJson_eq (a : Access) : a.toJson = .obj (ofSlots a.slots ++ []) := rfl

theorem apart (a : Access) : Apart a.slots [] :=
  ⟨by simp [slots], fun _ h => absurd h (by simp)⟩

/-- The members tell the access. -/
structure ToldBy (ms : Members) (a : Access) : Prop where
  type : ms.need? "type" Json.str? = some a.type
  isAllowed : ms.get? "isAllowed" Json.bool? true = some a.isAllowed

theorem ofJson?_eq_some_iff :
    ofJson? v = some a ↔
      ∃ ms, v.membersOrItems? ["type", "isAllowed"] = some ms ∧ a.ToldBy ms := by
  simp only [ofJson?, Option.bind_eq_bind, Option.bind_eq_some_iff, Option.pure_def,
    Option.some.injEq]
  constructor
  · rintro ⟨ms, hms, _, htype, _, hallowed, rfl⟩
    exact ⟨ms, hms, htype, hallowed⟩
  · rintro ⟨ms, hms, h⟩
    exact ⟨ms, hms, _, h.type, _, h.isAllowed, rfl⟩

end Access

namespace Item

variable {i : Item}

/-- The values under the names that are known. -/
def slots (i : Item) : Slots :=
  [("accesses", some (.arr (i.accesses.map Access.toJson))), ("users", some (ofTexts i.users)),
    ("groups", some (ofTexts i.groups)), ("roles", some (ofTexts i.roles)),
    ("delegateAdmin", some (.bool i.delegateAdmin))]

theorem toJson_eq (i : Item) : i.toJson = .obj (ofSlots i.slots ++ i.extra.entries) := rfl

theorem apart (h : ∀ e ∈ i.extra.entries, e.1 ∉ memberNames) : Apart i.slots i.extra.entries :=
  ⟨by simp [slots], h⟩

/-- The members tell the item. -/
structure ToldBy (ms : Members) (i : Item) : Prop where
  accesses : ms.get? "accesses" (Json.list? Access.ofJson?) [] = some i.accesses
  users : ms.get? "users" Json.texts? [] = some i.users
  groups : ms.get? "groups" Json.texts? [] = some i.groups
  roles : ms.get? "roles" Json.texts? [] = some i.roles
  delegateAdmin : ms.get? "delegateAdmin" Json.bool? false = some i.delegateAdmin
  extra : ms.kept? memberNames = some i.extra

theorem ofJson?_eq_some_iff :
    ofJson? v = some i ↔ ∃ ms, v.members? = some ms ∧ i.ToldBy ms := by
  simp only [ofJson?, Option.bind_eq_bind, Option.bind_eq_some_iff, Option.pure_def,
    Option.some.injEq]
  constructor
  · rintro ⟨ms, hms, _, haccesses, _, husers, _, hgroups, _, hroles, _, hadmin, _, hextra, rfl⟩
    exact ⟨ms, hms, haccesses, husers, hgroups, hroles, hadmin, hextra⟩
  · rintro ⟨ms, hms, h⟩
    exact ⟨ms, hms, _, h.accesses, _, h.users, _, h.groups, _, h.roles, _, h.delegateAdmin, _,
      h.extra, rfl⟩

end Item

/-! ## Policies -/

namespace Policy

variable {p : Policy}

/-- The values under the names that are known. -/
def slots (p : Policy) : Slots :=
  [("id", p.id.map .int), ("guid", p.guid.map .str), ("service", some (.str p.service)),
    ("name", some (.str p.name)), ("description", p.description.map .str),
    ("isEnabled", some (.bool p.isEnabled)), ("policyLabels", some (ofTexts p.labels)),
    ("resources", some p.resourcesJson)] ++ p.itemLists.map fun l => (l.1, some (itemsJson l.2))

theorem toJson_eq (p : Policy) : p.toJson = .obj (ofSlots p.slots ++ p.extra.entries) := by
  obtain ⟨id, guid, _, _, description⟩ := p
  cases id <;> cases guid <;> cases description <;> rfl

theorem mem_slots_of_mem_itemLists {l : String × List Item} (h : l ∈ p.itemLists) :
    (l.1, some (itemsJson l.2)) ∈ p.slots :=
  List.mem_append_right _ (List.mem_map_of_mem h)

theorem apart (h : ∀ e ∈ p.extra.entries, e.1 ∉ memberNames) : Apart p.slots p.extra.entries :=
  ⟨by simp [slots, itemLists], h⟩

/-- The members tell the policy. -/
structure ToldBy (ms : Members) (p : Policy) : Prop where
  id : ms.maybe? "id" Json.id? = some p.id
  guid : ms.maybe? "guid" Json.str? = some p.guid
  service : ms.need? "service" Json.str? = some p.service
  name : ms.need? "name" Json.str? = some p.name
  description : ms.maybe? "description" Json.str? = some p.description
  isEnabled : ms.get? "isEnabled" Json.bool? true = some p.isEnabled
  labels : ms.get? "policyLabels" Json.texts? [] = some p.labels
  resources : ms.get? "resources" (Json.table? Resource.ofJson?) Fields.empty = some p.resources
  items : ∀ l ∈ p.itemLists, ms.get? l.1 (Json.list? Item.ofJson?) [] = some l.2
  extra : ms.kept? memberNames = some p.extra

theorem toldBy_of_ofJson? (h : ofJson? v = some p) :
    ∃ ms, v.members? = some ms ∧ p.ToldBy ms := by
  rw [ofJson?] at h
  obtain ⟨ms, hms, h⟩ := Option.bind_eq_some_iff.mp h
  obtain ⟨_, hid, h⟩ := Option.bind_eq_some_iff.mp h
  obtain ⟨_, hguid, h⟩ := Option.bind_eq_some_iff.mp h
  obtain ⟨_, hservice, h⟩ := Option.bind_eq_some_iff.mp h
  obtain ⟨_, hname, h⟩ := Option.bind_eq_some_iff.mp h
  obtain ⟨_, hdescription, h⟩ := Option.bind_eq_some_iff.mp h
  obtain ⟨_, henabled, h⟩ := Option.bind_eq_some_iff.mp h
  obtain ⟨_, hlabels, h⟩ := Option.bind_eq_some_iff.mp h
  obtain ⟨_, hresources, h⟩ := Option.bind_eq_some_iff.mp h
  obtain ⟨_, hallow, h⟩ := Option.bind_eq_some_iff.mp h
  obtain ⟨_, hdeny, h⟩ := Option.bind_eq_some_iff.mp h
  obtain ⟨_, hallowEx, h⟩ := Option.bind_eq_some_iff.mp h
  obtain ⟨_, hdenyEx, h⟩ := Option.bind_eq_some_iff.mp h
  obtain ⟨_, hfilter, h⟩ := Option.bind_eq_some_iff.mp h
  obtain ⟨_, hmask, h⟩ := Option.bind_eq_some_iff.mp h
  obtain ⟨_, hextra, h⟩ := Option.bind_eq_some_iff.mp h
  obtain rfl := Option.some.inj h
  refine ⟨ms, hms, hid, hguid, hservice, hname, hdescription, henabled, hlabels, hresources, ?_,
    hextra⟩
  rw [itemLists]
  simp only [List.forall_mem_cons]
  exact ⟨hallow, hdeny, hallowEx, hdenyEx, hfilter, hmask, List.forall_mem_nil _⟩

theorem ToldBy.ofJson?_eq {ms : Members} (h : p.ToldBy ms) (hms : v.members? = some ms) :
    ofJson? v = some p := by
  have hitems := h.items
  rw [itemLists] at hitems
  simp only [List.forall_mem_cons] at hitems
  obtain ⟨hallow, hdeny, hallowEx, hdenyEx, hfilter, hmask, _⟩ := hitems
  rw [ofJson?, hms, Option.bind_eq_bind, Option.bind_some]
  simp only [h.id, h.guid, h.service, h.name, h.description, h.isEnabled, h.labels, h.resources,
    hallow, hdeny, hallowEx, hdenyEx, hfilter, hmask, h.extra, Option.bind_eq_bind,
    Option.bind_some, Option.pure_def]

theorem ofJson?_eq_some_iff :
    ofJson? v = some p ↔ ∃ ms, v.members? = some ms ∧ p.ToldBy ms :=
  ⟨toldBy_of_ofJson?, fun ⟨_, hms, h⟩ => h.ofJson?_eq hms⟩

end Policy

/-! ## Native roles and accounts -/

namespace RoleMember

variable {m : RoleMember}

/-- The values under the names that are known. -/
def slots (m : RoleMember) : Slots :=
  [("name", some (.str m.name)), ("isAdmin", some (.bool m.isAdmin))]

theorem toJson_eq (m : RoleMember) : m.toJson = .obj (ofSlots m.slots ++ []) := rfl

theorem apart (m : RoleMember) : Apart m.slots [] :=
  ⟨by simp [slots], fun _ h => absurd h (by simp)⟩

/-- The members tell the member of a role. -/
structure ToldBy (ms : Members) (m : RoleMember) : Prop where
  name : ms.need? "name" Json.str? = some m.name
  isAdmin : ms.get? "isAdmin" Json.bool? false = some m.isAdmin

theorem ofJson?_eq_some_iff :
    ofJson? v = some m ↔
      ∃ ms, v.membersOrItems? ["name", "isAdmin"] = some ms ∧ m.ToldBy ms := by
  simp only [ofJson?, Option.bind_eq_bind, Option.bind_eq_some_iff, Option.pure_def,
    Option.some.injEq]
  constructor
  · rintro ⟨ms, hms, _, hname, _, hadmin, rfl⟩
    exact ⟨ms, hms, hname, hadmin⟩
  · rintro ⟨ms, hms, h⟩
    exact ⟨ms, hms, _, h.name, _, h.isAdmin, rfl⟩

end RoleMember

namespace NativeRole

variable {r : NativeRole}

/-- The values under the names that are known. -/
def slots (r : NativeRole) : Slots :=
  [("id", r.id.map .int), ("name", some (.str r.name)), ("description", r.description.map .str),
    ("users", some (membersJson r.users)), ("groups", some (membersJson r.groups)),
    ("roles", some (membersJson r.roles))]

theorem toJson_eq (r : NativeRole) : r.toJson = .obj (ofSlots r.slots ++ r.extra.entries) := by
  obtain ⟨id, _, description⟩ := r
  cases id <;> cases description <;> rfl

theorem apart (h : ∀ e ∈ r.extra.entries, e.1 ∉ memberNames) : Apart r.slots r.extra.entries :=
  ⟨by simp [slots], h⟩

/-- The members tell the role. -/
structure ToldBy (ms : Members) (r : NativeRole) : Prop where
  id : ms.maybe? "id" Json.id? = some r.id
  name : ms.need? "name" Json.str? = some r.name
  description : ms.maybe? "description" Json.str? = some r.description
  users : ms.get? "users" (Json.list? RoleMember.ofJson?) [] = some r.users
  groups : ms.get? "groups" (Json.list? RoleMember.ofJson?) [] = some r.groups
  roles : ms.get? "roles" (Json.list? RoleMember.ofJson?) [] = some r.roles
  extra : ms.kept? memberNames = some r.extra

theorem ofJson?_eq_some_iff :
    ofJson? v = some r ↔ ∃ ms, v.members? = some ms ∧ r.ToldBy ms := by
  simp only [ofJson?, Option.bind_eq_bind, Option.bind_eq_some_iff, Option.pure_def,
    Option.some.injEq]
  constructor
  · rintro ⟨ms, hms, _, hid, _, hname, _, hdescription, _, husers, _, hgroups, _, hroles, _, hextra,
      rfl⟩
    exact ⟨ms, hms, hid, hname, hdescription, husers, hgroups, hroles, hextra⟩
  · rintro ⟨ms, hms, h⟩
    exact ⟨ms, hms, _, h.id, _, h.name, _, h.description, _, h.users, _, h.groups, _, h.roles, _,
      h.extra, rfl⟩

end NativeRole

namespace Profile

variable {p : Profile}

/-- The values under the names that are known. -/
def slots (p : Profile) : Slots :=
  [("id", p.id.map .int), ("name", some (.str p.name)), ("description", p.description.map .str)]

theorem toJson_eq (p : Profile) : p.toJson = .obj (ofSlots p.slots ++ p.extra.entries) := by
  obtain ⟨id, _, description⟩ := p
  cases id <;> cases description <;> rfl

theorem apart (h : ∀ e ∈ p.extra.entries, e.1 ∉ memberNames) : Apart p.slots p.extra.entries :=
  ⟨by simp [slots], h⟩

/-- The members tell the profile. -/
structure ToldBy (ms : Members) (p : Profile) : Prop where
  id : ms.maybe? "id" Json.id? = some p.id
  name : ms.need? "name" Json.str? = some p.name
  description : ms.maybe? "description" Json.str? = some p.description
  extra : ms.kept? memberNames = some p.extra

theorem ofJson?_eq_some_iff :
    ofJson? v = some p ↔ ∃ ms, v.members? = some ms ∧ p.ToldBy ms := by
  simp only [ofJson?, Option.bind_eq_bind, Option.bind_eq_some_iff, Option.pure_def,
    Option.some.injEq]
  constructor
  · rintro ⟨ms, hms, _, hid, _, hname, _, hdescription, _, hextra, rfl⟩
    exact ⟨ms, hms, hid, hname, hdescription, hextra⟩
  · rintro ⟨ms, hms, h⟩
    exact ⟨ms, hms, _, h.id, _, h.name, _, h.description, _, h.extra, rfl⟩

end Profile

end PolicyKeeper
