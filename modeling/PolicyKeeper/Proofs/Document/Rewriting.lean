import PolicyKeeper.Proofs.Document.Records
import PolicyKeeper.Proofs.Document.Schemas

/-!
# What becomes of a policy that is read and written back

To change one item of a policy the keeper reads the policy and writes all of it back. So whatever
reading passes over is gone from the service afterwards, and a number that is not read exactly comes
back as another one.

Policies and items keep every member, but a number among what they keep comes back as it was only if
the double-precision number that it is read as is written like that. Resources and accesses keep
nothing, and they are inside a policy too. So a policy comes back whole exactly if these have no
member that they do not know and the numbers that it keeps last.
-/

namespace PolicyKeeper

/-! ## The schemas of a policy and its parts -/

open Json (Schema Each UnderEach)

/-- An access: its type, and whether it is allowed. -/
def Access.schema : Schema where
  known := [{ name := "type" }, { name := "isAllowed", absent := some (.bool true) }]
  keeps := false

/-- The values at a level. -/
def Resource.schema : Schema where
  known := [{ name := "values", absent := some (.arr []) },
    { name := "isExcludes", absent := some (.bool false) },
    { name := "isRecursive", absent := some (.bool false) }]
  keeps := false

/-- An item. -/
def Item.schema : Schema where
  known := [{ name := "accesses", absent := some (.arr [])
              rewrites := fun lossless => Each (Access.schema.Rewrites lossless)
              covers := fun v => ∀ a ∈ v.items, Access.schema.Covers a },
    { name := "users", absent := some (.arr []) }, { name := "groups", absent := some (.arr []) },
    { name := "roles", absent := some (.arr []) },
    { name := "delegateAdmin", absent := some (.bool false) }]
  keeps := true

/-- A list of items. -/
def Item.listed (name : String) : Json.Known where
  name
  absent := some (.arr [])
  rewrites := fun lossless => Each (Item.schema.Rewrites lossless)
  covers := fun v => ∀ i ∈ v.items, Item.schema.Covers i

/-- Where the items of a policy are. -/
def Policy.itemListNames : List String :=
  ["policyItems", "denyPolicyItems", "allowExceptions", "denyExceptions", "rowFilterPolicyItems",
    "dataMaskPolicyItems"]

/-- A policy. -/
def Policy.schema : Schema where
  known := [{ name := "id", optional := true }, { name := "guid", optional := true },
    { name := "service" }, { name := "name" }, { name := "description", optional := true },
    { name := "isEnabled", absent := some (.bool true) },
    { name := "policyLabels", absent := some (.arr []) },
    { name := "resources", absent := some (.obj [])
      rewrites := fun lossless => UnderEach (Resource.schema.Rewrites lossless)
      covers := fun v => ∀ level, ∀ r ∈ v.member? level, Resource.schema.Covers r }] ++
    itemListNames.map Item.listed
  keeps := true

/-! ## What reading and writing back does -/

open Json (Document Decimal Known ofTexts stated_of_str? stated_of_bool? stated_of_id?
  stated_of_texts?)
open Json.Members (Apart)

variable {v : Document}

theorem Access.rewrites {a : Access} (h : ofJson? v.value = some a) :
    schema.Rewrites false v a.toJson.writes := by
  obtain ⟨_, hms, htold⟩ := ofJson?_eq_some_iff.mp h
  obtain ⟨before, hbefore, rfl⟩ := Json.exists_membersOrItems?_of_value hms
  have hap : Apart a.slots Fields.empty.entries := a.apart
  refine ⟨before, _, hbefore, congrArg Json.writes a.toJson_eq,
    Schema.rewritesMembers_of_slots hap ?_ fun _ _ => rfl⟩
  exact .cons ⟨rfl, Known.rewrites_of_need .str htold.type rfl fun _ => stated_of_str?⟩ <|
    .cons ⟨rfl, Known.rewrites_of_get .bool htold.isAllowed rfl rfl fun _ => stated_of_bool?⟩ .nil

theorem Resource.rewrites {r : Resource} (h : ofJson? v.value = some r) :
    schema.Rewrites false v r.toJson.writes := by
  obtain ⟨_, hms, htold⟩ := ofJson?_eq_some_iff.mp h
  obtain ⟨before, hbefore, rfl⟩ := Json.exists_membersOrItems?_of_value hms
  have hap : Apart r.slots Fields.empty.entries := r.apart
  refine ⟨before, _, hbefore, congrArg Json.writes r.toJson_eq,
    Schema.rewritesMembers_of_slots hap ?_ fun _ _ => rfl⟩
  exact .cons ⟨rfl, Known.rewrites_of_get ofTexts htold.values rfl rfl
      fun _ => stated_of_texts?⟩ <|
    .cons ⟨rfl, Known.rewrites_of_get .bool htold.isExcludes rfl rfl fun _ => stated_of_bool?⟩ <|
    .cons ⟨rfl, Known.rewrites_of_get .bool htold.isRecursive rfl rfl
      fun _ => stated_of_bool?⟩ .nil

theorem Item.rewrites {i : Item} (h : ofJson? v.value = some i) :
    schema.Rewrites false v i.toJson.writes := by
  obtain ⟨_, hms, htold⟩ := ofJson?_eq_some_iff.mp h
  obtain ⟨before, hbefore, rfl⟩ := Json.exists_members?_of_value hms
  have hap := apart fun e he => (Json.Members.of_mem_kept htold.extra he).1
  refine ⟨before, _, hbefore, congrArg Json.writes i.toJson_eq,
    Schema.rewritesMembers_of_slots hap ?_ fun _ => Json.Members.get?_kept htold.extra⟩
  exact .cons ⟨rfl, Known.rewrites_of_get (fun as => .arr (List.map Access.toJson as))
      htold.accesses rfl rfl fun _ => Json.each_of_list? fun _ _ => Access.rewrites⟩ <|
    .cons ⟨rfl, Known.rewrites_of_get ofTexts htold.users rfl rfl fun _ => stated_of_texts?⟩ <|
    .cons ⟨rfl, Known.rewrites_of_get ofTexts htold.groups rfl rfl fun _ => stated_of_texts?⟩ <|
    .cons ⟨rfl, Known.rewrites_of_get ofTexts htold.roles rfl rfl fun _ => stated_of_texts?⟩ <|
    .cons ⟨rfl, Known.rewrites_of_get .bool htold.delegateAdmin rfl rfl
      fun _ => stated_of_bool?⟩ .nil

theorem Policy.rewrites {p : Policy} (h : ofJson? v.value = some p) :
    schema.Rewrites false v p.toJson.writes := by
  obtain ⟨_, hms, htold⟩ := ofJson?_eq_some_iff.mp h
  obtain ⟨before, hbefore, rfl⟩ := Json.exists_members?_of_value hms
  have hap := apart fun e he => (Json.Members.of_mem_kept htold.extra he).1
  have hitems : ∀ l ∈ p.itemLists, (Item.listed l.1).Rewrites false (before.value? l.1)
      (some (itemsJson l.2).writes) := fun l hl =>
    Known.rewrites_of_get itemsJson (htold.items l hl) rfl rfl
      fun _ => Json.each_of_list? fun _ _ => Item.rewrites
  have hlists : List.Forall₂
      (fun k o => k.name = o.1 ∧ k.Rewrites false (before.value? k.name) (o.2.map Json.writes))
      (p.itemLists.map fun l => Item.listed l.1)
      (p.itemLists.map fun l => (l.1, some (itemsJson l.2))) := by
    rw [List.forall₂_map_left_iff, List.forall₂_map_right_iff]
    exact List.forall₂_same.mpr fun l hl => ⟨rfl, hitems l hl⟩
  refine ⟨before, _, hbefore, congrArg Json.writes p.toJson_eq,
    Schema.rewritesMembers_of_slots hap ?_ fun _ => Json.Members.get?_kept htold.extra⟩
  exact .cons ⟨rfl, Known.rewrites_of_maybe .int htold.id rfl rfl fun _ _ => stated_of_id?⟩ <|
    .cons ⟨rfl, Known.rewrites_of_maybe .str htold.guid rfl rfl fun _ _ => stated_of_str?⟩ <|
    .cons ⟨rfl, Known.rewrites_of_need .str htold.service rfl fun _ => stated_of_str?⟩ <|
    .cons ⟨rfl, Known.rewrites_of_need .str htold.name rfl fun _ => stated_of_str?⟩ <|
    .cons ⟨rfl, Known.rewrites_of_maybe .str htold.description rfl rfl
      fun _ _ => stated_of_str?⟩ <|
    .cons ⟨rfl, Known.rewrites_of_get .bool htold.isEnabled rfl rfl fun _ => stated_of_bool?⟩ <|
    .cons ⟨rfl, Known.rewrites_of_get ofTexts htold.labels rfl rfl fun _ => stated_of_texts?⟩ <|
    .cons ⟨rfl, Known.rewrites_of_get (fun rs => .obj (Fields.mapValues Resource.toJson rs).entries)
      htold.resources rfl rfl fun _ => Json.underEach_of_table? fun _ _ => Resource.rewrites⟩ hlists

/-! ## When a policy comes back whole -/

/-- The accesses and the resource levels inside a policy have known members only. -/
structure Policy.KnownInside (v : Document) : Prop where
  resources : ∀ rs ∈ v.member? "resources", ∀ level, ∀ r ∈ rs.member? level,
    r.HasOnly ["values", "isExcludes", "isRecursive"]
  accesses : ∀ list ∈ itemListNames, ∀ is ∈ v.member? list, ∀ i ∈ is.items,
    ∀ as ∈ i.member? "accesses", ∀ a ∈ as.items, a.HasOnly ["type", "isAllowed"]

/-- The numbers that a policy and its items keep are written as they were. -/
structure Policy.NumbersLast (v : Document) : Prop where
  policy : v.OthersLast memberNames
  items : ∀ list ∈ itemListNames, ∀ is ∈ v.member? list, ∀ i ∈ is.items,
    i.OthersLast Item.memberNames

theorem Access.rewrites_lossless_iff {w : Json Decimal} (h : schema.Rewrites false v w) :
    schema.Rewrites true v w ↔ schema.Covers v :=
  h.lossless_iff <| by simp [schema, Known.sound_of_eq]

theorem Resource.rewrites_lossless_iff {w : Json Decimal} (h : schema.Rewrites false v w) :
    schema.Rewrites true v w ↔ schema.Covers v :=
  h.lossless_iff <| by simp [schema, Known.sound_of_eq]

theorem Item.rewrites_lossless_iff {w : Json Decimal} (h : schema.Rewrites false v w) :
    schema.Rewrites true v w ↔ schema.Covers v := by
  refine h.lossless_iff ?_
  simp only [schema, List.forall_mem_cons, Known.sound_of_eq]
  refine ⟨⟨fun _ _ h => ?_, fun _ h => absurd h (by simp [Json.items])⟩, ?_⟩
  · exact Json.each_iff h fun _ _ => Access.rewrites_lossless_iff
  · simp

theorem Item.sound_listed (name : String) : (listed name).Sound :=
  ⟨fun _ _ h => Json.each_iff h fun _ _ => Item.rewrites_lossless_iff,
    fun _ h => absurd h (by simp [Json.items])⟩

theorem Policy.rewrites_lossless_iff {w : Json Decimal} (h : schema.Rewrites false v w) :
    schema.Rewrites true v w ↔ schema.Covers v := by
  refine h.lossless_iff ?_
  simp only [schema, List.forall_mem_append, List.forall_mem_cons, List.forall_mem_map,
    Known.sound_of_eq]
  refine ⟨?_, fun name _ => Item.sound_listed name⟩
  simp only [true_and, List.not_mem_nil, false_implies, implies_true, and_true]
  refine ⟨fun _ _ h => ?_, fun _ _ h => absurd h (by simp [Json.member?, Json.members?])⟩
  exact Json.underEach_iff h fun _ _ => Resource.rewrites_lossless_iff

theorem Access.covers_iff : schema.Covers v ↔ v.HasOnly ["type", "isAllowed"] :=
  Schema.covers_iff_hasOnly rfl (by simp [schema])

theorem Resource.covers_iff :
    schema.Covers v ↔ v.HasOnly ["values", "isExcludes", "isRecursive"] :=
  Schema.covers_iff_hasOnly rfl (by simp [schema])

theorem Item.covers_iff : schema.Covers v ↔
    (∀ as ∈ v.member? "accesses", ∀ a ∈ as.items, a.HasOnly ["type", "isAllowed"]) ∧
      v.OthersLast memberNames := by
  rw [Schema.covers_iff_of_keeps rfl]
  refine and_congr ?_ Iff.rfl
  simp [schema, Access.covers_iff]

theorem Policy.covers_iff : schema.Covers v ↔ KnownInside v ∧ NumbersLast v := by
  rw [Schema.covers_iff_of_keeps rfl]
  have hnames : Json.OthersLast v schema.names ↔ v.OthersLast memberNames := Iff.rfl
  rw [hnames]
  simp only [schema, Item.listed, List.forall_mem_append, List.forall_mem_cons, List.forall_mem_map,
    Item.covers_iff, Resource.covers_iff, implies_true, true_and, List.not_mem_nil, false_implies,
    and_true]
  constructor
  · rintro ⟨⟨hresources, hitems⟩, hpolicy⟩
    exact ⟨⟨hresources, fun list hlist is his i hi => (hitems list hlist is his i hi).1⟩,
      hpolicy, fun list hlist is his i hi => (hitems list hlist is his i hi).2⟩
  · rintro ⟨hknown, hlast⟩
    exact ⟨⟨hknown.resources, fun list hlist is his i hi =>
      ⟨hknown.accesses list hlist is his i hi, hlast.items list hlist is his i hi⟩⟩, hlast.policy⟩

/-- **A policy that is read and written back keeps every member** that it, its items, its resource
levels and their accesses have, and gets those with defaults that were not there. Two things are not
as they were: what a level or an access does not know is lost, and a number beside the members that
the policy or an item knows is written as what it was read as. So the policy comes back whole
exactly if there is no such member, and each such number is written as it was. -/
theorem Policy.written_back {p : Policy} (h : ofJson? v.value = some p) :
    schema.Rewrites false v p.toJson.writes ∧
      (schema.Rewrites true v p.toJson.writes ↔ KnownInside v ∧ NumbersLast v) :=
  have hrewrites := rewrites h
  ⟨hrewrites, (rewrites_lossless_iff hrewrites).trans covers_iff⟩

/-! ### Documents that come back whole, and some that do not -/

/-- A policy with a version and a weight and an item with conditions, which the service knows and
the keeper does not. Its id is null, its second access is an array, and most members are not
there. -/
def versionedPolicy : Document := .obj [
  ("id", .null), ("version", .int 7), ("service", .str "hiveDev"), ("name", .str "analyst-db1"),
  ("weight", Json.Numeral.document { whole := ['0'], fraction := ['2', '5', '0'] }),
  ("resources", .obj [("database", .obj [("values", .arr [.str "db1"])])]),
  ("policyItems", .arr [.obj [
    ("accesses", .arr [.obj [("type", .str "select")], .arr [.str "read", .bool false]]),
    ("conditions", .arr [.obj [("type", .str "ip-range")]])]])]

theorem Policy.written_back_versionedPolicy :
    ∃ p, ofJson? versionedPolicy.value = some p ∧
      schema.Rewrites true versionedPolicy p.toJson.writes := by
  obtain ⟨p, hp⟩ : ∃ p, ofJson? versionedPolicy.value = some p :=
    Option.isSome_iff_exists.mp (by decide +kernel)
  have hitem : ∀ list ∈ itemListNames, ∀ is ∈ versionedPolicy.member? list, ∀ i ∈ is.items,
      list = "policyItems" ∧ i ∈ (versionedPolicy.member? "policyItems").elim [] Json.items := by
    intro list hlist is his i hi
    simp only [itemListNames, List.mem_cons, List.not_mem_nil, or_false] at hlist
    rcases hlist with rfl | rfl | rfl | rfl | rfl | rfl <;> cases his
    exact ⟨rfl, hi⟩
  refine ⟨p, hp, (written_back hp).2.mpr ⟨⟨?_, ?_⟩, ⟨?_, ?_⟩⟩⟩
  · intro rs hrs level r hr
    cases hrs
    have hmem := Json.mem_of_member? hr
    simp only [List.mem_singleton, Prod.mk.injEq] at hmem
    rw [hmem.2]
    exact Json.hasOnly_obj (by decide)
  · intro list hlist is his i hi as has a ha
    obtain rfl := List.mem_singleton.mp (hitem list hlist is his i hi).2
    cases has
    rcases List.mem_cons.mp ha with rfl | ha
    · exact Json.hasOnly_obj (by decide)
    · obtain rfl := List.mem_singleton.mp ha
      exact fun _ _ => rfl
  · exact Json.othersLast_obj (by decide +kernel)
  · intro list hlist is his i hi
    obtain rfl := List.mem_singleton.mp (hitem list hlist is his i hi).2
    exact Json.othersLast_obj (by decide +kernel)

/-- A policy on a level that says more than the keeper knows. -/
def commentedPolicy : Document := .obj [
  ("service", .str "hiveDev"), ("name", .str "analyst-db1"),
  ("resources", .obj [("database", .obj [("values", .arr [.str "db1"]), ("comment", .str "x")])])]

/-- A policy with a number that has more digits than double precision. -/
def precisePolicy : Document := .obj [
  ("service", .str "hiveDev"), ("name", .str "analyst-db1"),
  ("weight", Json.Numeral.document
    { whole := ['0'], fraction := ['1', '2', '3', '4', '5', '6', '7', '8', '9', '0', '1', '2', '3',
      '4', '5', '6', '7', '8', '9'] })]

/-- Of its digits those are written that it takes to tell the number from others. -/
example : (precisePolicy.member? "weight").map (fun v => v.value.settle.writes) =
    some (.real (.ofParts false 12345678901234568 (-17))) := by
  decide +kernel

/-- What a level says beyond what the keeper knows is lost, and a number may come back as another
one. -/
theorem Policy.not_written_back_whole :
    (∃ p, ofJson? commentedPolicy.value = some p ∧
      ¬ schema.Rewrites true commentedPolicy p.toJson.writes) ∧
    ∃ p, ofJson? precisePolicy.value = some p ∧
      ¬ schema.Rewrites true precisePolicy p.toJson.writes := by
  have hwhole : ∀ {v : Document} {p : Policy}, ofJson? v.value = some p →
      schema.Rewrites true v p.toJson.writes → KnownInside v ∧ NumbersLast v :=
    fun hp hwhole => covers_iff.mp ((rewrites_lossless_iff (rewrites hp)).mp hwhole)
  obtain ⟨commented, hcommented⟩ : ∃ p, ofJson? commentedPolicy.value = some p :=
    Option.isSome_iff_exists.mp (by decide +kernel)
  obtain ⟨precise, hprecise⟩ : ∃ p, ofJson? precisePolicy.value = some p :=
    Option.isSome_iff_exists.mp (by decide +kernel)
  refine ⟨⟨commented, hcommented, fun hall => ?_⟩, precise, hprecise, fun hall => ?_⟩
  · have hknown := (hwhole hcommented hall).1
    have hcomment := hknown.resources _ rfl "database" _ rfl "comment" (by decide)
    exact absurd hcomment (by decide)
  · have hlast := (hwhole hprecise hall).2
    have hweight := hlast.policy "weight" (by decide) _ rfl
    exact absurd hweight (by decide +kernel)

end PolicyKeeper
