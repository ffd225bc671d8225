import PolicyKeeper.Json.Text
import PolicyKeeper.Proofs.Json.Mapping

/-!
# Documents by their schemas

A schema says of a record which members it knows, what is written for one that is not there, and
whether the record keeps the others. Under its schema a document as it is written is compared with
what is written back, at every depth, member by member and number by number: `Schema.Rewrites` with
`lossless` asks that nothing at all gets lost, and without it allows records to drop what they do
not know unless they keep it, and to write what they keep as it was read.

What is written for a document is all of it exactly if nothing in it gets lost (`Schema.Covers`). A
record that keeps nothing loses every member that it does not know. One that keeps the others loses
nothing but digits: a number that is no whole number of 64 bits comes back as it was only if the
double-precision number that it is read as is written like that.
-/

namespace PolicyKeeper

namespace Json

open Members (Apart Slots ofSlots)

/-! ## What is written, before and after -/

/-- What a document says, number by number. -/
def stated (v : Document) : Json Decimal := v.map fun n => n.numeral.decimal

/-- The number is written as it was. -/
def Written.Lasts (n : Written) : Prop := n.double.shortest = n.numeral.decimal

instance (n : Written) : Decidable n.Lasts := inferInstanceAs (Decidable (_ = _))

/-- All numbers that are kept of the value are written as they were. -/
def Lasts (v : Document) : Prop := ∀ n ∈ v.settle.numbers, n.Lasts

instance (v : Document) : Decidable v.Lasts := inferInstanceAs (Decidable (∀ n ∈ _, _))

/-- What is kept of a value is written as it was if the numbers in it are. -/
theorem writes_settle_value_iff {v : Document} :
    v.value.settle.writes = v.settle.stated ↔ v.Lasts := by
  rw [value, settle_map, writes, stated, map_map, map_eq_map_iff]
  rfl

/-! ## Documents by their schemas -/

/-- The items of an array. -/
def items : Document → List Document
  | .arr items => items
  | _ => []

/-- The value under a name, if this is an object that has one. -/
def member? (v : Document) (name : String) : Option Document :=
  v.members?.bind fun ms => ms.value? name

/-- There are no members but these. -/
def HasOnly (v : Document) (names : List String) : Prop :=
  ∀ name ∉ names, v.member? name = none

/-- All numbers that are kept of members other than these are written as they were. -/
def OthersLast (v : Document) (names : List String) : Prop :=
  ∀ name ∉ names, ∀ x ∈ v.member? name, x.Lasts

/-- For each item of an array one is written. -/
def Each (R : Document → Json Decimal → Prop) (v : Document) (w : Json Decimal) : Prop :=
  ∃ vs ws, v = .arr vs ∧ w = .arr ws ∧ List.Forall₂ R vs ws

/-- For the value under each name of an object one is written under that name. -/
def UnderEach (R : Document → Json Decimal → Prop) (v : Document) (w : Json Decimal) : Prop :=
  ∃ (vs : Members Written) (ws : Members Decimal), v = .obj vs ∧ w = .obj ws ∧
    (ws.map Prod.fst).Nodup ∧ ∀ name, Option.Rel R (vs.value? name) (ws.value? name)

/-- A member that a record knows. -/
structure Known where
  name : String
  /-- What is written if the member is not there. -/
  absent : Option (Json Decimal) := none
  /-- Whether null says that it is not there. -/
  optional : Bool := false
  /-- Which value is written for which. -/
  rewrites : (lossless : Bool) → Document → Json Decimal → Prop := fun _ v w => w = v.stated
  /-- Whether nothing in the value gets lost. -/
  covers : Document → Prop := fun _ => True

/-- What is written for a member that may not be there. -/
def Known.Rewrites (k : Known) (lossless : Bool) : Option Document → Option (Json Decimal) → Prop
  | none, after => after = k.absent
  | some v, after =>
    if k.optional ∧ v = .null then after = none else ∃ w, after = some w ∧ k.rewrites lossless v w

/-- What a record knows, and whether it keeps the rest. -/
structure Schema where
  known : List Known
  keeps : Bool

namespace Schema

/-- The names that the record knows. -/
def names (s : Schema) : List String := s.known.map Known.name

/-- The members of such a record. One that keeps nothing may be an array of its values too. -/
def members? (s : Schema) (v : Document) : Option (Members Written) :=
  if s.keeps then v.members? else v.membersOrItems? s.names

/-- What is written for a value under a name that the record does not know. -/
def rewritesOther? (s : Schema) (lossless : Bool) (v : Document) : Option (Json Decimal) :=
  if lossless then some v.settle.stated else if s.keeps then some v.value.settle.writes else none

/-- Some members are written for others. -/
structure RewritesMembers (s : Schema) (lossless : Bool) (before : Members Written)
    (after : Members Decimal) : Prop where
  once : (after.map Prod.fst).Nodup
  known : ∀ k ∈ s.known, k.Rewrites lossless (before.value? k.name) (after.value? k.name)
  others : ∀ name ∉ s.names,
    after.value? name = (before.value? name).bind (s.rewritesOther? lossless)

/-- One document is written for another: it has every member with the value that is written for
it, and beyond that only what is written for absent ones. -/
def Rewrites (s : Schema) (lossless : Bool) (v : Document) (w : Json Decimal) : Prop :=
  ∃ before after, s.members? v = some before ∧ w = .obj after ∧
    s.RewritesMembers lossless before after

/-- Nothing in the document gets lost. -/
def Covers (s : Schema) (v : Document) : Prop :=
  ∀ before, s.members? v = some before →
    (∀ k ∈ s.known, ∀ x ∈ before.value? k.name, k.covers x) ∧
      ∀ name ∉ s.names, ∀ x ∈ before.value? name, s.keeps = true ∧ x.Lasts

end Schema

/-! ## Single values -/

variable {α β : Type} {v : Document} {read : Json → Option α} {write : α → Json}
  {R R' : Document → Json Decimal → Prop} {C : Document → Prop} {lossless : Bool}

/-! Of texts, truth values and ids no number is read in double precision. -/

theorem stated_of_str? {s : String} (h : str? v.value = some s) :
    (Json.str s).writes = v.stated := by
  cases v with
  | str t => exact congrArg Json.str (Option.some.inj h).symm
  | _ => exact absurd h (by simp [value, map, str?])

theorem stated_of_bool? {b : Bool} (h : bool? v.value = some b) :
    (Json.bool b).writes = v.stated := by
  cases v with
  | bool c => exact congrArg Json.bool (Option.some.inj h).symm
  | _ => exact absurd h (by simp [value, map, bool?])

theorem stated_of_id? {n : Int} (h : id? v.value = some n) : (Json.int n).writes = v.stated := by
  cases v with
  | int m =>
      rw [value, map, id?] at h
      split at h
      · exact congrArg Json.int (Option.some.inj h).symm
      · exact absurd h (by simp)
  | _ => exact absurd h (by simp [value, map, id?])

theorem value_eq_null_iff : v.value = .null ↔ v = .null := by
  cases v <;> simp [value, map]

theorem eq_arr_of_value {vs : List Json} (h : v.value = .arr vs) :
    ∃ items, v = .arr items ∧ vs = items.map value := by
  cases v with
  | arr items => exact ⟨items, rfl, (Json.arr.inj h).symm.trans mapItems_eq_map⟩
  | _ => exact absurd h (by simp [value, map])

theorem each_of_list? (hR : ∀ v x, read v.value = some x → R v (write x).writes) {xs : List α}
    (h : list? read v.value = some xs) : Each R v (Json.writes (.arr (xs.map write))) := by
  obtain ⟨_, hvalue, hall⟩ := list?_eq_some_iff.mp h
  obtain ⟨vs, rfl, rfl⟩ := eq_arr_of_value hvalue
  refine ⟨vs, _, rfl, congrArg Json.arr mapItems_eq_map, ?_⟩
  rw [List.forall₂_map_right_iff, List.forall₂_map_right_iff]
  rw [List.forall₂_map_left_iff] at hall
  exact hall.imp hR

/-- The last of some values goes with the last of those that they go with. -/
theorem rel_getLast? {Q : α → β → Prop} {xs : List α} {ys : List β} (h : List.Forall₂ Q xs ys) :
    Option.Rel Q xs.getLast? ys.getLast? := by
  induction h with
  | nil => exact .none
  | @cons _ _ xs ys hxy _ ih =>
      rw [List.getLast?_cons, List.getLast?_cons]
      generalize xs.getLast? = x at ih ⊢
      generalize ys.getLast? = y at ih ⊢
      cases ih with
      | none => exact .some hxy
      | some hlast => exact .some hlast

theorem rel_value? {ms : Members} {ps : List (String × α)} {Q : Json → α → Prop}
    (h : List.Forall₂ (fun m p => m.1 = p.1 ∧ Q m.2 p.2) ms ps) (name : String) :
    Option.Rel Q (ms.value? name) ((Fields.ofPairs ps).get? name) := by
  rw [Fields.get?_ofPairs, Members.value?, Members.named]
  refine rel_getLast? ?_
  induction h with
  | nil => exact .nil
  | @cons m p _ _ hmp _ ih =>
      by_cases hname : m.1 = name
      · rw [List.filter_cons_of_pos (by simpa using hname),
          List.filter_cons_of_pos (by simpa using hmp.1 ▸ hname)]
        exact .cons hmp.2 ih
      · rw [List.filter_cons_of_neg (by simpa using hname),
          List.filter_cons_of_neg (by simpa using hmp.1 ▸ hname)]
        exact ih

theorem eq_obj_of_value {ms : Members} (h : v.value = .obj ms) :
    ∃ members, v = .obj members ∧ ms = mapMembers Written.double members := by
  cases v with
  | obj members => exact ⟨members, rfl, (Json.obj.inj h).symm⟩
  | _ => exact absurd h (by simp [value, map])

theorem underEach_of_table? (hR : ∀ v x, read v.value = some x → R v (write x).writes)
    {f : Fields α} (h : table? read v.value = some f) :
    UnderEach R v (Json.writes (.obj (f.mapValues write).entries)) := by
  obtain ⟨_, ps, hvalue, hall, rfl⟩ := table?_eq_some_iff.mp h
  obtain ⟨ms, rfl, rfl⟩ := eq_obj_of_value hvalue
  refine ⟨ms, _, rfl, rfl, ?_, fun name => ?_⟩
  · rw [map_fst_mapMembers]
    exact Fields.nodup _
  · have hrel := rel_value? (Q := fun v x => read v = some x) hall name
    rw [value?_mapMembers] at hrel
    rw [value?_mapMembers, Members.value?_entries, Fields.get?_mapValues]
    generalize Members.value? ms name = x at hrel ⊢
    generalize (Fields.ofPairs ps).get? name = y at hrel ⊢
    cases x <;> cases y
    · exact .none
    · cases hrel
    · cases hrel
    · cases hrel with
      | some hread => exact .some (hR _ _ hread)

theorem stated_of_texts? {texts : List String} (h : texts? v.value = some texts) :
    Json.writes (ofTexts texts) = v.stated := by
  obtain ⟨vs, ws, rfl, hws, hall⟩ :=
    each_of_list? (R := fun v w => w = v.stated) (fun _ _ => stated_of_str?) h
  rw [ofTexts, hws, stated, map, mapItems_eq_map]
  congr 1
  clear h hws
  induction hall with
  | nil => rfl
  | cons hvw _ ih => rw [hvw, ih, List.map_cons]; rfl

theorem exists_mem_of_forall₂ {Q : α → β → Prop} {xs : List α} {ys : List β}
    (h : List.Forall₂ Q xs ys) {x : α} (hx : x ∈ xs) : ∃ y ∈ ys, Q x y := by
  induction h with
  | nil => exact absurd hx (by simp)
  | @cons _ y _ ys hxy _ ih =>
      rcases List.mem_cons.mp hx with rfl | hx
      · exact ⟨y, List.mem_cons_self, hxy⟩
      · obtain ⟨y, hy, hxy⟩ := ih hx
        exact ⟨y, List.mem_cons_of_mem _ hy, hxy⟩

/-! ## Single members -/

namespace Members

variable {ms : Members Written} {name : String} {a : α}

/-- The members as they are read. -/
abbrev asRead (ms : Members Written) : Members := mapMembers Written.double ms

/-- There is one value under a name if one is read there. -/
theorem value?_of_named_asRead {x : Json} (h : ms.asRead.named name = [x]) :
    ∃ v : Document, ms.value? name = some v ∧ v.value = x := by
  rw [named_mapMembers] at h
  obtain ⟨v, hv, rfl⟩ := List.map_eq_singleton_iff.mp h
  exact ⟨v, by rw [value?, hv]; rfl, rfl⟩

theorem value?_of_named_asRead_nil (h : ms.asRead.named name = []) : ms.value? name = none := by
  rw [named_mapMembers, List.map_eq_nil_iff] at h
  rw [value?, h]
  rfl

end Members

theorem exists_members?_of_value {ms : Json.Members} (h : v.value.members? = some ms) :
    ∃ before, v.members? = some before ∧ ms = before.asRead := by
  rw [value, members?_map] at h
  obtain ⟨before, hbefore, rfl⟩ := Option.map_eq_some_iff.mp h
  exact ⟨before, hbefore, rfl⟩

theorem exists_membersOrItems?_of_value {ms : Json.Members} {names : List String}
    (h : v.value.membersOrItems? names = some ms) :
    ∃ before, v.membersOrItems? names = some before ∧ ms = before.asRead := by
  rw [value, membersOrItems?_map] at h
  obtain ⟨before, hbefore, rfl⟩ := Option.map_eq_some_iff.mp h
  exact ⟨before, hbefore, rfl⟩

namespace Known

variable {k : Known} {ms : Members Written} {a : α}

theorem rewrites_of_named (write : α → Json) {x : Json} (hnamed : ms.asRead.named k.name = [x])
    (hread : read x = some a) (hnull : ¬ (k.optional = true ∧ x = .null))
    (hR : ∀ v : Document, read v.value = some a → k.rewrites lossless v (write a).writes) :
    k.Rewrites lossless (ms.value? k.name) (some (write a).writes) := by
  obtain ⟨v, hv, rfl⟩ := Members.value?_of_named_asRead hnamed
  rw [value_eq_null_iff] at hnull
  rw [hv, Rewrites, if_neg hnull]
  exact ⟨_, rfl, hR v hread⟩

theorem rewrites_of_need (write : α → Json) (h : ms.asRead.need? k.name read = some a)
    (hopt : k.optional = false)
    (hR : ∀ v : Document, read v.value = some a → k.rewrites lossless v (write a).writes) :
    k.Rewrites lossless (ms.value? k.name) (some (write a).writes) := by
  obtain ⟨_, hnamed, hread⟩ := Members.need?_eq_some_iff.mp h
  exact rewrites_of_named write hnamed hread (by simp [hopt]) hR

theorem rewrites_of_get {default : α} (write : α → Json)
    (h : ms.asRead.get? k.name read default = some a) (hopt : k.optional = false)
    (habsent : k.absent = some (write default).writes)
    (hR : ∀ v : Document, read v.value = some a → k.rewrites lossless v (write a).writes) :
    k.Rewrites lossless (ms.value? k.name) (some (write a).writes) := by
  rcases Members.get?_eq_some_iff.mp h with ⟨hnone, rfl⟩ | ⟨_, hnamed, hread⟩
  · rw [Members.value?_of_named_asRead_nil hnone]
    exact habsent.symm
  · exact rewrites_of_named write hnamed hread (by simp [hopt]) hR

theorem rewrites_of_maybe {o : Option α} (write : α → Json)
    (h : ms.asRead.maybe? k.name read = some o) (hopt : k.optional = true)
    (habsent : k.absent = none)
    (hR : ∀ (v : Document) a, read v.value = some a → k.rewrites lossless v (write a).writes) :
    k.Rewrites lossless (ms.value? k.name) ((o.map write).map writes) := by
  rcases Members.maybe?_eq_some_iff.mp h with
    ⟨hnone | hnamed, rfl⟩ | ⟨_, a, hnamed, hnull, hread, rfl⟩
  · rw [Members.value?_of_named_asRead_nil hnone]
    exact habsent.symm
  · obtain ⟨v, hv, hvalue⟩ := Members.value?_of_named_asRead hnamed
    rw [hv, Rewrites, if_pos ⟨hopt, value_eq_null_iff.mp hvalue⟩]
    rfl
  · exact rewrites_of_named write hnamed hread (fun h => hnull h.2) fun v => hR v a

end Known

/-! ## Whole records -/

namespace Schema

variable {s : Schema} {before : Members Written} {slots : Slots}

/-- Values that are written each for its member make a record, with what was kept beside them. -/
theorem rewritesMembers_of_slots {extra : Fields Json} (hap : Apart slots extra.entries)
    (hslots : List.Forall₂ (fun k o => k.name = o.1 ∧
      k.Rewrites false (before.value? k.name) (o.2.map writes)) s.known slots)
    (hextra : ∀ name ∉ s.names, extra.get? name =
      if s.keeps then (before.asRead.value? name).map settle else none) :
    s.RewritesMembers false before
      (mapMembers Double.shortest (ofSlots slots ++ extra.entries)) := by
  have hnames : s.names = slots.map Prod.fst := by
    rw [names, ← List.forall₂_eq_eq_eq, List.forall₂_map_left_iff, List.forall₂_map_right_iff]
    exact hslots.imp fun _ _ h => h.1
  refine ⟨?_, fun k hk => ?_, fun name hname => ?_⟩
  · rw [map_fst_mapMembers]
    exact hap.once extra.nodup
  · obtain ⟨o, ho, hko, hrewrites⟩ := exists_mem_of_forall₂ hslots hk
    have hmem : (k.name, o.2) ∈ slots := by
      rw [hko]
      exact ho
    rw [value?_mapMembers, Members.value?_of_named (hap.named hmem)]
    exact hrewrites
  · have hbeside : Members.value? (ofSlots slots ++ extra.entries) name = extra.get? name := by
      rw [Members.value?, Members.named_append,
        Members.named_ofSlots_of_not_mem (hnames ▸ hname), List.nil_append]
      exact Members.value?_entries extra
    rw [value?_mapMembers, hbeside, hextra name hname, Members.asRead, value?_mapMembers]
    cases before.value? name with
    | none => simp
    | some v => cases hkeeps : s.keeps <;> simp [rewritesOther?, hkeeps, value, writes]

end Schema

/-! ## When nothing gets lost -/

theorem forall₂_iff {xs : List Document} {ys : List (Json Decimal)} (h : List.Forall₂ R xs ys)
    (hiff : ∀ v w, R v w → (R' v w ↔ C v)) : List.Forall₂ R' xs ys ↔ ∀ v ∈ xs, C v := by
  induction h with
  | nil => simp
  | cons hvw _ ih => rw [List.forall₂_cons, ih, hiff _ _ hvw, List.forall_mem_cons]

theorem each_iff {w : Json Decimal} (h : Each R v w) (hiff : ∀ v w, R v w → (R' v w ↔ C v)) :
    Each R' v w ↔ ∀ x ∈ v.items, C x := by
  obtain ⟨vs, ws, rfl, rfl, hall⟩ := h
  rw [items, ← forall₂_iff hall hiff]
  constructor
  · rintro ⟨_, _, hvs, hws, hall'⟩
    cases hvs
    cases hws
    exact hall'
  · intro hall'
    exact ⟨_, _, rfl, rfl, hall'⟩

theorem rel_iff {x : Option Document} {y : Option (Json Decimal)} (h : Option.Rel R x y)
    (hiff : ∀ v w, R v w → (R' v w ↔ C v)) : Option.Rel R' x y ↔ ∀ v ∈ x, C v := by
  cases h with
  | none => exact ⟨fun _ _ hv => absurd hv (by simp), fun _ => .none⟩
  | some hvw => simp [hiff _ _ hvw]

theorem underEach_iff {w : Json Decimal} (h : UnderEach R v w)
    (hiff : ∀ v w, R v w → (R' v w ↔ C v)) :
    UnderEach R' v w ↔ ∀ name, ∀ x ∈ v.member? name, C x := by
  obtain ⟨vs, ws, rfl, rfl, honce, hall⟩ := h
  constructor
  · rintro ⟨_, _, hvs, hws, _, hall'⟩ name
    cases hvs
    cases hws
    exact (rel_iff (hall name) hiff).mp (hall' name)
  · intro hcovers
    exact ⟨vs, ws, rfl, rfl, honce, fun name => (rel_iff (hall name) hiff).mpr (hcovers name)⟩

/-- Of two ways to write a value, the lossless one is the one by which nothing gets lost. -/
structure Known.Sound (k : Known) : Prop where
  agrees : ∀ v w, k.rewrites false v w → (k.rewrites true v w ↔ k.covers v)
  null : k.covers .null

theorem Known.sound_of_eq {name : String} {absent : Option (Json Decimal)} {optional : Bool} :
    ({ name, absent, optional } : Known).Sound :=
  ⟨fun _ _ h => ⟨fun _ => trivial, fun _ => h⟩, trivial⟩

theorem Known.Sound.rewrites_iff {k : Known} (hk : k.Sound) {before : Option Document}
    {after : Option (Json Decimal)} (h : k.Rewrites false before after) :
    k.Rewrites true before after ↔ ∀ x ∈ before, k.covers x := by
  cases before with
  | none => exact ⟨fun _ _ hx => absurd hx (by simp), fun _ => h⟩
  | some v =>
      simp only [Known.Rewrites, Option.mem_some_iff, forall_eq'] at h ⊢
      split
      · rename_i hnull
        rw [if_pos hnull] at h
        exact ⟨fun _ => hnull.2 ▸ hk.null, fun _ => h⟩
      · rename_i hnull
        rw [if_neg hnull] at h
        obtain ⟨w, rfl, hw⟩ := h
        simp [hk.agrees v w hw]

namespace Schema

variable {s : Schema} {before : Members Written} {after : Members Decimal}

theorem rewritesOther?_eq_iff :
    s.rewritesOther? false v = s.rewritesOther? true v ↔ s.keeps = true ∧ v.Lasts := by
  rw [← writes_settle_value_iff]
  cases hkeeps : s.keeps <;> simp [rewritesOther?, hkeeps]

theorem bind_rewritesOther?_iff {o : Option Document} :
    o.bind (s.rewritesOther? false) = o.bind (s.rewritesOther? true) ↔
      ∀ x ∈ o, s.keeps = true ∧ x.Lasts := by
  cases o with
  | none => exact iff_of_true rfl fun _ hx => absurd hx (by simp)
  | some x =>
      rw [Option.bind_some, Option.bind_some, rewritesOther?_eq_iff]
      exact ⟨fun h y hy => Option.some.inj hy ▸ h, fun h => h x rfl⟩

theorem RewritesMembers.lossless_iff (hs : ∀ k ∈ s.known, k.Sound)
    (h : s.RewritesMembers false before after) :
    s.RewritesMembers true before after ↔
      (∀ k ∈ s.known, ∀ x ∈ before.value? k.name, k.covers x) ∧
        ∀ name ∉ s.names, ∀ x ∈ before.value? name, s.keeps = true ∧ x.Lasts := by
  constructor
  · intro hall
    refine ⟨fun k hk => ((hs k hk).rewrites_iff (h.known k hk)).mp (hall.known k hk), ?_⟩
    intro name hname
    exact bind_rewritesOther?_iff.mp ((h.others name hname).symm.trans (hall.others name hname))
  · rintro ⟨hcovers, hothers⟩
    refine ⟨h.once, fun k hk => ?_, fun name hname => ?_⟩
    · exact ((hs k hk).rewrites_iff (h.known k hk)).mpr (hcovers k hk)
    · rw [h.others name hname]
      exact bind_rewritesOther?_iff.mpr (hothers name hname)

/-- **What is written for a document is all of it exactly if nothing in it gets lost.** -/
theorem Rewrites.lossless_iff (hs : ∀ k ∈ s.known, k.Sound) {w : Json Decimal}
    (h : s.Rewrites false v w) : s.Rewrites true v w ↔ s.Covers v := by
  obtain ⟨before, after, hbefore, rfl, hmembers⟩ := h
  constructor
  · rintro ⟨_, _, hms, hafter, hall⟩ ms hms'
    cases hafter
    cases hms'.symm.trans hms
    cases hms.symm.trans hbefore
    exact (hmembers.lossless_iff hs).mp hall
  · intro hcovers
    exact ⟨before, after, hbefore, rfl, (hmembers.lossless_iff hs).mpr (hcovers before hbefore)⟩

end Schema

/-! A record that keeps the others loses only what does not last, and one that keeps nothing all
that it does not know. -/

theorem Schema.covers_iff_of_keeps {s : Schema} (hkeeps : s.keeps = true) :
    s.Covers v ↔
      (∀ k ∈ s.known, ∀ x ∈ v.member? k.name, k.covers x) ∧ v.OthersLast s.names := by
  simp only [Schema.Covers, Schema.members?, hkeeps, if_true, member?, OthersLast]
  cases v.members? <;> simp

theorem Schema.covers_iff_hasOnly {s : Schema} (hkeeps : s.keeps = false)
    (hflat : ∀ k ∈ s.known, ∀ x, k.covers x) : s.Covers v ↔ v.HasOnly s.names := by
  have hothers : s.Covers v ↔ ∀ ms, v.membersOrItems? s.names = some ms →
      ∀ name ∉ s.names, Members.value? ms name = none := by
    simp only [Schema.Covers, Schema.members?, hkeeps, Bool.false_eq_true, if_false, false_and]
    refine forall₂_congr fun ms _ => ⟨fun h name hname => ?_, fun h => ⟨fun k hk x _ => ?_, ?_⟩⟩
    · exact Option.eq_none_iff_forall_not_mem.mpr (h.2 name hname)
    · exact hflat k hk x
    · exact fun name hname => Option.eq_none_iff_forall_not_mem.mp (h name hname)
  rw [hothers]
  cases v with
  | obj ms => simp [HasOnly, member?, membersOrItems?, Json.members?]
  | arr items =>
      -- the items of an array stand for members that are known
      refine ⟨fun _ _ _ => rfl, fun _ ms hms name hname => ?_⟩
      rw [membersOrItems?] at hms
      split at hms
      · cases hms
        refine Members.value?_of_not_mem fun hmem => hname ?_
        obtain ⟨m, hm, rfl⟩ := List.mem_map.mp hmem
        exact (List.of_mem_zip hm).1
      · exact absurd hms (by simp)
  | _ => simp [HasOnly, member?, membersOrItems?, Json.members?]

/-! ## Objects -/

theorem hasOnly_obj {ms : Members Written} {names : List String}
    (h : ∀ m ∈ ms, m.1 ∈ names) : (obj ms).HasOnly names := by
  intro name hname
  refine Members.value?_of_not_mem fun hmem => hname ?_
  obtain ⟨m, hm, rfl⟩ := List.mem_map.mp hmem
  exact h m hm

theorem mem_of_member? {ms : Members Written} {name : String} {r : Document}
    (h : r ∈ (obj ms).member? name) : (name, r) ∈ ms := by
  obtain ⟨m, hm, rfl⟩ := List.mem_map.mp (List.mem_of_getLast? h)
  obtain ⟨hmem, hname⟩ := List.mem_filter.mp hm
  rwa [← beq_iff_eq.mp hname]

theorem othersLast_obj {ms : Members Written} {names : List String}
    (h : ∀ m ∈ ms, m.1 ∈ names ∨ m.2.Lasts) : (obj ms).OthersLast names :=
  fun _ hname _ hx => (h _ (mem_of_member? hx)).resolve_left hname

end Json

end PolicyKeeper
