import Mathlib.Data.List.Forall2
import PolicyKeeper.Document.Member
import PolicyKeeper.Proofs.Json.Settled

/-!
# Members of records

A record is written as a list of members: one for each of its own values, as far as there are any,
and then what it keeps beside them. It is read member by member, each by its name. So what is read
under a name is what was written under it, if the names of a record are different and none of them
is that of something it keeps (`Members.Apart`).
-/

namespace PolicyKeeper.Json

variable {α β : Type} {v : Json} {read : Json → Option α} {write : α → Json}

/-! ## Lists and tables -/

theorem mapM_eq_some_iff {f : β → Option α} {xs : List β} {ys : List α} :
    xs.mapM f = some ys ↔ List.Forall₂ (fun x y => f x = some y) xs ys := by
  induction xs generalizing ys with
  | nil => simp [eq_comm]
  | cons x xs ih =>
      simp only [List.mapM_cons, Option.bind_eq_bind, Option.bind_eq_some_iff, Option.pure_def,
        Option.some.injEq, List.forall₂_cons_left_iff]
      constructor
      · rintro ⟨y, hy, ys, hys, rfl⟩
        exact ⟨y, ys, hy, ih.mp hys, rfl⟩
      · rintro ⟨y, ys, hy, hys, rfl⟩
        exact ⟨y, hy, ys, ih.mpr hys, rfl⟩

/-- An array is read if each of its items is. -/
theorem list?_eq_some_iff {xs : List α} :
    list? read v = some xs ↔
      ∃ vs, v = .arr vs ∧ List.Forall₂ (fun v x => read v = some x) vs xs := by
  cases v <;> simp [list?, mapM_eq_some_iff]

/-- Every item of a list that was read was read from something. -/
theorem exists_of_list? {xs : List α} (h : list? read v = some xs) {x : α} (hx : x ∈ xs) :
    ∃ v, read v = some x := by
  obtain ⟨_, rfl, hall⟩ := list?_eq_some_iff.mp h
  clear h
  induction hall with
  | nil => exact absurd hx (by simp)
  | cons hw _ ih =>
      rcases List.mem_cons.mp hx with rfl | hx
      · exact ⟨_, hw⟩
      · exact ih hx

/-- A list is read back if each of its items is. -/
theorem list?_map {xs : List α} (h : ∀ x ∈ xs, read (write x) = some x) :
    list? read (.arr (xs.map write)) = some xs := by
  refine list?_eq_some_iff.mpr ⟨_, rfl, ?_⟩
  rw [List.forall₂_map_left_iff]
  exact List.forall₂_same.mpr h

@[simp] theorem texts?_ofTexts (texts : List String) : texts? (ofTexts texts) = some texts :=
  list?_map fun _ _ => rfl

/-- An object is read as a table if the value of each member is read. -/
theorem table?_eq_some_iff {f : Fields α} :
    table? read v = some f ↔ ∃ ms ps, v = .obj ms ∧
      List.Forall₂ (fun m p => m.1 = p.1 ∧ read m.2 = some p.2) ms ps ∧ Fields.ofPairs ps = f := by
  have hpair (m : String × Json) (p : String × α) :
      (read m.2).map (fun x => (m.1, x)) = some p ↔ m.1 = p.1 ∧ read m.2 = some p.2 := by
    obtain ⟨k, x⟩ := p
    simp [and_comm]
  cases v with
  | obj ms =>
      simp only [table?, Option.map_eq_some_iff (x := List.mapM _ _), mapM_eq_some_iff, hpair]
      simp
  | _ => simp [table?]

/-- A table is read back if each of its values is. -/
theorem table?_mapValues {f : Fields α} (h : ∀ e ∈ f.entries, read (write e.2) = some e.2) :
    table? read (.obj (f.mapValues write).entries) = some f := by
  refine table?_eq_some_iff.mpr ⟨_, f.entries, rfl, ?_, ?_⟩
  · show List.Forall₂ _ (f.entries.map fun e => (e.1, write e.2)) f.entries
    rw [List.forall₂_map_left_iff]
    exact List.forall₂_same.mpr fun e he => ⟨rfl, h e he⟩
  · exact Fields.ofPairs_entries f

/-! ## What is under a name -/

namespace Members

variable {ms ns : Members} {name : String} {known : List String} {a : α}

/-- The value under a name, the last one if there are several. -/
def value? {ν : Type} (ms : Members ν) (name : String) : Option (Json ν) :=
  (ms.named name).getLast?

section Named

variable {ν : Type} {ms ns : Members ν}

theorem named_append : named (ms ++ ns) name = ms.named name ++ ns.named name := by
  simp [named]

theorem named_of_not_mem (h : name ∉ ms.map Prod.fst) : ms.named name = [] := by
  rw [named, List.map_eq_nil_iff, List.filter_eq_nil_iff]
  rintro m hm hname
  exact h (List.mem_map.mpr ⟨m, hm, beq_iff_eq.mp hname⟩)

theorem value?_of_named {o : Option (Json ν)} (h : ms.named name = o.toList) :
    ms.value? name = o := by
  rw [value?, h]
  cases o <;> rfl

theorem value?_of_not_mem (h : name ∉ ms.map Prod.fst) : ms.value? name = none :=
  value?_of_named (named_of_not_mem h : ms.named name = (none : Option (Json ν)).toList)

end Named

theorem value?_entries (f : Fields Json) : value? f.entries name = f.get? name := by
  conv_rhs => rw [← Fields.ofPairs_entries f, Fields.get?_ofPairs]
  rfl

/-- Among the members that a record does not know, nothing changes under such a name. -/
theorem named_others (h : name ∉ known) : (ms.others known).named name = ms.named name := by
  simp only [named, others, List.filter_filter]
  congr 1
  refine List.filter_congr fun m _ => ?_
  by_cases hname : m.1 = name
  · simp [hname, h]
  · simp [hname]

/-- The value under a name, once the members are settled. -/
theorem get?_ofPairs_settleMembers :
    (Fields.ofPairs (settleMembers ms)).get? name = (ms.value? name).map settle := by
  rw [Fields.get?_ofPairs, settleMembers_eq_map, value?, named, List.filter_map, List.map_map,
    List.getLast?_map, List.getLast?_map, Option.map_map]
  rfl

/-! ### Reading one member -/

theorem need?_eq_some_iff :
    ms.need? name read = some a ↔ ∃ v, ms.named name = [v] ∧ read v = some a := by
  unfold need?
  split <;> simp_all

theorem get?_eq_some_iff {default : α} :
    ms.get? name read default = some a ↔
      (ms.named name = [] ∧ default = a) ∨ ∃ v, ms.named name = [v] ∧ read v = some a := by
  unfold get?
  split <;> simp_all

theorem maybe?_eq_some_iff {o : Option α} :
    ms.maybe? name read = some o ↔
      ((ms.named name = [] ∨ ms.named name = [.null]) ∧ o = none) ∨
        ∃ v a, ms.named name = [v] ∧ v ≠ .null ∧ read v = some a ∧ o = some a := by
  unfold maybe?
  split
  case h_1 h => simp [h, eq_comm]
  case h_2 h => simp [h, eq_comm]
  case h_3 v hnull h =>
    have hv : v ≠ .null := hnull
    simp [h, hv, Option.map_eq_some_iff, eq_comm]
  case h_4 hnone hnull hone =>
    refine ⟨fun h => absurd h (by simp), ?_⟩
    rintro (⟨h | h, _⟩ | ⟨v, a, h, _⟩)
    · exact (hnone h).elim
    · exact (hnull h).elim
    · exact (hone v h).elim

theorem kept?_eq_some_iff {f : Fields Json} :
    ms.kept? known = some f ↔
      membersFit (ms.others known) = true ∧
        Fields.ofPairs (settleMembers (ms.others known)) = f := by
  unfold kept?
  split <;> simp_all

/-- What is kept stands under names that the record does not know, and is proper. -/
theorem of_mem_kept {f : Fields Json} (h : ms.kept? known = some f) {e : String × Json}
    (he : e ∈ f.entries) : e.1 ∉ known ∧ e.2.IsProper := by
  obtain ⟨hfit, rfl⟩ := kept?_eq_some_iff.mp h
  have hmem : e ∈ settleMembers (ms.others known) := Fields.mem_of_mem_ofPairs he
  refine ⟨fun hname => ?_, membersProper_iff.mp (membersProper_settle hfit) e hmem⟩
  rw [settleMembers_eq_map] at hmem
  obtain ⟨m, hm, rfl⟩ := List.mem_map.mp hmem
  simpa [hname] using (List.mem_filter.mp hm).2

/-- Under a name that the record does not know is kept what was there. -/
theorem get?_kept {f : Fields Json} (h : ms.kept? known = some f) (hname : name ∉ known) :
    f.get? name = (ms.value? name).map settle := by
  obtain ⟨_, rfl⟩ := kept?_eq_some_iff.mp h
  rw [get?_ofPairs_settleMembers, value?, value?, named_others hname]

/-! ## Records as they are written -/

/-- The values of a record under its names, as far as there are any. -/
abbrev Slots := List (String × Option Json)

/-- The members for those that there are. -/
def ofSlots (slots : Slots) : Members := slots.filterMap fun s => s.2.map fun v => (s.1, v)

theorem ofSlots_cons (s : String × Option Json) (slots : Slots) :
    ofSlots (s :: slots) = optionalMember s.1 id s.2 ++ ofSlots slots := by
  obtain ⟨name, _ | v⟩ := s <;> rfl

/-- The names of a record are different, and nothing beside its own members has one of them. -/
structure Apart (slots : Slots) (extra : Members) : Prop where
  nodup : (slots.map Prod.fst).Nodup
  free : ∀ m ∈ extra, m.1 ∉ slots.map Prod.fst

variable {slots : Slots} {extra : Members} {o : Option Json}

theorem named_ofSlots_of_not_mem (h : name ∉ slots.map Prod.fst) :
    (ofSlots slots).named name = [] := by
  refine named_of_not_mem fun hmem => h ?_
  obtain ⟨m, hm, rfl⟩ := List.mem_map.mp hmem
  obtain ⟨s, hs, hsm⟩ := List.mem_filterMap.mp hm
  obtain ⟨v, _, rfl⟩ := Option.map_eq_some_iff.mp hsm
  exact List.mem_map_of_mem hs

theorem named_ofSlots (hnd : (slots.map Prod.fst).Nodup) (h : (name, o) ∈ slots) :
    (ofSlots slots).named name = o.toList := by
  induction slots with
  | nil => exact absurd h (by simp)
  | cons s slots ih =>
      rw [List.map_cons, List.nodup_cons] at hnd
      rw [ofSlots_cons, named_append]
      rcases List.mem_cons.mp h with rfl | h
      · rw [named_ofSlots_of_not_mem hnd.1, List.append_nil]
        cases o <;> simp [optionalMember, named]
      · have hne : s.1 ≠ name := fun he => hnd.1 (he ▸ List.mem_map_of_mem h)
        rw [ih hnd.2 h, named_of_not_mem, List.nil_append]
        cases s.2 <;> simp [optionalMember, hne.symm]

theorem map_fst_ofSlots_sublist : ((ofSlots slots).map Prod.fst).Sublist (slots.map Prod.fst) := by
  induction slots with
  | nil => exact .slnil
  | cons s slots ih =>
      rw [ofSlots_cons, List.map_append, List.map_cons]
      cases s.2 with
      | none => exact ih.cons _
      | some v => exact ih.cons_cons _

namespace Apart

variable (hap : Apart slots extra)
include hap

/-- No name comes twice. -/
theorem once (hnd : (extra.map Prod.fst).Nodup) :
    ((ofSlots slots ++ extra).map Prod.fst).Nodup := by
  rw [List.map_append, List.nodup_append]
  refine ⟨hap.nodup.sublist map_fst_ofSlots_sublist, hnd, ?_⟩
  rintro name hname _ hextra rfl
  obtain ⟨m, hm, rfl⟩ := List.mem_map.mp hextra
  exact hap.free m hm (map_fst_ofSlots_sublist.subset hname)

/-- **Under a name of the record is its value.** -/
theorem named (h : (name, o) ∈ slots) : (ofSlots slots ++ extra).named name = o.toList := by
  rw [named_append, named_ofSlots hap.nodup h, named_of_not_mem, List.append_nil]
  intro hmem
  obtain ⟨m, hm, rfl⟩ := List.mem_map.mp hmem
  exact hap.free m hm (List.mem_map_of_mem h)

/-- The rest is what there is beside it. -/
theorem others : (ofSlots slots ++ extra).others (slots.map Prod.fst) = extra := by
  rw [Members.others, List.filter_append, List.filter_eq_nil_iff.mpr, List.nil_append,
    List.filter_eq_self]
  · intro m hm
    simpa using hap.free m hm
  · intro m hm
    obtain ⟨s, hs, hsm⟩ := List.mem_filterMap.mp hm
    obtain ⟨v, _, rfl⟩ := Option.map_eq_some_iff.mp hsm
    simpa using ⟨s.2, hs⟩

theorem need? (write : α → Json) (h : (name, some (write a)) ∈ slots)
    (hread : read (write a) = some a) : (ofSlots slots ++ extra).need? name read = some a :=
  need?_eq_some_iff.mpr ⟨_, hap.named h, hread⟩

theorem get? {default : α} (write : α → Json) (h : (name, some (write a)) ∈ slots)
    (hread : read (write a) = some a) :
    (ofSlots slots ++ extra).get? name read default = some a :=
  get?_eq_some_iff.mpr (.inr ⟨_, hap.named h, hread⟩)

theorem maybe? {o : Option α} (write : α → Json) (h : (name, o.map write) ∈ slots)
    (hread : ∀ a ∈ o, read (write a) = some a) (hnull : ∀ a, write a ≠ .null) :
    (ofSlots slots ++ extra).maybe? name read = some o := by
  rw [maybe?_eq_some_iff]
  cases o with
  | none => exact .inl ⟨.inl (hap.named h), rfl⟩
  | some a => exact .inr ⟨_, a, hap.named h, hnull a, hread a rfl, rfl⟩

end Apart

/-- What is kept beside a record is found again. -/
theorem Apart.kept? {extra : Fields Json} (hap : Apart slots extra.entries)
    (hproper : ∀ e ∈ extra.entries, e.2.IsProper) :
    (ofSlots slots ++ extra.entries).kept? (slots.map Prod.fst) = some extra := by
  have hall : MembersProper extra.entries := membersProper_iff.mpr hproper
  rw [kept?_eq_some_iff, hap.others, hall.settle]
  exact ⟨hall.membersFit, Fields.ofPairs_entries extra⟩

end Members

end PolicyKeeper.Json
