import Mathlib.Data.List.Nodup
import PolicyKeeper.Keeper.Basic
import PolicyKeeper.Proofs.Location
import PolicyKeeper.Proofs.Text.SelfMatch
import PolicyKeeper.Store.Memory

/-!
# Finding the policy of an object

The keeper asks the service for the policies of its service that match the path of an object, and
keeps those with its label that are at exactly that path. The search may return too much, which the
second look puts right, but it must not return too little. On a store in memory it does not, as long
as the path matches itself: `run_findPolicy` says that the answer depends on the managed policies at
the path (`managedAt`) and on nothing else in the store.

What can be concluded from an answer is said once, in `Only` and `Vacant`: there is one managed
policy at the location, or there is none.
-/

namespace PolicyKeeper

namespace Search

theorem levelKey_ne_serviceKey (level : String) : levelKey level ≠ serviceKey := by
  intro h
  have := congrArg String.toList h
  simp [levelKey, levelStart, serviceKey] at this

theorem levelKey_ne_labelKey (level : String) : levelKey level ≠ labelKey := by
  intro h
  have := congrArg String.toList h
  simp [levelKey, levelStart, labelKey] at this

theorem levelKey_injective : Function.Injective levelKey := by
  intro a b h
  have h' := congrArg String.toList h
  rw [levelKey, levelKey, String.toList_append, String.toList_append] at h'
  exact String.toList_inj.mp (List.append_cancel_left h')

end Search

namespace Keeper

/-- A search has the service, the label and the levels of the path, each under its own key. -/
theorem searchFor_entries (k : Keeper) (path : Fields String) :
    (k.searchFor path).entries =
      [(Search.serviceKey, k.service), (Search.labelKey, managedLabel)] ++
        path.entries.map fun e => (Search.levelKey e.1, e.2) := by
  refine Fields.entries_ofPairs ?_
  have hkeys : (path.entries.map fun e => Search.levelKey e.1).Nodup := by
    have h := List.Nodup.map Search.levelKey_injective path.nodup
    rwa [List.map_map] at h
  rw [List.map_append, List.map_map]
  have hfirst : [Search.serviceKey, Search.labelKey].Nodup := by decide
  refine List.nodup_append.mpr ⟨hfirst, hkeys, ?_⟩
  intro a ha b hb he
  obtain ⟨e, _, rfl⟩ := List.mem_map.mp hb
  rcases List.mem_cons.mp ha with rfl | ha
  · exact Search.levelKey_ne_serviceKey e.1 he.symm
  · rw [List.mem_singleton.mp ha] at he
    exact Search.levelKey_ne_labelKey e.1 he.symm

theorem answersKey_levelKey {p : Policy} {level value : String} :
    Store.answersKey p (Search.levelKey level) value = true
      ↔ ∃ r, p.resources.get? level = some r
        ∧ ∃ stored ∈ r.values, Text.Glob.matchesValue stored value = true := by
  rw [Store.answersKey, if_neg (Search.levelKey_ne_serviceKey _),
    if_neg (Search.levelKey_ne_labelKey _), Search.levelKey, Text.afterStart?_append]
  dsimp only
  cases p.resources.get? level with
  | none => simp
  | some r => simp

/-- **What the search for a path asks of a policy.** -/
theorem answers_searchFor_iff {k : Keeper} {p : Policy} {path : Fields String} :
    Store.answers (k.searchFor path) p = true ↔ p.service = k.service
      ∧ (∃ label ∈ p.labels, Text.contains label managedLabel = true)
      ∧ ∀ l ∈ path.entries, ∃ r, p.resources.get? l.1 = some r
        ∧ ∃ stored ∈ r.values, Text.Glob.matchesValue stored l.2 = true := by
  unfold Store.answers
  rw [searchFor_entries, List.all_append, Bool.and_eq_true, List.all_cons, List.all_cons,
    List.all_nil, Bool.and_true, Bool.and_eq_true, List.all_map, List.all_eq_true, and_assoc]
  refine and_congr beq_iff_eq (and_congr List.any_eq_true ?_)
  exact forall₂_congr fun _ _ => answersKey_levelKey

theorem service_of_answers {k : Keeper} {p : Policy} {path : Fields String}
    (h : Store.answers (k.searchFor path) p = true) : p.service = k.service :=
  (answers_searchFor_iff.mp h).1

/-- The keeper's label is among those that have it in them. -/
theorem exists_label {p : Policy} (h : p.isManaged = true) :
    ∃ label ∈ p.labels, Text.contains label managedLabel = true :=
  ⟨managedLabel, List.contains_iff_mem.mp h, Text.contains_self _⟩

/-- **Nothing is overlooked.** A managed policy at a path without sets answers the search for it if
and only if it is of the service. -/
theorem answers_searchFor {k : Keeper} {p : Policy} {path : Fields String}
    (hm : p.isManaged = true) (hat : p.isAt path = true)
    (hself : ∀ e ∈ path.entries, '[' ∉ e.2.toList) :
    Store.answers (k.searchFor path) p = (p.service == k.service) := by
  have hlevels : ∀ l ∈ path.entries, ∃ r, p.resources.get? l.1 = some r
      ∧ ∃ stored ∈ r.values, Text.Glob.matchesValue stored l.2 = true := by
    intro l hl
    obtain ⟨r, hr, hvalues⟩ := (Policy.isAt_iff.mp hat).values_eq hl
    exact ⟨r, hr, l.2, by rw [hvalues]; exact List.mem_singleton_self _,
      Text.Glob.matchesValue_self (hself l hl)⟩
  -- the label and the levels are answered anyway, so the service alone decides
  rw [Bool.eq_iff_iff, answers_searchFor_iff, beq_iff_eq]
  exact and_iff_left ⟨exists_label hm, hlevels⟩

/-! ## What is found -/

/-- The managed policies of the keeper's service at a path, by their ids. -/
def managedAt (k : Keeper) (s : Store) (path : Fields String) : List Policy :=
  (s.policies.map Prod.snd).filter fun p =>
    (p.isManaged && p.isAt path) && p.service == k.service

/-- What a keeper gets to know of the policy of an object. -/
def located (k : Keeper) (s : Store) (o : CatalogObject) : Except Fault (Option Policy) :=
  (k.layout.path o).bind fun path => select o path (k.managedAt s path)

theorem select_findPolicies {k : Keeper} (s : Store) {o : CatalogObject} {path : Fields String}
    (hself : ∀ e ∈ path.entries, '[' ∉ e.2.toList) :
    select o path (s.findPolicies (k.searchFor path)) = select o path (k.managedAt s path) := by
  have hfilter : (s.findPolicies (k.searchFor path)).filter (fun p => p.isManaged && p.isAt path)
      = (k.managedAt s path).filter fun p => p.isManaged && p.isAt path := by
    unfold Store.findPolicies managedAt
    rw [List.filter_filter, List.filter_filter]
    refine List.filter_congr fun p _ => ?_
    -- what the second look drops may well have answered the search
    cases h : p.isManaged && p.isAt path with
    | false => rfl
    | true =>
        rw [Bool.and_eq_true] at h
        rw [Bool.true_and, Bool.true_and, Bool.true_and, answers_searchFor h.1 h.2 hself]
  unfold select
  rw [hfilter]

/-- **Finding a policy on a store in memory.** It depends on the managed policies at the path alone,
and changes nothing. -/
theorem run_findPolicy_of_path {k : Keeper} {o : CatalogObject} {path : Fields String}
    (hpath : k.layout.path o = .ok path) (hself : ∀ e ∈ path.entries, '[' ∉ e.2.toList)
    (s : Store) : (k.findPolicy o).run Store.perform s
      = (Failure.ofResult (select o path (k.managedAt s path)), s) := by
  unfold findPolicy
  rw [Plan.run_bind, Plan.run_ofResult, hpath]
  show Plan.run Store.perform ((Plan.call (.findPolicies (k.searchFor path))).during _ >>= _) s = _
  rw [Plan.run_bind, Plan.run_during, Plan.run_call]
  show (Failure.ofResult (select o path (s.findPolicies (k.searchFor path))), s) = _
  rw [select_findPolicies s hself]

theorem run_findPolicy {k : Keeper} {o : CatalogObject} (hl : k.layout.Legible o) (s : Store) :
    (k.findPolicy o).run Store.perform s = (Failure.ofResult (k.located s o), s) := by
  unfold located
  cases hp : k.layout.path o with
  | error f =>
      unfold findPolicy
      rw [Plan.run_bind, Plan.run_ofResult, hp]
      rfl
  | ok path => exact run_findPolicy_of_path hp (Layout.path_legible hl hp) s

theorem run_findPolicy_ok {k : Keeper} {o : CatalogObject} (hl : k.layout.Legible o) {s s' : Store}
    {found : Option Policy} (h : (k.findPolicy o).run Store.perform s = (.ok found, s')) :
    k.located s o = .ok found ∧ s' = s := by
  rw [run_findPolicy hl] at h
  cases hf : k.located s o with
  | error f =>
      rw [hf] at h
      exact absurd (congrArg Prod.fst h) (by simp [Failure.ofResult])
  | ok p =>
      rw [hf] at h
      cases h
      exact ⟨rfl, rfl⟩

/-! ## What an answer says of the store -/

/-- The policy is one that the keeper looks after, at the location. -/
structure Manages (k : Keeper) (p : Policy) (loc : Location) : Prop where
  service : p.service = k.service
  managed : p.isManaged = true
  guards : p.Guards loc

/-- One policy is managed at the location: this one, under this id. -/
structure Only (k : Keeper) (s : Store) (loc : Location) (id : Int) (p : Policy) : Prop where
  mem : (id, p) ∈ s.policies
  manages : k.Manages p loc
  only : ∀ e ∈ s.policies, k.Manages e.2 loc → e = (id, p)

/-- No policy is managed at the location. -/
def Vacant (k : Keeper) (s : Store) (loc : Location) : Prop :=
  ∀ e ∈ s.policies, ¬ k.Manages e.2 loc

theorem manages_iff {k : Keeper} {p : Policy} {path : Fields String} :
    ((p.isManaged && p.isAt path) && p.service == k.service) = true ↔ k.Manages p path.get? := by
  rw [Bool.and_eq_true, Bool.and_eq_true, beq_iff_eq, Policy.isAt_iff]
  exact ⟨fun h => ⟨h.2, h.1.1, h.1.2⟩, fun h => ⟨⟨h.managed, h.guards⟩, h.service⟩⟩

theorem managedAt_eq_nil_iff {k : Keeper} {s : Store} {path : Fields String} :
    k.managedAt s path = [] ↔ k.Vacant s path.get? := by
  unfold managedAt Vacant
  rw [List.filter_eq_nil_iff]
  refine ⟨?_, ?_⟩
  · intro h e he hm
    exact h e.2 (List.mem_map_of_mem he) (manages_iff.mpr hm)
  · intro h p hp hm
    obtain ⟨e, he, rfl⟩ := List.mem_map.mp hp
    exact h e he (manages_iff.mp hm)

theorem only_of_managedAt {k : Keeper} {s : Store} {path : Fields String} {p : Policy}
    (h : k.managedAt s path = [p]) : ∃ id, k.Only s path.get? id p := by
  unfold managedAt at h
  rw [List.filter_map] at h
  obtain ⟨e, he, rfl⟩ := List.map_eq_singleton_iff.mp h
  have hmem : ∀ e', e' = e ↔ e' ∈ s.policies ∧ k.Manages e'.2 path.get? := by
    intro e'
    rw [← List.mem_singleton, ← he, List.mem_filter, ← manages_iff]
    rfl
  obtain ⟨hin, hman⟩ := (hmem e).mp rfl
  exact ⟨e.1, hin, hman, fun e' he' hm' => (hmem e').mpr ⟨he', hm'⟩⟩

/-- A policy that is selected is the only managed one at the path, and well shaped. -/
theorem mem_of_select {o : CatalogObject} {path : Fields String} {found : List Policy} {p : Policy}
    (h : select o path found = .ok (some p)) :
    found.filter (fun p => p.isManaged && p.isAt path) = [p] ∧ p.checkShape = .ok () := by
  unfold select at h
  split at h
  · exact absurd h (by simp)
  · rename_i q hq
    cases hc : q.checkShape with
    | error f =>
        rw [hc] at h
        exact absurd h (by simp [Except.map])
    | ok u =>
        rw [hc] at h
        cases h
        exact ⟨hq, hc⟩
  · exact absurd h (by simp)

/-- It was found, and it is managed and at the path. -/
theorem found_of_select {o : CatalogObject} {path : Fields String} {found : List Policy}
    {p : Policy} (h : select o path found = .ok (some p)) :
    p ∈ found ∧ p.isManaged = true ∧ p.Guards path.get? := by
  have hmem : p ∈ found.filter fun p => p.isManaged && p.isAt path := by
    rw [(mem_of_select h).1]
    exact List.mem_singleton_self p
  obtain ⟨hfound, hat⟩ := List.mem_filter.mp hmem
  rw [Bool.and_eq_true] at hat
  exact ⟨hfound, hat.1, Policy.isAt_iff.mp hat.2⟩

theorem nil_of_select {o : CatalogObject} {path : Fields String} {found : List Policy}
    (h : select o path found = .ok none) :
    found.filter (fun p => p.isManaged && p.isAt path) = [] := by
  unfold select at h
  split at h
  · assumption
  · rename_i q _
    cases hc : q.checkShape with
    | error f =>
        rw [hc] at h
        exact absurd h (by simp [Except.map])
    | ok u =>
        rw [hc] at h
        exact absurd h (by simp [Except.map])
  · exact absurd h (by simp)

theorem managedAt_filter (k : Keeper) (s : Store) (path : Fields String) :
    (k.managedAt s path).filter (fun p => p.isManaged && p.isAt path) = k.managedAt s path := by
  refine List.filter_eq_self.mpr fun p hp => ?_
  have h := List.of_mem_filter hp
  rw [Bool.and_eq_true] at h
  exact h.1

/-- If a policy is found, it is the only managed one at the location of the object, and well
shaped. -/
theorem located_some {k : Keeper} {s : Store} {o : CatalogObject} {p : Policy}
    (h : k.located s o = .ok (some p)) :
    ∃ loc id, k.layout.Locates o loc ∧ k.Only s loc id p ∧ p.checkShape = .ok () := by
  unfold located at h
  cases hp : k.layout.path o with
  | error f =>
      rw [hp] at h
      exact absurd h (by simp [Except.bind])
  | ok path =>
      rw [hp] at h
      obtain ⟨hfound, hshape⟩ := mem_of_select h
      rw [managedAt_filter] at hfound
      obtain ⟨id, honly⟩ := only_of_managedAt hfound
      exact ⟨path.get?, id, ⟨path, hp, rfl⟩, honly, hshape⟩

/-- If none is found, there is none. -/
theorem located_none {k : Keeper} {s : Store} {o : CatalogObject}
    (h : k.located s o = .ok none) : ∃ loc, k.layout.Locates o loc ∧ k.Vacant s loc := by
  unfold located at h
  cases hp : k.layout.path o with
  | error f =>
      rw [hp] at h
      exact absurd h (by simp [Except.bind])
  | ok path =>
      rw [hp] at h
      have hfound := nil_of_select h
      rw [managedAt_filter] at hfound
      exact ⟨path.get?, ⟨path, hp, rfl⟩, managedAt_eq_nil_iff.mp hfound⟩

theorem managedAt_of_only {k : Keeper} {s : Store} {path : Fields String} {id : Int} {p : Policy}
    (hnodup : (s.policies.map Prod.fst).Nodup) (h : k.Only s path.get? id p) :
    k.managedAt s path = [p] := by
  unfold managedAt
  rw [List.filter_map]
  have hfilter : s.policies.filter ((fun p => (p.isManaged && p.isAt path)
      && p.service == k.service) ∘ Prod.snd) = [(id, p)] := by
    refine List.perm_singleton.mp ((List.perm_ext_iff_of_nodup ?_ (List.nodup_singleton _)).mpr ?_)
    · exact (List.Nodup.of_map Prod.fst hnodup).filter _
    · intro e
      rw [List.mem_filter, List.mem_singleton]
      refine ⟨?_, ?_⟩
      · intro he
        exact h.only e he.1 (manages_iff.mp he.2)
      · rintro rfl
        exact ⟨h.mem, manages_iff.mpr h.manages⟩
  rw [hfilter]
  rfl

/-- The only managed policy at the location of an object is found, if it is well shaped, -/
theorem located_of_only {k : Keeper} {s : Store} {o : CatalogObject} {loc : Location} {id : Int}
    {p : Policy} (hnodup : (s.policies.map Prod.fst).Nodup) (hloc : k.layout.Locates o loc)
    (h : k.Only s loc id p) (hshape : p.checkShape = .ok ()) :
    k.located s o = .ok (some p) := by
  obtain ⟨path, hpath, rfl⟩ := hloc
  unfold located
  rw [hpath]
  show select o path (k.managedAt s path) = _
  rw [select, managedAt_filter, managedAt_of_only hnodup h]
  show p.checkShape.map _ = _
  rw [hshape]
  rfl

/-- and if there is none, none is. -/
theorem located_of_vacant {k : Keeper} {s : Store} {o : CatalogObject} {loc : Location}
    (hloc : k.layout.Locates o loc) (h : k.Vacant s loc) : k.located s o = .ok none := by
  obtain ⟨path, hpath, rfl⟩ := hloc
  unfold located
  rw [hpath]
  show select o path (k.managedAt s path) = _
  rw [managedAt_eq_nil_iff.mpr h]
  rfl

end Keeper

end PolicyKeeper
