import Mathlib.Data.Set.Card
import PolicyKeeper.Proofs.Rights
import PolicyKeeper.Proofs.Shaped

/-!
# What finding comes to

A store may hold anything: policies on wildcards that cover a path, policies with several values or
with exclusions, policies of other services, policies whose labels merely contain that of the keeper
or have nothing to do with it. Many of them answer the search for a path, or look like the policy of
it. None of them matters.

What matters is the set of the policies that the keeper manages at the location (`Keeper.managing`).
`findPolicy_exact` says what finding comes to for each number of them: there is none, there is one,
which may be corrupt, or there are several.
-/

namespace PolicyKeeper

/-- The check names the policy that it refuses. -/
theorem checkShape_error_of_not_shapely {p : Policy} (h : ¬ p.Shapely) :
    ∃ flaw, p.checkShape = .error (.corruptPolicy p.name flaw) := by
  rw [← checkShape_eq_ok_iff] at h
  unfold Policy.checkShape at h ⊢
  split at h
  · exact absurd rfl h
  · exact ⟨_, rfl⟩

namespace Keeper

variable {k : Keeper} {s : Store} {o : CatalogObject} {path : Fields String}

/-- The policies that the keeper manages at a location, under their ids. -/
def managing (k : Keeper) (s : Store) (loc : Location) : Set (Int × Policy) :=
  {e | e ∈ s.policies ∧ k.Manages e.2 loc}

theorem managing_eq_empty_iff {loc : Location} : k.managing s loc = ∅ ↔ k.Vacant s loc := by
  rw [Set.eq_empty_iff_forall_notMem]
  exact ⟨fun h e he hman => h e ⟨he, hman⟩, fun h e he => h e he.1 he.2⟩

theorem managing_eq_singleton_iff {loc : Location} {id : Int} {p : Policy} :
    k.managing s loc = {(id, p)} ↔ k.Only s loc id p := by
  rw [Set.eq_singleton_iff_unique_mem]
  refine ⟨?_, ?_⟩
  · intro h
    obtain ⟨⟨hmem, hman⟩, honly⟩ := h
    exact ⟨hmem, hman, fun e he hm => honly e ⟨he, hm⟩⟩
  · intro h
    exact ⟨⟨h.mem, h.manages⟩, fun e he => h.only e he.1 he.2⟩

/-- As many policies are found at a path as are managed at its location. -/
theorem length_managedAt (hs : s.Built) :
    (k.managedAt s path).length = (k.managing s path.get?).ncard := by
  let entries := s.policies.filter fun e =>
    (e.2.isManaged && e.2.isAt path) && e.2.service == k.service
  have hentries : k.managedAt s path = entries.map Prod.snd := by
    unfold managedAt
    rw [List.filter_map]
    rfl
  have hnodup : entries.Nodup := (List.Nodup.of_map Prod.fst hs.keyed.nodup).filter _
  have hset : k.managing s path.get? = ↑entries.toFinset := by
    ext e
    rw [Finset.mem_coe, List.mem_toFinset, List.mem_filter, manages_iff]
    rfl
  rw [hset, Set.ncard_coe_finset, List.toFinset_card_of_nodup hnodup, hentries, List.length_map]

/-- What finding comes to, for each number of policies. -/
theorem select_managedAt (hs : s.Built) :
    (k.Vacant s path.get? → select o path (k.managedAt s path) = .ok none)
      ∧ (∀ id p, k.Only s path.get? id p →
        select o path (k.managedAt s path) = p.checkShape.map fun _ => some p)
      ∧ (2 ≤ (k.managing s path.get?).ncard → select o path (k.managedAt s path)
        = .error (.ambiguousPolicy o.fullName (k.managing s path.get?).ncard)) := by
  unfold select
  rw [managedAt_filter]
  refine ⟨?_, ?_, ?_⟩
  · intro hvacant
    rw [managedAt_eq_nil_iff.mpr hvacant]
  · intro id p honly
    rw [managedAt_of_only hs.keyed.nodup honly]
  · intro hseveral
    rw [← length_managedAt hs] at hseveral ⊢
    split
    · rename_i hnil
      rw [hnil] at hseveral
      exact absurd hseveral (by simp)
    · rename_i p hone
      rw [hone] at hseveral
      exact absurd hseveral (by simp)
    · rfl

/-- The policies at the path decide, in whatever store they are. -/
theorem select_managedAt_congr {t : Store} (hs : s.Built) (ht : t.Built)
    (hsame : k.managing t path.get? = k.managing s path.get?) :
    select o path (k.managedAt t path) = select o path (k.managedAt s path) := by
  obtain ⟨hnone, hone, hseveral⟩ := @select_managedAt k s o path hs
  obtain ⟨hnone', hone', hseveral'⟩ := @select_managedAt k t o path ht
  match hfound : k.managedAt s path with
  | [] =>
      have hvacant := managedAt_eq_nil_iff.mp hfound
      rw [← hfound, hnone hvacant]
      rw [← managing_eq_empty_iff, ← hsame, managing_eq_empty_iff] at hvacant
      exact hnone' hvacant
  | [p] =>
      obtain ⟨id, honly⟩ := only_of_managedAt hfound
      rw [← hfound, hone id p honly]
      rw [← managing_eq_singleton_iff, ← hsame, managing_eq_singleton_iff] at honly
      exact hone' id p honly
  | p :: q :: rest =>
      have htwo : 2 ≤ (k.managing s path.get?).ncard := by
        rw [← length_managedAt hs, hfound]
        simp
      rw [← hfound, hseveral htwo, ← hsame]
      exact hseveral' (hsame ▸ htwo)

/-- **What is found is the policy of the path, and nothing else matters.** In a store of whatever
policies, for an object with a path in which no set begins: if no policy is managed at the path,
none is found; if one is, it is found if its lists are well shaped, and called corrupt otherwise; if
several are, they are counted. The store stays as it is, and any store with the same policies at the
path gives the same answer. -/
theorem findPolicy_exact (hs : s.Built) (hpath : k.layout.path o = .ok path)
    (hself : ∀ e ∈ path.entries, '[' ∉ e.2.toList) :
    (k.managing s path.get? = ∅ → (k.findPolicy o).run Store.perform s = (.ok none, s))
      ∧ (∀ id p, k.managing s path.get? = {(id, p)} → p.Shapely →
        (k.findPolicy o).run Store.perform s = (.ok (some p), s))
      ∧ (∀ id p, k.managing s path.get? = {(id, p)} → ¬ p.Shapely → ∃ flaw,
        (k.findPolicy o).run Store.perform s = (.error (.ofFault (.corruptPolicy p.name flaw)), s))
      ∧ (2 ≤ (k.managing s path.get?).ncard → (k.findPolicy o).run Store.perform s
        = (.error (.ofFault (.ambiguousPolicy o.fullName (k.managing s path.get?).ncard)), s))
      ∧ ∀ t : Store, t.Built → k.managing t path.get? = k.managing s path.get? →
        ((k.findPolicy o).run Store.perform t).1 = ((k.findPolicy o).run Store.perform s).1 := by
  have hrun := fun u => run_findPolicy_of_path (k := k) hpath hself u
  obtain ⟨hnone, hone, hseveral⟩ := @select_managedAt k s o path hs
  refine ⟨?_, ?_, ?_, ?_, ?_⟩
  · intro hempty
    rw [hrun, hnone (managing_eq_empty_iff.mp hempty)]
    rfl
  · intro id p hsingle hshapely
    rw [hrun, hone id p (managing_eq_singleton_iff.mp hsingle), checkShape_eq_ok_iff.mpr hshapely]
    rfl
  · intro id p hsingle hcorrupt
    obtain ⟨flaw, hflaw⟩ := checkShape_error_of_not_shapely hcorrupt
    refine ⟨flaw, ?_⟩
    rw [hrun, hone id p (managing_eq_singleton_iff.mp hsingle), hflaw]
    rfl
  · intro htwo
    rw [hrun, hseveral htwo]
    rfl
  · intro t ht hsame
    rw [hrun, hrun]
    exact congrArg Failure.ofResult (select_managedAt_congr hs ht hsame)

/-- Policies that look like the one of the schema `db`: one is on all schemas, one on two of them,
one on all but this; one has no label, one has a label around the keeper's; one is of another
service, and one is on a table of the schema. -/
def lookalikes : List Policy :=
  let on (name : String) (labels : List String) (levels : List (String × Resource)) : Policy :=
    { service := "hive", name, labels, resources := Fields.ofPairs levels
      allowItems := [{ Item.ofAccess "select" with roles := ["auditor"] }] }
  [on "all" [managedLabel] [("database", .single wildcard)],
    on "two" [managedLabel] [("database", { values := ["db", "lake"] })],
    on "others" [managedLabel] [("database", { Resource.single "db" with isExcludes := true })],
    on "plain" [] [("database", .single "db")],
    on "labelled" ["NOT_" ++ managedLabel] [("database", .single "db")],
    { on "files" [managedLabel] [("database", .single "db")] with service := "hdfs" },
    on "table" [managedLabel] [("database", .single "db"), ("table", .single "books")]]

/-- All of them, and then the policy of the schema. -/
def crowded : Store :=
  (lookalikes ++ [sharedPolicy]).foldl (fun s p => (s.insertPolicy p).2) {}

/-- Five of them answer the search as well, and the policy of the schema is found. -/
theorem findPolicy_exact_crowded :
    (crowded.findPolicies (ofTables.searchFor (Fields.ofPairs [("database", "db")]))).length = 6
      ∧ (ofTables.findPolicy ⟨"cat.db", .schema⟩).run Store.perform crowded
        = (.ok (some { sharedPolicy with id := some 8 }), crowded) := by
  have hbuilt : crowded.Built := .insert _ <| .insert _ <| .insert _ <| .insert _ <|
    .insert _ <| .insert _ <| .insert _ <| .insert _ .empty
  have hfound : ofTables.managedAt crowded (Fields.ofPairs [("database", "db")])
      = [{ sharedPolicy with id := some 8 }] := by decide +kernel
  obtain ⟨id, honly⟩ := only_of_managedAt hfound
  have hshapely := checkShape_eq_ok_iff.mp
    (show ({ sharedPolicy with id := some 8 } : Policy).checkShape = .ok () by decide +kernel)
  exact ⟨by decide +kernel, (findPolicy_exact hbuilt (by decide +kernel) (by decide +kernel)).2.1
    _ _ (managing_eq_singleton_iff.mpr honly) hshapely⟩

end Keeper

end PolicyKeeper
