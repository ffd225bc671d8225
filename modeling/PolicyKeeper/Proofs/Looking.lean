import PolicyKeeper.Proofs.Adding
import PolicyKeeper.Proofs.Membership
import PolicyKeeper.Proofs.Searching

/-!
# Looking again

A policy that was written is looked for again, on a later event or on the same. Which policies
answer a search, are managed and are at a path can be told from their frames, and so can what a
write is refused for. So while no policy is made or taken away, the keeper finds the same policy
again, with the items that it has by then (`lookup_of_frames`), and the store refuses no other
writes (`conflict?_of_frames`).

This holds of every store that could be built, and of every object. What is found of an object whose
path does not match itself is nothing (`lookup_eq_none_iff`), so that is the same again as well.
-/

namespace PolicyKeeper

namespace Store

variable {s t : Store} {p q : Policy} {id : Int}

/-- What stands against a policy depends on frames. -/
theorem conflict?_of_frames (h : t.frames = s.frames) (hf : q.frame = p.frame) (id : Option Int) :
    t.conflict? id q = s.conflict? id p := by
  have hframes : ∀ (s : Store) (p : Policy), s.conflict? id p
      = { s with policies := s.frames }.conflict? id p.frame := fun s p => by
    unfold conflict? frames
    rw [List.findSome?_map]
    rfl
  rw [hframes t q, hframes s p, hf]
  unfold conflict?
  rw [h]

end Store

namespace Keeper

variable {k : Keeper} {s t : Store} {p q : Policy} {o : CatalogObject} {path : Fields String}
  {id : Int}

/-! ## What is found -/

/-- The policy is what is looked for at the path, and the search for the path returns it. -/
def Meets (k : Keeper) (path : Fields String) (p : Policy) : Prop :=
  k.Manages p path.get? ∧ ∀ l ∈ path.entries, Text.Glob.matchesValue l.2 l.2 = true

theorem Meets.of_frame (h : k.Meets path p) (hf : q.frame = p.frame) : k.Meets path q :=
  ⟨h.1.of_frame hf, h.2⟩

theorem meets_iff : k.Meets path p
    ↔ Store.answers (k.searchFor path) p = true ∧ (p.isManaged && p.isAt path) = true := by
  rw [Bool.and_eq_true, Policy.isAt_iff]
  refine ⟨fun h => ⟨?_, h.1.managed, h.1.guards⟩, fun h => ?_⟩
  · refine h.1.bears.answers_iff.mpr fun l hl => ?_
    obtain ⟨r, hr, hvalue⟩ := h.1.bears.levels l hl
    exact ⟨r, hr, l.2, hvalue, h.2 l hl⟩
  · obtain ⟨hanswers, hmanaged, hguards⟩ := h
    have hman : k.Manages p path.get? := ⟨service_of_answers hanswers, hmanaged, hguards⟩
    refine ⟨hman, fun l hl => ?_⟩
    obtain ⟨r, hr, stored, hstored, hmatches⟩ := hman.bears.answers_iff.mp hanswers l hl
    obtain ⟨r', hr', hvalues⟩ := hguards.values_eq hl
    obtain rfl : r = r' := Option.some.inj (hr.symm.trans hr')
    rw [hvalues, List.mem_singleton] at hstored
    rwa [hstored] at hmatches

open Classical in
theorem filter_findPolicies : (s.findPolicies (k.searchFor path)).filter
      (fun p => p.isManaged && p.isAt path)
    = (s.policies.filter fun e => decide (k.Meets path e.2)).map Prod.snd := by
  unfold Store.findPolicies
  rw [List.filter_filter, List.filter_map]
  refine congrArg _ (List.filter_congr fun e _ => ?_)
  rw [Bool.eq_iff_iff, decide_eq_true_iff, meets_iff, Function.comp_apply, Bool.and_eq_true]
  exact and_comm

/-- **The policy of an object is found** if it is the only one that is looked for, and well
shaped. -/
theorem lookup_eq_some_iff (hs : s.Keyed) : k.lookup s o = .ok (some p)
    ↔ ∃ path id, k.layout.path o = .ok path ∧ (id, p) ∈ s.policies ∧ k.Meets path p
      ∧ (∀ e ∈ s.policies, k.Meets path e.2 → e = (id, p)) ∧ p.Shapely := by
  classical
  rw [lookup_eq]
  cases hpath : k.layout.path o with
  | error f => simp [Except.bind, Failure.ofResult]
  | ok path =>
      refine ⟨fun h => ?_, fun h => ?_⟩
      · obtain ⟨hfound, hshape⟩ := mem_of_select (Plan.ofResult_eq_ok h)
        rw [filter_findPolicies, List.map_eq_singleton_iff] at hfound
        obtain ⟨e, he, rfl⟩ := hfound
        have hmem : ∀ e', e' = e ↔ e' ∈ s.policies ∧ k.Meets path e'.2 := fun e' => by
          rw [← List.mem_singleton, ← he, List.mem_filter, decide_eq_true_iff]
        obtain ⟨hin, hmeets⟩ := (hmem e).mp rfl
        exact ⟨path, e.1, rfl, hin, hmeets, fun e' he' hm => (hmem e').mpr ⟨he', hm⟩,
          checkShape_eq_ok_iff.mp hshape⟩
      · obtain ⟨_, id, hpath', hin, hmeets, honly, hshape⟩ := h
        cases hpath'
        have hfilter : (s.policies.filter fun e => decide (k.Meets path e.2)) = [(id, p)] := by
          refine List.perm_singleton.mp
            ((List.perm_ext_iff_of_nodup ?_ (List.nodup_singleton _)).mpr fun e => ?_)
          · exact (List.Nodup.of_map Prod.fst hs.nodup).filter _
          · rw [List.mem_filter, List.mem_singleton, decide_eq_true_iff]
            refine ⟨fun he => honly e he.1 he.2, ?_⟩
            rintro rfl
            exact ⟨hin, hmeets⟩
        show Failure.ofResult (select o path _) = _
        rw [select, filter_findPolicies, hfilter]
        show Failure.ofResult (p.checkShape.map _) = _
        rw [checkShape_eq_ok_iff.mpr hshape]
        rfl

/-- **No policy of an object is found** if there is none, or if its path does not match itself. -/
theorem lookup_eq_none_iff : k.lookup s o = .ok none ↔ ∃ path, k.layout.path o = .ok path
    ∧ (k.Vacant s path.get? ∨ ∃ l ∈ path.entries, Text.Glob.matchesValue l.2 l.2 = false) := by
  classical
  rw [lookup_eq]
  cases hpath : k.layout.path o with
  | error f => simp [Except.bind, Failure.ofResult]
  | ok path =>
      have hnone : Failure.ofResult (select o path (s.findPolicies (k.searchFor path))) = .ok none
          ↔ ∀ e ∈ s.policies, ¬ k.Meets path e.2 := by
        have hfilter : (s.policies.filter fun e => decide (k.Meets path e.2)) = []
            ↔ ∀ e ∈ s.policies, ¬ k.Meets path e.2 := by
          simp only [List.filter_eq_nil_iff, decide_eq_true_iff]
        rw [← hfilter, ← List.map_eq_nil_iff, ← filter_findPolicies]
        refine ⟨fun h => nil_of_select (Plan.ofResult_eq_ok h), fun h => ?_⟩
        rw [select, h]
        rfl
      refine hnone.trans ⟨fun h => ⟨path, rfl, ?_⟩, ?_⟩
      · by_cases hself : ∀ l ∈ path.entries, Text.Glob.matchesValue l.2 l.2 = true
        · exact Or.inl fun e he hman => h e he ⟨hman, hself⟩
        · right
          simpa using hself
      · rintro ⟨_, hpath', hor⟩ e he hmeets
        cases hpath'
        rcases hor with hvacant | ⟨l, hl, hfalse⟩
        · exact hvacant e he hmeets.1
        · rw [hmeets.2 l hl] at hfalse
          exact absurd hfalse (by simp)

/-! ## Looking again -/

/-- **The same policy is found again**, as it is by then, if it is well shaped. -/
theorem lookup_of_frames (hs : s.Keyed) (ht : t.Keyed) (hframes : t.frames = s.frames)
    (h : k.lookup s o = .ok (some p)) (hid : p.id = some id) (hq : (id, q) ∈ t.policies)
    (hshape : q.Shapely) : k.lookup t o = .ok (some q) := by
  obtain ⟨path, id', hpath, hin, hmeets, honly, _⟩ := (lookup_eq_some_iff hs).mp h
  obtain rfl : id' = id := Option.some.inj ((hs.ids _ hin).symm.trans hid)
  obtain ⟨p', hp', hframe⟩ := Store.exists_of_frames hframes hq
  cases hs.eq_of_id hin hp' rfl
  refine (lookup_eq_some_iff ht).mpr
    ⟨path, id', hpath, hq, hmeets.of_frame hframe.symm, fun e he hm => ?_, hshape⟩
  obtain ⟨p'', hp'', hframe''⟩ := Store.exists_of_frames hframes he
  have hsame : (e.1, p'') = (id', p) := honly _ hp'' (hm.of_frame hframe'')
  exact ht.eq_of_id he hq (Prod.mk.inj hsame).1

/-- What is found is the only policy at the place of the object, and well shaped. -/
theorem lookup_only (hs : s.Keyed) (h : k.lookup s o = .ok (some p)) :
    ∃ loc id, k.layout.Locates o loc ∧ k.Only s loc id p ∧ p.Shapely := by
  obtain ⟨path, id, hpath, hin, hmeets, honly, hshape⟩ := (lookup_eq_some_iff hs).mp h
  have hsole : ∀ e ∈ s.policies, k.Manages e.2 path.get? → e = (id, p) :=
    fun e he hman => honly e he ⟨hman, hmeets.2⟩
  exact ⟨path.get?, id, ⟨path, hpath, rfl⟩, ⟨hin, hmeets.1, hsole⟩, hshape⟩

/-- It is in the store under its id. -/
theorem lookup_some (hs : s.Keyed) (h : k.lookup s o = .ok (some p)) :
    ∃ id, p.id = some id ∧ (id, p) ∈ s.policies ∧ p.Shapely := by
  obtain ⟨_, id, _, honly, hshape⟩ := lookup_only hs h
  exact ⟨id, hs.ids _ honly.mem, honly.mem, hshape⟩

end Keeper

end PolicyKeeper
