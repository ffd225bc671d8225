import PolicyKeeper.Proofs.Finding
import PolicyKeeper.Proofs.Rights

/-!
# What a search may overlook

A search may return too much, but a policy that has the very values that are searched for should be
among what it returns (`Keeper.FindsExact`). The store takes the values of its policies as patterns,
so such a policy is found if at each level one of its values matches, and the value that is searched
for is one of them. It is enough that this one matches itself, and it is necessary, since a policy
may have no other.

Most values do match themselves, whatever stars, slashes and malformed sets are in them. Those in
which a set stands for one character need not, and then the store has policies on just this path
that no search for the path returns: even the one that the keeper has just made there
(`not_found_bracketed`).
-/

namespace PolicyKeeper.Keeper

open Text.Glob (matchesValue parse?)

variable {k : Keeper} {s : Store} {path : Fields String} {p : Policy}

/-- The policy is one that the keeper looks after, and has the value of the path at each level of
it, among others perhaps. -/
structure Bears (k : Keeper) (path : Fields String) (p : Policy) : Prop where
  service : p.service = k.service
  managed : p.isManaged = true
  levels : ∀ l ∈ path.entries, ∃ r, p.resources.get? l.1 = some r ∧ l.2 ∈ r.values

/-- Whatever is in the store, a search for the path returns the policies that bear it. -/
def FindsExact (k : Keeper) (path : Fields String) : Prop :=
  ∀ s : Store, s.Built → ∀ e ∈ s.policies, k.Bears path e.2 →
    e.2 ∈ s.findPolicies (k.searchFor path)

theorem mem_findPolicies_iff {search : Search} {e : Int × Policy} (he : e ∈ s.policies) :
    e.2 ∈ s.findPolicies search ↔ Store.answers search e.2 = true := by
  unfold Store.findPolicies
  rw [List.mem_filter]
  exact and_iff_right (List.mem_map_of_mem he)

/-- What is managed at the path bears it. -/
theorem Manages.bears (h : k.Manages p path.get?) : k.Bears path p where
  service := h.service
  managed := h.managed
  levels l hl := by
    obtain ⟨r, hr, hvalues⟩ := h.guards.values_eq hl
    exact ⟨r, hr, by rw [hvalues]; exact List.mem_singleton_self _⟩

/-- For a policy that bears the path, only the levels are in question. -/
theorem Bears.answers_iff (h : k.Bears path p) : Store.answers (k.searchFor path) p = true
    ↔ ∀ l ∈ path.entries, ∃ r, p.resources.get? l.1 = some r
      ∧ ∃ stored ∈ r.values, matchesValue stored l.2 = true := by
  rw [answers_searchFor_iff, and_iff_right h.service, and_iff_right (exists_label h.managed)]

/-- **Exact matches are found** exactly if each value of the path matches itself. -/
theorem findsExact_iff_self :
    k.FindsExact path ↔ ∀ l ∈ path.entries, matchesValue l.2 l.2 = true := by
  refine ⟨fun h l hl => ?_, fun hself s _ e he hbears => ?_⟩
  · -- a managed policy of its own has no other values
    let p := Policy.managed k.service "" path
    have hman : k.Manages { p with id := some 1 } path.get? :=
      ⟨rfl, rfl, Policy.managed_guards k.service "" path⟩
    have hmem : (1, { p with id := some 1 }) ∈ (({} : Store).insertPolicy p).2.policies :=
      List.mem_singleton_self _
    have hfound := h _ (.insert p .empty) _ hmem hman.bears
    obtain ⟨r, hr, stored, hstored, hmatch⟩ :=
      hman.bears.answers_iff.mp ((mem_findPolicies_iff hmem).mp hfound) l hl
    obtain ⟨r', hr', hvalues⟩ := hman.guards.values_eq hl
    obtain rfl : r = r' := Option.some.inj (hr.symm.trans hr')
    rw [hvalues, List.mem_singleton] at hstored
    rwa [hstored] at hmatch
  · refine (mem_findPolicies_iff he).mpr (hbears.answers_iff.mpr fun l hl => ?_)
    obtain ⟨r, hr, hvalue⟩ := hbears.levels l hl
    exact ⟨r, hr, l.2, hvalue, hself l hl⟩

/-- **Which exact matches a search returns.** For every path of an object:

* a policy that bears the path is returned exactly if at each level one of its values matches the
  one of the path as a pattern;
* all of them are, whatever is in the store, exactly if each value of the path matches itself;
* so they are if no set is begun in the names of the object, or in the root directory;
* if there are no stars in the values, all of them are exactly if each value is no pattern or begins
  no set. -/
theorem findsExact_iff {o : CatalogObject} (hpath : k.layout.path o = .ok path) :
    (∀ s : Store, ∀ e ∈ s.policies, k.Bears path e.2 →
        (e.2 ∈ s.findPolicies (k.searchFor path)
          ↔ ∀ l ∈ path.entries, ∃ r, e.2.resources.get? l.1 = some r
            ∧ ∃ stored ∈ r.values, matchesValue stored l.2 = true))
      ∧ (k.FindsExact path ↔ ∀ l ∈ path.entries, matchesValue l.2 l.2 = true)
      ∧ (k.layout.Legible o → k.FindsExact path)
      ∧ ((∀ l ∈ path.entries, '*' ∉ l.2.toList) →
        (k.FindsExact path ↔ ∀ l ∈ path.entries, parse? l.2 = none ∨ '[' ∉ l.2.toList)) := by
  refine ⟨fun s e he hbears => (mem_findPolicies_iff he).trans hbears.answers_iff,
    findsExact_iff_self, fun hl => ?_, fun hstars => ?_⟩
  · exact findsExact_iff_self.mpr fun l hl' =>
      Text.Glob.matchesValue_self (Layout.path_legible hl hpath l hl')
  · rw [findsExact_iff_self]
    exact forall₂_congr fun l hl => Text.Glob.matchesValue_self_iff (hstars l hl)

/-- The bracket in this name is never closed, so it begins no set. -/
theorem findsExact_iff_unclosed :
    ofTables.FindsExact (Fields.ofPairs [("database", "db[1")]) := by
  have hpath : ofTables.layout.path ⟨"cat.db[1", .schema⟩
      = .ok (Fields.ofPairs [("database", "db[1")]) := by decide +kernel
  exact ((findsExact_iff hpath).2.2.2 (by decide +kernel)).mpr (by decide +kernel)

/-- A schema whose name stands for another name. -/
def bracketed : Securable := ⟨⟨"cat.[a]", .schema⟩, [⟨.useSchema, .allow⟩]⟩

def withBracketed : Store :=
  ((ofTables.applyChange { name := "reader", securables := [] } (.add bracketed)).run
    Store.perform {}).2

/-- **The keeper makes a policy, and no search for its path returns it**, so to the keeper there is
none. -/
theorem not_found_bracketed : ∃ path, ofTables.layout.path bracketed.object = .ok path
    ∧ (∃ e ∈ withBracketed.policies, ofTables.Bears path e.2
      ∧ e.2 ∉ withBracketed.findPolicies (ofTables.searchFor path))
    ∧ ((ofTables.findPolicy bracketed.object).run Store.perform withBracketed).1.toOption
      = some none := by
  let path : Fields String := Fields.ofPairs [("database", "[a]")]
  have hmade : withBracketed.policies ≠ [] := by decide +kernel
  have hmanaged : (withBracketed.policies.all fun e =>
      (e.2.isManaged && e.2.isAt path) && e.2.service == ofTables.service) = true := by
    decide +kernel
  have hfound : withBracketed.findPolicies (ofTables.searchFor path) = [] := by decide +kernel
  obtain ⟨e, he⟩ := List.exists_mem_of_ne_nil _ hmade
  have hman : ofTables.Manages e.2 path.get? := manages_iff.mp (List.all_eq_true.mp hmanaged e he)
  refine ⟨path, by decide +kernel, ⟨e, he, hman.bears, ?_⟩, by decide +kernel⟩
  rw [hfound]
  exact List.not_mem_nil

end PolicyKeeper.Keeper
