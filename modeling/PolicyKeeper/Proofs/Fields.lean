import Mathlib.Data.List.Perm.Subperm
import PolicyKeeper.Fields

/-!
# Tables as maps

A table is a list of pairs, but what is asked of it is what it holds under a name. Since no name
comes twice, the entries and the answers say the same, and two tables give the same answers exactly
when `sameAs` says so, in whatever order their names came. A table that is written from pairs holds
under a name the last value they have for it.
-/

namespace PolicyKeeper.Fields

variable {α : Type}

/-- An entry of a list of pairs with different names is what is found under its name. -/
theorem lookup_of_mem {es : List (String × α)} {key : String} {value : α}
    (hnd : (es.map Prod.fst).Nodup) (h : (key, value) ∈ es) : es.lookup key = some value := by
  induction es with
  | nil => exact absurd h (by simp)
  | cons e es ih =>
      obtain ⟨k, v⟩ := e
      rw [List.map_cons, List.nodup_cons] at hnd
      rw [List.lookup_cons]
      rcases List.mem_cons.mp h with h | h
      · cases h
        rw [beq_self_eq_true]
      · have hne : key ≠ k := fun he => hnd.1 (List.mem_map.mpr ⟨(key, value), h, he⟩)
        rw [beq_false_of_ne hne]
        exact ih hnd.2 h

theorem mem_of_lookup {es : List (String × α)} {key : String} {value : α}
    (h : es.lookup key = some value) : (key, value) ∈ es := by
  rw [List.lookup_eq_some_iff] at h
  obtain ⟨l₁, l₂, he, _⟩ := h
  rw [he]
  exact List.mem_append_right _ List.mem_cons_self

/-- The entries are the answers. -/
theorem get?_eq_some_iff {f : Fields α} {key : String} {value : α} :
    f.get? key = some value ↔ (key, value) ∈ f.entries :=
  ⟨mem_of_lookup, lookup_of_mem f.nodup⟩

theorem get?_eq_none_iff {f : Fields α} {key : String} : f.get? key = none ↔ key ∉ f.keys := by
  refine ⟨?_, ?_⟩
  · intro h hmem
    obtain ⟨e, he, rfl⟩ := List.mem_map.mp hmem
    rw [get?_eq_some_iff.mpr he] at h
    exact absurd h (by simp)
  · intro h
    cases hv : f.get? key with
    | none => rfl
    | some v => exact absurd (List.mem_map_of_mem (get?_eq_some_iff.mp hv)) h

/-! ## Tables written from pairs -/

theorem writeEntry_of_not_mem {key : String} {value : α} {es : List (String × α)}
    (h : key ∉ es.map Prod.fst) : writeEntry key value es = es ++ [(key, value)] := by
  induction es with
  | nil => rfl
  | cons e es ih =>
      obtain ⟨k, v⟩ := e
      rw [List.map_cons, List.mem_cons, not_or] at h
      rw [writeEntry, if_neg (fun he => h.1 he.symm), ih h.2, List.cons_append]

theorem foldl_put_entries (pairs : List (String × α)) (f : Fields α)
    (h : (f.keys ++ pairs.map Prod.fst).Nodup) :
    (pairs.foldl (fun f p => f.put p.1 p.2) f).entries = f.entries ++ pairs := by
  induction pairs generalizing f with
  | nil => rw [List.foldl_nil, List.append_nil]
  | cons p pairs ih =>
      have hp : p.1 ∉ f.keys := by
        intro hm
        exact (List.nodup_append.mp h).2.2 p.1 hm p.1 List.mem_cons_self rfl
      have hentries : (f.put p.1 p.2).entries = f.entries ++ [p] := writeEntry_of_not_mem hp
      rw [List.foldl_cons, ih, hentries, List.append_assoc, List.singleton_append]
      rw [keys_put, if_neg hp, List.append_assoc]
      exact h

/-- A table written from pairs with different names has just these entries. -/
theorem entries_ofPairs {pairs : List (String × α)} (h : (pairs.map Prod.fst).Nodup) :
    (ofPairs pairs).entries = pairs := by
  rw [ofPairs, foldl_put_entries]
  · rfl
  · exact h

/-! ## Tables that give the same answers -/

/-- If one table agrees with what all the entries of another one say, and is no larger, then it has
nothing else. -/
theorem mem_keys_of_covers {β : Type} {f : Fields α} {g : Fields β} (hsize : g.size = f.size)
    (h : ∀ key ∈ f.keys, key ∈ g.keys) {key : String} (hkey : key ∈ g.keys) : key ∈ f.keys := by
  have hsub : f.keys.Subperm g.keys := List.subperm_of_subset f.nodup h
  have hlen : g.keys.length ≤ f.keys.length := by
    rw [keys, keys, List.length_map, List.length_map]
    exact Nat.le_of_eq hsize
  exact (hsub.perm_of_length_le hlen).mem_iff.mpr hkey

/-- `sameAs` is equality of the answers. -/
theorem sameAs_iff [BEq α] [LawfulBEq α] {f g : Fields α} :
    f.sameAs g = true ↔ f.get? = g.get? := by
  unfold sameAs
  rw [Bool.and_eq_true, beq_iff_eq, List.all_eq_true]
  refine ⟨?_, ?_⟩
  · intro h
    obtain ⟨hsize, hall⟩ := h
    have hg : ∀ e ∈ f.entries, g.get? e.1 = some e.2 := fun e he => beq_iff_eq.mp (hall e he)
    have hkeys : ∀ key ∈ f.keys, key ∈ g.keys := by
      intro key hkey
      obtain ⟨e, he, rfl⟩ := List.mem_map.mp hkey
      exact List.mem_map_of_mem (get?_eq_some_iff.mp (hg e he))
    funext key
    cases hf : f.get? key with
    | some v => exact (hg (key, v) (get?_eq_some_iff.mp hf)).symm
    | none =>
        refine (get?_eq_none_iff.mpr fun hm => ?_).symm
        exact get?_eq_none_iff.mp hf (mem_keys_of_covers hsize.symm hkeys hm)
  · intro h
    have hkeys : f.keys.Perm g.keys := by
      refine (List.perm_ext_iff_of_nodup f.nodup g.nodup).mpr fun key => ?_
      rw [← not_iff_not]
      exact get?_eq_none_iff.symm.trans (h ▸ get?_eq_none_iff)
    -- equal answers give equal names, and these are as many as there are entries
    refine ⟨?_, fun e he => beq_iff_eq.mpr (h ▸ get?_eq_some_iff.mpr he)⟩
    have hlen := hkeys.length_eq
    rwa [keys, keys, List.length_map, List.length_map] at hlen

/-! ## Tables that are written from pairs -/

theorem ext_entries {f g : Fields α} (h : f.entries = g.entries) : f = g := by
  cases f
  cases g
  cases h
  rfl

theorem get?_foldl_put (f : Fields α) (pairs : List (String × α)) (name : String) :
    (pairs.foldl (fun f p => f.put p.1 p.2) f).get? name =
      (((pairs.filter fun p => p.1 == name).map Prod.snd).getLast?).or (f.get? name) := by
  induction pairs generalizing f with
  | nil => rfl
  | cons p pairs ih =>
      rw [List.foldl_cons, ih, get?_put]
      by_cases h : name = p.1
      · subst h
        rw [if_pos rfl, List.filter_cons_of_pos (by simp), List.map_cons, List.getLast?_cons]
        cases ((pairs.filter fun q => q.1 == p.1).map Prod.snd).getLast? <;> rfl
      · rw [if_neg h, List.filter_cons_of_neg (by simpa using fun e => h e.symm)]

/-- Under a name is the last value that the pairs have for it. -/
theorem get?_ofPairs (pairs : List (String × α)) (name : String) :
    (ofPairs pairs).get? name =
      ((pairs.filter fun p => p.1 == name).map Prod.snd).getLast? := by
  rw [ofPairs, get?_foldl_put, get?_empty, Option.or_none]

/-- A table is written from its own entries. -/
theorem ofPairs_entries (f : Fields α) : ofPairs f.entries = f :=
  ext_entries (entries_ofPairs f.nodup)

/-- Nothing is in the table but what was written to it. -/
theorem mem_of_mem_ofPairs {pairs : List (String × α)} {e : String × α}
    (h : e ∈ (ofPairs pairs).entries) : e ∈ pairs := by
  have hget : (ofPairs pairs).get? e.1 = some e.2 := get?_eq_some_iff.mpr h
  rw [get?_ofPairs] at hget
  obtain ⟨p, hp, hvalue⟩ := List.mem_map.mp (List.mem_of_getLast? hget)
  obtain ⟨hmem, hname⟩ := List.mem_filter.mp hp
  rwa [← Prod.ext (beq_iff_eq.mp hname) hvalue]

/-! ## Changing every value -/

theorem writeEntry_map {β : Type} (g : α → β) (key : String) (value : α) (es : List (String × α)) :
    writeEntry key (g value) (es.map fun e => (e.1, g e.2)) =
      (writeEntry key value es).map fun e => (e.1, g e.2) := by
  induction es with
  | nil => rfl
  | cons e es ih =>
      obtain ⟨k, v⟩ := e
      rw [List.map_cons, writeEntry, writeEntry]
      split
      · rfl
      · rw [ih, List.map_cons]

theorem mapValues_put {β : Type} (g : α → β) (f : Fields α) (key : String) (value : α) :
    (f.put key value).mapValues g = (f.mapValues g).put key (g value) :=
  ext_entries (writeEntry_map g key value f.entries).symm

/-- Values may as well be changed before they are written. -/
theorem ofPairs_map {β : Type} (g : α → β) (pairs : List (String × α)) :
    ofPairs (pairs.map fun p => (p.1, g p.2)) = (ofPairs pairs).mapValues g := by
  have hfrom : ∀ f : Fields α, (pairs.map fun p => (p.1, g p.2)).foldl
      (fun f p => f.put p.1 p.2) (f.mapValues g) =
        (pairs.foldl (fun f p => f.put p.1 p.2) f).mapValues g := by
    induction pairs with
    | nil => exact fun _ => rfl
    | cons p pairs ih =>
        intro f
        rw [List.map_cons, List.foldl_cons, List.foldl_cons, ← mapValues_put]
        exact ih _
  exact hfrom empty

end PolicyKeeper.Fields
