/-!
# Named values

A table from names to values that remembers the order in which the names first came, such as the
levels of a resource, the properties of a catalogue or the unknown fields of a document. Every name
occurs once; the type says so. Writing to a name that is already there keeps its place.
-/

namespace PolicyKeeper

/-- Values under pairwise different names, in the order the names first came. -/
structure Fields (α : Type) where
  entries : List (String × α)
  nodup : (entries.map Prod.fst).Nodup

namespace Fields

variable {α β : Type}

instance [DecidableEq α] : DecidableEq (Fields α) := fun a b =>
  decidable_of_iff (a.entries = b.entries) (by cases a; cases b; simp)

/-- Writes a value under a name: in place if the name is there, at the end if it is new. -/
def writeEntry (key : String) (value : α) : List (String × α) → List (String × α)
  | [] => [(key, value)]
  | (k, v) :: rest => if k = key then (k, value) :: rest else (k, v) :: writeEntry key value rest

/-- Writing changes no name but may add its own. -/
theorem map_fst_writeEntry (key : String) (value : α) (es : List (String × α)) :
    (writeEntry key value es).map Prod.fst =
      if key ∈ es.map Prod.fst then es.map Prod.fst else es.map Prod.fst ++ [key] := by
  induction es with
  | nil => simp [writeEntry]
  | cons e es ih =>
    obtain ⟨k, v⟩ := e
    by_cases h : k = key
    · simp [writeEntry, h]
    · have h' : key ≠ k := fun e => h e.symm
      simp only [writeEntry, if_neg h, List.map_cons, ih, List.mem_cons, h', false_or]
      split <;> simp

theorem nodup_writeEntry (key : String) (value : α) {es : List (String × α)}
    (h : (es.map Prod.fst).Nodup) : ((writeEntry key value es).map Prod.fst).Nodup := by
  rw [map_fst_writeEntry]
  split
  · exact h
  · rename_i hk
    refine List.nodup_append.2 ⟨h, by simp, fun a ha b hb => ?_⟩
    rw [List.mem_singleton.1 hb]
    exact fun e => hk (e ▸ ha)

/-- No entry at all. -/
def empty : Fields α := ⟨[], List.nodup_nil⟩

instance : Inhabited (Fields α) := ⟨empty⟩

/-- The value under a name. -/
def get? (f : Fields α) (key : String) : Option α := f.entries.lookup key

/-- Writes a value under a name. -/
def put (f : Fields α) (key : String) (value : α) : Fields α :=
  ⟨writeEntry key value f.entries, nodup_writeEntry key value f.nodup⟩

/-- Writes the pairs one after the other, so the last of several values of one name stays, at the
place of the first. -/
def ofPairs (pairs : List (String × α)) : Fields α :=
  pairs.foldl (fun f p => f.put p.1 p.2) empty

/-- The names, in order. -/
def keys (f : Fields α) : List String := f.entries.map Prod.fst

/-- The number of names. -/
def size (f : Fields α) : Nat := f.entries.length

/-- Changes every value and no name. -/
def mapValues (g : α → β) (f : Fields α) : Fields β :=
  ⟨f.entries.map fun e => (e.1, g e.2), by
    rw [List.map_map]; exact f.nodup⟩

/-- Equal as maps: the same values under the same names, in whatever order. -/
def sameAs [BEq α] (f g : Fields α) : Bool :=
  f.size == g.size && f.entries.all fun e => g.get? e.1 == some e.2

/-! ## What is under a name -/

@[simp] theorem get?_empty (key : String) : (empty : Fields α).get? key = none := rfl

theorem lookup_writeEntry (key name : String) (value : α) (es : List (String × α)) :
    (writeEntry key value es).lookup name = if name = key then some value else es.lookup name := by
  induction es with
  | nil => by_cases h : name = key <;> simp [writeEntry, h]
  | cons e es ih =>
    obtain ⟨k, v⟩ := e
    by_cases hn : name = k
    · subst hn
      by_cases hk : name = key <;> simp [writeEntry, hk]
    · have hn' : (name == k) = false := by simp [hn]
      by_cases hk : k = key
      · subst hk
        simp [writeEntry, List.lookup_cons, hn', hn]
      · simp [writeEntry, List.lookup_cons, hn', hk, ih]

/-- What was written last under a name is there, and nothing else has changed. -/
theorem get?_put (f : Fields α) (key name : String) (value : α) :
    (f.put key value).get? name = if name = key then some value else f.get? name :=
  lookup_writeEntry key name value f.entries

@[simp] theorem get?_put_self (f : Fields α) (key : String) (value : α) :
    (f.put key value).get? key = some value := by simp [get?_put]

/-- A name that is there keeps its place, and a new one comes last. -/
theorem keys_put (f : Fields α) (key : String) (value : α) :
    (f.put key value).keys = if key ∈ f.keys then f.keys else f.keys ++ [key] :=
  map_fst_writeEntry key value f.entries

/-- Changing the values changes what is under each name. -/
@[simp] theorem get?_mapValues (g : α → β) (f : Fields α) (key : String) :
    (f.mapValues g).get? key = (f.get? key).map g := by
  simp only [get?, mapValues]
  generalize f.entries = es
  induction es with
  | nil => rfl
  | cons e es ih =>
    obtain ⟨k, v⟩ := e
    by_cases h : key = k
    · simp [h]
    · have h' : (key == k) = false := by simp [h]
      simp [List.lookup_cons, h', ih]

@[simp] theorem keys_mapValues (g : α → β) (f : Fields α) : (f.mapValues g).keys = f.keys := by
  simp [keys, mapValues, Function.comp_def]

end Fields

end PolicyKeeper
