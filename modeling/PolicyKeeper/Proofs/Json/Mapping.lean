import PolicyKeeper.Proofs.Json.Members

/-!
# Values with their numbers in another form

A document has its numbers as they are written, the value that it is read as has what they are read
as, and so on. The shape stays the same all the way: the same members under the same names, the same
items, and the same members that win if a name comes twice. Two forms of a value differ exactly if
one of its numbers (`numbers`) differs.
-/

namespace PolicyKeeper.Json

variable {ν μ κ : Type} {f g : ν → μ}

/-! ## Shape -/

theorem mapItems_eq_map {items : List (Json ν)} : mapItems f items = items.map (map f) := by
  induction items with
  | nil => rfl
  | cons v items ih => rw [mapItems, ih, List.map_cons]

theorem mapMembers_eq_map {ms : Members ν} :
    mapMembers f ms = ms.map fun m => (m.1, m.2.map f) := by
  induction ms with
  | nil => rfl
  | cons m ms ih => rw [mapMembers, ih, List.map_cons]

theorem map_fst_mapMembers {ms : Members ν} : (mapMembers f ms).map Prod.fst = ms.map Prod.fst := by
  rw [mapMembers_eq_map, List.map_map]
  rfl

theorem members?_map {v : Json ν} : (v.map f).members? = v.members?.map (mapMembers f) := by
  cases v <;> rfl

theorem membersOrItems?_map {v : Json ν} {names : List String} :
    (v.map f).membersOrItems? names = (v.membersOrItems? names).map (mapMembers f) := by
  cases v with
  | arr items =>
      rw [map, membersOrItems?, membersOrItems?, mapItems_eq_map, List.length_map]
      split
      · rw [Option.map_some, mapMembers_eq_map, List.zip_map_right]
        rfl
      · rfl
  | _ => rfl

theorem named_mapMembers {ms : Members ν} {name : String} :
    Members.named (mapMembers f ms) name = (ms.named name).map (map f) := by
  rw [mapMembers_eq_map, Members.named, Members.named, List.filter_map, List.map_map, List.map_map]
  rfl

theorem value?_mapMembers {ms : Members ν} {name : String} :
    Members.value? (mapMembers f ms) name = (ms.value? name).map (map f) := by
  rw [Members.value?, Members.value?, named_mapMembers, List.getLast?_map]

/-! ## One form after another -/

mutual

theorem map_map {h : μ → κ} : {v : Json ν} → (v.map f).map h = v.map fun x => h (f x)
  | .arr _ => congrArg Json.arr mapItems_mapItems
  | .obj _ => congrArg Json.obj mapMembers_mapMembers
  | .real _ | .unfit | .null | .bool _ | .int _ | .str _ => rfl

theorem mapItems_mapItems {h : μ → κ} : {items : List (Json ν)} →
    mapItems h (mapItems f items) = mapItems (fun x => h (f x)) items
  | [] => rfl
  | _ :: _ => congrArg₂ List.cons map_map mapItems_mapItems

theorem mapMembers_mapMembers {h : μ → κ} : {members : List (String × Json ν)} →
    mapMembers h (mapMembers f members) = mapMembers (fun x => h (f x)) members
  | [] => rfl
  | (k, _) :: _ => congrArg₂ List.cons (congrArg (Prod.mk k) map_map) mapMembers_mapMembers

end

/-! ## Settling -/

mutual

/-- **Which of several members wins does not depend on the form of numbers.** -/
theorem settle_map : {v : Json ν} → (v.map f).settle = v.settle.map f
  | .arr _ => congrArg Json.arr settleItems_mapItems
  | .obj members => by
      rw [map, settle, settle, map, settleMembers_mapMembers, mapMembers_eq_map, mapMembers_eq_map,
        Fields.ofPairs_map]
      rfl
  | .real _ | .unfit | .null | .bool _ | .int _ | .str _ => rfl

theorem settleItems_mapItems : {items : List (Json ν)} →
    settleItems (mapItems f items) = mapItems f (settleItems items)
  | [] => rfl
  | _ :: _ => congrArg₂ List.cons settle_map settleItems_mapItems

theorem settleMembers_mapMembers : {members : List (String × Json ν)} →
    settleMembers (mapMembers f members) = mapMembers f (settleMembers members)
  | [] => rfl
  | (k, _) :: _ => congrArg₂ List.cons (congrArg (Prod.mk k) settle_map) settleMembers_mapMembers

end

/-! ## Numbers -/

mutual

/-- The numbers of a value that are no whole numbers of 64 bits. -/
def numbers : Json ν → List ν
  | .real x => [x]
  | .arr items => itemNumbers items
  | .obj members => memberNumbers members
  | .unfit | .null | .bool _ | .int _ | .str _ => []

/-- Those of all items. -/
def itemNumbers : List (Json ν) → List ν
  | [] => []
  | v :: rest => numbers v ++ itemNumbers rest

/-- Those of the values of all members. -/
def memberNumbers : List (String × Json ν) → List ν
  | [] => []
  | (_, v) :: rest => numbers v ++ memberNumbers rest

end

mutual

/-- **Two forms of a value are the same exactly if those of each number are.** -/
theorem map_eq_map_iff : {v : Json ν} → (v.map f = v.map g ↔ ∀ x ∈ v.numbers, f x = g x)
  | .real x => by simp [map, numbers]
  | .arr items => by
      rw [map, map, numbers, Json.arr.injEq]
      exact mapItems_eq_mapItems_iff
  | .obj members => by
      rw [map, map, numbers, Json.obj.injEq]
      exact mapMembers_eq_mapMembers_iff
  | .unfit | .null | .bool _ | .int _ | .str _ => by simp [map, numbers]

theorem mapItems_eq_mapItems_iff : {items : List (Json ν)} →
    (mapItems f items = mapItems g items ↔ ∀ x ∈ itemNumbers items, f x = g x)
  | [] => by simp [mapItems, itemNumbers]
  | _ :: _ => by
      rw [mapItems, mapItems, itemNumbers, List.cons.injEq, map_eq_map_iff,
        mapItems_eq_mapItems_iff, List.forall_mem_append]

theorem mapMembers_eq_mapMembers_iff : {members : List (String × Json ν)} →
    (mapMembers f members = mapMembers g members ↔ ∀ x ∈ memberNumbers members, f x = g x)
  | [] => by simp [mapMembers, memberNumbers]
  | _ :: _ => by
      rw [mapMembers, mapMembers, memberNumbers, List.cons.injEq, Prod.mk.injEq, map_eq_map_iff,
        mapMembers_eq_mapMembers_iff, List.forall_mem_append, eq_self_iff_true, true_and]

end

end PolicyKeeper.Json
