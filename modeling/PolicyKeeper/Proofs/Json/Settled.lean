import PolicyKeeper.Json.Basic
import PolicyKeeper.Proofs.Fields

/-!
# Values that are kept as they are

What a record does not know it keeps, but not as it was written: if an object in it had a name
twice, one value of the two is kept. After that there is nothing left to settle. So the values that
come out are those in which no object has a name twice and everything has a value (`Json.IsProper`),
and these come out as they went in.
-/

namespace PolicyKeeper

namespace Json

mutual

/-- Everything in the value has a value, and no object in it has a name twice. -/
def IsProper : Json → Prop
  | .unfit => False
  | .arr items => AreProper items
  | .obj members => (members.map Prod.fst).Nodup ∧ MembersProper members
  | .null | .bool _ | .int _ | .real _ | .str _ => True

/-- All items are proper. -/
def AreProper : List Json → Prop
  | [] => True
  | v :: rest => v.IsProper ∧ AreProper rest

/-- The values of all members are proper. -/
def MembersProper : List (String × Json) → Prop
  | [] => True
  | (_, v) :: rest => v.IsProper ∧ MembersProper rest

end

variable {v : Json} {items : List Json} {members : List (String × Json)}

theorem membersProper_iff : MembersProper members ↔ ∀ m ∈ members, m.2.IsProper := by
  induction members with
  | nil => simp [MembersProper]
  | cons m members ih => simp [MembersProper, ih]

theorem settleMembers_eq_map {ν : Type} {members : List (String × Json ν)} :
    settleMembers members = members.map fun m => (m.1, m.2.settle) := by
  induction members with
  | nil => rfl
  | cons m members ih => rw [settleMembers, ih, List.map_cons]

/-! ## Settling a proper value -/

mutual

/-- A proper value can be kept. -/
theorem IsProper.isFit : {v : Json} → v.IsProper → v.isFit = true
  | .arr items, h => by
      rw [IsProper] at h
      exact h.areFit
  | .obj members, h => by
      rw [IsProper] at h
      exact h.2.membersFit
  | .null, _ | .bool _, _ | .int _, _ | .real _, _ | .str _, _ => rfl

theorem AreProper.areFit : {items : List Json} → AreProper items → areFit items = true
  | [], _ => rfl
  | _ :: _, h => Bool.and_eq_true_iff.mpr ⟨h.1.isFit, h.2.areFit⟩

theorem MembersProper.membersFit :
    {members : List (String × Json)} → MembersProper members → membersFit members = true
  | [], _ => rfl
  | _ :: _, h => Bool.and_eq_true_iff.mpr ⟨h.1.isFit, h.2.membersFit⟩

end

mutual

/-- **A proper value is kept as it is.** -/
theorem IsProper.settle : {v : Json} → v.IsProper → v.settle = v
  | .arr items, h => by
      rw [IsProper] at h
      rw [Json.settle, h.settle]
  | .obj members, h => by
      rw [IsProper] at h
      rw [Json.settle, h.2.settle, Fields.entries_ofPairs h.1]
  | .null, _ | .bool _, _ | .int _, _ | .real _, _ | .str _, _ => rfl

theorem AreProper.settle : {items : List Json} → AreProper items → settleItems items = items
  | [], _ => rfl
  | _ :: _, h => congrArg₂ List.cons h.1.settle h.2.settle

theorem MembersProper.settle :
    {members : List (String × Json)} → MembersProper members → settleMembers members = members
  | [], _ => rfl
  | (k, _) :: _, h => congrArg₂ List.cons (congrArg (Prod.mk k) h.1.settle) h.2.settle

end

/-! ## Whatever is kept is proper -/

mutual

/-- **What comes of a value that can be kept is proper.** -/
theorem isProper_settle : {v : Json} → v.isFit = true → v.settle.IsProper
  | .arr items, h => by
      rw [Json.settle, IsProper]
      exact areProper_settle h
  | .obj members, h => by
      rw [Json.settle, IsProper, membersProper_iff]
      refine ⟨Fields.nodup _, fun m hm => ?_⟩
      exact membersProper_iff.mp (membersProper_settle h) m (Fields.mem_of_mem_ofPairs hm)
  | .null, _ | .bool _, _ | .int _, _ | .real _, _ | .str _, _ => trivial
  | .unfit, h => absurd h (by simp [isFit])

theorem areProper_settle :
    {items : List Json} → areFit items = true → AreProper (settleItems items)
  | [], _ => trivial
  | _ :: _, h =>
      have hboth := Bool.and_eq_true_iff.mp h
      ⟨isProper_settle hboth.1, areProper_settle hboth.2⟩

theorem membersProper_settle :
    {members : List (String × Json)} → membersFit members = true →
      MembersProper (settleMembers members)
  | [], _ => trivial
  | _ :: _, h =>
      have hboth := Bool.and_eq_true_iff.mp h
      ⟨isProper_settle hboth.1, membersProper_settle hboth.2⟩

end

end Json

end PolicyKeeper
