import PolicyKeeper.Json.Token
import PolicyKeeper.Service

/-!
# Values that settings take

A whole number without a sign is read exactly if the text is digits, with a plus before them or not,
and the number they write is within the bounds (`Bounds.read_ok_iff`). The reader goes from digit to
digit and stops at the first at which the number is too large. It could not come back from there,
since another digit never makes a number smaller.

Service types and grant modes are words, in any case.
-/

namespace PolicyKeeper

namespace Bounds

variable {b : Bounds} {text : String} {digits : List Char} {c : Char} {n : Nat} {m : Int}

/-- The number that digits write after a number. -/
def valueFrom (n : Nat) (digits : List Char) : Nat :=
  digits.foldl (fun n c => 10 * n + (c.toNat - '0'.toNat)) n

theorem le_valueFrom (n : Nat) (digits : List Char) : n ≤ valueFrom n digits := by
  induction digits generalizing n with
  | nil => exact Nat.le_refl n
  | cons c digits ih =>
      have hstep : n ≤ 10 * n + (c.toNat - '0'.toNat) := by omega
      exact Nat.le_trans hstep (ih _)

theorem zero_le_digit (h : c.isDigit = true) : '0'.toNat ≤ c.toNat := by
  rw [Char.isDigit, Bool.and_eq_true, decide_eq_true_eq] at h
  exact h.1

theorem readDigit_of_isDigit (h : c.isDigit = true) : b.readDigit false n c
    = if b.greatest < (10 * n + (c.toNat - '0'.toNat) : Nat) then .error .tooLarge
      else .ok (10 * n + (c.toNat - '0'.toNat) : Nat) := by
  have hvalue : (((10 * n + (c.toNat - '0'.toNat) : Nat)) : Int)
      = 10 * n + (c.toNat - '0'.toNat) := by
    have := zero_le_digit h
    omega
  rw [hvalue, readDigit, if_pos h]
  rfl

/-- **Reading digits.** What has been read is within the bounds already. -/
theorem foldlM_readDigit (hn : n ≤ b.greatest) : digits.foldlM (b.readDigit false) n = .ok m
    ↔ (∀ c ∈ digits, c.isDigit = true) ∧ m = valueFrom n digits ∧ m ≤ b.greatest := by
  induction digits generalizing n with
  | nil =>
      refine ⟨fun h => ?_, ?_⟩
      · cases h
        exact ⟨fun c hc => absurd hc List.not_mem_nil, rfl, hn⟩
      · rintro ⟨_, rfl, _⟩
        rfl
  | cons c digits ih =>
      rw [List.foldlM_cons, List.forall_mem_cons]
      by_cases hc : c.isDigit = true
      · rw [readDigit_of_isDigit hc, and_iff_right hc]
        split
        · rename_i hlarge
          -- the number has left the bounds, and more digits do not bring it back
          refine ⟨fun h => absurd h (by simp [bind, Except.bind]), ?_⟩
          rintro ⟨_, rfl, hle⟩
          have hmore := le_valueFrom (10 * n + (c.toNat - '0'.toNat)) digits
          have hvalue : valueFrom n (c :: digits)
              = valueFrom (10 * n + (c.toNat - '0'.toNat)) digits := rfl
          omega
        · rename_i hfits
          exact ih (Int.not_lt.mp hfits)
      · rw [readDigit, if_neg hc]
        exact ⟨fun h => absurd h (by simp [bind, Except.bind]), fun h => absurd h.1.1 hc⟩

/-- The text writes a number that is not too large: digits, with a plus before them or not. -/
def Writes (b : Bounds) (text : String) (m : Int) : Prop :=
  ∃ digits, digits ≠ [] ∧ (text.toList = digits ∨ text.toList = '+' :: digits)
    ∧ (∀ c ∈ digits, c.isDigit = true) ∧ m = Json.digitsValue digits ∧ m ≤ b.greatest

/-- A text that does not begin with a sign writes what its characters write. -/
theorem writes_of_ne_plus (hne : ∀ digits, text.toList ≠ '+' :: digits) : b.Writes text m
    ↔ text.toList ≠ [] ∧ (∀ c ∈ text.toList, c.isDigit = true)
      ∧ m = Json.digitsValue text.toList ∧ m ≤ b.greatest := by
  refine ⟨?_, fun h => ⟨text.toList, h.1, Or.inl rfl, h.2⟩⟩
  rintro ⟨digits, hsome, htext | htext, h⟩
  · rw [htext]
    exact ⟨hsome, h⟩
  · exact absurd htext (hne digits)

/-- After a plus it writes what the others write. -/
theorem writes_of_plus (htext : text.toList = '+' :: digits) : b.Writes text m
    ↔ digits ≠ [] ∧ (∀ c ∈ digits, c.isDigit = true)
      ∧ m = Json.digitsValue digits ∧ m ≤ b.greatest := by
  refine ⟨?_, fun h => ⟨digits, h.1, Or.inr htext, h.2⟩⟩
  rintro ⟨digits', hsome, htext' | htext', hall, h⟩
  · -- a plus is no digit
    have hplus : '+' ∈ digits' := by
      rw [← htext', htext]
      exact List.mem_cons_self
    exact absurd (hall '+' hplus) (by decide)
  · obtain rfl : digits' = digits := (List.cons.inj (htext'.symm.trans htext)).2
    exact ⟨hsome, hall, h⟩

/-- **What is read without a sign** is what the text writes. -/
theorem read_ok_iff (hleast : b.least = 0) (hgreatest : 0 ≤ b.greatest) :
    b.read text = .ok m ↔ b.Writes text m := by
  have hdigits : ∀ digits : List Char, digits.foldlM (b.readDigit false) 0 = .ok m
      ↔ (∀ c ∈ digits, c.isDigit = true) ∧ m = Json.digitsValue digits ∧ m ≤ b.greatest :=
    fun digits => foldlM_readDigit (n := 0) hgreatest
  have hminus : ∀ digits, text.toList = '-' :: digits → ¬b.Writes text m := by
    intro digits htext hwrites
    have hne : ∀ digits, text.toList ≠ '+' :: digits := fun _ => by rw [htext]; simp
    have hdigit := ((writes_of_ne_plus hne).mp hwrites).2.1 '-' (by rw [htext]; simp)
    exact absurd hdigit (by decide)
  unfold read
  split
  · rename_i htext
    refine iff_of_false (by simp) fun hwrites => ?_
    exact ((writes_of_ne_plus (by rw [htext]; simp)).mp hwrites).1 htext
  · rename_i htext
    exact iff_of_false (by simp) fun hwrites => ((writes_of_plus htext).mp hwrites).1 rfl
  · rename_i htext
    exact iff_of_false (by simp) (hminus _ htext)
  · rename_i digits hsome htext
    rw [hdigits, writes_of_plus htext]
    exact (and_iff_right hsome).symm
  · rename_i digits _ htext
    rw [if_neg (by omega)]
    exact iff_of_false (by simp) (hminus _ htext)
  · rename_i hnil _ _ hplus _
    rw [hdigits, writes_of_ne_plus hplus]
    exact (and_iff_right hnil).symm

end Bounds

theorem ServiceType.read_ok_iff {text : String} : (∃ t, ServiceType.read text = .ok t)
    ↔ Text.lowerAscii text ∈ ["hadoopsql", "hive", "hdfs"] := by
  rw [ServiceType.read, List.mem_cons, List.mem_cons, List.mem_singleton, ← or_assoc]
  split
  · rename_i hsql
    exact iff_of_true ⟨_, rfl⟩ (Or.inl hsql)
  · rename_i hsql
    rw [or_iff_right hsql]
    split
    · rename_i hfiles
      exact iff_of_true ⟨_, rfl⟩ hfiles
    · rename_i hfiles
      exact iff_of_false (by simp) hfiles

theorem GrantMode.read_ok_iff {text : String} : (∃ mode, GrantMode.read text = .ok mode)
    ↔ Text.lowerAscii text ∈ ["role", "owner-placeholder"] := by
  rw [GrantMode.read, List.mem_cons, List.mem_singleton]
  split
  · rename_i hrole
    exact iff_of_true ⟨_, rfl⟩ (Or.inl hrole)
  · rename_i hrole
    rw [or_iff_right hrole]
    split
    · rename_i howner
      exact iff_of_true ⟨_, rfl⟩ howner
    · rename_i howner
      exact iff_of_false (by simp) howner

end PolicyKeeper
