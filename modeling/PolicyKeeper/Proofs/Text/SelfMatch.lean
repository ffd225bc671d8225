import Mathlib.Data.List.Basic
import PolicyKeeper.Text.Glob
import PolicyKeeper.Text.Search

/-!
# What a text finds when it is searched for

A search hands the service the very texts that a managed policy was written with, and the service
takes the stored ones as patterns. So a managed policy is found again only if its texts match
themselves.

They do, as long as no set occurs in them. `?` and `*` stand for themselves among other things, a
`**` that is a component of its own stands for itself and the slash behind it, and a text that is no
pattern is compared literally. A set is different: `[a]` matches `a` and not `[a]`. It is written
with three characters and stands for one, so a text with a set in it is longer than what it matches,
unless a star makes up for that.
-/

namespace PolicyKeeper.Text

namespace Glob

theorem someRest_of_self {test : List Char → Bool} {cs : List Char} (h : test cs = true) :
    someRest test cs = true := by
  cases cs with
  | nil => exact h
  | cons c cs => rw [someRest, h, Bool.true_or]

theorem someRest_of_tail {test : List Char → Bool} {c : Char} {cs : List Char}
    (h : test cs = true) : someRest test (c :: cs) = true := by
  rw [someRest, someRest_of_self h, Bool.or_true]

/-- Outside sets, the parts of a text in which no set begins match that text. -/
theorem matchParts_readParts? {mode : Mode} {cs : List Char} {parts : List Part}
    (hmode : ∃ atStart, mode = .outside atStart) (hcs : '[' ∉ cs)
    (hparts : readParts? mode cs = some parts) : matchParts parts cs = true := by
  -- by the turns of the reader, which never comes to be inside a set
  fun_induction readParts? mode cs generalizing parts with
  | case1 =>
      cases hparts
      rfl
  | case2 | case3 | case4 =>
      obtain ⟨_, h⟩ := hmode
      exact absurd h (by simp)
  | case5 _ rest ih =>
      obtain ⟨tail, htail, rfl⟩ := Option.map_eq_some_iff.mp hparts
      rw [matchParts]
      exact ih ⟨_, rfl⟩ (fun h => hcs (List.mem_cons_of_mem _ h)) htail
  | case6 =>
      cases hparts
      rfl
  | case7 | case9 => exact absurd hparts (by simp)
  | case8 _ d rest hd _ ih =>
      obtain ⟨tail, htail, rfl⟩ := Option.map_eq_some_iff.mp hparts
      have hself : matchParts tail rest = true := by
        refine ih ⟨_, rfl⟩ (fun h => hcs ?_) htail
        exact List.mem_cons_of_mem _ (List.mem_cons_of_mem _ (List.mem_cons_of_mem _ h))
      -- the two stars are passed over, and the slash after them is the one looked for
      simp [matchParts, someRestAfterSlash, hd.2, hself]
  | case10 _ rest _ _ ih =>
      obtain ⟨tail, htail, rfl⟩ := Option.map_eq_some_iff.mp hparts
      rw [matchParts]
      exact someRest_of_tail (ih ⟨_, rfl⟩ (fun h => hcs (List.mem_cons_of_mem _ h)) htail)
  | case11 | case12 | case13 | case14 => exact absurd List.mem_cons_self hcs
  | case15 _ c rest _ _ _ ih =>
      obtain ⟨tail, htail, rfl⟩ := Option.map_eq_some_iff.mp hparts
      rw [matchParts, ih ⟨_, rfl⟩ (fun h => hcs (List.mem_cons_of_mem _ h)) htail, beq_self_eq_true,
        Bool.true_and]

/-- **A text without sets matches itself**, whatever else is in it. -/
theorem matchesValue_self {s : String} (h : '[' ∉ s.toList) : matchesValue s s = true := by
  unfold matchesValue
  cases hparts : parse? s with
  | none => exact beq_self_eq_true s
  | some parts =>
      show isMatch parts s.toList = true
      rw [isMatch_eq_matchParts]
      exact matchParts_readParts? ⟨true, rfl⟩ h hparts

/-! ## Texts with sets -/

/-- The part stands for one character. -/
def Part.IsSingle : Part → Prop
  | star | directories => False
  | char _ | anyChar | oneOf _ _ => True

/-- Such parts match a text of their number. -/
theorem length_of_matchParts {parts : List Part} {cs : List Char}
    (hsingle : ∀ part ∈ parts, part.IsSingle) (h : matchParts parts cs = true) :
    cs.length = parts.length := by
  induction parts generalizing cs with
  | nil =>
      have hcs : cs = [] := List.isEmpty_iff.mp h
      rw [hcs]
      rfl
  | cons part parts ih =>
      obtain ⟨hpart, hrest⟩ := List.forall_mem_cons.mp hsingle
      cases part with
      | star | directories => exact absurd hpart id
      | char _ | oneOf _ _ =>
          cases cs with
          | nil => exact absurd h (by simp [matchParts])
          | cons d cs =>
              rw [matchParts, Bool.and_eq_true] at h
              rw [List.length_cons, List.length_cons, ih hrest h.2]
      | anyChar =>
          cases cs with
          | nil => exact absurd h (by simp [matchParts])
          | cons d cs =>
              rw [matchParts] at h
              rw [List.length_cons, List.length_cons, ih hrest h]

/-- A text is read as single parts, and as fewer of them than it has characters if it opens a
set. -/
structure Singly (mode : Mode) (cs : List Char) (parts : List Part) : Prop where
  single : ∀ part ∈ parts, part.IsSingle
  le : parts.length ≤ cs.length
  lt : (∃ atStart, mode = .outside atStart) → '[' ∈ cs → parts.length < cs.length

section

variable {mode mode' : Mode} {atStart : Bool} {c : Char} {cs : List Char} {part : Part}
  {parts : List Part}

/-- One character more, and one part for it. -/
theorem Singly.cons (h : Singly (.outside atStart) cs parts) (hpart : part.IsSingle)
    (hc : (∃ atStart, mode = .outside atStart) → c ≠ '[') :
    Singly mode (c :: cs) (part :: parts) where
  single := List.forall_mem_cons.mpr ⟨hpart, h.single⟩
  le := Nat.succ_le_succ h.le
  lt hmode hset := by
    rcases List.mem_cons.mp hset with rfl | hset
    · exact absurd rfl (hc hmode)
    · exact Nat.succ_lt_succ (h.lt ⟨atStart, rfl⟩ hset)

/-- More characters, which make no part. -/
theorem Singly.longer {longer : List Char} (h : Singly mode' cs parts)
    (hlt : cs.length < longer.length) : Singly mode longer parts where
  single := h.single
  le := Nat.le_of_lt (Nat.lt_of_le_of_lt h.le hlt)
  lt _ _ := Nat.lt_of_le_of_lt h.le hlt

/-- A text without stars is read so. -/
theorem singly_readParts? (hstar : '*' ∉ cs) (hparts : readParts? mode cs = some parts) :
    Singly mode cs parts := by
  have htail : ∀ {c : Char} {cs : List Char}, '*' ∉ c :: cs → '*' ∉ cs :=
    fun h hmem => h (List.mem_cons_of_mem _ hmem)
  fun_induction readParts? mode cs generalizing parts with
  | case1 =>
      cases hparts
      exact ⟨fun _ h => absurd h List.not_mem_nil, Nat.le_refl _,
        fun _ h => absurd h List.not_mem_nil⟩
  | case2 | case7 | case9 | case11 | case12 => exact absurd hparts (by simp)
  | case3 negated chars rest ih =>
      obtain ⟨tail, hrest, rfl⟩ := Option.map_eq_some_iff.mp hparts
      refine (ih (htail hstar) hrest).cons trivial fun hmode => ?_
      obtain ⟨_, h⟩ := hmode
      exact absurd h (by simp)
  | case4 _ _ _ _ _ ih => exact (ih (htail hstar) hparts).longer (Nat.lt_succ_self _)
  | case5 _ rest ih =>
      obtain ⟨tail, hrest, rfl⟩ := Option.map_eq_some_iff.mp hparts
      exact (ih (htail hstar) hrest).cons trivial fun _ => by decide
  | case6 | case8 | case10 => exact absurd List.mem_cons_self hstar
  | case13 _ _ _ _ _ ih =>
      have hrest := ih (htail (htail (htail hstar))) hparts
      exact hrest.longer (by simp only [List.length_cons]; omega)
  | case14 _ _ _ _ _ _ ih =>
      have hrest := ih (htail (htail hstar)) hparts
      exact hrest.longer (by simp only [List.length_cons]; omega)
  | case15 _ c rest _ _ hc ih =>
      obtain ⟨tail, hrest, rfl⟩ := Option.map_eq_some_iff.mp hparts
      exact (ih (htail hstar) hrest).cons trivial fun _ => hc

end

/-- **Which texts without stars match themselves**: those that are no pattern, and those without
sets. -/
theorem matchesValue_self_iff {s : String} (hstar : '*' ∉ s.toList) :
    matchesValue s s = true ↔ parse? s = none ∨ '[' ∉ s.toList := by
  refine ⟨fun h => ?_, ?_⟩
  · by_contra hnot
    rw [not_or, not_not] at hnot
    obtain ⟨hparse, hset⟩ := hnot
    obtain ⟨parts, hparts⟩ := Option.ne_none_iff_exists'.mp hparse
    have hmatch : matchParts parts s.toList = true := by
      rw [matchesValue, hparts] at h
      rwa [← isMatch_eq_matchParts]
    -- the parts are too few for the text
    have hsingly := singly_readParts? hstar hparts
    have hlt := hsingly.lt ⟨true, rfl⟩ hset
    rw [length_of_matchParts hsingly.single hmatch] at hlt
    exact Nat.lt_irrefl _ hlt
  · rintro (hnone | hset)
    · rw [matchesValue, hnone]
      exact beq_self_eq_true s
    · exact matchesValue_self hset

/-- A set is no part of what it matches. -/
example : matchesValue "/[a]" "/[a]" = false := by decide +kernel

/-- With stars about it, it may be. -/
example : matchesValue "*[a]*" "*[a]*" = true := by decide +kernel

end Glob

/-! ## Labels and keys -/

/-- A text occurs in itself. -/
theorem contains_self (s : String) : contains s s = true := by
  unfold contains
  cases s.toList with
  | nil => rfl
  | cons c cs => simp [occursIn]

/-- What follows the start of a text that was put together from a start and a rest is the rest. -/
theorem afterStart?_append (start rest : String) :
    afterStart? start (start ++ rest) = some rest := by
  unfold afterStart?
  rw [String.toList_append]
  have h : start.toList.isPrefixOf? (start.toList ++ rest.toList) = some rest.toList :=
    List.isPrefixOf?_eq_some_iff_append_eq.mpr rfl
  rw [h, Option.map_some, String.ofList_toList]

end PolicyKeeper.Text
