import Mathlib.Data.List.TakeWhile
import PolicyKeeper.Text.Split

/-!
# Cutting a text and joining it

Cutting a text at a separator and joining texts with it between them undo each other, as long as
what is joined does not hold the separator itself. Pieces that a text is cut into never do.
-/

namespace PolicyKeeper.Text

variable {sep : Char} {cs piece : List Char} {pieces : List (List Char)}

theorem splitChars_eq_splitOn (sep : Char) (cs : List Char) :
    splitChars sep cs = cs.splitOn sep := by
  induction cs with
  | nil => rfl
  | cons c cs ih =>
      rw [splitChars, ih, List.splitOn_cons_eq_if_modifyHead]
      simp only [beq_iff_eq]
      split
      · rfl
      · cases hpieces : cs.splitOn sep with
        | nil => exact absurd (ih.trans hpieces) (splitChars_ne_nil sep cs)
        | cons piece pieces => rfl

/-- What was joined is cut again. -/
theorem splitChars_intercalate (hpieces : ∀ piece ∈ pieces, sep ∉ piece) (hne : pieces ≠ []) :
    splitChars sep ([sep].intercalate pieces) = pieces := by
  rw [splitChars_eq_splitOn, List.splitOn_intercalate sep hpieces hne]

theorem not_mem_of_mem_splitChars (h : piece ∈ splitChars sep cs) : sep ∉ piece := by
  induction cs generalizing piece with
  | nil =>
      rw [splitChars, List.mem_singleton] at h
      rw [h]
      exact List.not_mem_nil
  | cons c cs ih =>
      rw [splitChars] at h
      split at h
      · rcases List.mem_cons.mp h with rfl | hrest
        · exact List.not_mem_nil
        · exact ih hrest
      · rename_i hc
        cases hcs : splitChars sep cs with
        | nil => exact absurd hcs (splitChars_ne_nil sep cs)
        | cons first rest =>
            rw [hcs] at h ih
            rcases List.mem_cons.mp h with rfl | hrest
            · exact List.not_mem_cons_of_ne_of_not_mem (Ne.symm hc) (ih List.mem_cons_self)
            · exact ih (List.mem_cons_of_mem _ hrest)

/-- What has no separator comes in front of the first piece. -/
theorem splitChars_append {front : List Char} (hfront : sep ∉ front)
    (h : splitChars sep cs = piece :: pieces) :
    splitChars sep (front ++ cs) = (front ++ piece) :: pieces := by
  induction front with
  | nil => exact h
  | cons c front ih =>
      rw [List.mem_cons, not_or] at hfront
      rw [List.cons_append, splitChars, if_neg (Ne.symm hfront.1), ih hfront.2]
      rfl

/-- Where a separator is put before each piece, an empty one comes first. -/
theorem splitChars_flatMap (hpieces : ∀ piece ∈ pieces, sep ∉ piece) :
    splitChars sep (pieces.flatMap fun piece => sep :: piece) = [] :: pieces := by
  induction pieces with
  | nil => rfl
  | cons piece pieces ih =>
      obtain ⟨hpiece, hpieces⟩ := List.forall_mem_cons.mp hpieces
      rw [List.flatMap_cons, List.cons_append, splitChars, if_pos rfl,
        splitChars_append hpiece (ih hpieces), List.append_nil]

/-- What was joined is made of the pieces and the separator. -/
theorem mem_intercalate {c : Char} (h : c ∈ [sep].intercalate pieces) :
    c = sep ∨ ∃ piece ∈ pieces, c ∈ piece := by
  induction pieces with
  | nil => exact absurd h List.not_mem_nil
  | cons piece pieces ih =>
      cases pieces with
      | nil =>
          rw [List.intercalate_singleton] at h
          exact .inr ⟨piece, List.mem_cons_self, h⟩
      | cons next rest =>
          rw [List.intercalate_cons_cons, List.mem_append, List.mem_append, List.mem_singleton] at h
          rcases h with (hpiece | hsep) | hrest
          · exact .inr ⟨piece, List.mem_cons_self, hpiece⟩
          · exact .inl hsep
          · obtain hsep | ⟨other, hother, hc⟩ := ih hrest
            · exact .inl hsep
            · exact .inr ⟨other, List.mem_cons_of_mem _ hother, hc⟩

/-! ## Texts -/

variable {s before : String}

theorem map_toList_split (sep : Char) (s : String) :
    (split sep s).map String.toList = splitChars sep s.toList := by
  rw [split, List.map_map]
  exact List.map_id'' (fun _ => String.toList_ofList) _

/-- **Joining undoes cutting.** -/
theorem intercalate_split (sep : Char) (s : String) :
    (String.singleton sep).intercalate (split sep s) = s := by
  rw [← String.toList_inj, String.toList_intercalate, map_toList_split, splitChars_eq_splitOn,
    String.toList_singleton]
  exact List.intercalate_splitOn sep

/-- **A text is cut in one way**: into the pieces without the separator that it is joined of. -/
theorem eq_split_iff {pieces : List String} : pieces = split sep s ↔ pieces ≠ []
    ∧ (∀ piece ∈ pieces, sep ∉ piece.toList) ∧ (String.singleton sep).intercalate pieces = s := by
  refine ⟨?_, ?_⟩
  · rintro rfl
    refine ⟨fun hnil => ?_, fun piece hpiece => ?_, intercalate_split sep s⟩
    · exact splitChars_ne_nil sep s.toList (List.map_eq_nil_iff.mp hnil)
    · have hchars : piece.toList ∈ splitChars sep s.toList :=
        map_toList_split sep s ▸ List.mem_map_of_mem hpiece
      exact not_mem_of_mem_splitChars hchars
  · rintro ⟨hne, hpieces, rfl⟩
    have hcut := splitChars_intercalate (List.forall_mem_map.mpr hpieces)
      (fun hnil => hne (List.map_eq_nil_iff.mp hnil))
    rw [split, String.toList_intercalate, String.toList_singleton, hcut, List.map_map]
    exact (List.map_id'' (fun _ => String.ofList_toList) _).symm

/-! ## The last piece -/

/-- A separator ends one piece and begins the next. -/
theorem splitChars_append_sep (sep : Char) (front back : List Char) :
    splitChars sep (front ++ sep :: back) = splitChars sep front ++ splitChars sep back := by
  induction front with
  | nil => exact (if_pos rfl : splitChars sep (sep :: back) = [] :: splitChars sep back)
  | cons c front ih =>
      rw [List.cons_append, splitChars, splitChars, ih]
      by_cases hc : c = sep
      · rw [if_pos hc, if_pos hc, List.cons_append]
      · rw [if_neg hc, if_neg hc]
        cases hfront : splitChars sep front with
        | nil => exact absurd hfront (splitChars_ne_nil sep front)
        | cons first rest => rfl

/-- A text without the separator is one piece. -/
theorem splitChars_of_not_mem (h : sep ∉ cs) : splitChars sep cs = [cs] := by
  have hsplit := splitChars_intercalate (List.forall_mem_singleton.mpr h) (List.cons_ne_nil cs [])
  rwa [List.intercalate_singleton] at hsplit

theorem split_of_not_mem (h : sep ∉ s.toList) : split sep s = [s] := by
  rw [split, splitChars_of_not_mem h, List.map_singleton, String.ofList_toList]

/-- The last separator stands between what is before it and what is after it, which has no
separator. -/
theorem toList_of_beforeLast? (h : beforeLast? sep s = some before) :
    s.toList = before.toList ++ sep :: (afterLast sep s).toList := by
  have hparts := List.takeWhile_append_dropWhile (p := (· != sep)) (l := s.toList.reverse)
  unfold beforeLast? at h
  cases hdrop : s.toList.reverse.dropWhile (· != sep) with
  | nil =>
      rw [hdrop] at h
      exact absurd h (by simp)
  | cons c front =>
      rw [hdrop] at h hparts
      have hc : c = sep := by
        have hhead := List.head?_dropWhile_not (· != sep) s.toList.reverse
        rw [hdrop] at hhead
        simpa using hhead
      cases h
      rw [← List.reverse_reverse s.toList, ← hparts, hc]
      simp [afterLast]

theorem not_mem_afterLast (sep : Char) (s : String) : sep ∉ (afterLast sep s).toList := by
  intro h
  rw [afterLast, String.toList_ofList, List.mem_reverse] at h
  exact absurd (List.all_eq_true.mp List.all_takeWhile sep h) (by simp)

/-- What is before the last separator has all the pieces but the last. -/
theorem split_of_beforeLast? (h : beforeLast? sep s = some before) :
    split sep s = split sep before ++ [afterLast sep s] := by
  unfold split
  rw [toList_of_beforeLast? h, splitChars_append_sep,
    splitChars_of_not_mem (not_mem_afterLast sep s), List.map_append, List.map_singleton,
    String.ofList_toList]

theorem beforeLast?_eq_none_iff : beforeLast? sep s = none ↔ sep ∉ s.toList := by
  have hnil : s.toList.reverse.dropWhile (· != sep) = [] ↔ sep ∉ s.toList := by
    rw [List.dropWhile_eq_nil_iff]
    refine ⟨fun h hin => ?_, fun h c hc => ?_⟩
    · exact absurd (h sep (List.mem_reverse.mpr hin)) (by simp)
    · rw [bne_iff_ne]
      rintro rfl
      exact h (List.mem_reverse.mp hc)
  rw [← hnil]
  unfold beforeLast?
  cases s.toList.reverse.dropWhile (· != sep) with
  | nil => exact iff_of_true rfl rfl
  | cons c before => exact iff_of_false (by simp) (by simp)

theorem afterLast_of_not_mem (h : sep ∉ s.toList) : afterLast sep s = s := by
  have hall : s.toList.reverse.takeWhile (· != sep) = s.toList.reverse := by
    refine List.takeWhile_eq_self_iff.mpr fun c hc => ?_
    rw [bne_iff_ne]
    rintro rfl
    exact h (List.mem_reverse.mp hc)
  rw [afterLast, hall, List.reverse_reverse, String.ofList_toList]

/-- What is after the last separator is the last piece, also where there is none. -/
theorem getLast?_split (sep : Char) (s : String) :
    (split sep s).getLast? = some (afterLast sep s) := by
  cases hbefore : beforeLast? sep s with
  | none =>
      have hnot := beforeLast?_eq_none_iff.mp hbefore
      rw [split_of_not_mem hnot, afterLast_of_not_mem hnot, List.getLast?_singleton]
  | some before => rw [split_of_beforeLast? hbefore, List.getLast?_concat]

end PolicyKeeper.Text
