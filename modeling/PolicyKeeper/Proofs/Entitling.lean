import Mathlib.Data.List.Induction
import Mathlib.Data.List.Nodup
import Mathlib.Data.Set.Basic
import PolicyKeeper.Catalog.Role

/-!
# Entitlements on one object

Entitlements are taken one after the other, and each is held against those that were taken before:
it may be one of them, it may contradict one, it may be about something that cannot be granted on
the object, or it is taken. What comes of a whole list of them is a matter of the list alone. It is
taken if it is `Consistent`, without the duplicates, and else the first entitlement that is
`Refused` after a consistent beginning says why not (`Securable.taken_iff_consistent`).

An entitlement is never refused for two reasons. One that contradicts another is about a privilege
that has been found to fit the object already.
-/

namespace PolicyKeeper

/-! ## Lists without later duplicates -/

section

variable {α : Type} [DecidableEq α] {xs : List α} {x : α}

theorem eraseDups_concat_of_mem (h : x ∈ xs) : (xs ++ [x]).eraseDups = xs.eraseDups := by
  have hnone : [x].removeAll xs = [] := by simp [List.removeAll, h]
  rw [List.eraseDups_append, hnone, List.eraseDups_nil, List.append_nil]

theorem eraseDups_concat_of_not_mem (h : x ∉ xs) :
    (xs ++ [x]).eraseDups = xs.eraseDups ++ [x] := by
  have hall : [x].removeAll xs = [x] := by simp [List.removeAll, h]
  rw [List.eraseDups_append, hall]
  rfl

theorem nodup_eraseDups (xs : List α) : xs.eraseDups.Nodup := by
  induction xs using List.reverseRecOn with
  | nil => exact List.nodup_nil
  | append_singleton xs x ih =>
      by_cases hx : x ∈ xs
      · rwa [eraseDups_concat_of_mem hx]
      · rw [eraseDups_concat_of_not_mem hx]
        refine List.nodup_append.mpr ⟨ih, List.nodup_singleton x, fun y hy z hz heq => hx ?_⟩
        rw [← List.mem_singleton.mp hz, ← heq]
        exact List.mem_eraseDups.mp hy

theorem eraseDups_of_nodup (h : xs.Nodup) : xs.eraseDups = xs := by
  induction xs using List.reverseRecOn with
  | nil => rfl
  | append_singleton xs x ih =>
      obtain ⟨hxs, _, hapart⟩ := List.nodup_append.mp h
      have hx : x ∉ xs := fun hx => hapart x hx x (List.mem_singleton_self x) rfl
      rw [eraseDups_concat_of_not_mem hx, ih hxs]

end

namespace Securable

variable {o : CatalogObject} {es before : List Entitlement} {e : Entitlement} {fault : Fault}
  {s old new : Securable}

/-! ## What can be taken together -/

/-- Nothing is both allowed and denied, and all can be granted on the object. -/
structure Consistent (o : CatalogObject) (es : List Entitlement) : Prop where
  apart : ∀ p, ¬ (⟨p, .allow⟩ ∈ es ∧ ⟨p, .deny⟩ ∈ es)
  binds : ∀ e ∈ es, e.privilege.canBindTo o.kind = true

/-- Why an entitlement cannot be taken after others. -/
inductive Refused (o : CatalogObject) (before : List Entitlement) (e : Entitlement) :
    Fault → Prop where
  /-- The privilege was allowed and is to be denied, or the other way round. -/
  | contradicts (other : Entitlement) : other ∈ before → other.privilege = e.privilege →
      other.effect ≠ e.effect →
      Refused o before e (.invalidObject (.contradiction e.privilege o.fullName))
  /-- The privilege is not granted on objects of this kind. -/
  | unbound : e.privilege.canBindTo o.kind = false →
      Refused o before e (.unsupportedPrivilege e.privilege (some o.kind))

/-- Where nothing is both allowed and denied, the privilege tells the entitlement. -/
theorem apart_iff : (∀ p, ¬ (⟨p, .allow⟩ ∈ es ∧ ⟨p, .deny⟩ ∈ es))
    ↔ ∀ a ∈ es, ∀ b ∈ es, a.privilege = b.privilege → a = b := by
  refine ⟨?_, ?_⟩
  · intro h a ha b hb hprivilege
    obtain ⟨p, x⟩ := a
    obtain ⟨q, y⟩ := b
    obtain rfl : p = q := hprivilege
    cases x with
    | allow =>
        cases y with
        | allow => rfl
        | deny => exact absurd ⟨ha, hb⟩ (h p)
    | deny =>
        cases y with
        | allow => exact absurd ⟨hb, ha⟩ (h p)
        | deny => rfl
  · intro h p hboth
    exact absurd (h _ hboth.1 _ hboth.2 rfl) (by simp)

theorem Consistent.eq_of_privilege (h : Consistent o es) {a b : Entitlement} (ha : a ∈ es)
    (hb : b ∈ es) (hprivilege : a.privilege = b.privilege) : a = b :=
  apart_iff.mp h.apart a ha b hb hprivilege

theorem Consistent.nil : Consistent o [] :=
  ⟨fun _ h => absurd h.1 List.not_mem_nil, fun _ h => absurd h List.not_mem_nil⟩

/-- Which entitlements there are is all that counts, and fewer are consistent, too. -/
theorem Consistent.mono (h : Consistent o es) (hsub : before ⊆ es) : Consistent o before :=
  ⟨fun p hboth => h.apart p ⟨hsub hboth.1, hsub hboth.2⟩, fun e he => h.binds e (hsub he)⟩

/-- One more entitlement can be taken, unless it is refused. -/
theorem Consistent.concat (h : Consistent o before) (hnot : ∀ fault, ¬ Refused o before e fault) :
    Consistent o (before ++ [e]) := by
  have hbinds : e.privilege.canBindTo o.kind = true :=
    Bool.not_eq_false _ ▸ fun hnone => hnot _ (.unbound hnone)
  have hsame : ∀ t ∈ before, t.privilege = e.privilege → t = e := by
    intro t ht hprivilege
    by_contra hne
    refine hnot _ (.contradicts t ht hprivilege fun heffect => hne ?_)
    cases t
    cases e
    congr
  have hmem : ∀ {a}, a ∈ before ++ [e] → a ∈ before ∨ a = e :=
    fun ha => (List.mem_append.mp ha).imp_right List.mem_singleton.mp
  refine ⟨apart_iff.mpr fun a ha b hb hprivilege => ?_, fun a ha => ?_⟩
  · rcases hmem ha with hain | rfl
    · rcases hmem hb with hbin | rfl
      · exact h.eq_of_privilege hain hbin hprivilege
      · exact hsame a hain hprivilege
    · rcases hmem hb with hbin | rfl
      · exact (hsame b hbin hprivilege.symm).symm
      · rfl
  · rcases hmem ha with hain | rfl
    · exact h.binds a hain
    · exact hbinds

/-- In a list that is not consistent, there is a first entitlement that is refused. -/
theorem exists_refused (h : ¬ Consistent o es) :
    ∃ fault before e after, es = before ++ e :: after ∧ Consistent o before
      ∧ Refused o before e fault := by
  induction es using List.reverseRecOn with
  | nil => exact absurd .nil h
  | append_singleton es e ih =>
      by_cases hes : Consistent o es
      · by_cases hrefused : ∃ fault, Refused o es e fault
        · obtain ⟨fault, hrefused⟩ := hrefused
          exact ⟨fault, es, e, [], rfl, hes, hrefused⟩
        · exact absurd (hes.concat (not_exists.mp hrefused)) h
      · obtain ⟨fault, before, x, after, rfl, hrest⟩ := ih hes
        exact ⟨fault, before, x, after ++ [e], List.append_assoc .., hrest⟩

/-! ## Taking them one after the other -/

theorem any_privilege_iff : (before.eraseDups.any fun t => t.privilege == e.privilege) = true
    ↔ ∃ t ∈ before, t.privilege = e.privilege := by
  simp only [List.any_eq_true, beq_iff_eq, List.mem_eraseDups]

/-- What was taken is the list so far without its duplicates, and stays so with one more, -/
theorem takeOne_of_consistent (h : Consistent o (before ++ [e])) :
    takeOne o before.eraseDups e = .ok (before ++ [e]).eraseDups := by
  have he : e ∈ before ++ [e] := List.mem_append_right _ (List.mem_singleton_self e)
  unfold takeOne
  by_cases hin : e ∈ before
  · rw [if_pos (List.mem_eraseDups.mpr hin), eraseDups_concat_of_mem hin]
  · have hfresh : ¬ ∃ t ∈ before, t.privilege = e.privilege := by
      intro hother
      obtain ⟨t, ht, hprivilege⟩ := hother
      exact hin (h.eq_of_privilege (List.mem_append_left _ ht) he hprivilege ▸ ht)
    rw [if_neg (mt List.mem_eraseDups.mp hin), if_neg (mt any_privilege_iff.mp hfresh),
      if_pos (h.binds e he), eraseDups_concat_of_not_mem hin]

/-- unless that is refused. -/
theorem takeOne_of_refused (hbefore : Consistent o before) (h : Refused o before e fault) :
    takeOne o before.eraseDups e = .error fault := by
  unfold takeOne
  cases h with
  | contradicts other hmem hprivilege heffect =>
      have hnot : e ∉ before := fun hin =>
        heffect (congrArg Entitlement.effect (hbefore.eq_of_privilege hmem hin hprivilege))
      rw [if_neg (mt List.mem_eraseDups.mp hnot),
        if_pos (any_privilege_iff.mpr ⟨other, hmem, hprivilege⟩)]
  | unbound hunbound =>
      -- what was taken before fits the object, so none of it is about this privilege
      have hfresh : ¬ ∃ t ∈ before, t.privilege = e.privilege := by
        intro hother
        obtain ⟨t, ht, hprivilege⟩ := hother
        have hbinds := hbefore.binds t ht
        rw [hprivilege, hunbound] at hbinds
        exact absurd hbinds (by simp)
      have hnot : e ∉ before := fun hin => hfresh ⟨e, hin, rfl⟩
      rw [if_neg (mt List.mem_eraseDups.mp hnot), if_neg (mt any_privilege_iff.mp hfresh),
        if_neg (by rw [hunbound]; simp)]

/-- **Consistent entitlements are all taken.** -/
theorem foldlM_takeOne (h : Consistent o es) :
    es.foldlM (takeOne o) [] = .ok es.eraseDups := by
  induction es using List.reverseRecOn with
  | nil => rfl
  | append_singleton es e ih =>
      -- what comes before the last one is consistent without it
      rw [List.foldlM_append, ih (h.mono (List.subset_append_left es [e]))]
      show [e].foldlM (takeOne o) es.eraseDups = _
      rw [List.foldlM_cons, takeOne_of_consistent h]
      rfl

theorem of?_of_consistent (h : Consistent o es) : of? o es = .ok ⟨o, es.eraseDups⟩ := by
  rw [of?, foldlM_takeOne h]
  rfl

theorem of?_of_refused {after : List Entitlement} (hbefore : Consistent o before)
    (h : Refused o before e fault) : of? o (before ++ e :: after) = .error fault := by
  rw [of?, List.foldlM_append, foldlM_takeOne hbefore]
  show Except.map _ ((e :: after).foldlM (takeOne o) before.eraseDups) = _
  rw [List.foldlM_cons, takeOne_of_refused hbefore h]
  rfl

theorem of?_eq_ok_iff : of? o es = .ok s ↔ Consistent o es ∧ s = ⟨o, es.eraseDups⟩ := by
  refine ⟨fun hok => ?_, fun h => h.2 ▸ of?_of_consistent h.1⟩
  have hes : Consistent o es := by
    by_contra hnot
    obtain ⟨fault, before, e, after, rfl, hbefore, hrefused⟩ := exists_refused hnot
    rw [of?_of_refused hbefore hrefused] at hok
    exact absurd hok (by simp)
  rw [of?_of_consistent hes] at hok
  exact ⟨hes, (Except.ok.inj hok).symm⟩

theorem of?_eq_error_iff : of? o es = .error fault
    ↔ ∃ before e after, es = before ++ e :: after ∧ Consistent o before
      ∧ Refused o before e fault := by
  refine ⟨fun herror => ?_, ?_⟩
  · have hes : ¬ Consistent o es := fun hes => by
      rw [of?_of_consistent hes] at herror
      exact absurd herror (by simp)
    obtain ⟨other, before, e, after, rfl, hbefore, hrefused⟩ := exists_refused hes
    rw [of?_of_refused hbefore hrefused] at herror
    exact ⟨before, e, after, rfl, hbefore, Except.error.inj herror ▸ hrefused⟩
  · intro h
    obtain ⟨before, e, after, rfl, hbefore, hrefused⟩ := h
    exact of?_of_refused hbefore hrefused

/-! ## What is granted -/

/-- The entitlements, in no order. -/
def granted (s : Securable) : Set Entitlement := {e | e ∈ s.entitlements}

theorem sameEntitlements_iff : old.sameEntitlements new = true ↔ old.granted = new.granted := by
  unfold sameEntitlements
  rw [Bool.and_eq_true, List.all_eq_true, List.all_eq_true]
  simp only [List.contains_iff_mem]
  refine ⟨fun h => Set.ext fun e => ⟨h.1 e, h.2 e⟩, fun h => ⟨fun e he => ?_, fun e he => ?_⟩⟩
  · exact (h ▸ he : e ∈ new.granted)
  · exact (h ▸ he : e ∈ old.granted)

theorem replace?_eq_ok_iff {change : RoleChange} : RoleChange.replace? old new = .ok change
    ↔ (old.object = new.object ∧ old.granted ≠ new.granted) ∧ change = .replace old new := by
  unfold RoleChange.replace?
  by_cases hobject : old.object = new.object
  · rw [if_neg (not_not.mpr hobject)]
    by_cases hsame : old.sameEntitlements new = true
    · rw [if_pos hsame]
      simp [sameEntitlements_iff.mp hsame]
    · rw [if_neg hsame]
      simp [hobject, mt sameEntitlements_iff.mpr hsame, eq_comm]
  · rw [if_pos hobject]
    simp [hobject]

/-- **A list of entitlements is taken exactly if it is consistent**, and then without the later
duplicates; else the first that is refused says why. One securable object can be put in the place of
another if they are of one object and do not grant the same. -/
theorem taken_iff_consistent (o : CatalogObject) (es : List Entitlement) :
    ((∃ s, of? o es = .ok s) ↔ Consistent o es)
      ∧ (∀ s, of? o es = .ok s → s = ⟨o, es.eraseDups⟩ ∧ s.granted = {e | e ∈ es}
        ∧ (s.entitlements.map Entitlement.privilege).Nodup ∧ of? s.object s.entitlements = .ok s)
      ∧ (∀ fault, of? o es = .error fault ↔ ∃ before e after, es = before ++ e :: after
        ∧ Consistent o before ∧ Refused o before e fault)
      ∧ ∀ old new change, RoleChange.replace? old new = .ok change
        ↔ ((old.object.fullName = new.object.fullName ∧ old.object.kind = new.object.kind)
          ∧ old.granted ≠ new.granted) ∧ change = .replace old new := by
  refine ⟨⟨?_, ?_⟩, ?_, fun fault => of?_eq_error_iff, fun old new change => ?_⟩
  · intro h
    obtain ⟨s, hs⟩ := h
    exact (of?_eq_ok_iff.mp hs).1
  · intro h
    exact ⟨_, of?_of_consistent h⟩
  · intro s hs
    obtain ⟨hes, rfl⟩ := of?_eq_ok_iff.mp hs
    have hsub : es.eraseDups ⊆ es := fun e => List.mem_eraseDups.mp
    refine ⟨rfl, Set.ext fun e => List.mem_eraseDups, ?_, ?_⟩
    · refine (nodup_eraseDups es).map_on fun a ha b hb => ?_
      exact hes.eq_of_privilege (hsub ha) (hsub hb)
    · refine of?_eq_ok_iff.mpr ⟨hes.mono hsub, ?_⟩
      rw [eraseDups_of_nodup (nodup_eraseDups es)]
  · have hobject : old.object = new.object
        ↔ old.object.fullName = new.object.fullName ∧ old.object.kind = new.object.kind := by
      cases old.object
      cases new.object
      rw [CatalogObject.mk.injEq]
    rw [replace?_eq_ok_iff, hobject]

def books : CatalogObject := ⟨"library.public.books", .table⟩

def readAndChange : List Entitlement :=
  [⟨.selectTable, .allow⟩, ⟨.modifyTable, .allow⟩, ⟨.selectTable, .allow⟩]

def changeAndRead : List Entitlement := [⟨.modifyTable, .allow⟩, ⟨.selectTable, .allow⟩]

/-- Two lists that say the same make two securable objects, but no change from one to the other. A
third list is refused for what it says last. -/
theorem taken_iff_consistent_books :
    (∃ old new, of? books readAndChange = .ok old ∧ of? books changeAndRead = .ok new ∧ old ≠ new
        ∧ ∀ change, RoleChange.replace? old new ≠ .ok change)
      ∧ ¬ Consistent books (readAndChange ++ [⟨.selectTable, .deny⟩]) := by
  have hold : of? books readAndChange
      = .ok ⟨books, [⟨.selectTable, .allow⟩, ⟨.modifyTable, .allow⟩]⟩ := by rfl
  have hnew : of? books changeAndRead = .ok ⟨books, changeAndRead⟩ := by rfl
  have hrefused : of? books (readAndChange ++ [⟨.selectTable, .deny⟩])
      = .error (.invalidObject (.contradiction .selectTable "library.public.books")) := by rfl
  obtain ⟨_, hsold, _, hchange⟩ := taken_iff_consistent books readAndChange
  obtain ⟨_, hsnew, _⟩ := taken_iff_consistent books changeAndRead
  refine ⟨⟨_, _, hold, hnew, by decide, fun change h => ?_⟩, fun hconsistent => ?_⟩
  · refine ((hchange _ _ change).mp h).1.2 ?_
    rw [(hsold _ hold).2.1, (hsnew _ hnew).2.1]
    ext e
    simp only [readAndChange, changeAndRead, Set.mem_ofPred_eq, List.mem_cons, List.not_mem_nil]
    tauto
  · obtain ⟨s, hs⟩ := (taken_iff_consistent books _).1.mpr hconsistent
    rw [hrefused] at hs
    exact absurd hs (by simp)

end Securable

end PolicyKeeper
