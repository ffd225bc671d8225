import Mathlib.Data.List.Induction
import Mathlib.Data.Set.Basic
import PolicyKeeper.Keeper.Event
import PolicyKeeper.Proofs.Changes
import PolicyKeeper.Proofs.Placeholder
import PolicyKeeper.Proofs.Store.Running

/-!
# Holding roles beside the placeholder

In owner-placeholder mode a principal that comes to hold roles should stand beside the placeholder
wherever an object of them needs it. What is needed and not there are the lacks of the store
(`Keeper.lacks`), so granting should leave none that an object of the roles needs.

It does not quite. The policies of a role are all read before the first of them is written, so of
several objects at one location each is written over what was read in the beginning, and only the
last that changes anything decides. `Keeper.lacks_granted` says what is left after all roles. Roles
are granted one after the other, each from what the one before has written, so between them nothing
is lost.
-/

namespace PolicyKeeper

/-- An access at a location that a principal may need. -/
structure Need where
  location : Location
  effect : Effect
  access : String

/-- The last element with a property. -/
def LastOf {α : Type} (P : α → Prop) (xs : List α) (x : α) : Prop :=
  ∃ before after, xs = before ++ x :: after ∧ P x ∧ ∀ y ∈ after, ¬ P y

section LastOf

variable {α : Type} {P : α → Prop} {xs : List α} {a x : α}

theorem not_lastOf_nil : ¬ LastOf P [] x := by
  intro h
  obtain ⟨before, after, h, _⟩ := h
  exact absurd h.symm (List.append_ne_nil_of_right_ne_nil before (List.cons_ne_nil _ _))

theorem lastOf_append_of (ha : P a) : LastOf P (xs ++ [a]) x ↔ x = a := by
  refine ⟨?_, ?_⟩
  · intro h
    obtain ⟨before, after, h, _, hafter⟩ := h
    rcases List.eq_nil_or_concat after with rfl | ⟨after, last, rfl⟩
    · exact (List.head_eq_of_cons_eq (List.append_inj' h rfl).2).symm
    · rw [List.concat_eq_append] at h hafter
      rw [← List.cons_append, ← List.append_assoc] at h
      have hlast : a = last := List.head_eq_of_cons_eq (List.append_inj' h rfl).2
      exact absurd (hlast ▸ ha) (hafter last (List.mem_append_right _ (List.mem_singleton_self _)))
  · rintro rfl
    exact ⟨xs, [], rfl, ha, fun y hy => absurd hy List.not_mem_nil⟩

theorem lastOf_append_of_not (ha : ¬ P a) : LastOf P (xs ++ [a]) x ↔ LastOf P xs x := by
  refine ⟨?_, ?_⟩
  · intro h
    obtain ⟨before, after, h, hx, hafter⟩ := h
    rcases List.eq_nil_or_concat after with rfl | ⟨after, last, rfl⟩
    · have hlast : a = x := List.head_eq_of_cons_eq (List.append_inj' h rfl).2
      exact absurd (hlast ▸ hx) ha
    · rw [List.concat_eq_append] at h hafter
      rw [← List.cons_append, ← List.append_assoc] at h
      exact ⟨before, after, (List.append_inj' h rfl).1, hx,
        fun y hy => hafter y (List.mem_append_left _ hy)⟩
  · intro h
    obtain ⟨before, after, rfl, hx, hafter⟩ := h
    refine ⟨before, after ++ [a], by rw [List.append_assoc, List.cons_append], hx, fun y hy => ?_⟩
    rcases List.mem_append.mp hy with hy | hy
    · exact hafter y hy
    · exact List.mem_singleton.mp hy ▸ ha

/-- If an element has the property there is a last one. -/
theorem exists_lastOf (h : ∃ y ∈ xs, P y) : ∃ x, LastOf P xs x := by
  induction xs using List.reverseRecOn with
  | nil =>
      obtain ⟨y, hy, _⟩ := h
      exact absurd hy List.not_mem_nil
  | append_singleton xs a ih =>
      by_cases ha : P a
      · exact ⟨a, (lastOf_append_of ha).mpr rfl⟩
      · obtain ⟨y, hy, hP⟩ := h
        rcases List.mem_append.mp hy with hy | hy
        · obtain ⟨x, hx⟩ := ih ⟨y, hy, hP⟩
          exact ⟨x, (lastOf_append_of_not ha).mpr hx⟩
        · exact absurd (List.mem_singleton.mp hy ▸ hP) ha

end LastOf

namespace Keeper

variable {k : Keeper} {s t t' : Store} {who : Principal} {o : Securable} {p : Policy}
  {loc : Location}

/-- What a principal lacks: at the location a managed policy has an item of the placeholder for the
access, and the principal is not in it. -/
def lacks (k : Keeper) (who : Principal) (s : Store) : Set Need :=
  {n | ∃ e ∈ s.policies, k.Manages e.2 n.location ∧ Lacking (e.2.items n.effect) who n.access}

/-- What the holders of a role need of one of its objects. -/
def needsOf (k : Keeper) (o : Securable) : Set Need :=
  {n | k.Covers o n.location n.effect n.access}

/-- The object is at the location and needs something that is lacking. -/
def Stirs (k : Keeper) (lacking : Set Need) (loc : Location) (o : Securable) : Prop :=
  k.layout.Locates o.object loc ∧ ∃ n ∈ k.needsOf o, n ∈ lacking

/-- Of the objects at a location the last that needs something lacking decides what is written
there. -/
def Decides (k : Keeper) (lacking : Set Need) (loc : Location) (os : List Securable) :
    Securable → Prop :=
  LastOf (k.Stirs lacking loc) os

/-- What is still lacking when a role with the given objects was granted. -/
def leftBy (k : Keeper) (lacking : Set Need) (os : List Securable) : Set Need :=
  {n ∈ lacking | ∀ o, k.Decides lacking n.location os o → n ∉ k.needsOf o}

/-- What is still lacking when roles were granted one after the other. -/
def leftByAll (k : Keeper) (lacking : Set Need) (roles : List Role) : Set Need :=
  roles.foldl (fun lacking role => k.leftBy lacking role.securables) lacking

/-! ## One write -/

theorem mem_lacks {n : Need} : n ∈ k.lacks who s
    ↔ ∃ i, k.HasItem s n.location n.effect i ∧ i.Lacks who n.access := by
  refine ⟨?_, ?_⟩
  · intro h
    obtain ⟨e, he, hm, i, hi, hl⟩ := h
    exact ⟨i, ⟨e, he, hm, hi⟩, hl⟩
  · intro h
    obtain ⟨i, ⟨e, he, hm, hi⟩, hl⟩ := h
    exact ⟨e, he, hm, i, hi, hl⟩

theorem Edited.mem_lacks_here (h : k.Edited s loc p t) {n : Need} (hloc : n.location = loc) :
    n ∈ k.lacks who t ↔ Lacking (p.items n.effect) who n.access := by
  rw [mem_lacks, hloc, h.exists_here]
  rfl

theorem Edited.mem_lacks_elsewhere (h : k.Edited s loc p t) {n : Need} (hloc : n.location ≠ loc) :
    n ∈ k.lacks who t ↔ n ∈ k.lacks who s := by
  rw [mem_lacks, mem_lacks, h.exists_elsewhere hloc]

/-- What an object needs of a policy, with the principal where it is needed. -/
def served (k : Keeper) (who : Principal) (o : Securable) (p : Policy) : Policy :=
  p.mapPlaceholderItems (k.accesses o) (Item.attach who)

/-- An object and its policy, as it was read from a store. -/
def ReadFrom (k : Keeper) (s : Store) (o : Securable) (p : Policy) : Prop :=
  ∃ loc id, k.layout.Locates o.object loc ∧ k.Only s loc id p ∧ p.id = some id

/-- A policy that was read is changed exactly if its object needs something lacking there. -/
theorem served_ne_self_iff (hloc : k.layout.Locates o.object loc) {id : Int}
    (honly : k.Only s loc id p) : k.served who o p ≠ p ↔ k.Stirs (k.lacks who s) loc o := by
  unfold served
  rw [Policy.attach_ne_self_iff]
  refine ⟨?_, ?_⟩
  · intro h
    obtain ⟨effect, a, ha, hl⟩ := h
    refine ⟨hloc, ⟨loc, effect, a⟩, (covers_iff hloc).mpr ⟨rfl, ha⟩, ?_⟩
    exact (honly.edited.mem_lacks_here rfl).mpr hl
  · intro h
    obtain ⟨_, n, hn, hl⟩ := h
    obtain ⟨hnloc, ha⟩ := (covers_iff hloc).mp hn
    exact ⟨n.effect, n.access, ha, (honly.edited.mem_lacks_here hnloc).mp hl⟩

theorem hasNoItems_served (hne : k.served who o p ≠ p) : (k.served who o p).hasNoItems = false := by
  obtain ⟨effect, a, _, i, hi, _⟩ := Policy.attach_ne_self_iff.mp hne
  cases h : (k.served who o p).hasNoItems with
  | false => rfl
  | true =>
      have hp : p.hasNoItems = true := by
        rw [← h, served, Policy.hasNoItems_attach]
      rw [Policy.items_of_hasNoItems hp] at hi
      exact absurd hi List.not_mem_nil

/-- Every policy that was the only one at its location in the older store still has its id. -/
def SameSites (k : Keeper) (s t : Store) : Prop :=
  ∀ loc id p, k.Only s loc id p → ∃ q, k.Only t loc id q

/-- What a store lacks when the policy of an object was written over it, as an older store had
it. -/
def Overwritten (k : Keeper) (lacking : Set Need) (o : Securable) (now : Set Need) : Set Need :=
  {n | (k.Stirs lacking n.location o ∧ n ∈ lacking ∧ n ∉ k.needsOf o)
    ∨ (¬ k.Stirs lacking n.location o ∧ n ∈ now)}

theorem Rewritten.sameSites {id : Int} (hsites : k.SameSites s t) (honly : k.Only s loc id p)
    {p' : Policy} (hm : k.Manages p' loc) (hhas : p'.hasNoItems = false)
    (hw : k.Rewritten t loc id p' t') : k.SameSites s t' := by
  intro loc' id' q hq
  by_cases hloc : loc' = loc
  · subst hloc
    cases honly.only _ hq.mem hq.manages
    exact ⟨_, hw.only hm hhas⟩
  · obtain ⟨q', hq'⟩ := hsites loc' id' q hq
    exact ⟨q', hw.only_elsewhere hm hloc hq'⟩

/-- Writing over a policy with what was read from an older store. -/
theorem Edited.lacks_overwritten (hloc : k.layout.Locates o.object loc)
    (hread : k.Edited s loc p s) (hstirs : k.Stirs (k.lacks who s) loc o)
    (h : k.Edited t loc (k.served who o p) t') :
    k.lacks who t' = k.Overwritten (k.lacks who s) o (k.lacks who t) := by
  ext n
  show _ ↔ (_ ∧ _ ∧ _) ∨ (_ ∧ _)
  by_cases hn : n.location = loc
  · have hneeds : n ∈ k.needsOf o ↔ n.access ∈ k.accesses o n.effect :=
      (covers_iff hloc).trans (and_iff_right hn)
    rw [h.mem_lacks_here hn, served, Policy.lacking_attach, ← hread.mem_lacks_here hn, ← hneeds,
      hn, and_iff_right hstirs, or_iff_left fun hnot => hnot.1 hstirs]
  · have hnot : ¬ k.Stirs (k.lacks who s) n.location o := fun hst => hn (hst.1.unique hloc)
    rw [h.mem_lacks_elsewhere hn, and_iff_right hnot, or_iff_right fun hst => hnot hst.1]

/-- **A policy that was read earlier is written over what is there**, if that was a change. -/
theorem persistChange_lacks (ht : t.Built) (hread : k.ReadFrom s o p) (hsites : k.SameSites s t)
    (hrun : (persistChange p (k.served who o p)).run Store.perform t = (.ok (), t')) :
    k.lacks who t' = k.Overwritten (k.lacks who s) o (k.lacks who t) ∧ k.SameSites s t' := by
  obtain ⟨loc, id, hloc, honly, hid⟩ := hread
  have hstirs : k.served who o p ≠ p ↔ k.Stirs (k.lacks who s) loc o :=
    served_ne_self_iff hloc honly
  unfold persistChange at hrun
  -- no write means that the object needs nothing that was lacking when its policy was read
  by_cases hsame : k.served who o p = p
  · rw [if_pos hsame] at hrun
    cases hrun
    have hnot : ∀ n : Need, ¬ k.Stirs (k.lacks who s) n.location o :=
      fun n h => hstirs.mpr (h.1.unique hloc ▸ h) hsame
    refine ⟨Set.ext fun n => ?_, hsites⟩
    show _ ↔ (_ ∧ _ ∧ _) ∨ (_ ∧ _)
    rw [and_iff_right (hnot n), or_iff_right fun h => hnot n h.1]
  · rw [if_neg hsame] at hrun
    obtain ⟨q, hq⟩ := hsites loc id p honly
    have hframe : (k.served who o p).frame = p.frame := rfl
    have hm : k.Manages (k.served who o p) loc := honly.manages.of_frame hframe
    have hid' : (k.served who o p).id = some id := (Policy.id_of_frame hframe).trans hid
    have hw := hq.rewritten ht.keyed hid'
    rcases run_persist (hq.hasPolicy hid') with ⟨f, herr⟩ | ⟨_, hok, rfl⟩
    · rw [herr] at hrun
      exact absurd (congrArg Prod.fst hrun) (by simp)
    · rw [hok] at hrun
      cases hrun
      exact ⟨Edited.lacks_overwritten hloc honly.edited (hstirs.mp hsame) (hw.edited hm),
        hw.sameSites hsites honly hm (hasNoItems_served hsame)⟩

/-! ## One role -/

/-- Written over one after the other, the last object that stirs at a location decides. -/
theorem overwritten_all (lacking : Set Need) (os : List Securable) :
    os.foldl (fun now o => k.Overwritten lacking o now) lacking = k.leftBy lacking os := by
  -- from the end, since a later object undoes what earlier ones at its location have written
  induction os using List.reverseRecOn with
  | nil =>
      ext n
      exact ⟨fun h => ⟨h, fun o ho => absurd ho not_lastOf_nil⟩, And.left⟩
  | append_singleton os o ih =>
      rw [List.foldl_append, List.foldl_cons, List.foldl_nil, ih]
      ext n
      show (_ ∧ _ ∧ _) ∨ (_ ∧ (_ ∧ _)) ↔ (_ ∧ ∀ o', LastOf _ _ o' → _)
      by_cases hst : k.Stirs lacking n.location o
      · rw [and_iff_right hst, or_iff_left fun h => h.1 hst]
        refine and_congr_right fun _ => ⟨fun h o' ho' => ?_, fun h => ?_⟩
        · rwa [(lastOf_append_of hst).mp ho']
        · exact h o ((lastOf_append_of hst).mpr rfl)
      · rw [and_iff_right hst, or_iff_right fun h => hst h.1]
        refine and_congr_right fun _ => forall_congr' fun o' => ?_
        rw [lastOf_append_of_not hst]
        rfl

/-- Policies that were all read from one store are written one after the other. -/
theorem persistChanges_lacks {ps : List (Securable × Policy)} (ht : t.Built)
    (hread : ∀ x ∈ ps, k.ReadFrom s x.1 x.2) (hsites : k.SameSites s t)
    (hrun : (ps.forM fun x => persistChange x.2 (k.served who x.1 x.2)).run Store.perform t
      = (.ok (), t')) :
    t'.Built ∧ k.lacks who t' = (ps.map Prod.fst).foldl
      (fun now o => k.Overwritten (k.lacks who s) o now) (k.lacks who t) := by
  induction ps generalizing t with
  | nil =>
      cases hrun
      exact ⟨ht, rfl⟩
  | cons x ps ih =>
      obtain ⟨_, t₁, hfirst, hrest⟩ := Plan.run_bind_ok hrun
      obtain ⟨hone, hsites₁⟩ := persistChange_lacks ht (hread x List.mem_cons_self) hsites hfirst
      have ht₁ : t₁.Built := ht.of_run hfirst
      rw [List.map_cons, List.foldl_cons, ← hone]
      exact ih ht₁ (fun y hy => hread y (List.mem_cons_of_mem _ hy)) hsites₁ hrest

/-- Reading the policies of a role leaves the store alone, and each is what is there. -/
theorem policiesOf_read {role : Role} {os : List Securable} {ps : List (Securable × Policy)}
    (hk : s.Keyed) (hl : ∀ o ∈ os, k.layout.Legible o.object)
    (hrun : (k.policiesOf role os).run Store.perform s = (.ok (some ps), t)) :
    t = s ∧ ps.map Prod.fst = os ∧ ∀ x ∈ ps, k.ReadFrom s x.1 x.2 := by
  induction os generalizing ps t with
  | nil =>
      cases hrun
      exact ⟨rfl, rfl, fun x hx => absurd hx List.not_mem_nil⟩
  | cons o os ih =>
      obtain ⟨found, s₁, hfind, hrest⟩ := Plan.run_bind_ok hrun
      obtain ⟨hfound, rfl⟩ := run_findPolicy_ok (hl o List.mem_cons_self) (Plan.run_during_ok hfind)
      cases found with
      | none => exact absurd (congrArg Prod.fst hrest) (by simp)
      | some p =>
          obtain ⟨more, s₂, hmore, hend⟩ := Plan.run_bind_ok hrest
          obtain ⟨loc, id, hloc, honly, _⟩ := located_some hfound
          have hread : k.ReadFrom s₁ o p := ⟨loc, id, hloc, honly, hk.ids _ honly.mem⟩
          cases more with
          | none => exact absurd (congrArg Prod.fst hend) (by simp)
          | some ps' =>
              cases hend
              have hl' : ∀ o' ∈ os, k.layout.Legible o'.object :=
                fun o' ho' => hl o' (List.mem_cons_of_mem _ ho')
              obtain ⟨rfl, hfst, hall⟩ := ih hl' hmore
              refine ⟨rfl, congrArg (o :: ·) hfst, fun x hx => ?_⟩
              rcases List.mem_cons.mp hx with rfl | hx
              · exact hread
              · exact hall x hx

/-- **Granting one role.** -/
theorem grantRole_lacks {role : Role} (hmode : k.mode = .ownerPlaceholder) (hs : s.Built)
    (hl : ∀ o ∈ role.securables, k.layout.Legible o.object)
    (hrun : (k.grantRole who role).run Store.perform s = (.ok true, t)) :
    t.Built ∧ k.lacks who t = k.leftBy (k.lacks who s) role.securables := by
  unfold grantRole at hrun
  simp only [hmode] at hrun
  obtain ⟨read, s₁, hpolicies, hrest⟩ := Plan.run_bind_ok hrun
  cases read with
  | none => exact absurd (congrArg Prod.fst hrest) (by simp)
  | some ps =>
      obtain ⟨rfl, hfst, hread⟩ := policiesOf_read hs.keyed hl hpolicies
      obtain ⟨_, s₂, hwrites, hend⟩ := Plan.run_bind_ok hrest
      cases hend
      obtain ⟨ht, hlacks⟩ := persistChanges_lacks hs hread (fun _ _ p hp => ⟨p, hp⟩) hwrites
      rw [hfst, overwritten_all] at hlacks
      exact ⟨ht, hlacks⟩

/-! ## Roles one after the other -/

theorem leftByAll_append (lacking : Set Need) (roles : List Role) (role : Role) :
    k.leftByAll lacking (roles ++ [role])
      = k.leftBy (k.leftByAll lacking roles) role.securables := by
  rw [leftByAll, List.foldl_append]
  rfl

/-- What is left in the end was lacking in the beginning, and no role has decided for it. -/
theorem mem_leftByAll {lacking : Set Need} {roles : List Role} {n : Need} :
    n ∈ k.leftByAll lacking roles ↔ n ∈ lacking ∧ ∀ before role after o,
      roles = before ++ role :: after →
      k.Decides (k.leftByAll lacking before) n.location role.securables o → n ∉ k.needsOf o := by
  induction roles using List.reverseRecOn with
  | nil =>
      refine ⟨fun h => ⟨h, fun before role after o hnil => ?_⟩, And.left⟩
      exact absurd hnil.symm (List.append_ne_nil_of_right_ne_nil before (List.cons_ne_nil _ _))
  | append_singleton roles role ih =>
      rw [leftByAll_append]
      show n ∈ k.leftByAll lacking roles ∧ _ ↔ _
      rw [ih]
      refine ⟨?_, ?_⟩
      · intro h
        obtain ⟨⟨hin, hbefore⟩, hlast⟩ := h
        refine ⟨hin, fun before role' after o heq hd => ?_⟩
        rcases List.eq_nil_or_concat after with rfl | ⟨after, last, rfl⟩
        · obtain ⟨rfl, hrole⟩ := List.append_inj' heq rfl
          cases hrole
          exact hlast o hd
        · rw [List.concat_eq_append, ← List.cons_append, ← List.append_assoc] at heq
          exact hbefore before role' after o (List.append_inj' heq rfl).1 hd
      · intro h
        obtain ⟨hin, hall⟩ := h
        refine ⟨⟨hin, fun before role' after o heq => hall before role' (after ++ [role]) o ?_⟩,
          fun o => hall roles role [] o rfl⟩
        rw [heq, List.append_assoc, List.cons_append]

theorem grantEach_lacks {roles : List Role} (hmode : k.mode = .ownerPlaceholder) (hs : s.Built)
    (hl : ∀ role ∈ roles, ∀ o ∈ role.securables, k.layout.Legible o.object)
    (hrun : (k.grantEach who roles).run Store.perform s = (.ok true, t)) :
    k.lacks who t = k.leftByAll (k.lacks who s) roles := by
  induction roles generalizing s with
  | nil =>
      cases hrun
      rfl
  | cons role roles ih =>
      obtain ⟨granted, s₁, hfirst, hrest⟩ := Plan.run_bind_ok hrun
      cases granted with
      | false => exact absurd (congrArg Prod.fst hrest) (by simp)
      | true =>
          obtain ⟨hs₁, hone⟩ := grantRole_lacks hmode hs (hl role List.mem_cons_self) hfirst
          rw [leftByAll, List.foldl_cons, ← hone]
          exact ih hs₁ (fun r hr => hl r (List.mem_cons_of_mem _ hr)) hrest

/-- **What is lacking after roles were granted.** -/
theorem lacks_granted {roles : List Role} (hmode : k.mode = .ownerPlaceholder) (hs : s.Built)
    (hl : ∀ role ∈ roles, ∀ o ∈ role.securables, k.layout.Legible o.object)
    (hrun : (k.handle (.rolesGranted roles who)).run Store.perform s = (.ok true, t)) :
    k.lacks who t = k.leftByAll (k.lacks who s) roles := by
  obtain ⟨_, s₁, haccount, hroles⟩ := Plan.run_bind_ok hrun
  have hs₁ : s₁.Built := hs.of_run haccount
  have hlacks : k.lacks who s₁ = k.lacks who s := by
    unfold lacks
    rw [policies_ensureAccount haccount]
  rw [grantEach_lacks hmode hs₁ hl hroles, hlacks]

/-- What was lacking is there in the end exactly if some role has decided for it. -/
theorem not_mem_leftByAll_iff {lacking : Set Need} {roles : List Role} {n : Need} :
    n ∉ k.leftByAll lacking roles ↔ (n ∈ lacking → ∃ before role after o,
      roles = before ++ role :: after
        ∧ k.Decides (k.leftByAll lacking before) n.location role.securables o
        ∧ n ∈ k.needsOf o) := by
  rw [mem_leftByAll, not_and]
  refine forall_congr' fun _ => ⟨fun h => ?_, ?_⟩
  · by_contra hnone
    refine h fun before role after o heq hd hn => hnone ?_
    exact ⟨before, role, after, o, heq, hd, hn⟩
  · rintro ⟨before, role, after, o, heq, hd, hn⟩ h
    exact h before role after o heq hd hn

/-- No role has two objects at one location. -/
def OnePerLocation (k : Keeper) (roles : List Role) : Prop :=
  ∀ role ∈ roles, ∀ o ∈ role.securables, ∀ o' ∈ role.securables, ∀ loc,
    k.layout.Locates o.object loc → k.layout.Locates o'.object loc → o = o'

/-- An object that is alone at its location decides there for what it needs. -/
theorem not_mem_leftByAll_of_alone {lacking : Set Need} {roles : List Role} {role : Role}
    {n : Need} (halone : k.OnePerLocation roles) (hrole : role ∈ roles) (ho : o ∈ role.securables)
    (hn : n ∈ k.needsOf o) : n ∉ k.leftByAll lacking roles := by
  intro hleft
  obtain ⟨before, after, rfl⟩ := List.append_of_mem hrole
  obtain ⟨hin, hall⟩ := mem_leftByAll.mp hleft
  -- lacking in the end, it was lacking when the turn came to the role, so the object stirs
  have hbefore : n ∈ k.leftByAll lacking before := by
    refine mem_leftByAll.mpr ⟨hin, fun b r a o' heq => hall b r (a ++ role :: after) o' ?_⟩
    rw [heq, List.append_assoc, List.cons_append]
  have hstirs : k.Stirs (k.leftByAll lacking before) n.location o := ⟨hn.1, n, hn, hbefore⟩
  obtain ⟨o', hlast⟩ := exists_lastOf ⟨o, ho, hstirs⟩
  have ho' : o' ∈ role.securables := by
    obtain ⟨_, _, heq, _⟩ := hlast
    rw [heq]
    exact List.mem_append_right _ List.mem_cons_self
  have hsame : o = o' := by
    obtain ⟨_, _, _, hst, _⟩ := hlast
    exact halone role hrole o ho o' ho' n.location hn.1 hst.1
  exact hall before role after o' rfl hlast (hsame ▸ hn)

/-- **When granting reaches every object.** The principal stands beside the placeholder wherever an
object of the roles needs it if and only if, for whatever is needed and was lacking before, there is
a role in which the object that decides at that location needs it too: the last object there that
needs anything still lacking when the turn comes to the role. So granting reaches every object if no
role has two at one location. -/
theorem granted_iff {roles : List Role} (hmode : k.mode = .ownerPlaceholder) (hs : s.Built)
    (hl : ∀ role ∈ roles, ∀ o ∈ role.securables, k.layout.Legible o.object)
    (hrun : (k.handle (.rolesGranted roles who)).run Store.perform s = (.ok true, t)) :
    ((∀ role ∈ roles, ∀ o ∈ role.securables, ∀ n ∈ k.needsOf o, n ∉ k.lacks who t)
      ↔ ∀ role ∈ roles, ∀ o ∈ role.securables, ∀ n ∈ k.needsOf o, n ∈ k.lacks who s →
        ∃ before role' after o', roles = before ++ role' :: after
          ∧ k.Decides (k.leftByAll (k.lacks who s) before) n.location role'.securables o'
          ∧ n ∈ k.needsOf o')
      ∧ (k.OnePerLocation roles →
        ∀ role ∈ roles, ∀ o ∈ role.securables, ∀ n ∈ k.needsOf o, n ∉ k.lacks who t) := by
  rw [lacks_granted hmode hs hl hrun]
  refine ⟨?_, fun halone role hrole o ho n hn => not_mem_leftByAll_of_alone halone hrole ho hn⟩
  exact forall_congr' fun role => forall_congr' fun _ => forall_congr' fun o =>
    forall_congr' fun _ => forall_congr' fun n => forall_congr' fun _ => not_mem_leftByAll_iff

/-! ## Two objects at one location -/

/-- Whether the principal is missing from an item of the placeholder at a path. -/
def misses (k : Keeper) (who : Principal) (s : Store) (path : Fields String) (effect : Effect)
    (access : String) : Bool :=
  s.policies.any fun e => ((e.2.isManaged && e.2.isAt path) && e.2.service == k.service) &&
    (e.2.items effect).any fun i =>
      i.isPlaceholderOf [access] && !(i.members who.kind).contains who.name

theorem misses_iff {path : Fields String} {effect : Effect} {access : String} :
    k.misses who s path effect access = true ↔ ⟨path.get?, effect, access⟩ ∈ k.lacks who s := by
  unfold misses
  rw [List.any_eq_true]
  refine exists_congr fun e => and_congr_right fun _ => ?_
  rw [Bool.and_eq_true, manages_iff, List.any_eq_true]
  refine and_congr_right fun _ => exists_congr fun i => and_congr_right fun _ => ?_
  have hmembers : (i.members who.kind).contains who.name = false
      ↔ who.name ∉ i.members who.kind := by
    rw [← Bool.not_eq_true, List.contains_iff_mem]
  rw [Bool.and_eq_true, Item.isPlaceholderOf_iff, Bool.not_eq_true', hmembers]
  refine ⟨?_, ?_⟩
  · intro h
    obtain ⟨⟨⟨a, ha, haccess⟩, howner, hplace⟩, habsent⟩ := h
    rw [List.mem_singleton.mp ha] at haccess
    exact ⟨howner, haccess, hplace, habsent⟩
  · intro h
    exact ⟨⟨⟨access, List.mem_singleton_self _, h.access⟩, h.owner, h.placeholder⟩, h.absent⟩

/-- A keeper of a SQL service in owner-placeholder mode. -/
def ofOwners : Keeper :=
  { service := "hive", layout := ⟨.hadoopSql, "/"⟩, mode := .ownerPlaceholder }

/-- A role with two roots, which are at one location. -/
def maker : Role :=
  { name := "maker"
    securables :=
      [⟨⟨"lake", .metalake⟩, [⟨.createCatalog, .allow⟩]⟩,
        ⟨⟨"cat", .catalog⟩, [⟨.useCatalog, .allow⟩]⟩] }

/-- The store in which that role was created. -/
def withMaker : Store := ((ofOwners.handle (.roleCreated maker)).run Store.perform {}).2

theorem withMaker_built : withMaker.Built := Store.Built.run _ .empty

/-- The store in which it was granted. -/
def withMakerGranted : Store :=
  ((ofOwners.handle (.rolesGranted [maker] ⟨.user, "alice"⟩)).run Store.perform withMaker).2

theorem maker_granted :
    (ofOwners.handle (.rolesGranted [maker] ⟨.user, "alice"⟩)).run Store.perform withMaker
      = (.ok true, withMakerGranted) :=
  Plan.run_eq_ok (by decide +kernel)

/-- **A grant that goes well can leave an object out.** The first of the two roots needs an access,
and its holder lacks it still, since the policy was written again for the second. -/
theorem not_granted_maker :
    (ofOwners.handle (.rolesGranted [maker] ⟨.user, "alice"⟩)).run Store.perform withMaker
        = (.ok true, withMakerGranted)
      ∧ ∃ o ∈ maker.securables, ∃ n ∈ ofOwners.needsOf o,
        n ∈ ofOwners.lacks ⟨.user, "alice"⟩ withMakerGranted := by
  let everything : Fields String :=
    Fields.ofPairs [("database", "*"), ("table", "*"), ("column", "*")]
  refine ⟨maker_granted, _, List.mem_cons_self, ⟨everything.get?, .allow, "create"⟩, ?_, ?_⟩
  · exact ⟨Layout.locates_of_toOption (by decide +kernel), _, List.mem_cons_self, rfl,
      by decide +kernel⟩
  · rw [← misses_iff]
    decide +kernel

/-- A role with one of the two. -/
def halfMaker : Role :=
  { name := "half", securables := [⟨⟨"lake", .metalake⟩, [⟨.createCatalog, .allow⟩]⟩] }

/-- The store in which that role was granted. -/
def withHalfGranted : Store :=
  ((ofOwners.handle (.rolesGranted [halfMaker] ⟨.user, "alice"⟩)).run Store.perform withMaker).2

/-- What the holder of the two roots needs is there exactly if the second needed it, or it was there
before. What the holder of one of them needs is there. -/
theorem granted_iff_maker :
    ((∀ role ∈ [maker], ∀ o ∈ role.securables, ∀ n ∈ ofOwners.needsOf o,
        n ∉ ofOwners.lacks ⟨.user, "alice"⟩ withMakerGranted)
      ↔ ∀ role ∈ [maker], ∀ o ∈ role.securables, ∀ n ∈ ofOwners.needsOf o,
        n ∈ ofOwners.lacks ⟨.user, "alice"⟩ withMaker →
        ∃ before role' after o', [maker] = before ++ role' :: after
          ∧ ofOwners.Decides (ofOwners.leftByAll (ofOwners.lacks ⟨.user, "alice"⟩ withMaker) before)
            n.location role'.securables o'
          ∧ n ∈ ofOwners.needsOf o')
      ∧ ∀ role ∈ [halfMaker], ∀ o ∈ role.securables, ∀ n ∈ ofOwners.needsOf o,
        n ∉ ofOwners.lacks ⟨.user, "alice"⟩ withHalfGranted := by
  have hgranted : (ofOwners.handle (.rolesGranted [halfMaker] ⟨.user, "alice"⟩)).run Store.perform
      withMaker = (.ok true, withHalfGranted) := Plan.run_eq_ok (by decide +kernel)
  have halone : ofOwners.OnePerLocation [halfMaker] := by
    intro role hrole o ho o' ho' _ _ _
    obtain rfl := List.mem_singleton.mp hrole
    rw [List.mem_singleton.mp ho, List.mem_singleton.mp ho']
  exact ⟨(granted_iff rfl withMaker_built (by decide +kernel) maker_granted).1,
    (granted_iff rfl withMaker_built (by decide +kernel) hgranted).2 halone⟩

end Keeper

end PolicyKeeper
