import Mathlib.Data.List.Induction
import PolicyKeeper.Proofs.Careful

/-!
# Many keepers, one store

Any number of keepers may work on one store at a time. Each of them answers events with plans, every
call of a plan is one step, and the steps of all plans come in any order (`World.act`). So what a
keeper writes may be an edit of a policy that has changed since, or is gone.

The store stays intact all the same (`Store.Intact`). Every call that is made is one that a careful
plan makes, so what is written is well kept; and the store itself refuses what would give two
policies of a service one name or one resource. Together with that, one value at each level means
that no two policies are at one path, so looking for the policy of an object never comes to grief.
-/

namespace PolicyKeeper

/-- A store and the plans that are under way. -/
structure World where
  store : Store := {}
  plans : List (Plan Bool) := []

/-- What can happen next: a keeper is told something, or a plan makes its next call. -/
inductive Turn where
  | tell (keeper : Keeper) (event : Event)
  | advance (index : Nat)

namespace World

/-- What comes of it. A plan that is told of starts; one that is done has nothing left to do. -/
def act (w : World) : Turn → World
  | .tell k event => { w with plans := w.plans ++ [k.handle event] }
  | .advance i =>
    match w.plans[i]? with
    | some (.ask c next) =>
      let answered := w.store.perform c
      ⟨answered.2, w.plans.set i (next answered.1)⟩
    | _ => w

/-- The world after some turns, from an empty store. -/
def after (turns : List Turn) : World := turns.foldl act {}

end World

namespace Store

/-- The store has only policies that keepers make, and tells them apart. -/
structure Intact (s : Store) : Prop where
  /-- Two policies of one service have neither one name nor one resource. -/
  apart : ∀ e ∈ s.policies, ∀ e' ∈ s.policies, e.1 ≠ e'.1 → e.2.service = e'.2.service →
    e.2.name ≠ e'.2.name ∧ e.2.resources.get? ≠ e'.2.resources.get?
  wellKept : ∀ e ∈ s.policies, e.2.WellKept
  items : ∀ e ∈ s.policies, e.2.hasNoItems = false

variable {s : Store} {p : Policy}

theorem Intact.empty : Intact {} where
  apart := fun _ he => absurd he List.not_mem_nil
  wellKept := fun _ he => absurd he List.not_mem_nil
  items := fun _ he => absurd he List.not_mem_nil

/-- Nothing stands against a policy that differs from all others of its service. -/
theorem apart_of_conflict? {id : Option Int} (h : s.conflict? id p = none) {e : Int × Policy}
    (he : e ∈ s.policies) (hid : some e.1 ≠ id) (hservice : e.2.service = p.service) :
    e.2.name ≠ p.name ∧ e.2.resources.get? ≠ p.resources.get? := by
  obtain ⟨hname, hsame⟩ := conflict?_eq_none_iff.mp h e he hid hservice
  refine ⟨hname, fun heq => ?_⟩
  rw [Fields.sameAs_iff.mpr heq] at hsame
  exact absurd hsame (by simp)

/-- A store to which one policy was written that differs from all that stay. -/
theorem Intact.write {s' : Store} (h : s.Intact) (hp : p.WellKept) (hni : p.hasNoItems = false)
    {id : Int} (hmem : ∀ e ∈ s'.policies, (e ∈ s.policies ∧ e.1 ≠ id) ∨ e = (id, stored id p))
    (hnew : ∀ e ∈ s.policies, e.1 ≠ id → e.2.service = p.service →
      e.2.name ≠ p.name ∧ e.2.resources.get? ≠ p.resources.get?) : s'.Intact := by
  refine ⟨fun e he e' he' hne hservice => ?_, fun e he => ?_, fun e he => ?_⟩
  · rcases hmem e he with ⟨hold, hid⟩ | rfl
    · rcases hmem e' he' with ⟨hold', _⟩ | rfl
      · exact h.apart e hold e' hold' hne hservice
      · exact hnew e hold hid hservice
    · rcases hmem e' he' with ⟨hold', hid'⟩ | rfl
      · obtain ⟨hname, hres⟩ := hnew e' hold' hid' hservice.symm
        exact ⟨hname.symm, hres.symm⟩
      · exact absurd rfl hne
  · rcases hmem e he with ⟨hold, _⟩ | rfl
    · exact h.wellKept e hold
    · exact ⟨hp.managed, hp.levels, hp.shapely⟩
  · rcases hmem e he with ⟨hold, _⟩ | rfl
    · exact h.items e hold
    · exact hni

theorem Intact.of_subset {s' : Store} (h : s.Intact) (hsub : ∀ e ∈ s'.policies, e ∈ s.policies) :
    s'.Intact where
  apart := fun e he e' he' => h.apart e (hsub e he) e' (hsub e' he')
  wellKept := fun e he => h.wellKept e (hsub e he)
  items := fun e he => h.items e (hsub e he)

/-- **A proper call leaves an intact store intact**, whatever else has happened. -/
theorem Intact.perform (hk : s.Keyed) (h : s.Intact) {c : Call} (hc : c.Proper) :
    (s.perform c).2.Intact := by
  cases hw : writesPolicies c with
  | false =>
      refine h.of_subset fun e he => ?_
      rwa [(perform_policies hw s).1] at he
  | true =>
      cases c with
      | createPolicy p =>
          show (s.createPolicy p).2.Intact
          rcases s.createPolicy_cases p with ⟨_, he⟩ | ⟨hfree, he⟩
          · rwa [he]
          · rw [he]
            have hmem : ∀ e ∈ (s.created p).policies,
                (e ∈ s.policies ∧ e.1 ≠ s.nextId) ∨ e = (s.nextId, stored s.nextId p) := by
              intro e he
              refine (mem_created.mp he).imp_left fun hold => ⟨hold, Int.ne_of_lt ?_⟩
              exact Int.lt_of_le_of_lt (hk.bound e hold) (Int.lt_succ s.lastId)
            exact h.write hc.1 hc.2 hmem fun e he _ => apart_of_conflict? hfree he (by simp)
      | updatePolicy id p =>
          show (s.updatePolicy id p).2.Intact
          rcases s.updatePolicy_cases id p with ⟨_, he⟩ | ⟨hhas, hfree, he⟩
          · rwa [he]
          · rw [he]
            refine h.write hc.1 hc.2 (fun e he => (mem_updated hhas).mp he) fun e he hid => ?_
            exact apart_of_conflict? hfree he fun heq => hid (Option.some.inj heq)
      | deletePolicy id =>
          show (s.deletePolicy id).2.Intact
          rcases s.deletePolicy_cases id with he | ⟨_, he⟩
          · rwa [he]
          · rw [he]
            exact h.of_subset fun e he => (mem_deleted.mp he).1
      | _ => exact absurd hw (by simp [writesPolicies])

/-- What an intact store answers can be trusted. -/
theorem Intact.trusted (h : s.Intact) (c : Call) : c.Trusted (s.perform c).1 := by
  cases c with
  | findPolicies search =>
      intro found hfound p hp
      have hsame : s.findPolicies search = found := Except.ok.inj hfound
      rw [← hsame] at hp
      obtain ⟨e, he, rfl⟩ := List.mem_map.mp (List.mem_filter.mp hp).1
      exact h.wellKept e he
  | _ => exact trivial

end Store

/-! ## Every order of turns -/

/-- The store is intact, and every plan under way is careful. -/
structure World.Sound (w : World) : Prop where
  built : w.store.Built
  intact : w.store.Intact
  careful : ∀ plan ∈ w.plans, plan.Careful fun _ => True

theorem World.sound_start : World.Sound {} where
  built := .empty
  intact := Store.Intact.empty
  careful := fun _ hplan => absurd hplan List.not_mem_nil

/-- **One turn**, whoever takes it. -/
theorem World.Sound.act {w : World} (h : w.Sound) (turn : Turn) : (w.act turn).Sound := by
  cases turn with
  | tell k event =>
      refine ⟨h.built, h.intact, fun plan hplan => ?_⟩
      rcases List.mem_append.mp hplan with hold | hnew
      · exact h.careful plan hold
      · rw [List.mem_singleton.mp hnew]
        exact k.careful_handle event
  | advance i =>
      unfold World.act
      dsimp only
      split
      · rename_i c next hi
        obtain ⟨hproper, hnext⟩ := h.careful _ (List.mem_of_getElem? hi)
        refine ⟨h.built.perform c, h.intact.perform h.built.keyed hproper, fun plan hplan => ?_⟩
        -- the other plans have not moved, and being careful does not depend on the store
        rcases List.mem_or_eq_of_mem_set hplan with hold | rfl
        · exact h.careful plan hold
        · exact hnext _ (h.intact.trusted c)
      · exact h

theorem World.sound_after (turns : List Turn) : (World.after turns).Sound := by
  induction turns using List.reverseRecOn with
  | nil => exact World.sound_start
  | append_singleton turns turn ih =>
      rw [World.after, List.foldl_append]
      exact ih.act turn

/-! ## Nothing is ambiguous, nothing corrupt -/

namespace Keeper

variable {k : Keeper} {s : Store} {p q : Policy}

/-- The location that a well kept policy guards says all about its resource. -/
theorem resources_of_guards (h : p.WellKept) {loc : Location} (hg : p.Guards loc) :
    p.resources.get? = fun level => (loc level).map Resource.single := by
  funext level
  have hl := hg level
  cases hr : p.resources.get? level with
  | none =>
      rw [hr] at hl
      rw [hl]
      rfl
  | some r =>
      rw [hr] at hl
      obtain ⟨_, value, hvalue, hloc⟩ := hl
      obtain ⟨value', rfl⟩ := h.levels level r hr
      cases hvalue
      rw [hloc]
      rfl

/-- Among the policies of an intact store, at most one of a service is at a path. -/
theorem select_ok (hk : s.Keyed) (h : s.Intact) (o : CatalogObject) (path : Fields String) :
    ∃ found, select o path (s.findPolicies (k.searchFor path)) = .ok found := by
  have hpairwise : (s.policies.map Prod.snd).Pairwise fun p q =>
      p.service = q.service → p.resources.get? ≠ q.resources.get? := by
    rw [List.pairwise_map]
    refine (List.pairwise_map.mp hk.nodup).imp_of_mem fun he he' hne hservice => ?_
    exact (h.apart _ he _ he' hne hservice).2
  let kept := (s.findPolicies (k.searchFor path)).filter fun p => p.isManaged && p.isAt path
  have hsub : kept.Sublist (s.policies.map Prod.snd) :=
    List.filter_sublist.trans List.filter_sublist
  have hmem : ∀ p ∈ kept, p.WellKept ∧ p.service = k.service ∧ p.Guards path.get? := by
    intro p hp
    obtain ⟨e, he, rfl⟩ := List.mem_map.mp (hsub.subset hp)
    obtain ⟨hfound, hat⟩ := List.mem_filter.mp hp
    rw [Bool.and_eq_true] at hat
    exact ⟨h.wellKept e he, service_of_answers (List.mem_filter.mp hfound).2,
      Policy.isAt_iff.mp hat.2⟩
  unfold select
  split
  · exact ⟨none, rfl⟩
  · rename_i p hp
    have hkept : kept = [p] := hp
    rw [hkept] at hmem
    have hshape := checkShape_eq_ok_iff.mpr (hmem p List.mem_cons_self).1.shapely
    rw [hshape]
    exact ⟨some p, rfl⟩
  · -- two at one path would have one resource
    rename_i hnil hsingle
    exfalso
    cases hfound : kept with
    | nil => exact hnil hfound
    | cons p rest =>
        cases rest with
        | nil => exact hsingle p hfound
        | cons q rest =>
            rw [hfound] at hmem hsub
            obtain ⟨hp, hpservice, hpguards⟩ := hmem p List.mem_cons_self
            obtain ⟨hq, hqservice, hqguards⟩ := hmem q (List.mem_cons_of_mem _ List.mem_cons_self)
            have hne := (List.pairwise_cons.mp (hpairwise.sublist hsub)).1 q List.mem_cons_self
            refine hne (hpservice.trans hqservice.symm) ?_
            rw [resources_of_guards hp hpguards, resources_of_guards hq hqguards]

/-- Looking for the policy of an object fails only where the object has no path. -/
theorem run_findPolicy_error (hk : s.Keyed) (h : s.Intact) {o : CatalogObject} {f : Failure}
    (hrun : ((k.findPolicy o).run Store.perform s).1 = .error f) :
    ∃ flaw, f.cause = .fault (.unsupportedObject o.fullName flaw) := by
  unfold findPolicy at hrun
  rw [Plan.run_bind, Plan.run_ofResult] at hrun
  unfold Layout.path at hrun
  cases hv : k.layout.values o with
  | error fault =>
      rw [hv] at hrun
      obtain ⟨flaw, rfl⟩ := Layout.values_error hv
      cases hrun
      exact ⟨flaw, rfl⟩
  | ok values =>
      rw [hv] at hrun
      let path := Fields.ofPairs (k.layout.service.levels.zip values)
      obtain ⟨found, hsel⟩ := select_ok (k := k) hk h o path
      have hok : Failure.ofResult (select o path (s.findPolicies (k.searchFor path)))
        = .error f := hrun
      rw [hsel] at hok
      exact absurd hok (by simp [Failure.ofResult])

end Keeper

/-- **The store stays intact under any interleaving.** After any turns of any keepers: two policies
of one service differ in name and in resource; every policy has the label and one value at each
level, which is no exclusion; every policy passes the check of its shape, since each item is for one
access and no two of a list have one key; every policy has items. So no keeper that looks for the
policy of an object ever finds several, or a corrupt one. -/
theorem World.store_intact (turns : List Turn) :
    let s := (World.after turns).store
    s.policies.Pairwise (fun e e' => e.2.service = e'.2.service →
        e.2.name ≠ e'.2.name ∧ e.2.resources.get? ≠ e'.2.resources.get?)
      ∧ (∀ e ∈ s.policies, managedLabel ∈ e.2.labels
        ∧ ∀ level r, e.2.resources.get? level = some r →
          r.isExcludes = false ∧ ∃ value, r.values = [value])
      ∧ (∀ e ∈ s.policies, e.2.checkShape = .ok () ∧ e.2.Shapely)
      ∧ (∀ e ∈ s.policies, e.2.hasNoItems = false)
      ∧ ∀ (k : Keeper) (o : CatalogObject) (f : Failure),
        ((k.findPolicy o).run Store.perform s).1 = .error f →
          (∀ name count, f.cause ≠ .fault (.ambiguousPolicy name count))
            ∧ ∀ name flaw, f.cause ≠ .fault (.corruptPolicy name flaw) := by
  intro s
  obtain ⟨hbuilt, hintact, _⟩ := World.sound_after turns
  refine ⟨?_, fun e he => ?_, fun e he => ?_, hintact.items, fun k o f hf => ?_⟩
  · refine (List.pairwise_map.mp hbuilt.keyed.nodup).imp_of_mem fun he he' hne => ?_
    exact hintact.apart _ he _ he' hne
  · refine ⟨(hintact.wellKept e he).managed, fun level r hr => ?_⟩
    obtain ⟨value, rfl⟩ := (hintact.wellKept e he).levels level r hr
    exact ⟨rfl, value, rfl⟩
  · have hshapely := (hintact.wellKept e he).shapely
    exact ⟨checkShape_eq_ok_iff.mpr hshapely, hshapely⟩
  · obtain ⟨flaw, hcause⟩ := Keeper.run_findPolicy_error hbuilt.keyed hintact hf
    rw [hcause]
    exact ⟨fun _ _ heq => by simp at heq, fun _ _ heq => by simp at heq⟩

/-- Two keepers find no policy and then both create one. The second is refused. -/
example :
    let keeper : Keeper :=
      { service := "hive", layout := ⟨.hadoopSql, "/"⟩, mode := .ownerPlaceholder }
    let told (name : String) : Turn :=
      .tell keeper (.roleCreated ⟨name, [⟨⟨"cat.db", .schema⟩, [⟨.useSchema, .allow⟩]⟩], .empty⟩)
    let turns := [told "a", told "b", .advance 0, .advance 1, .advance 1, .advance 0]
    (World.after turns).store.policies.map (fun e => e.2.name) = ["b-cat.db"] := by
  decide +kernel

end PolicyKeeper
