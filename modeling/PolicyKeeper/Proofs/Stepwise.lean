import PolicyKeeper.Keeper.Event
import PolicyKeeper.Proofs.Store.Abiding
import PolicyKeeper.Proofs.Store.Keyed
import PolicyKeeper.Store.Rehearsal

/-!
# Updates, change by change

An update of a role is a list of changes, and the keeper makes them one by one. Each of them
searches for a policy, or for none, and then writes at most once, as the last thing it does
(`Plan.WritesLast`). So there is no moment at which a change is half made: whatever stops it, a
disturbance or a refusal, has stopped it before anything was written.

The whole update is then told by how far it gets. Either each change succeeds where the one before
has left the store (`Plan.InTurn`), or there is a first that does not; and there the update ends,
with the failure of that change as part of the wider task.
-/

namespace PolicyKeeper

namespace Plan

variable {α β ι σ : Type} {perform : (c : Call) → σ → Except Failure c.Answer × σ} {s t : σ}

/-! ## Plans that write once, at the end -/

/-- The plan makes no calls but policy searches. -/
def Searches (p : Plan α) : Prop :=
  p.Abides (fun c => c.kind = .findPolicies) (fun _ _ => True) fun _ => True

theorem searches_ofResult (r : Except Fault α) : (ofResult r).Searches :=
  abides_ofResult fun _ _ => trivial

theorem Searches.bind {p : Plan α} {f : α → Plan β} (hp : p.Searches)
    (hf : ∀ a, (f a).Searches) : (p >>= f).Searches := Abides.bind hp fun a _ => hf a

/-- The plan makes no calls but policy searches, until it writes policies. That is its last call,
and it goes as well as that call does. -/
def WritesLast : Plan α → Prop
  | done _ => True
  | ask c next =>
    (c.kind = .findPolicies ∧ ∀ answer, (next answer).WritesLast)
      ∨ Store.writesPolicies c = true ∧ (∀ a, ∃ b, next (.ok a) = done (.ok b))
        ∧ ∀ e, ∃ e', next (.error e) = done (.error e')

theorem writesLast_call {c : Call} (hc : Store.writesPolicies c = true) (task : Task) :
    ((call c).during task >>= fun _ => pure ()).WritesLast :=
  Or.inr ⟨hc, fun _ => ⟨(), rfl⟩, fun e => ⟨e.during task, rfl⟩⟩

/-- Such a plan makes no other calls, whoever answers. -/
theorem WritesLast.abides {may : Call → Prop} (hsearch : ∀ c, c.kind = .findPolicies → may c)
    (hwrite : ∀ c, Store.writesPolicies c = true → may c) {p : Plan α} (hp : p.WritesLast) :
    p.Abides may (fun _ _ => True) fun _ => True := by
  induction p with
  | done r => exact fun _ _ => trivial
  | ask c next ih =>
      rcases hp with ⟨hsearches, hnext⟩ | ⟨hwrites, hok, herror⟩
      · exact ⟨hsearch c hsearches, fun answer _ => ih answer (hnext answer)⟩
      · -- after the write there is no call at all
        refine ⟨hwrite c hwrites, fun answer _ => ?_⟩
        cases answer with
        | ok a =>
            obtain ⟨b, hb⟩ := hok a
            rw [hb]
            exact fun _ _ => trivial
        | error e =>
            obtain ⟨e', he⟩ := herror e
            rw [he]
            exact fun _ _ => trivial

/-- **Searching before a plan that writes last** gives one again. -/
theorem WritesLast.after {p : Plan α} {f : α → Plan β} (hp : p.Searches)
    (hf : ∀ a, (f a).WritesLast) : (p >>= f).WritesLast := by
  induction p with
  | done r =>
      cases r with
      | error e => exact trivial
      | ok a => exact hf a
  | ask c next ih => exact Or.inl ⟨hp.1, fun answer => ih answer (hp.2 answer trivial)⟩

/-! ## Plans one after the other -/

/-- Each of the plans succeeds, and begins where the one before has ended. -/
inductive InTurn (perform : (c : Call) → σ → Except Failure c.Answer × σ) (f : ι → Plan Unit) :
    σ → List ι → σ → Prop where
  | none (s : σ) : InTurn perform f s [] s
  | next {x : ι} {xs : List ι} {s s₁ t : σ} : (f x).run perform s = (.ok (), s₁) →
      InTurn perform f s₁ xs t → InTurn perform f s (x :: xs) t

variable {f : ι → Plan Unit} {xs : List ι}

/-- What is said of tasks concerns failures alone. -/
theorem InTurn.during {task : ι → Task} :
    InTurn perform (fun x => (f x).during (task x)) s xs t ↔ InTurn perform f s xs t := by
  refine ⟨fun h => ?_, fun h => ?_⟩
  · induction h with
    | none s => exact .none s
    | next hrun _ ih => exact .next (run_during_ok hrun) ih
  · induction h with
    | none s => exact .none s
    | next hrun _ ih =>
        refine .next ?_ ih
        rw [run_during, hrun]
        rfl

theorem run_forM_ok :
    (xs.forM f).run perform s = (.ok (), t) ↔ InTurn perform f s xs t := by
  refine ⟨fun h => ?_, fun h => ?_⟩
  · induction xs generalizing s with
    | nil =>
        cases h
        exact .none _
    | cons x xs ih =>
        obtain ⟨_, s₁, hfirst, hrest⟩ := run_bind_ok h
        exact .next hfirst (ih hrest)
  · induction h with
    | none s => rfl
    | @next x xs s s₁ t hfirst _ ih =>
        show (f x >>= fun _ => xs.forM f).run perform s = _
        rw [run_bind, hfirst]
        exact ih

/-- **The first failure ends it.** If not all succeed, there is one that fails where those before it
have ended in success, and what comes after it is not begun. -/
theorem run_forM_error {e : Failure} (h : (xs.forM f).run perform s = (.error e, t)) :
    ∃ before x after s₁, xs = before ++ x :: after ∧ InTurn perform f s before s₁
      ∧ (f x).run perform s₁ = (.error e, t) := by
  induction xs generalizing s with
  | nil => exact absurd (congrArg Prod.fst h) (by simp)
  | cons x xs ih =>
      have h : (f x >>= fun _ => xs.forM f).run perform s = (.error e, t) := h
      rw [run_bind] at h
      rcases hfirst : (f x).run perform s with ⟨r, s₁⟩
      rw [hfirst] at h
      cases r with
      | error e' =>
          cases h
          exact ⟨[], x, xs, s, rfl, .none s, hfirst⟩
      | ok _ =>
          obtain ⟨before, y, after, s₂, rfl, hbefore, hy⟩ := ih h
          exact ⟨x :: before, y, after, s₂, rfl, .next hfirst hbefore, hy⟩

end Plan

/-! ## In a rehearsal -/

namespace Rehearsal

variable {α : Type} {c : Call} {p : Plan α}

/-- What is answered to a call comes from the store, or the store is left alone. -/
theorem perform_cases (c : Call) (r : Rehearsal) :
    (perform c r).2.store = r.store
      ∨ (perform c r).1 = (r.store.perform c).1
        ∧ (perform c r).2.store = (r.store.perform c).2 := by
  unfold perform
  dsimp only
  split
  · exact Or.inl rfl
  · exact Or.inr ⟨rfl, rfl⟩

theorem store_search (hc : c.kind = .findPolicies) (r : Rehearsal) :
    (perform c r).2.store = r.store := by
  rcases perform_cases c r with h | ⟨_, h⟩
  · exact h
  · cases c with
    | findPolicies search => exact h
    | _ => exact absurd hc (by simp [Call.kind])

/-- A write that fails has no effect, whether it is disturbed or refused. -/
theorem store_error {e : Failure} {r : Rehearsal} (hc : Store.writesPolicies c = true)
    (herror : (perform c r).1 = .error e) : (perform c r).2.store = r.store := by
  rcases perform_cases c r with h | ⟨hanswer, h⟩
  · exact h
  · rw [h]
    rw [hanswer] at herror
    exact Store.perform_refused hc herror

theorem writesPolicies_search (hc : c.kind = .findPolicies) : Store.writesPolicies c = false := by
  cases c with
  | findPolicies search => rfl
  | _ => exact absurd hc (by simp [Call.kind])

/-- **At most one write, and that at the end.** The journal has the last call first. -/
theorem journal_writesLast (hp : p.WritesLast) (r : Rehearsal) :
    ∃ calls, (run p r).2.journal = calls ++ r.journal
      ∧ ∀ e ∈ calls.tail, Store.writesPolicies e.call = false := by
  induction p generalizing r with
  | done result => exact ⟨[], rfl, fun e he => absurd he List.not_mem_nil⟩
  | ask c next ih =>
      have hjournal : (perform c r).2.journal = ⟨c, (perform c r).1⟩ :: r.journal := rfl
      rcases hp with ⟨hsearch, hnext⟩ | ⟨_, hok, herror⟩
      · obtain ⟨calls, hcalls, htail⟩ := ih _ (hnext (perform c r).1) (perform c r).2
        refine ⟨calls ++ [⟨c, (perform c r).1⟩], ?_, fun e he => ?_⟩
        · rw [List.append_assoc]
          exact hcalls
        · have hearlier : e ∈ calls.tail ∨ e ∈ [⟨c, (perform c r).1⟩] := by
            cases calls with
            | nil => exact absurd he List.not_mem_nil
            | cons last calls => exact List.mem_append.mp he
          rcases hearlier with he | he
          · exact htail e he
          · rw [List.mem_singleton.mp he]
            exact writesPolicies_search hsearch
      · -- whatever the answer to the write is, nothing comes after it
        have hend : ∃ result, next (perform c r).1 = .done result := by
          cases (perform c r).1 with
          | ok a => exact (hok a).imp' .ok fun _ => id
          | error e => exact (herror e).imp' .error fun _ => id
        obtain ⟨result, hend⟩ := hend
        refine ⟨[⟨c, (perform c r).1⟩], ?_, fun e he => absurd he List.not_mem_nil⟩
        show ((next (perform c r).1).run perform (perform c r).2).2.journal = _
        rw [hend]
        rfl

/-- **All or nothing.** A plan that fails has not changed the store. -/
theorem store_writesLast (hp : p.WritesLast) {r t : Rehearsal} {f : Failure}
    (h : run p r = (.error f, t)) : t.store = r.store := by
  induction p generalizing r with
  | done result =>
      cases h
      rfl
  | ask c next ih =>
      rcases hp with ⟨hsearch, hnext⟩ | ⟨hwrites, hok, herror⟩
      · exact (ih _ (hnext _) h).trans (store_search hsearch r)
      · have h : (next (perform c r).1).run perform (perform c r).2 = (.error f, t) := h
        cases hanswer : (perform c r).1 with
        | ok a =>
            obtain ⟨b, hb⟩ := hok a
            rw [hanswer, hb] at h
            exact absurd (congrArg Prod.fst h) (by simp)
        | error e =>
            obtain ⟨e', he⟩ := herror e
            rw [hanswer, he] at h
            cases h
            exact store_error hwrites hanswer

end Rehearsal

namespace Keeper

open Plan

variable {k : Keeper} {role : Role}

/-! ## Changes of a role -/

theorem searches_findPolicy (o : CatalogObject) : (k.findPolicy o).Searches := by
  refine Searches.bind (searches_ofResult _) fun path => ?_
  refine Searches.bind (Abides.during (abides_only ?_) _) fun _ => searches_ofResult _
  rfl

theorem searches_policyOrNew (name : String) (o : CatalogObject) :
    (k.policyOrNew name o).Searches := by
  refine Searches.bind (searches_findPolicy o) fun found => ?_
  cases found with
  | some p => exact abides_pure trivial
  | none => exact searches_ofResult _

theorem writesLast_writeBack (c : Prop) [Decidable c] (p : Policy) :
    (if c then pure () else persist p).WritesLast := by
  split
  · exact trivial
  · unfold persist
    split
    · exact writesLast_call rfl _
    · exact trivial
    · exact writesLast_call rfl _
    · exact writesLast_call rfl _

theorem writesLast_applyChange (role : Role) (change : RoleChange) :
    (k.applyChange role change).WritesLast := by
  cases change with
  | add o =>
      exact .after (searches_ofResult _) fun _ =>
        .after (searches_policyOrNew _ _) fun _ => writesLast_writeBack _ _
  | remove o =>
      refine .after (searches_findPolicy _) fun found => ?_
      cases found with
      | none => exact trivial
      | some p => exact writesLast_writeBack _ _
  | replace old new =>
      exact .after (searches_ofResult _) fun _ =>
        .after (searches_policyOrNew _ _) fun _ => writesLast_writeBack _ _

/-- A plan for a role's changes makes no other calls than its changes do. -/
theorem abides_changes {α : Type} {may : Call → Prop}
    (hsearch : ∀ c, c.kind = .findPolicies → may c)
    (hwrite : ∀ c, Store.writesPolicies c = true → may c) (role : Role) (change : α → RoleChange)
    (task : α → Task) (xs : List α) :
    (xs.forM fun x => (k.applyChange role (change x)).during (task x)).Abides may
      (fun _ _ => True) fun _ => True :=
  abides_forM fun x _ =>
    ((writesLast_applyChange role (change x)).abides hsearch hwrite).during (task x)

theorem searches_allHavePolicies (os : List Securable) : (k.allHavePolicies os).Searches := by
  induction os with
  | nil => exact abides_pure trivial
  | cons o os ih =>
      refine (searches_findPolicy o.object).bind fun found => ?_
      cases found with
      | none => exact abides_pure trivial
      | some p => exact ih

theorem writesLast_revokeObject (who : Principal) (role : Role) (o : Securable) :
    (k.revokeObject who role o).WritesLast := by
  refine .after (Abides.during (searches_findPolicy o.object) _) fun found => ?_
  cases found with
  | none => exact trivial
  | some p => exact writesLast_writeBack _ _

/-! ## Updates -/

section

variable {σ : Type} {perform : (c : Call) → σ → Except Failure c.Answer × σ} {s t : σ}
  {changes : List RoleChange}

/-- An update succeeds as its changes do. -/
theorem run_roleUpdated_ok : (k.roleUpdated role changes).run perform s = (.ok true, t)
    ↔ InTurn perform (k.applyChange role) s changes t := by
  refine ⟨fun h => ?_, fun h => ?_⟩
  · obtain ⟨_, s₁, hchanges, hend⟩ := run_bind_ok h
    cases hend
    exact InTurn.during.mp (run_forM_ok.mp hchanges)
  · unfold roleUpdated
    rw [run_bind, run_forM_ok.mpr (InTurn.during.mpr h)]
    rfl

/-- An update fails with the first of its changes that does. -/
theorem run_roleUpdated_error (hnot : ¬∃ t, InTurn perform (k.applyChange role) s changes t) :
    ∃ before change after s₁ f t, changes = before ++ change :: after
      ∧ InTurn perform (k.applyChange role) s before s₁
      ∧ (k.applyChange role change).run perform s₁ = (.error f, t)
      ∧ (k.roleUpdated role changes).run perform s
        = (.error (f.during (.updatingRole role.name change.object.fullName)), t) := by
  rcases hchanges : (changes.forM fun change => (k.applyChange role change).during
    (.updatingRole role.name change.object.fullName)).run perform s with ⟨result, t⟩
  cases result with
  | ok _ => exact absurd ⟨t, InTurn.during.mp (run_forM_ok.mp hchanges)⟩ hnot
  | error g =>
      obtain ⟨before, change, after, s₁, happend, hbefore, hfails⟩ := run_forM_error hchanges
      rw [run_during] at hfails
      rcases hchange : (k.applyChange role change).run perform s₁ with ⟨result, t'⟩
      rw [hchange] at hfails
      cases result with
      | ok _ => exact absurd (congrArg Prod.fst hfails) (by simp [Failure.within])
      | error f =>
          cases hfails
          refine ⟨before, change, after, s₁, f, _, happend, InTurn.during.mp hbefore, hchange, ?_⟩
          unfold roleUpdated
          rw [run_bind, hchanges]

end

/-- **Updates are made change by change, and no change by halves.** Whatever is in the store, and
however calls are disturbed:

* a change makes at most one call that writes policies, after which it makes no other, and if it
  fails the store is what it was;
* an update succeeds exactly if its changes succeed in turn, and ends where the last of them does;
* any other update ends with the first change that fails, which leaves the store as those before it
  have made it. The failure says first of all which role and which object it is about, and its cause
  is that of the change. -/
theorem updates_stepwise (k : Keeper) (role : Role) (changes : List RoleChange) (r : Rehearsal) :
    (∀ (change : RoleChange) (s : Rehearsal),
      (∃ calls, (Rehearsal.run (k.applyChange role change) s).2.journal = calls ++ s.journal
          ∧ ∀ e ∈ calls.tail, Store.writesPolicies e.call = false)
        ∧ ∀ f t, Rehearsal.run (k.applyChange role change) s = (.error f, t) → t.store = s.store)
      ∧ (∀ t, Rehearsal.run (k.handle (.roleUpdated role changes)) r = (.ok true, t)
        ↔ InTurn Rehearsal.perform (k.applyChange role) r changes t)
      ∧ ((¬∃ t, InTurn Rehearsal.perform (k.applyChange role) r changes t) →
        ∃ before change after s f g t, changes = before ++ change :: after
          ∧ InTurn Rehearsal.perform (k.applyChange role) r before s
          ∧ Rehearsal.run (k.applyChange role change) s = (.error f, t)
          ∧ t.store = s.store
          ∧ Rehearsal.run (k.handle (.roleUpdated role changes)) r = (.error g, t)
          ∧ g.tasks.head?.map Task.message
            = some s!"updating role {role.name} on {change.object.fullName}"
          ∧ g.cause = f.cause ∧ g.fault? = f.fault?) := by
  have hlast : ∀ change, (k.applyChange role change).WritesLast := writesLast_applyChange role
  refine ⟨fun change s => ⟨?_, fun f t h => ?_⟩, fun t => run_roleUpdated_ok, fun hnot => ?_⟩
  · exact Rehearsal.journal_writesLast (hlast change) s
  · exact Rehearsal.store_writesLast (hlast change) h
  · obtain ⟨before, change, after, s, f, t, happend, hbefore, hfails, hrun⟩ :=
      run_roleUpdated_error hnot
    exact ⟨before, change, after, s, f, _, t, happend, hbefore, hfails,
      Rehearsal.store_writesLast (hlast change) hfails, hrun, rfl, rfl, rfl⟩

end Keeper

end PolicyKeeper
