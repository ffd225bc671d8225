import PolicyKeeper.Proofs.Store.Running
import PolicyKeeper.Store.Rehearsal

/-!
# What a failure leaves behind

A plan that gives up as soon as a call fails (`Plan.Strict`) leaves the store as it was by then, so
the store of a disturbed run is one that the undisturbed run passes through
(`Plan.Strict.passes_disturbed`). Which stores those are is known if the plan is a sequence of steps
that write at most once, and last (`Plan.Atomic`): then each of them is what a number of first steps
has made of the store in the beginning (`Plan.passes_forM`).
-/

namespace PolicyKeeper

namespace Plan

variable {α β σ : Type} {perform : (c : Call) → σ → Except Failure c.Answer × σ} {s t : σ}

/-- The plan passes through the second state when it runs from the first. -/
def Passes (perform : (c : Call) → σ → Except Failure c.Answer × σ) : Plan α → σ → σ → Prop
  | done _, s, t => t = s
  | ask c next, s, t => t = s ∨ (next (perform c s).1).Passes perform (perform c s).2 t

/-- In a sequence it is the first part that passes through a state, or the second after it. -/
theorem passes_bind {p : Plan α} {f : α → Plan β} (h : (p >>= f).Passes perform s t) :
    p.Passes perform s t
      ∨ ∃ a s₁, p.run perform s = (.ok a, s₁) ∧ (f a).Passes perform s₁ t := by
  induction p generalizing s with
  | done r =>
      cases r with
      | error e => exact Or.inl h
      | ok a => exact Or.inr ⟨a, s, rfl, h⟩
  | ask c next ih =>
      rcases h with hs | h
      · exact Or.inl (Or.inl hs)
      · exact (ih _ h).imp_left Or.inr

theorem passes_during {p : Plan α} {task : Task} :
    (p.during task).Passes perform s t ↔ p.Passes perform s t := by
  induction p generalizing s with
  | done r => exact Iff.rfl
  | ask c next ih => exact or_congr_right (ih _)

/-! ## Plans that write last -/

/-- The plan passes through no other state than the one it starts from. -/
def ReadsOnly (perform : (c : Call) → σ → Except Failure c.Answer × σ) (p : Plan α) : Prop :=
  ∀ s t, p.Passes perform s t → t = s

/-- The plan passes through no other states than the one it starts from and, if it succeeds, the
one it ends in. -/
def Atomic (perform : (c : Call) → σ → Except Failure c.Answer × σ) (p : Plan α) : Prop :=
  ∀ s t, p.Passes perform s t → t = s ∨ ∃ a, p.run perform s = (.ok a, t)

/-- A plan ends in a state that it passes through. -/
theorem passes_run (p : Plan α) (s : σ) : p.Passes perform s (p.run perform s).2 := by
  induction p generalizing s with
  | done _ => rfl
  | ask c next ih => exact Or.inr (ih _ _)

/-- A plan that says something at the end passes through no more states. -/
theorem passes_of_bind_pure {p : Plan α} {b : β}
    (h : (p >>= fun _ => pure b).Passes perform s t) : p.Passes perform s t := by
  rcases passes_bind h with hp | ⟨_, s₁, hrun, hend⟩
  · exact hp
  · have hpasses : p.Passes perform s (p.run perform s).2 := p.passes_run s
    rw [hrun] at hpasses
    rwa [show t = s₁ from hend]

theorem readsOnly_done (r : Except Failure α) : (done r).ReadsOnly perform := fun _ _ h => h

theorem ReadsOnly.atomic {p : Plan α} (h : p.ReadsOnly perform) : p.Atomic perform :=
  fun s t ht => Or.inl (h s t ht)

theorem ReadsOnly.during {p : Plan α} (h : p.ReadsOnly perform) (task : Task) :
    (p.during task).ReadsOnly perform := fun s t ht => h s t (passes_during.mp ht)

theorem readsOnly_call {c : Call} (h : ∀ s, (perform c s).2 = s) : (call c).ReadsOnly perform := by
  intro s t ht
  rcases ht with ht | ht
  · exact ht
  · exact Eq.trans ht (h s)

theorem ReadsOnly.run {p : Plan α} (h : p.ReadsOnly perform) {r : Except Failure α}
    (hrun : p.run perform s = (r, t)) : t = s := by
  have hpasses : p.Passes perform s (p.run perform s).2 := p.passes_run s
  rw [hrun] at hpasses
  exact h s t hpasses

theorem ReadsOnly.bind {p : Plan α} {f : α → Plan β} (hp : p.ReadsOnly perform)
    (hf : ∀ a, (f a).ReadsOnly perform) : (p >>= f).ReadsOnly perform := by
  intro s t hpasses
  rcases passes_bind hpasses with ht | ⟨a, s₁, hrun, ht⟩
  · exact hp s t ht
  · rw [hf a s₁ t ht, hp.run hrun]

/-- **Reading before a plan that writes last** gives one again. -/
theorem Atomic.after {p : Plan α} {f : α → Plan β} (hp : p.ReadsOnly perform)
    (hf : ∀ a, (f a).Atomic perform) : (p >>= f).Atomic perform := by
  intro s t hpasses
  rcases passes_bind hpasses with ht | ⟨a, s₁, hrun, ht⟩
  · exact Or.inl (hp s t ht)
  · obtain rfl := hp.run hrun
    rw [run_bind, hrun]
    exact hf a s₁ t ht

theorem Atomic.during {p : Plan α} (h : p.Atomic perform) (task : Task) :
    (p.during task).Atomic perform := by
  intro s t ht
  refine (h s t (passes_during.mp ht)).imp_right fun hok => ?_
  obtain ⟨a, hrun⟩ := hok
  refine ⟨a, ?_⟩
  rw [run_during, hrun]
  rfl

/-- A call that the plan ends with, if it has no effect when it fails. -/
theorem atomic_last {c : Call} {task : Task}
    (h : ∀ s e, (perform c s).1 = .error e → (perform c s).2 = s) :
    ((call c).during task >>= fun _ => pure ()).Atomic perform := by
  intro s t ht
  have hrun : ((call c).during task >>= fun _ => pure () : Plan Unit).run perform s
      = match perform c s with
        | (.ok _, s') => (.ok (), s')
        | (.error e, s') => (Failure.within task (.error e), s') := by
    rw [run_bind, run_during, run_call]
    rcases perform c s with ⟨r, s'⟩
    cases r <;> rfl
  have hend : t = s ∨ t = (perform c s).2 := by
    refine ht.imp_right fun ht => ?_
    revert ht
    cases (perform c s).1 with
    | error e => exact id
    | ok a => exact id
  rcases hend with rfl | rfl
  · exact Or.inl rfl
  · rw [hrun]
    rcases hcall : perform c s with ⟨r, s'⟩
    cases r with
    | error e =>
        have hsame := h s e (by rw [hcall])
        rw [hcall] at hsame
        exact Or.inl hsame
    | ok a => exact Or.inr ⟨(), rfl⟩

/-- **Steps one after the other** pass through what the first of them have made of the state. -/
theorem passes_forM {f : α → Plan Unit} (hf : ∀ x, (f x).Atomic perform) {xs : List α}
    (h : (xs.forM f).Passes perform s t) :
    ∃ before after, xs = before ++ after ∧ (before.forM f).run perform s = (.ok (), t) := by
  induction xs generalizing s with
  | nil => exact ⟨[], [], rfl, by rw [show t = s from h]; rfl⟩
  | cons x xs ih =>
      rcases passes_bind h with hx | ⟨_, s₁, hrun, hrest⟩
      · -- within the first step it has not begun, or it is over
        rcases hf x s t hx with rfl | ⟨_, hrun⟩
        · exact ⟨[], x :: xs, rfl, rfl⟩
        · refine ⟨[x], xs, rfl, ?_⟩
          show (f x >>= fun _ => pure ()).run perform s = _
          rw [run_bind, hrun]
          rfl
      · obtain ⟨before, after, rfl, hbefore⟩ := ih hrest
        refine ⟨x :: before, after, rfl, ?_⟩
        show (f x >>= fun _ => before.forM f).run perform s = _
        rw [run_bind, hrun]
        exact hbefore

/-! ## Plans that give up -/

/-- The plan ends with a failure as soon as a call fails. -/
def Strict : Plan α → Prop
  | done _ => True
  | ask _ next => (∀ e, ∃ e', next (.error e) = done (.error e')) ∧ ∀ answer, (next answer).Strict

theorem strict_call (c : Call) : (call c).Strict := ⟨fun e => ⟨e, rfl⟩, fun _ => trivial⟩

theorem Strict.bind {p : Plan α} {f : α → Plan β} (hp : p.Strict) (hf : ∀ a, (f a).Strict) :
    (p >>= f).Strict := by
  induction p with
  | done r =>
      cases r with
      | error e => exact trivial
      | ok a => exact hf a
  | ask c next ih =>
      refine ⟨fun e => ?_, fun answer => ih answer (hp.2 answer)⟩
      obtain ⟨e', he⟩ := hp.1 e
      exact ⟨e', congrArg (·.bind f) he⟩

theorem Strict.during {p : Plan α} (hp : p.Strict) (task : Task) : (p.during task).Strict := by
  induction p with
  | done r => exact trivial
  | ask c next ih =>
      refine ⟨fun e => ?_, fun answer => ih answer (hp.2 answer)⟩
      obtain ⟨e', he⟩ := hp.1 e
      exact ⟨_, congrArg (·.during task) he⟩

theorem strict_last (c : Call) (task : Task) :
    ((call c).during task >>= fun _ => pure ()).Strict :=
  ((strict_call c).during task).bind fun _ => trivial

theorem strict_forM {f : α → Plan Unit} (hf : ∀ x, (f x).Strict) (xs : List α) :
    (xs.forM f).Strict := by
  induction xs with
  | nil => exact trivial
  | cons x xs ih => exact (hf x).bind fun _ => ih

end Plan

/-! ## Disturbances that fail calls -/

/-- A call that is disturbed so fails. -/
theorem Disturbance.answer_of_failure {d : Disturbance} (hd : d.outcome = .failure) (c : Call) :
    ∃ e, d.answer c = .error e := by
  cases c <;> exact ⟨_, by simp only [Disturbance.answer, hd]; rfl⟩

/-- The disturbances that are met and those that are left are of the same kinds and outcomes. -/
theorem Disturbance.meet_outcome {P : CallKind → Outcome → Prop} (kind : CallKind)
    {ds : List Disturbance} (h : ∀ d ∈ ds, P d.kind d.outcome) :
    (∀ d, (meet kind ds).1 = some d → P kind d.outcome)
      ∧ ∀ d ∈ (meet kind ds).2, P d.kind d.outcome := by
  induction ds with
  | nil => exact ⟨fun d hd => absurd hd (by simp [meet]), fun d hd => absurd hd List.not_mem_nil⟩
  | cons d ds ih =>
      obtain ⟨hd, hds⟩ := List.forall_mem_cons.mp h
      obtain ⟨hmet, hleft⟩ := ih hds
      unfold meet
      split
      · rename_i hkind
        split
        · refine ⟨fun d' hd' => ?_, hds⟩
          cases hd'
          exact hkind ▸ hd
        · exact ⟨fun d' hd' => absurd hd' (by simp), List.forall_mem_cons.mpr ⟨hd, hds⟩⟩
      · exact ⟨hmet, List.forall_mem_cons.mpr ⟨hd, hleft⟩⟩

/-- Without disturbances, a rehearsal is a run. -/
theorem Rehearsal.store_run {α : Type} (p : Plan α) {r : Rehearsal} (hr : r.disturbances = []) :
    (Rehearsal.run p r).2.store = (p.run Store.perform r.store).2 := by
  induction p generalizing r with
  | done result => rfl
  | ask c next ih =>
      have hmeet : Disturbance.meet c.kind r.disturbances = (none, []) := by
        rw [hr]
        rfl
      have hleft : (Rehearsal.perform c r).2.disturbances = [] := by
        simp only [Rehearsal.perform, hmeet]
      have hnext := ih (r.store.perform c).1 hleft
      simpa only [Rehearsal.run, Plan.run, Rehearsal.perform, hmeet] using hnext

/-- **What a failure leaves behind** is a store that the plan passes through. -/
theorem Plan.Strict.passes_disturbed {α : Type} {p : Plan α} (hp : p.Strict) {r : Rehearsal}
    (hr : ∀ d ∈ r.disturbances, d.outcome = .failure) :
    p.Passes Store.perform r.store (Rehearsal.run p r).2.store := by
  induction p generalizing r with
  | done result => rfl
  | ask c next ih =>
      obtain ⟨hmet, hleft⟩ := Disturbance.meet_outcome (P := fun _ o => o = .failure) c.kind hr
      unfold Rehearsal.run
      rw [Plan.run]
      cases hdisturbed : (Disturbance.meet c.kind r.disturbances).1 with
      | some d =>
          obtain ⟨e, he⟩ := Disturbance.answer_of_failure (hmet d hdisturbed) c
          obtain ⟨e', hend⟩ := hp.1 e
          refine Or.inl ?_
          simp only [Rehearsal.perform, hdisturbed, he, hend, Plan.run_done]
      | none =>
          refine Or.inr ?_
          have hnext := ih (r.store.perform c).1 (hp.2 _) (r := (Rehearsal.perform c r).2) hleft
          simpa only [Rehearsal.run, Rehearsal.perform, hdisturbed] using hnext

end PolicyKeeper
