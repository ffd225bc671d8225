import PolicyKeeper.Store.Plan

/-!
# How plans end

A sequence of plans succeeds only if each of them does, and then it goes from store to store as they
do. What is said of tasks concerns failures alone, so it does not matter here.

Many plans are all or nothing: they read, and write at the end if at all, so that a plan which fails
has not changed anything. Reading before such a plan gives such a plan again.
-/

namespace PolicyKeeper.Plan

variable {α β σ : Type} {perform : (c : Call) → σ → Except Failure c.Answer × σ} {s s' : σ}

/-- **A sequence that succeeds** has a first part that does, and goes on from there. -/
theorem run_bind_ok {p : Plan α} {f : α → Plan β} {b : β}
    (h : (p >>= f).run perform s = (.ok b, s')) :
    ∃ a s₁, p.run perform s = (.ok a, s₁) ∧ (f a).run perform s₁ = (.ok b, s') := by
  rw [run_bind] at h
  rcases hp : p.run perform s with ⟨r, s₁⟩
  rw [hp] at h
  cases r with
  | error e => exact absurd (congrArg Prod.fst h) (by simp)
  | ok a => exact ⟨a, s₁, rfl, h⟩

theorem run_during_ok {p : Plan α} {task : Task} {a : α}
    (h : (p.during task).run perform s = (.ok a, s')) : p.run perform s = (.ok a, s') := by
  rw [run_during] at h
  rcases hp : p.run perform s with ⟨r, s₁⟩
  rw [hp] at h
  cases r with
  | error e => exact absurd (congrArg Prod.fst h) (by simp [Failure.within])
  | ok b => exact h

/-- What a closed run comes to can be told from its result as an option. -/
theorem run_eq_ok {p : Plan α} {a : α} (h : (p.run perform s).1.toOption = some a) :
    p.run perform s = (.ok a, (p.run perform s).2) := by
  rcases hp : p.run perform s with ⟨r, s₁⟩
  rw [hp] at h
  cases r with
  | error e => exact absurd h (by simp [Except.toOption])
  | ok b =>
      cases h
      rfl

/-! ## All or nothing -/

/-- The plan succeeds and leaves a state with the property, or it fails and has changed nothing. -/
def AllOrNothing (perform : (c : Call) → σ → Except Failure c.Answer × σ) (p : Plan Unit) (s : σ)
    (P : σ → Prop) : Prop :=
  (∃ e, p.run perform s = (.error e, s)) ∨ ∃ s', p.run perform s = (.ok (), s') ∧ P s'

theorem AllOrNothing.imp {p : Plan Unit} {P Q : σ → Prop} (h : AllOrNothing perform p s P)
    (himp : ∀ s', P s' → Q s') : AllOrNothing perform p s Q := by
  rcases h with herr | ⟨s', hrun, hP⟩
  · exact Or.inl herr
  · exact Or.inr ⟨s', hrun, himp s' hP⟩

theorem AllOrNothing.of_run {p : Plan Unit} {P : σ → Prop} (h : AllOrNothing perform p s P)
    (hrun : p.run perform s = (.ok (), s')) : P s' := by
  rcases h with ⟨e, herr⟩ | ⟨s₁, hok, hP⟩
  · rw [herr] at hrun
    exact absurd (congrArg Prod.fst hrun) (by simp)
  · rw [hok] at hrun
    cases hrun
    exact hP

/-- A plan that does nothing. -/
theorem allOrNothing_pure {P : σ → Prop} (h : P s) : AllOrNothing perform (pure ()) s P :=
  Or.inr ⟨s, rfl, h⟩

/-- **Reading first does not spoil it.** -/
theorem allOrNothing_bind {p : Plan α} {f : α → Plan Unit} {P : σ → Prop} {r : Except Failure α}
    (hp : p.run perform s = (r, s)) (hf : ∀ a, r = .ok a → AllOrNothing perform (f a) s P) :
    AllOrNothing perform (p >>= f) s P := by
  unfold AllOrNothing
  rw [run_bind, hp]
  cases r with
  | error e => exact Or.inl ⟨e, rfl⟩
  | ok a => exact hf a rfl

/-- A call that the plan ends with, as part of a task. -/
theorem allOrNothing_last {c : Call} {task : Task} {P : σ → Prop}
    (h : (∃ e, perform c s = (.error e, s)) ∨ ∃ a s', perform c s = (.ok a, s') ∧ P s') :
    AllOrNothing perform ((call c).during task >>= fun _ => pure ()) s P := by
  unfold AllOrNothing
  rw [run_bind, run_during, run_call]
  rcases h with ⟨e, he⟩ | ⟨a, s', ha, hP⟩
  · rw [he]
    exact Or.inl ⟨_, rfl⟩
  · rw [ha]
    exact Or.inr ⟨s', rfl, hP⟩

theorem ofResult_eq_ok {r : Except Fault α} {a : α} (h : Failure.ofResult r = .ok a) :
    r = .ok a := by
  cases r with
  | error f => exact absurd h (by simp [Failure.ofResult])
  | ok b =>
      cases h
      rfl

end PolicyKeeper.Plan
