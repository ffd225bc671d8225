import PolicyKeeper.Failure

/-!
# Plans

A plan is what the keeper means to do, as data: it is done, with a result, or it makes a call and
goes on with the answer. Who answers the calls is left open. The same plan runs against the store in
memory, against a service over HTTP, or one call at a time among the calls of other plans.

A failed call does not end a plan by itself, since the plan may have something to say about the
failure; but in a sequence (`bind`) a failure ends the whole.
-/

namespace PolicyKeeper

/-- Calls to make, one after the other, and a result at the end. -/
inductive Plan (α : Type) where
  | done (result : Except Failure α)
  | ask (call : Call) (next : Except Failure call.Answer → Plan α)

namespace Plan

variable {α β : Type}

/-- Goes on with a second plan if the first one succeeds. -/
def bind : Plan α → (α → Plan β) → Plan β
  | .done (.ok a), f => f a
  | .done (.error e), _ => .done (.error e)
  | .ask call next, f => .ask call fun answer => (next answer).bind f

instance : Monad Plan where
  pure a := .done (.ok a)
  bind := bind

/-- Makes one call. -/
def call (c : Call) : Plan c.Answer := .ask c .done

/-- A result that needs no call. -/
def ofResult (r : Except Fault α) : Plan α := .done (Failure.ofResult r)

/-- The plan as part of a wider task, which is told by every failure. -/
def during (task : Task) : Plan α → Plan α
  | .done r => .done (Failure.within task r)
  | .ask call next => .ask call fun answer => (next answer).during task

/-- Runs a plan. Calls are answered by `perform`, which may change a state. -/
def run {σ : Type} (perform : (c : Call) → σ → Except Failure c.Answer × σ) :
    Plan α → σ → Except Failure α × σ
  | .done r, s => (r, s)
  | .ask call next, s =>
    let answered := perform call s
    (next answered.1).run perform answered.2

/-! ## Plans in sequence -/

theorem bind_pure_id (p : Plan α) : (p >>= fun a => pure (id a)) = p := by
  induction p with
  | done r => cases r <;> rfl
  | ask c next ih => exact congrArg (Plan.ask c) (funext ih)

theorem bind_bind {γ : Type} (p : Plan α) (f : α → Plan β) (g : β → Plan γ) :
    p >>= f >>= g = p >>= fun a => f a >>= g := by
  induction p with
  | done r => cases r <;> rfl
  | ask c next ih => exact congrArg (Plan.ask c) (funext ih)

instance : LawfulMonad Plan :=
  LawfulMonad.mk' Plan bind_pure_id (fun _ _ => rfl) bind_bind

/-! ## Running plans in sequence -/

section

variable {σ : Type} (perform : (c : Call) → σ → Except Failure c.Answer × σ) (s : σ)

@[simp] theorem run_done (r : Except Failure α) : (Plan.done r).run perform s = (r, s) := rfl

@[simp] theorem run_pure (a : α) : (pure a : Plan α).run perform s = (.ok a, s) := rfl

@[simp] theorem run_call (c : Call) : (call c).run perform s = perform c s := rfl

@[simp] theorem run_ofResult (r : Except Fault α) :
    (ofResult r).run perform s = (Failure.ofResult r, s) := rfl

/-- A sequence goes on from where its first part ends, unless that fails. -/
theorem run_bind (p : Plan α) (f : α → Plan β) :
    (p >>= f).run perform s =
      match p.run perform s with
      | (.ok a, s') => (f a).run perform s'
      | (.error e, s') => (.error e, s') := by
  induction p generalizing s with
  | done r => cases r <;> rfl
  | ask c next ih => exact ih _ _

/-- A wider task changes what is said of a failure, and nothing else. -/
@[simp] theorem run_during (task : Task) (p : Plan α) :
    (p.during task).run perform s =
      (Failure.within task (p.run perform s).1, (p.run perform s).2) := by
  induction p generalizing s with
  | done r => rfl
  | ask c next ih => exact ih _ _

end

end Plan

end PolicyKeeper
