import PolicyKeeper.Store.Plan

/-!
# What plans promise

A plan has nothing to go by but the answers to its calls. What can be said of it regardless of who
answers is an assumption and a guarantee: as long as the answers are as they may be, every call is
one that it may make, and the result is as it should be (`Plan.Abides`). Plans in sequence abide by
what each of them abides by, so a promise is shown for the parts of a plan from bottom to top.

Whoever answers brings in an invariant. If a call that may be made keeps it, and is answered as
assumed, then the whole plan keeps it (`Plan.Abides.run`).
-/

namespace PolicyKeeper.Plan

variable {α β σ : Type} {may : Call → Prop} {shows : (c : Call) → Except Failure c.Answer → Prop}
  {Q : α → Prop} {R : β → Prop}

/-- As long as the answers are such as the calls show, the plan makes only calls that it may make,
and its result has the property. -/
def Abides (may : Call → Prop) (shows : (c : Call) → Except Failure c.Answer → Prop)
    (Q : α → Prop) : Plan α → Prop
  | done r => ∀ a, r = .ok a → Q a
  | ask c next => may c ∧ ∀ answer, shows c answer → (next answer).Abides may shows Q

/-- A plan that may make fewer calls may make more. -/
theorem Abides.imp {may' : Call → Prop} (h : ∀ c, may c → may' c) {p : Plan α}
    (hp : p.Abides may shows Q) : p.Abides may' shows Q := by
  induction p with
  | done r => exact hp
  | ask c next ih => exact ⟨h c hp.1, fun answer hs => ih answer (hp.2 answer hs)⟩

theorem abides_pure {a : α} (h : Q a) : (pure a : Plan α).Abides may shows Q := by
  intro b hb
  cases hb
  exact h

/-- **Plans in sequence.** The second is asked to abide only after results that the first has. -/
theorem Abides.bind {p : Plan α} {f : α → Plan β} (hp : p.Abides may shows Q)
    (hf : ∀ a, Q a → (f a).Abides may shows R) : (p >>= f).Abides may shows R := by
  induction p with
  | done r =>
      cases r with
      | error e => exact fun b hb => absurd hb (by simp)
      | ok a => exact hf a (hp a rfl)
  | ask c next ih => exact ⟨hp.1, fun answer hs => ih answer (hp.2 answer hs)⟩

theorem Abides.during {p : Plan α} (hp : p.Abides may shows Q) (task : Task) :
    (p.during task).Abides may shows Q := by
  induction p with
  | done r =>
      intro a ha
      cases r with
      | error e => exact absurd ha (by simp [Failure.within])
      | ok b => exact hp a ha
  | ask c next ih => exact ⟨hp.1, fun answer hs => ih answer (hp.2 answer hs)⟩

theorem abides_ofResult {r : Except Fault α} (h : ∀ a, r = .ok a → Q a) :
    (ofResult r).Abides may shows Q := by
  intro a ha
  cases r with
  | error f => exact absurd ha (by simp [Failure.ofResult])
  | ok b =>
      cases ha
      exact h _ rfl

theorem abides_call {c : Call} {Q : c.Answer → Prop} (hc : may c)
    (h : ∀ a, shows c (.ok a) → Q a) : (call c).Abides may shows Q := by
  refine ⟨hc, fun answer hs a ha => ?_⟩
  subst ha
  exact h a hs

/-- A call whose answer does not matter. -/
theorem abides_only {c : Call} (hc : may c) : (call c).Abides may shows fun _ => True :=
  abides_call hc fun _ _ => trivial

theorem abides_last {c : Call} (hc : may c) (task : Task) :
    ((call c).during task >>= fun _ => pure ()).Abides may shows fun _ => True :=
  ((abides_only hc).during task).bind fun _ _ => abides_pure trivial

theorem abides_forM {xs : List β} {f : β → Plan Unit}
    (h : ∀ x ∈ xs, (f x).Abides may shows fun _ => True) :
    (xs.forM f).Abides may shows fun _ => True := by
  induction xs with
  | nil => exact abides_pure trivial
  | cons x xs ih =>
      have hrest : ∀ y ∈ xs, (f y).Abides may shows fun _ => True :=
        fun y hy => h y (List.mem_cons_of_mem _ hy)
      exact (h x List.mem_cons_self).bind fun _ _ => ih hrest

/-- **What every call keeps, the plan keeps.** -/
theorem Abides.run {perform : (c : Call) → σ → Except Failure c.Answer × σ} {Inv : σ → Prop}
    (hstep : ∀ c s, may c → Inv s → Inv (perform c s).2 ∧ shows c (perform c s).1)
    {p : Plan α} (hp : p.Abides may shows Q) {s : σ} (hs : Inv s) :
    Inv (p.run perform s).2 ∧ ∀ a, (p.run perform s).1 = .ok a → Q a := by
  induction p generalizing s with
  | done r => exact ⟨hs, hp⟩
  | ask c next ih =>
      obtain ⟨hnext, hanswer⟩ := hstep c s hp.1 hs
      exact ih _ (hp.2 _ hanswer) hnext

/-- What no call changes, the plan leaves alone. -/
theorem Abides.run_eq {γ : Type} {perform : (c : Call) → σ → Except Failure c.Answer × σ}
    (f : σ → γ) (hstep : ∀ c s, may c → f (perform c s).2 = f s) {p : Plan α}
    (hp : p.Abides may (fun _ _ => True) Q) (s : σ) : f (p.run perform s).2 = f s := by
  let same (t : σ) : Prop := f t = f s
  have hs : same s := rfl
  exact (Abides.run (fun c t hc ht => ⟨(hstep c t hc).trans ht, trivial⟩) hp hs).1

end PolicyKeeper.Plan
