import PolicyKeeper.Proofs.Editing

/-!
# Careful plans

A plan has nothing to go by but the answers to its calls, and these may be out of date when it comes
to write. What can be said of it regardless is an assumption and a guarantee: as long as every
policy that it is shown is well kept (`Policy.WellKept`), every policy that it writes is well kept
and has items (`Plan.Careful`). Being well kept is a matter of the policy alone, not of the store,
so it does not go out of date.

All that a keeper writes are the edits of an event, made of policies that it was shown or has made
itself, and an edit keeps a policy well kept. So its answer to every event is a careful plan.
-/

namespace PolicyKeeper

/-- A policy as keepers make them: with the label, one value at each level, and well shaped. -/
structure Policy.WellKept (p : Policy) : Prop where
  managed : managedLabel ∈ p.labels
  levels : ∀ level r, p.resources.get? level = some r → ∃ value, r = Resource.single value
  shapely : p.Shapely

/-- An edit that keeps the shape keeps all of it. -/
theorem Policy.WellKept.of_frame {p p' : Policy} (h : p.WellKept) (hf : p'.frame = p.frame)
    (hs : p'.Shapely) : p'.WellKept := by
  refine ⟨?_, fun level r hr => h.levels level r ?_, hs⟩
  · rw [Policy.labels_of_frame hf]
    exact h.managed
  · rwa [Policy.resources_of_frame hf] at hr

theorem Policy.wellKept_managed (service name : String) (path : Fields String) :
    (Policy.managed service name path).WellKept := by
  refine ⟨List.mem_singleton_self _, fun level r hr => ?_, Policy.shapely_managed _ _ _⟩
  have hmap : (path.mapValues Resource.single).get? level = some r := hr
  rw [Fields.get?_mapValues] at hmap
  obtain ⟨value, _, hvalue⟩ := Option.map_eq_some_iff.mp hmap
  exact ⟨value, hvalue.symm⟩

/-- What a call must be for a plan to make it: a policy to be written is well kept and has items. -/
def Call.Proper : Call → Prop
  | createPolicy p | updatePolicy _ p => p.WellKept ∧ p.hasNoItems = false
  | _ => True

/-- What a plan may expect of the answer to a call: the policies that are found are well kept. -/
def Call.Trusted : (c : Call) → Except Failure c.Answer → Prop
  | findPolicies _, r => ∀ found : List Policy, r = .ok found → ∀ p ∈ found, p.WellKept
  | _, _ => True

/-- As long as the answers can be trusted, the plan makes proper calls only, and its result has the
property. -/
def Plan.Careful {α : Type} (Q : α → Prop) : Plan α → Prop
  | done r => ∀ a, r = .ok a → Q a
  | ask c next => c.Proper ∧ ∀ answer, c.Trusted answer → (next answer).Careful Q

/-- A plan is careful if it makes proper calls as long as it is shown well kept policies. -/
theorem Plan.Abides.careful {α : Type} {Q : α → Prop} {plan : Plan α} {may : Call → Prop}
    (h : plan.Abides may (Call.Shows Policy.WellKept) Q) (hmay : ∀ c, may c → c.Proper) :
    plan.Careful Q := by
  induction plan with
  | done r => exact h
  | ask c next ih =>
      refine ⟨hmay c h.1, fun answer ht => ih answer (h.2 answer ?_)⟩
      cases c with
      | findPolicies search => exact ht
      | _ => exact trivial

namespace Keeper

variable {k : Keeper}

/-- The edits of an event keep policies as keepers make them. -/
theorem wellKept_edits (event : Event) :
    ∀ x ∈ k.edits event, ∀ p : Policy, p.WellKept → (x.2 p).WellKept := by
  refine forall_edits (P := fun f => ∀ p : Policy, p.WellKept → (f p).WellKept) ?_ ?_ ?_ event
  · intro role change p hp
    exact hp.of_frame (k.edit_frame role change p) (shapely_edit hp.shapely)
  · intro previous new p hp
    have hnodup : k.layout.service.ownerAccesses.Nodup := by
      cases k.layout.service <;> decide
    exact hp.of_frame rfl (hp.shapely.handOver hnodup previous new)
  · intro _ o f hf p hp
    exact hp.of_frame rfl (hp.shapely.mapPlaceholderItems _ hf)

/-- **Whatever happens, a keeper answers it with a careful plan.** The policies may be stale by the
time they are written, but they stay well kept. -/
theorem careful_handle (k : Keeper) (event : Event) : (k.handle event).Careful fun _ => True := by
  have hedits : k.MakesEdits Policy.WellKept (k.edits event) (k.handle event) fun _ => True :=
    makesEdits_handle fun _ _ _ _ hp => by
      obtain ⟨_, _, rfl⟩ := newPolicy_ok hp
      exact Policy.wellKept_managed _ _ _
  refine hedits.careful fun c hc => ?_
  have hwritten : ∀ {p p'}, k.EditedIn Policy.WellKept (k.edits event) p p' → p'.WellKept := by
    intro p p' h
    obtain ⟨x, hx, hp, rfl⟩ := h
    exact wellKept_edits event x hx p hp.known
  cases c with
  | createPolicy p' =>
      obtain ⟨hni, p, _, hedited⟩ := hc
      exact ⟨hwritten hedited, hni⟩
  | updatePolicy id p' =>
      obtain ⟨hni, p, _, hedited⟩ := hc
      exact ⟨hwritten hedited, hni⟩
  | _ => exact trivial

end Keeper

end PolicyKeeper
