import Mathlib.Logic.Function.Basic
import PolicyKeeper.Keeper.Event
import PolicyKeeper.Proofs.Rights
import PolicyKeeper.Proofs.Store.Running

/-!
# Policies and the catalogue

In role mode the events of roles move rights: an object that a role gains puts its rights there, one
that it loses takes them away, and a replacement takes the old ones and puts the new ones
(`RoleChange.moves`). Started on an empty store, the managed policies give a role a right exactly if
the last of its moves that touches the right was a put (`History.rights_eq`).

This is nearly, but not quite, what the catalogue says. Who moved the right there still holds the
object, so a role has no right that none of its objects stands for. But a right that two objects of
a role stand for goes with either of them, and the other object does not bring it back.
-/

namespace PolicyKeeper

/-- A role is given an object, or has it taken. -/
inductive Move where
  | put (role : String) (object : Securable)
  | take (role : String) (object : Securable)

namespace Move

/-- The last move that touches something was a put: there is a put that does, and no take after it
does. -/
def Stands (touches : String → Securable → Prop) (moves : List Move) : Prop :=
  ∃ before role o after, moves = before ++ .put role o :: after ∧ touches role o
    ∧ ∀ role' o', .take role' o' ∈ after → ¬ touches role' o'

variable {touches : String → Securable → Prop} {moves : List Move} {role : String} {o : Securable}

theorem not_stands_nil : ¬ Stands touches [] := by
  intro h
  obtain ⟨before, _, _, _, h, _⟩ := h
  exact absurd h.symm (List.append_ne_nil_of_right_ne_nil before (List.cons_ne_nil _ _))

/-- After one more move something stands if the move puts it there, or if it stood before and is
not taken. -/
theorem stands_append {move : Move} :
    Stands touches (moves ++ [move]) ↔
      (∃ role o, move = .put role o ∧ touches role o)
        ∨ (Stands touches moves ∧ ∀ role o, move = .take role o → ¬ touches role o) := by
  refine ⟨?_, ?_⟩
  · intro h
    obtain ⟨before, role, o, after, h, ht, hafter⟩ := h
    rcases List.eq_nil_or_concat after with rfl | ⟨after, last, rfl⟩
    · obtain ⟨_, hmove⟩ := List.append_inj' h rfl
      exact Or.inl ⟨role, o, List.head_eq_of_cons_eq hmove, ht⟩
    · rw [List.concat_eq_append, ← List.cons_append, ← List.append_assoc] at h
      obtain ⟨hmoves, hlast⟩ := List.append_inj' h rfl
      have hmove : move = last := List.head_eq_of_cons_eq hlast
      refine Or.inr ⟨⟨before, role, o, after, hmoves, ht, fun role' o' hmem => ?_⟩, ?_⟩
      · refine hafter role' o' ?_
        rw [List.concat_eq_append]
        exact List.mem_append_left _ hmem
      · intro role' o' htake
        refine hafter role' o' ?_
        rw [List.concat_eq_append, ← htake, hmove]
        exact List.mem_append_right _ (List.mem_singleton_self _)
  · intro h
    rcases h with ⟨role, o, rfl, ht⟩ | ⟨⟨before, role, o, after, rfl, ht, hafter⟩, hlast⟩
    · exact ⟨moves, role, o, [], rfl, ht, fun _ _ hmem => absurd hmem List.not_mem_nil⟩
    · refine ⟨before, role, o, after ++ [move], ?_, ht, fun role' o' hmem => ?_⟩
      · rw [List.append_assoc, List.cons_append]
      · rcases List.mem_append.mp hmem with hmem | hmem
        · exact hafter role' o' hmem
        · exact hlast role' o' (List.mem_singleton.mp hmem).symm

theorem stands_append_put :
    Stands touches (moves ++ [.put role o]) ↔ Stands touches moves ∨ touches role o := by
  rw [stands_append]
  refine ⟨?_, ?_⟩
  · intro h
    rcases h with ⟨_, _, h, ht⟩ | ⟨h, _⟩
    · cases h
      exact Or.inr ht
    · exact Or.inl h
  · intro h
    rcases h with h | ht
    · exact Or.inr ⟨h, fun _ _ heq => absurd heq (by simp)⟩
    · exact Or.inl ⟨role, o, rfl, ht⟩

theorem stands_append_take :
    Stands touches (moves ++ [.take role o]) ↔ Stands touches moves ∧ ¬ touches role o := by
  rw [stands_append]
  refine ⟨?_, ?_⟩
  · intro h
    rcases h with ⟨_, _, h, _⟩ | ⟨h, hlast⟩
    · exact absurd h (by simp)
    · exact ⟨h, hlast role o rfl⟩
  · intro h
    obtain ⟨h, hnot⟩ := h
    refine Or.inr ⟨h, fun _ _ heq => ?_⟩
    cases heq
    exact hnot

theorem stands_append_puts {os : List Securable} :
    Stands touches (moves ++ os.map (put role))
      ↔ Stands touches moves ∨ ∃ o ∈ os, touches role o := by
  induction os generalizing moves with
  | nil => simp
  | cons o os ih =>
      rw [List.map_cons, List.append_cons, ih, stands_append_put, or_assoc,
        List.exists_mem_cons_iff]

theorem stands_append_takes {os : List Securable} :
    Stands touches (moves ++ os.map (take role))
      ↔ Stands touches moves ∧ ∀ o ∈ os, ¬ touches role o := by
  induction os generalizing moves with
  | nil => simp
  | cons o os ih =>
      rw [List.map_cons, List.append_cons, ih, stands_append_take, and_assoc, List.forall_mem_cons]

end Move

namespace Move

variable {touches : String → Securable → Prop} {moves more : List Move}

/-- The role that a move is of. -/
def role : Move → String
  | put role _ | take role _ => role

/-- The object that a move is of. -/
def object : Move → Securable
  | put _ o | take _ o => o

/-- Moves that touch nothing change nothing. -/
theorem stands_append_untouched (h : ∀ m ∈ more, ¬ touches m.role m.object) :
    Stands touches (moves ++ more) ↔ Stands touches moves := by
  induction more generalizing moves with
  | nil => rw [List.append_nil]
  | cons m more ih =>
      rw [List.append_cons, ih fun m' hm' => h m' (List.mem_cons_of_mem _ hm')]
      have hm := h m List.mem_cons_self
      cases m with
      | put role o => exact stands_append_put.trans (or_iff_left hm)
      | take role o => exact stands_append_take.trans (and_iff_left hm)

end Move

/-- The moves that a change of a role makes. -/
def RoleChange.moves (role : String) : RoleChange → List Move
  | .add o => [.put role o]
  | .remove o => [.take role o]
  | .replace old new => [.take role old, .put role new]

namespace Keeper

variable {k : Keeper} {s s' : Store} {moves : List Move} {role : Role}

/-- The rights whose last move was a put. -/
def standing (k : Keeper) (moves : List Move) : Set Right :=
  {r | Move.Stands (fun role o => r ∈ k.rightsOf role o) moves}

/-- A change does to sets of rights what its moves do to those that stand. -/
theorem changedBy_standing (role : String) (change : RoleChange) :
    k.changedBy role change (k.standing moves) = k.standing (moves ++ change.moves role) := by
  ext r
  cases change with
  | add o => exact Move.stands_append_put.symm
  | remove o => exact Move.stands_append_take.symm
  | replace old new =>
      show _ ↔ Move.Stands _ (moves ++ [.take role old, .put role new])
      rw [List.append_cons, Move.stands_append_put, Move.stands_append_take]
      rfl

/-! ## Events of roles, as moves -/

theorem rights_congr (h : s'.policies = s.policies) : k.rights s' = k.rights s := by
  unfold rights
  rw [h]

/-- Changes that are all made move rights as they say. -/
theorem run_changes {α : Type} (change : α → RoleChange) (task : α → Task) (hmode : k.mode = .role)
    {xs : List α} (hxs : ∀ x ∈ xs, (change x).Proper ∧ k.layout.Legible (change x).object)
    (hs : s.Built) (hbefore : k.rights s = k.standing moves)
    (hrun : (xs.forM fun x => (k.applyChange role (change x)).during (task x)).run Store.perform s
      = (.ok (), s')) :
    s'.Built
      ∧ k.rights s' = k.standing (moves ++ xs.flatMap fun x => (change x).moves role.name) := by
  induction xs generalizing s moves with
  | nil =>
      cases hrun
      rw [List.flatMap_nil, List.append_nil]
      exact ⟨hs, hbefore⟩
  | cons x xs ih =>
      -- the first change is made on its own, and the rest go on from its store and its moves
      obtain ⟨u, s₁, hfirst, hrest⟩ := Plan.run_bind_ok hrun
      have hmade := Plan.run_during_ok hfirst
      obtain ⟨hp, hl⟩ := hxs x List.mem_cons_self
      have hs₁ : s₁.Built := hs.of_run hmade
      have hrights := (rights_of_attempt hmode hs role hp hl).1
      rw [hmade] at hrights
      have hone : k.rights s₁ = k.standing (moves ++ (change x).moves role.name) := by
        rw [hrights rfl, hbefore, changedBy_standing]
      rw [List.flatMap_cons, ← List.append_assoc]
      exact ih (fun y hy => hxs y (List.mem_cons_of_mem _ hy)) hs₁ hone hrest

/-- A call that writes no policies may come anywhere between the changes. -/
theorem rights_quiet {c : Call} {task : Task} {a : c.Answer} (hc : Store.writesPolicies c = false)
    (hs : s.Built) (hbefore : k.rights s = k.standing moves)
    (h : ((Plan.call c).during task).run Store.perform s = (.ok a, s')) :
    s'.Built ∧ k.rights s' = k.standing moves :=
  ⟨hs.of_run h, (rights_congr (Store.run_quiet hc h)).trans hbefore⟩

/-- A new role puts its objects there. -/
theorem roleCreated_moves (hmode : k.mode = .role)
    (hl : ∀ o ∈ role.securables, k.layout.Legible o.object) (hs : s.Built)
    (hbefore : k.rights s = k.standing moves)
    (hrun : (k.handle (.roleCreated role)).run Store.perform s = (.ok true, s')) :
    s'.Built ∧ k.rights s' = k.standing (moves ++ role.securables.map (.put role.name)) := by
  have h : (k.roleCreated role).run Store.perform s = (.ok true, s') := hrun
  unfold roleCreated at h
  rw [if_pos hmode] at h
  obtain ⟨_, s₁, hnative, h⟩ := Plan.run_bind_ok h
  obtain ⟨_, s₂, hobjects, hend⟩ := Plan.run_bind_ok h
  cases hend
  obtain ⟨_, _, hcall, hdone⟩ := Plan.run_bind_ok hnative
  cases hdone
  obtain ⟨hs₁, hrights⟩ := rights_quiet rfl hs hbefore hcall
  have hall := run_changes .add (fun o => .creatingRole role.name o.object.fullName) hmode
    (fun o ho => ⟨trivial, hl o ho⟩) hs₁ hrights hobjects
  rwa [List.map_eq_flatMap]

/-- A role that changes makes the moves of its changes. -/
theorem roleUpdated_moves {changes : List RoleChange} (hmode : k.mode = .role)
    (hchanges : ∀ c ∈ changes, c.Proper ∧ k.layout.Legible c.object) (hs : s.Built)
    (hbefore : k.rights s = k.standing moves)
    (hrun : (k.handle (.roleUpdated role changes)).run Store.perform s = (.ok true, s')) :
    s'.Built ∧ k.rights s' = k.standing (moves ++ changes.flatMap (·.moves role.name)) := by
  obtain ⟨_, s₁, hobjects, hend⟩ := Plan.run_bind_ok hrun
  cases hend
  exact run_changes id (fun c => .updatingRole role.name c.object.fullName) hmode hchanges hs
    hbefore hobjects

/-- A role that goes takes its objects away. -/
theorem roleDeleted_moves (hmode : k.mode = .role)
    (hl : ∀ o ∈ role.securables, k.layout.Legible o.object) (hs : s.Built)
    (hbefore : k.rights s = k.standing moves)
    (hrun : (k.handle (.roleDeleted role)).run Store.perform s = (.ok true, s')) :
    s'.Built ∧ k.rights s' = k.standing (moves ++ role.securables.map (.take role.name)) := by
  have h : (k.roleDeleted role).run Store.perform s = (.ok true, s') := hrun
  unfold roleDeleted at h
  rw [if_pos hmode] at h
  obtain ⟨_, s₁, hobjects, h⟩ := Plan.run_bind_ok h
  obtain ⟨_, s₂, hnative, hend⟩ := Plan.run_bind_ok h
  cases hend
  obtain ⟨hs₁, hrights⟩ := run_changes .remove (fun o => .deletingRole role.name o.object.fullName)
    hmode (fun o ho => ⟨trivial, hl o ho⟩) hs hbefore hobjects
  obtain ⟨_, _, hcall, hdone⟩ := Plan.run_bind_ok hnative
  cases hdone
  rw [List.map_eq_flatMap]
  exact rights_quiet rfl hs₁ hrights hcall

end Keeper

/-! ## Following the catalogue -/

/-- What the catalogue says of roles: which are in use, and the objects of each. -/
abbrev Catalog := String → Option (List Securable)

/-- The objects of a role. One that is not in use has none. -/
def Catalog.held (c : Catalog) (role : String) : List Securable := (c role).getD []

/-- No name that leads to the object has a sign with a meaning in patterns. -/
def CatalogObject.Plain (o : CatalogObject) : Prop :=
  ∀ name ∈ o.names, '*' ∉ name.toList ∧ '?' ∉ name.toList ∧ '[' ∉ name.toList

instance (o : CatalogObject) : Decidable o.Plain :=
  inferInstanceAs (Decidable
    (∀ name ∈ o.names, '*' ∉ name.toList ∧ '?' ∉ name.toList ∧ '[' ∉ name.toList))

theorem CatalogObject.Plain.legible {o : CatalogObject} (h : o.Plain) {l : Layout}
    (hroot : l.service = .hdfs → '[' ∉ l.root.toList) : l.Legible o :=
  ⟨hroot, fun name hn => (h name hn).2.2⟩

namespace RoleChange

/-- The objects of a role after a change. -/
def revise (held : List Securable) : RoleChange → List Securable
  | .add o => held ++ [o]
  | .remove o => held.filter (· != o)
  | .replace old new => held.map fun o => if o = old then new else o

/-- The change goes by what the role holds: what is added is new to it, what is removed or replaced
is there in exactly that version. -/
def Fits (held : List Securable) : RoleChange → Prop
  | .add o => ∀ o' ∈ held, o'.object ≠ o.object
  | .remove o => o ∈ held
  | .replace old new => old ∈ held ∧ (replace old new).Proper

/-- Each of the changes fits what the role holds by then. -/
def AllFit : List Securable → List RoleChange → Prop
  | _, [] => True
  | held, change :: rest => change.Fits held ∧ AllFit (change.revise held) rest

theorem Fits.proper {held : List Securable} {change : RoleChange} (h : change.Fits held) :
    change.Proper := by
  cases change with
  | add _ | remove _ => exact trivial
  | replace old new => exact h.2

theorem AllFit.proper {held : List Securable} {changes : List RoleChange}
    (h : AllFit held changes) : ∀ c ∈ changes, c.Proper := by
  induction changes generalizing held with
  | nil => exact fun c hc => absurd hc List.not_mem_nil
  | cons change rest ih =>
      intro c hc
      rcases List.mem_cons.mp hc with rfl | hc
      · exact h.1.proper
      · exact ih h.2 c hc

end RoleChange

/-- A run of role events that follows the catalogue, from an empty store. It leads to what the
catalogue says by then, the moves that were made, and the store. -/
inductive History (k : Keeper) : Catalog → List Move → Store → Prop where
  | start : History k (fun _ => none) [] {}
  /-- A role that is not in use gets objects, all different. -/
  | created {c : Catalog} {moves : List Move} {s s' : Store} (role : Role)
      (past : History k c moves s) (unused : c role.name = none)
      (distinct : (role.securables.map Securable.object).Nodup)
      (plain : ∀ o ∈ role.securables, o.object.Plain)
      (run : (k.handle (.roleCreated role)).run Store.perform s = (.ok true, s')) :
      History k (Function.update c role.name (some role.securables))
        (moves ++ role.securables.map (.put role.name)) s'
  /-- A role in use changes. -/
  | updated {c : Catalog} {moves : List Move} {s s' : Store} {held : List Securable} (role : Role)
      (changes : List RoleChange) (past : History k c moves s) (used : c role.name = some held)
      (fit : RoleChange.AllFit held changes) (plain : ∀ c ∈ changes, c.object.Plain)
      (run : (k.handle (.roleUpdated role changes)).run Store.perform s = (.ok true, s')) :
      History k (Function.update c role.name (some (changes.foldl RoleChange.revise held)))
        (moves ++ changes.flatMap (·.moves role.name)) s'
  /-- A role in use goes, with the objects it has. -/
  | deleted {c : Catalog} {moves : List Move} {s s' : Store} {held : List Securable} (role : Role)
      (past : History k c moves s) (used : c role.name = some held)
      (objects : role.securables.Perm held) (plain : ∀ o ∈ role.securables, o.object.Plain)
      (run : (k.handle (.roleDeleted role)).run Store.perform s = (.ok true, s')) :
      History k (Function.update c role.name none)
        (moves ++ role.securables.map (.take role.name)) s'

namespace History

variable {k : Keeper} {c : Catalog} {moves : List Move} {s : Store}

/-- **The rights of the store are those whose last move was a put.** -/
theorem rights_eq (hmode : k.mode = .role)
    (hroot : k.layout.service = .hdfs → '[' ∉ k.layout.root.toList) (h : History k c moves s) :
    s.Built ∧ k.rights s = k.standing moves := by
  induction h with
  | start =>
      refine ⟨.empty, Set.ext fun r => ⟨?_, fun hr => absurd hr Move.not_stands_nil⟩⟩
      intro h
      obtain ⟨e, he, _⟩ := h
      exact absurd he List.not_mem_nil
  | created role _ _ _ plain run ih =>
      exact k.roleCreated_moves hmode (fun o ho => (plain o ho).legible hroot) ih.1 ih.2 run
  | updated role changes _ _ fit plain run ih =>
      have hchanges : ∀ c ∈ changes, c.Proper ∧ k.layout.Legible c.object :=
        fun c hc => ⟨fit.proper c hc, (plain c hc).legible hroot⟩
      exact k.roleUpdated_moves hmode hchanges ih.1 ih.2 run
  | deleted role _ _ _ plain run ih =>
      exact k.roleDeleted_moves hmode (fun o ho => (plain o ho).legible hroot) ih.1 ih.2 run

/-! ## What was put and not taken is held -/

/-- Exactly this object of exactly this role. -/
def Exactly (role : String) (o : Securable) (role' : String) (o' : Securable) : Prop :=
  role' = role ∧ o' = o

/-- Whatever was put and not taken in the same version is among the objects of its role. -/
def Kept (c : Catalog) (moves : List Move) : Prop :=
  ∀ role o, Move.Stands (Exactly role o) moves → o ∈ c.held role

theorem held_update_self (c : Catalog) (role : String) (os : Option (List Securable)) :
    Catalog.held (Function.update c role os) role = os.getD [] := by
  rw [Catalog.held, Function.update_self]

/-- An event of a role matters to no other role. -/
theorem Kept.other {more : List Move} {role role' : String} {os : Option (List Securable)}
    (h : Kept c moves) (hmore : ∀ m ∈ more, m.role = role) (hne : role' ≠ role) (o : Securable)
    (hstands : Move.Stands (Exactly role' o) (moves ++ more)) :
    o ∈ Catalog.held (Function.update c role os) role' := by
  have huntouched : ∀ m ∈ more, ¬ Exactly role' o m.role m.object :=
    fun m hm he => hne (he.1.symm.trans (hmore m hm))
  rw [Catalog.held, Function.update_of_ne hne]
  exact h role' o ((Move.stands_append_untouched huntouched).mp hstands)

theorem role_of_moves {role : String} {change : RoleChange} :
    ∀ m ∈ change.moves role, m.role = role := by
  intro m hm
  cases change with
  | add o | remove o =>
      rw [List.mem_singleton.mp hm]
      rfl
  | replace old new =>
      rcases List.mem_cons.mp hm with rfl | hm
      · rfl
      · rw [List.mem_singleton.mp hm]
        rfl

/-- One change keeps the objects of the role up to date. -/
theorem mem_revise {role : String} {held : List Securable} {change : RoleChange}
    (hfit : change.Fits held) (h : ∀ o, Move.Stands (Exactly role o) moves → o ∈ held)
    (o : Securable) (hstands : Move.Stands (Exactly role o) (moves ++ change.moves role)) :
    o ∈ change.revise held := by
  cases change with
  | add new =>
      rcases Move.stands_append_put.mp hstands with hold | ⟨_, rfl⟩
      · exact List.mem_append_left _ (h o hold)
      · exact List.mem_append_right _ (List.mem_singleton_self _)
  | remove old =>
      obtain ⟨hold, hnot⟩ := Move.stands_append_take.mp hstands
      have hne : o ≠ old := fun he => hnot ⟨rfl, he.symm⟩
      exact List.mem_filter.mpr ⟨h o hold, bne_iff_ne.mpr hne⟩
  | replace old new =>
      have hstands : Move.Stands _ (moves ++ [.take role old, .put role new]) := hstands
      rw [List.append_cons, Move.stands_append_put, Move.stands_append_take] at hstands
      rcases hstands with ⟨hold, hnot⟩ | ⟨_, rfl⟩
      · have hne : o ≠ old := fun he => hnot ⟨rfl, he.symm⟩
        exact List.mem_map.mpr ⟨o, h o hold, if_neg hne⟩
      · exact List.mem_map.mpr ⟨old, hfit.1, if_pos rfl⟩

theorem mem_revise_all {role : String} {held : List Securable} {changes : List RoleChange}
    (hfit : RoleChange.AllFit held changes)
    (h : ∀ o, Move.Stands (Exactly role o) moves → o ∈ held) (o : Securable)
    (hstands : Move.Stands (Exactly role o) (moves ++ changes.flatMap (·.moves role))) :
    o ∈ changes.foldl RoleChange.revise held := by
  induction changes generalizing held moves with
  | nil => exact h o (by rwa [List.flatMap_nil, List.append_nil] at hstands)
  | cons change rest ih =>
      rw [List.flatMap_cons, ← List.append_assoc] at hstands
      exact ih hfit.2 (mem_revise hfit.1 h) hstands

theorem kept (h : History k c moves s) : Kept c moves := by
  induction h with
  | start => exact fun _ _ h => absurd h Move.not_stands_nil
  | @created c _ _ _ role _ unused _ _ _ ih =>
      intro role' o hstands
      by_cases hrole : role' = role.name
      · subst hrole
        rw [held_update_self]
        -- the role was not in use, so it cannot have held anything from before
        rcases Move.stands_append_puts.mp hstands with hold | ⟨o', ho', _, rfl⟩
        · have hnone : c.held role.name = [] := by rw [Catalog.held, unused, Option.getD_none]
          exact absurd (hnone ▸ ih _ o hold) List.not_mem_nil
        · exact ho'
      · refine ih.other (fun m hm => ?_) hrole o hstands
        obtain ⟨_, _, rfl⟩ := List.mem_map.mp hm
        rfl
  | @updated c _ _ _ held role _ _ used fit _ _ ih =>
      intro role' o hstands
      by_cases hrole : role' = role.name
      · subst hrole
        rw [held_update_self]
        refine mem_revise_all fit (fun o ho => ?_) o hstands
        have hin := ih _ o ho
        rwa [Catalog.held, used] at hin
      · refine ih.other (fun m hm => ?_) hrole o hstands
        obtain ⟨_, _, hm⟩ := List.mem_flatMap.mp hm
        exact role_of_moves m hm
  | @deleted c _ _ _ held role _ used objects _ _ ih =>
      intro role' o hstands
      by_cases hrole : role' = role.name
      · subst hrole
        obtain ⟨hold, hnot⟩ := Move.stands_append_takes.mp hstands
        have hin := ih _ o hold
        rw [Catalog.held, used] at hin
        exact absurd ⟨rfl, rfl⟩ (hnot o (objects.mem_iff.mpr hin))
      · refine ih.other (fun m hm => ?_) hrole o hstands
        obtain ⟨_, _, rfl⟩ := List.mem_map.mp hm
        rfl

/-! ## The two together -/

/-- The role was given the object, and no object of it that stands for the right was taken from it
since. -/
def GivenSince (k : Keeper) (moves : List Move) (r : Right) (o : Securable) : Prop :=
  ∃ before after, moves = before ++ .put r.role o :: after
    ∧ ∀ o', .take r.role o' ∈ after → r ∉ k.rightsOf r.role o'

/-- **The policies mirror the catalogue, up to what was taken.** After every event, a role has a
right if and only if one of its objects stands for it and was given to it after the last time that
it lost an object, or a version of one, that stood for the same right. -/
theorem rights_iff_held (hmode : k.mode = .role)
    (hroot : k.layout.service = .hdfs → '[' ∉ k.layout.root.toList) (h : History k c moves s)
    (r : Right) :
    r ∈ k.rights s
      ↔ ∃ o ∈ c.held r.role, r ∈ k.rightsOf r.role o ∧ GivenSince k moves r o := by
  rw [(h.rights_eq hmode hroot).2]
  refine ⟨?_, ?_⟩
  · intro h
    obtain ⟨before, role, o, after, hmoves, hin, hafter⟩ := h
    have hrole : r.role = role := hin.1
    subst hrole
    -- to take the same version again would be to take the right
    have hstands : Move.Stands (Exactly r.role o) moves := by
      refine ⟨before, r.role, o, after, hmoves, ⟨rfl, rfl⟩, ?_⟩
      rintro role' o' hmem ⟨rfl, rfl⟩
      exact hafter _ _ hmem hin
    exact ⟨o, h.kept _ o hstands, hin, before, after, hmoves, fun o' => hafter r.role o'⟩
  · intro h
    obtain ⟨o, _, hin, before, after, hmoves, hafter⟩ := h
    refine ⟨before, r.role, o, after, hmoves, hin, fun role' o' hmem hin' => ?_⟩
    have hrole : r.role = role' := hin'.1
    subst hrole
    exact hafter o' hmem hin'

/-- The schema `db` of two catalogues is at one location. -/
def twofold : Role :=
  { name := "reader"
    securables := [Keeper.schemaDb "cat" [.useSchema], Keeper.schemaDb "lake" [.useSchema]] }

theorem twofold_created :
    History Keeper.ofTables (Function.update (fun _ => none) "reader" (some twofold.securables))
      ([] ++ twofold.securables.map (.put "reader"))
      ((Keeper.ofTables.handle (.roleCreated twofold)).run Store.perform {}).2 :=
  .created twofold .start rfl (by decide +kernel) (by decide +kernel)
    (Plan.run_eq_ok (by decide +kernel))

/-- A role that holds two objects at one location has the rights that were given last. -/
theorem rights_iff_held_twofold :
    ∃ c moves s, History Keeper.ofTables c moves s ∧ c.held "reader" = twofold.securables
      ∧ ∀ r, r ∈ Keeper.ofTables.rights s
        ↔ ∃ o ∈ c.held r.role, r ∈ Keeper.ofTables.rightsOf r.role o
            ∧ GivenSince Keeper.ofTables moves r o :=
  ⟨_, _, _, twofold_created, by rw [held_update_self]; rfl,
    fun r => rights_iff_held rfl (fun h => absurd h (by decide)) twofold_created r⟩

/-! ## Where the catalogue says more -/

/-- A keeper of directories below a root that has a set in it. -/
def ofBrackets : Keeper := { service := "hdfs", layout := ⟨.hdfs, "/[a]"⟩, mode := .role }

/-- The role of one of the two schemas. -/
def single : Role := { name := "reader", securables := [Keeper.schemaDb "cat" [.useSchema]] }

theorem single_created :
    History ofBrackets (Function.update (fun _ => none) "reader" (some single.securables))
      ([] ++ single.securables.map (.put "reader"))
      ((ofBrackets.handle (.roleCreated single)).run Store.perform {}).2 :=
  .created single .start rfl (by decide +kernel) (by decide +kernel)
    (Plan.run_eq_ok (by decide +kernel))

/-- The change that takes one of the two away. -/
def loseOne : RoleChange := .remove (Keeper.schemaDb "cat" [.useSchema])

/-- **The catalogue and the policies can part.** A role that held two objects at one location and
has lost one of them still holds the other, but is listed nowhere. And below a root with a set in
it nothing is found again, so a role that is gone is still listed. -/
theorem not_rights_iff_held :
    (∃ c moves s, History Keeper.ofTables c moves s
      ∧ ∃ r, ∃ o ∈ c.held r.role, r ∈ Keeper.ofTables.rightsOf r.role o
        ∧ r ∉ Keeper.ofTables.rights s)
      ∧ ∃ c moves s, History ofBrackets c moves s
        ∧ ∃ r ∈ ofBrackets.rights s, c.held r.role = [] := by
  refine ⟨?_, ?_⟩
  · have hused := Function.update_self "reader" (some twofold.securables) fun _ => none
    have hafter := twofold_created.updated twofold [loseOne] hused
      ⟨List.mem_cons_self, trivial⟩ (by decide +kernel) (Plan.run_eq_ok (by decide +kernel))
    refine ⟨_, _, _, hafter,
      ⟨(Fields.ofPairs [("database", "db")]).get?, .allow, "select", "reader"⟩,
      Keeper.schemaDb "lake" [.useSchema], ?_, ?_, ?_⟩
    · show _ ∈ Catalog.held _ twofold.name
      rw [held_update_self]
      decide +kernel
    · exact ⟨rfl, Layout.locates_of_toOption (by decide +kernel), _, List.mem_cons_self, rfl,
        by decide +kernel⟩
    · rw [← Keeper.gives_iff]
      decide +kernel
  · have hused := Function.update_self "reader" (some single.securables) fun _ => none
    have hafter := single_created.deleted single hused (List.Perm.refl _) (by decide +kernel)
      (Plan.run_eq_ok (by decide +kernel))
    refine ⟨_, _, _, hafter,
      ⟨(Fields.ofPairs [("path", "/[a]/db")]).get?, .allow, "execute", "reader"⟩, ?_, ?_⟩
    · rw [← Keeper.gives_iff]
      decide +kernel
    · show Catalog.held _ single.name = []
      rw [held_update_self]
      rfl

end History

end PolicyKeeper
