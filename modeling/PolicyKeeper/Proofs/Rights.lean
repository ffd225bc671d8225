import Mathlib.Data.Set.Basic
import PolicyKeeper.Proofs.Changes
import PolicyKeeper.Proofs.Listing

/-!
# Rights of roles

In role mode the managed policies of a service amount to a set of rights: at a location a role is
allowed, or denied, an access (`Keeper.rights`). An object of a role stands for such a set as well
(`Keeper.rightsOf`). On these sets a change of a role does what its name says: adding is union,
removing is difference, replacing is the one after the other (`Keeper.changedBy`).

This holds of every store there can be, also if someone else has put policies there. Items that
roles share, owner items for the same access, roles that are listed twice and the choice between
creating, updating and deleting do not show in the set. Where two managed policies are at one
location, or one is corrupt, the change fails, and then the store is as it was.
-/

namespace PolicyKeeper

/-- A role is allowed, or denied, an access at a location. -/
structure Right where
  location : Location
  effect : Effect
  access : String
  role : String

namespace Keeper

variable {k : Keeper} {s s' : Store}

/-- The rights that the managed policies of the keeper's service give to roles. -/
def rights (k : Keeper) (s : Store) : Set Right :=
  {r | ∃ e ∈ s.policies, k.Manages e.2 r.location ∧ Listed (e.2.items r.effect) r.access r.role}

/-- The rights that an object of a role stands for: at its location, the accesses of its privileges,
by effect. -/
def rightsOf (k : Keeper) (role : String) (o : Securable) : Set Right :=
  {r | r.role = role ∧ k.Covers o r.location r.effect r.access}

/-- Whether the policies give a role a right at a path. -/
def gives (k : Keeper) (s : Store) (path : Fields String) (effect : Effect)
    (access role : String) : Bool :=
  s.policies.any fun e => ((e.2.isManaged && e.2.isAt path) && e.2.service == k.service) &&
    (e.2.items effect).any fun i => Holder.grantsAccess access i && i.roles.contains role

theorem gives_iff {path : Fields String} {effect : Effect} {access role : String} :
    k.gives s path effect access role = true ↔ ⟨path.get?, effect, access, role⟩ ∈ k.rights s := by
  unfold gives
  rw [List.any_eq_true]
  refine exists_congr fun e => and_congr_right fun _ => ?_
  rw [Bool.and_eq_true, manages_iff, List.any_eq_true]
  refine and_congr_right fun _ => exists_congr fun i => and_congr_right fun _ => ?_
  rw [Bool.and_eq_true, Holder.grantsAccess_iff, List.contains_iff_mem]
  exact ⟨fun h => ⟨h.1.1, h.1.2, h.2⟩, fun h => ⟨⟨h.owner, h.access⟩, h.role⟩⟩

/-- What a change of a role should make of the rights. -/
def changedBy (k : Keeper) (role : String) : RoleChange → Set Right → Set Right
  | .add o, rights => rights ∪ k.rightsOf role o
  | .remove o, rights => rights \ k.rightsOf role o
  | .replace old new, rights => (rights \ k.rightsOf role old) ∪ k.rightsOf role new

/-! ## One change -/

theorem mem_rights {r : Right} :
    r ∈ k.rights s ↔ ∃ i, k.HasItem s r.location r.effect i ∧ i.Lists r.access r.role := by
  refine ⟨?_, ?_⟩
  · intro h
    obtain ⟨e, he, hm, i, hi, hl⟩ := h
    exact ⟨i, ⟨e, he, hm, hi⟩, hl⟩
  · intro h
    obtain ⟨i, ⟨e, he, hm, hi⟩, hl⟩ := h
    exact ⟨e, he, hm, i, hi, hl⟩

/-- At the location of an edit the rights are those that the edited policy lists. -/
theorem Edited.mem_rights_here {loc : Location} {p : Policy} (h : k.Edited s loc p s') {r : Right}
    (hloc : r.location = loc) :
    r ∈ k.rights s' ↔ Listed (p.items r.effect) r.access r.role := by
  rw [mem_rights, hloc, h.exists_here]
  rfl

theorem Edited.mem_rights_elsewhere {loc : Location} {p : Policy} (h : k.Edited s loc p s')
    {r : Right} (hloc : r.location ≠ loc) : r ∈ k.rights s' ↔ r ∈ k.rights s := by
  rw [mem_rights, mem_rights, h.exists_elsewhere hloc]

theorem mem_rightsOf {role : String} {o : Securable} {loc : Location}
    (hloc : k.layout.Locates o.object loc) {r : Right} :
    r ∈ k.rightsOf role o
      ↔ r.location = loc ∧ r.access ∈ k.accesses o r.effect ∧ r.role = role := by
  rw [← and_assoc, ← covers_iff hloc]
  exact and_comm

theorem items_granted {k : Keeper} (hmode : k.mode = .role) (role : Role) (o : Securable)
    (p : Policy) (effect : Effect) : (k.granted role o p).items effect
      = (Holder.role role.name).grant (k.accesses o effect) (p.items effect) := by
  unfold granted holder
  rw [hmode]
  cases effect <;> rfl

theorem items_revoked {k : Keeper} (hmode : k.mode = .role) (role : Role) (o : Securable)
    (p : Policy) (effect : Effect) : (k.revoked role o p).items effect
      = (Holder.role role.name).revoke (k.accesses o effect) (p.items effect) := by
  unfold revoked holder
  rw [hmode]
  cases effect <;> rfl

/-- **A change that is made changes the rights as it should.** -/
theorem Made.rights_eq (hmode : k.mode = .role) {role : Role} {change : RoleChange}
    (hone : change.OneObject) (h : k.Made role change s s') :
    k.rights s' = k.changedBy role.name change (k.rights s) := by
  obtain ⟨loc, p, hloc, hsite, he⟩ := h
  ext r
  -- at the location of the object the edit decides; elsewhere the object stands for nothing
  by_cases hr : r.location = loc
  · rw [he.mem_rights_here hr]
    have hbefore := hsite.edited.mem_rights_here hr
    cases change with
    | add o =>
        show _ ↔ r ∈ k.rights s ∨ r ∈ k.rightsOf role.name o
        rw [edit, items_granted hmode, Holder.listed_grant, hbefore, mem_rightsOf hloc]
        simp only [hr, true_and]
    | remove o =>
        show _ ↔ r ∈ k.rights s ∧ r ∉ k.rightsOf role.name o
        rw [edit, items_revoked hmode, Holder.listed_revoke, hbefore, mem_rightsOf hloc]
        simp only [hr, true_and]
    | replace old new =>
        have hsame : old.object = new.object := hone
        have hnew : k.layout.Locates new.object loc := hsame ▸ hloc
        show _ ↔ (r ∈ k.rights s ∧ r ∉ k.rightsOf role.name old) ∨ r ∈ k.rightsOf role.name new
        rw [edit, items_granted hmode, Holder.listed_grant, items_revoked hmode,
          Holder.listed_revoke, hbefore, mem_rightsOf hloc, mem_rightsOf hnew]
        simp only [hr, true_and]
  · rw [he.mem_rights_elsewhere hr]
    have hnot : ∀ {o : Securable}, k.layout.Locates o.object loc → r ∉ k.rightsOf role.name o :=
      fun ho hin => hr ((mem_rightsOf ho).mp hin).1
    cases change with
    | add o =>
        show _ ↔ r ∈ k.rights s ∨ r ∈ k.rightsOf role.name o
        exact (or_iff_left (hnot hloc)).symm
    | remove o =>
        show _ ↔ r ∈ k.rights s ∧ r ∉ k.rightsOf role.name o
        exact (and_iff_left (hnot hloc)).symm
    | replace old new =>
        have hsame : old.object = new.object := hone
        have hnew : k.layout.Locates new.object loc := hsame ▸ hloc
        show _ ↔ (r ∈ k.rights s ∧ r ∉ k.rightsOf role.name old) ∨ r ∈ k.rightsOf role.name new
        rw [or_iff_left (hnot hnew), and_iff_left (hnot hloc)]

/-- The rights of other roles are not for the change to touch. -/
theorem mem_changedBy_of_ne {role : String} {change : RoleChange} {rights : Set Right} {r : Right}
    (h : r.role ≠ role) : r ∈ k.changedBy role change rights ↔ r ∈ rights := by
  have hnot : ∀ o, r ∉ k.rightsOf role o := fun o hin => h hin.1
  cases change with
  | add o => exact or_iff_left (hnot o)
  | remove o => exact and_iff_left (hnot o)
  | replace old new => exact (or_iff_left (hnot new)).trans (and_iff_left (hnot old))

/-! ## Changes one after the other -/

/-- A change of a role that was tried: what there was before, how it ended, and what there was
then. -/
structure Attempt where
  role : Role
  change : RoleChange
  before : Store
  result : Except Failure Unit
  after : Store

/-- Tries changes of roles one after the other. One that fails does not keep the next from being
tried. -/
def attempts (k : Keeper) : List (Role × RoleChange) → Store → List Attempt
  | [], _ => []
  | (role, change) :: rest, s =>
    let tried := (k.applyChange role change).run Store.perform s
    ⟨role, change, s, tried.1, tried.2⟩ :: k.attempts rest tried.2

/-- The store after all of them. -/
def afterAll (k : Keeper) (changes : List (Role × RoleChange)) (s : Store) : Store :=
  changes.foldl (fun s c => ((k.applyChange c.1 c.2).run Store.perform s).2) s

/-- What an attempt should make of the rights. -/
def Attempt.outcome (k : Keeper) (a : Attempt) (rights : Set Right) : Set Right :=
  match a.result with
  | .ok () => k.changedBy a.role.name a.change rights
  | .error _ => rights

/-- An attempt refines the operation on sets, and does nothing at all if it fails. -/
theorem rights_of_attempt (hmode : k.mode = .role) (hs : s.Built) (role : Role)
    {change : RoleChange} (hp : change.Proper) (hl : k.layout.Legible change.object) :
    let tried := (k.applyChange role change).run Store.perform s
    (tried.1 = .ok () → k.rights tried.2 = k.changedBy role.name change (k.rights s))
      ∧ ∀ f, tried.1 = .error f → tried.2 = s := by
  intro tried
  rcases applyChange_made hs.keyed hp hl with ⟨f, hrun⟩ | ⟨s', hrun, hmade⟩
  · have htried : tried = (.error f, s) := hrun
    rw [htried]
    exact ⟨fun h => absurd h (by simp), fun _ _ => rfl⟩
  · have htried : tried = (.ok (), s') := hrun
    rw [htried]
    exact ⟨fun _ => hmade.rights_eq hmode hp.oneObject, fun _ h => absurd h (by simp)⟩

/-- **Changes of roles are operations on sets of rights.** From whatever store, whoever built it:
each change that is made is union, difference or the one after the other, and touches no right of
another role; each that fails leaves the store as it was. So the rights in the end come from those
in the beginning by the operations of the changes that were made. -/
theorem rights_of_attempts (hmode : k.mode = .role) (hs : s.Built)
    {changes : List (Role × RoleChange)}
    (hchanges : ∀ c ∈ changes, c.2.Proper ∧ k.layout.Legible c.2.object) :
    (∀ a ∈ k.attempts changes s,
      (a.result = .ok () → k.rights a.after = k.changedBy a.role.name a.change (k.rights a.before))
        ∧ (∀ f, a.result = .error f → a.after = a.before)
        ∧ ∀ r : Right, r.role ≠ a.role.name → (r ∈ k.rights a.after ↔ r ∈ k.rights a.before))
      ∧ k.rights (k.afterAll changes s)
        = (k.attempts changes s).foldl (fun rights a => a.outcome k rights) (k.rights s) := by
  induction changes generalizing s with
  | nil => exact ⟨fun a ha => absurd ha List.not_mem_nil, rfl⟩
  | cons c rest ih =>
      obtain ⟨role, change⟩ := c
      obtain ⟨hp, hl⟩ := hchanges _ List.mem_cons_self
      obtain ⟨hok, herr⟩ := rights_of_attempt hmode hs role hp hl
      obtain ⟨hrest, hlast⟩ := ih (hs.run (k.applyChange role change))
        fun c hc => hchanges c (List.mem_cons_of_mem _ hc)
      refine ⟨fun a ha => ?_, ?_⟩
      · -- the first attempt by the lemma above, the others from the store that it leaves
        rcases List.mem_cons.mp ha with rfl | ha
        · refine ⟨hok, herr, fun r hr => ?_⟩
          dsimp only
          cases htried : ((k.applyChange role change).run Store.perform s).1 with
          | ok u => rw [hok htried, mem_changedBy_of_ne hr]
          | error f => rw [herr f htried]
        · exact hrest a ha
      · show k.rights (k.afterAll rest ((k.applyChange role change).run Store.perform s).2) = _
        rw [hlast, attempts, List.foldl_cons, Attempt.outcome]
        dsimp only
        cases htried : ((k.applyChange role change).run Store.perform s).1 with
        | ok u => rw [hok htried]
        | error f => rw [herr f htried]

/-! ## A shared policy -/

/-- The schema `db` of a catalogue, with what a role may do with it. -/
def schemaDb (catalog : String) (privileges : List Privilege) : Securable :=
  ⟨⟨catalog ++ ".db", .schema⟩, privileges.map fun p => ⟨p, .allow⟩⟩

/-- A keeper of a SQL service in role mode. -/
def ofTables : Keeper := { service := "hive", layout := ⟨.hadoopSql, "/"⟩, mode := .role }

/-- A policy from elsewhere: another role holds the same access twice, and so does an owner. -/
def sharedPolicy : Policy :=
  { service := "hive", name := "shared", labels := [managedLabel]
    resources := Fields.ofPairs [("database", Resource.single "db")]
    allowItems :=
      [{ Item.ofAccess "select" with roles := ["auditor", "auditor"] },
        { Item.ofOwnerAccess "select" with users := ["root"], roles := ["reader"] }] }

/-- A role that gains the schema, has it replaced and loses it, and gains a table that the service
cannot place. -/
def readerChanges : List (Role × RoleChange) :=
  [RoleChange.add (schemaDb "cat" [.useSchema]),
    .replace (schemaDb "cat" [.useSchema]) (schemaDb "cat" [.createTable]),
    .add ⟨⟨"cat.db.files", .fileset⟩, []⟩,
    .remove (schemaDb "cat" [.createTable])].map
      fun c => ({ name := "reader", securables := [] }, c)

theorem sharedPolicy_built : (({} : Store).insertPolicy sharedPolicy).2.Built :=
  .insert sharedPolicy .empty

/-- Three of the changes are made and one is refused, and the rights are changed accordingly. -/
theorem rights_of_readerChanges :
    (ofTables.attempts readerChanges (({} : Store).insertPolicy sharedPolicy).2).map
        (fun a => a.result.toBool) = [true, true, false, true]
      ∧ ofTables.rights (ofTables.afterAll readerChanges (({} : Store).insertPolicy sharedPolicy).2)
        = (ofTables.attempts readerChanges (({} : Store).insertPolicy sharedPolicy).2).foldl
            (fun rights a => a.outcome ofTables rights)
            (ofTables.rights (({} : Store).insertPolicy sharedPolicy).2) :=
  ⟨by decide +kernel, (rights_of_attempts rfl sharedPolicy_built (by decide +kernel)).2⟩

end Keeper

end PolicyKeeper
