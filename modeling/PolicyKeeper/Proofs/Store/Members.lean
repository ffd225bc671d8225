import Mathlib.Data.List.Nodup
import Mathlib.Data.Set.BooleanAlgebra
import Mathlib.Data.Set.Insert
import Mathlib.Logic.Function.Basic
import Mathlib.Order.CompletePartialOrder
import PolicyKeeper.Store.Memory

/-!
# Who is a member

All that counts of the native roles in a store is which there are, and who is a member of each: a
map from names to sets of principals (`Store.memberships`). The calls about native roles are simple
operations on that map (`Memberships`), each at one name.

The store keeps lists, of roles and of the users and groups in them. They say no more than the map
as long as nothing is in them twice (`Store.Orderly`), and no call puts it there twice. Who joins is
put at the end, so those that were no members leave the lists just as they were
(`NativeRole.leave_join`).
-/

namespace PolicyKeeper

/-! ## Members of one role -/

/-- The names of the users, or of the groups, that are members. -/
def NativeRole.names (r : NativeRole) : PrincipalKind → List String
  | .user => r.users.map RoleMember.name
  | .group => r.groups.map RoleMember.name

/-- The principals that are members. A user and a group of one name are two. -/
def NativeRole.members (r : NativeRole) : Set Principal := {who | who.name ∈ r.names who.kind}

/-- The names of the users, or of the groups, that a request is about. -/
def RoleRequest.names (request : RoleRequest) : PrincipalKind → List String
  | .user => request.users
  | .group => request.groups

/-- The principals that a request is about. -/
def RoleRequest.members (request : RoleRequest) : Set Principal :=
  {who | who.name ∈ request.names who.kind}

section

variable {ms : List RoleMember} {names : List String} {a : String}

/-- A name that is there is not added again. -/
theorem addMembers_cons (ms : List RoleMember) (name : String) (names : List String) :
    addMembers ms (name :: names)
      = addMembers (if name ∈ ms.map RoleMember.name then ms else ms ++ [⟨name, false⟩]) names := by
  have hany : (ms.any fun m => m.name == name) = true ↔ name ∈ ms.map RoleMember.name := by
    rw [List.any_eq_true, List.mem_map]
    simp only [beq_iff_eq]
  simp only [← hany]
  rfl

theorem map_name_addMembers_cons (ms : List RoleMember) (name : String) (names : List String) :
    ∃ more, addMembers ms (name :: names) = addMembers more names
      ∧ more.map RoleMember.name = if name ∈ ms.map RoleMember.name then ms.map RoleMember.name
        else ms.map RoleMember.name ++ [name] := by
  refine ⟨_, addMembers_cons ms name names, ?_⟩
  split
  · rfl
  · exact List.map_append

theorem mem_addMembers : a ∈ (addMembers ms names).map RoleMember.name
    ↔ a ∈ ms.map RoleMember.name ∨ a ∈ names := by
  induction names generalizing ms with
  | nil => exact (or_iff_left List.not_mem_nil).symm
  | cons name names ih =>
      obtain ⟨more, hadd, hmore⟩ := map_name_addMembers_cons ms name names
      rw [hadd, ih, hmore, List.mem_cons, ← or_assoc]
      refine or_congr_left ?_
      split
      · rename_i hin
        exact (or_iff_left_of_imp fun heq => heq ▸ hin).symm
      · rw [List.mem_append, List.mem_singleton]

theorem nodup_addMembers (h : (ms.map RoleMember.name).Nodup) :
    ((addMembers ms names).map RoleMember.name).Nodup := by
  induction names generalizing ms with
  | nil => exact h
  | cons name names ih =>
      obtain ⟨more, hadd, hmore⟩ := map_name_addMembers_cons ms name names
      rw [hadd]
      refine ih ?_
      rw [hmore]
      split
      · exact h
      · rename_i hnot
        refine List.nodup_append.mpr ⟨h, List.nodup_singleton _, fun b hb c hc heq => hnot ?_⟩
        rwa [← List.mem_singleton.mp hc, ← heq]

theorem map_name_dropMembers : (dropMembers ms names).map RoleMember.name
    = (ms.map RoleMember.name).filter fun name => !names.contains name := by
  rw [List.filter_map]
  rfl

/-- What is added comes at the end. -/
theorem addMembers_eq_append (ms : List RoleMember) (names : List String) :
    ∃ added, addMembers ms names = ms ++ added ∧ ∀ m ∈ added, m.name ∈ names := by
  induction names generalizing ms with
  | nil => exact ⟨[], (List.append_nil ms).symm, fun m hm => absurd hm List.not_mem_nil⟩
  | cons name names ih =>
      rw [addMembers_cons]
      split
      · obtain ⟨added, hadded, hnames⟩ := ih ms
        exact ⟨added, hadded, fun m hm => List.mem_cons_of_mem _ (hnames m hm)⟩
      · obtain ⟨added, hadded, hnames⟩ := ih (ms ++ [⟨name, false⟩])
        refine ⟨⟨name, false⟩ :: added, ?_, ?_⟩
        · rw [hadded, List.append_assoc, List.singleton_append]
        · exact List.forall_mem_cons.mpr
            ⟨List.mem_cons_self, fun m hm => List.mem_cons_of_mem _ (hnames m hm)⟩

theorem addMembers_of_mem (h : ∀ name ∈ names, name ∈ ms.map RoleMember.name) :
    addMembers ms names = ms := by
  induction names with
  | nil => rfl
  | cons name names ih =>
      obtain ⟨hname, hnames⟩ := List.forall_mem_cons.mp h
      rw [addMembers_cons, if_pos hname, ih hnames]

theorem addMembers_addMembers : addMembers (addMembers ms names) names = addMembers ms names :=
  addMembers_of_mem fun _ h => mem_addMembers.mpr (Or.inr h)

theorem dropMembers_dropMembers :
    dropMembers (dropMembers ms names) names = dropMembers ms names := by
  unfold dropMembers
  rw [List.filter_filter]
  simp only [Bool.and_self]

theorem dropMembers_of_not_mem (h : ∀ name ∈ names, name ∉ ms.map RoleMember.name) :
    dropMembers ms names = ms := by
  refine List.filter_eq_self.mpr fun m hm => ?_
  rw [Bool.not_eq_true', ← Bool.not_eq_true, List.contains_iff_mem]
  exact fun hin => h m.name hin (List.mem_map_of_mem hm)

/-- Names that were not there are taken out again, and no others are. -/
theorem dropMembers_addMembers (h : ∀ name ∈ names, name ∉ ms.map RoleMember.name) :
    dropMembers (addMembers ms names) names = ms := by
  obtain ⟨added, hadded, hnames⟩ := addMembers_eq_append ms names
  have hgo : dropMembers added names = [] := by
    refine List.filter_eq_nil_iff.mpr fun m hm => ?_
    rw [Bool.not_eq_true', Bool.not_eq_false, List.contains_iff_mem]
    exact hnames m hm
  rw [hadded, dropMembers, List.filter_append, ← dropMembers, ← dropMembers,
    dropMembers_of_not_mem h, hgo, List.append_nil]

end

namespace NativeRole

variable {r : NativeRole} {request : RoleRequest}

theorem name_join (r : NativeRole) : (r.join request).name = r.name := rfl

theorem name_leave (r : NativeRole) : (r.leave request).name = r.name := rfl

theorem mem_names_join {kind : PrincipalKind} {a : String} :
    a ∈ (r.join request).names kind ↔ a ∈ r.names kind ∨ a ∈ request.names kind := by
  cases kind with
  | user => exact mem_addMembers
  | group => exact mem_addMembers

theorem names_leave (kind : PrincipalKind) : (r.leave request).names kind
    = (r.names kind).filter fun name => !(request.names kind).contains name := by
  cases kind with
  | user => exact map_name_dropMembers
  | group => exact map_name_dropMembers

theorem members_join : (r.join request).members = r.members ∪ request.members :=
  Set.ext fun _ => mem_names_join

theorem members_leave : (r.leave request).members = r.members \ request.members := by
  ext who
  show who.name ∈ (r.leave request).names who.kind ↔ _
  rw [names_leave, List.mem_filter, Bool.not_eq_true', ← Bool.not_eq_true, List.contains_iff_mem]
  rfl

theorem nodup_join {kind : PrincipalKind} (h : (r.names kind).Nodup) :
    ((r.join request).names kind).Nodup := by
  cases kind with
  | user => exact nodup_addMembers h
  | group => exact nodup_addMembers h

theorem nodup_leave {kind : PrincipalKind} (h : (r.names kind).Nodup) :
    ((r.leave request).names kind).Nodup := by
  rw [names_leave]
  exact h.filter _

theorem join_join : (r.join request).join request = r.join request := by
  show { r with users := addMembers (addMembers r.users request.users) request.users
                groups := addMembers (addMembers r.groups request.groups) request.groups } = _
  rw [addMembers_addMembers, addMembers_addMembers]
  rfl

theorem leave_leave : (r.leave request).leave request = r.leave request := by
  show { r with users := dropMembers (dropMembers r.users request.users) request.users
                groups := dropMembers (dropMembers r.groups request.groups) request.groups } = _
  rw [dropMembers_dropMembers, dropMembers_dropMembers]
  rfl

/-- Only who is a member already does not change the role by joining, -/
theorem join_eq_self_iff : r.join request = r ↔ request.members ⊆ r.members := by
  refine ⟨?_, ?_⟩
  · intro h
    rw [← h, members_join]
    exact Set.subset_union_right
  · intro h
    have husers : addMembers r.users request.users = r.users :=
      addMembers_of_mem fun name hname => h (a := ⟨.user, name⟩) hname
    have hgroups : addMembers r.groups request.groups = r.groups :=
      addMembers_of_mem fun name hname => h (a := ⟨.group, name⟩) hname
    rw [join, husers, hgroups]

/-- and only who is none does not by leaving. -/
theorem leave_eq_self_iff : r.leave request = r ↔ Disjoint r.members request.members := by
  refine ⟨?_, ?_⟩
  · intro h
    rw [← h, members_leave]
    exact Set.disjoint_left.mpr fun _ hin => hin.2
  · intro h
    have hnone : ∀ who ∈ request.members, who ∉ r.members :=
      fun who hwho hin => Set.disjoint_left.mp h hin hwho
    have husers : dropMembers r.users request.users = r.users :=
      dropMembers_of_not_mem fun name hname => hnone ⟨.user, name⟩ hname
    have hgroups : dropMembers r.groups request.groups = r.groups :=
      dropMembers_of_not_mem fun name hname => hnone ⟨.group, name⟩ hname
    rw [leave, husers, hgroups]

/-- Those who were no members leave the role as it was. -/
theorem leave_join (h : ∀ who ∈ request.members, who ∉ r.members) :
    (r.join request).leave request = r := by
  have husers : dropMembers (addMembers r.users request.users) request.users = r.users :=
    dropMembers_addMembers fun name hname => h ⟨.user, name⟩ hname
  have hgroups : dropMembers (addMembers r.groups request.groups) request.groups = r.groups :=
    dropMembers_addMembers fun name hname => h ⟨.group, name⟩ hname
  show { r with users := dropMembers (addMembers r.users request.users) request.users
                groups := dropMembers (addMembers r.groups request.groups) request.groups } = _
  rw [husers, hgroups]

end NativeRole

/-! ## Roles with members -/

/-- Which roles there are, and who their members are. -/
abbrev Memberships : Type := String → Option (Set Principal)

namespace Memberships

/-- There is such a role, with the members it had. -/
def enroll (name : String) (m : Memberships) : Memberships :=
  Function.update m name (some ((m name).getD ∅))

/-- There is no such role. -/
def drop (name : String) (m : Memberships) : Memberships := Function.update m name none

/-- There is such a role, and the principal is a member. -/
def join (who : Principal) (name : String) (m : Memberships) : Memberships :=
  Function.update m name (some (insert who ((m name).getD ∅)))

/-- If there is such a role, the principal is no member. -/
def leave (who : Principal) (name : String) (m : Memberships) : Memberships :=
  Function.update m name ((m name).map (· \ {who}))

end Memberships

namespace Store

variable {s t : Store} {name : String} {role : NativeRole} {f : NativeRole → NativeRole}

/-- The native roles as a map. -/
def memberships (s : Store) : Memberships := fun name => (s.role? name).map NativeRole.members

/-- No two native roles have one name, and nobody is a member of one twice. -/
structure Orderly (s : Store) : Prop where
  apart : (s.roles.map NativeRole.name).Nodup
  once : ∀ r ∈ s.roles, ∀ kind, (r.names kind).Nodup

theorem Orderly.empty : Orderly {} := ⟨List.nodup_nil, fun _ hr => absurd hr List.not_mem_nil⟩

theorem Orderly.congr (h : s.Orderly) (hsame : t.roles = s.roles) : t.Orderly :=
  ⟨hsame ▸ h.apart, hsame ▸ h.once⟩

theorem memberships_congr (hsame : t.roles = s.roles) : t.memberships = s.memberships := by
  unfold memberships role?
  rw [hsame]

/-! ## The calls -/

theorem role?_eq_none_iff : s.role? name = none ↔ name ∉ s.roles.map NativeRole.name := by
  unfold role?
  rw [List.find?_eq_none, List.mem_map]
  simp only [beq_iff_eq, not_exists, not_and]

/-- A role that was created is there, -/
theorem role?_createRole : ((s.createRole role).2.role? role.name).isSome = true := by
  unfold createRole
  split
  · assumption
  · refine List.find?_isSome.mpr ⟨{ role with id := some s.nextId }, ?_, beq_self_eq_true _⟩
    exact List.mem_append_right _ (List.mem_singleton_self _)

/-- one that is there is not created again, -/
theorem createRole_of_isSome (h : (s.role? role.name).isSome = true) :
    s.createRole role = (.alreadyExists, s) := if_pos h

/-- and no other is. -/
theorem role?_createRole_of_eq_none (h : s.role? role.name = none) :
    (s.createRole role).2.role? name
      = if name = role.name then some { role with id := some s.nextId } else s.role? name := by
  have hcreated : (s.createRole role).2.roles = s.roles ++ [{ role with id := some s.nextId }] := by
    rw [createRole, if_neg (by rw [h]; simp)]
  unfold role? at h ⊢
  rw [hcreated, List.find?_append]
  split
  · rename_i hname
    rw [hname, h, Option.none_or]
    exact List.find?_cons_of_pos (beq_self_eq_true role.name)
  · rename_i hname
    have hother : ¬ (role.name == name) = true := fun heq => hname (beq_iff_eq.mp heq).symm
    rw [List.find?_cons_of_neg (by exact hother), List.find?_nil, Option.or_none]

/-- All that were there before are there. -/
theorem role?_createRole_of_eq_some {r : NativeRole} (h : s.role? name = some r) :
    (s.createRole role).2.role? name = some r := by
  cases hrole : s.role? role.name with
  | some other => rwa [createRole_of_isSome (by rw [hrole]; rfl)]
  | none =>
      rw [role?_createRole_of_eq_none hrole, if_neg, h]
      rintro rfl
      rw [hrole] at h
      exact absurd h (by simp)

theorem role?_deleteRole : (s.deleteRole name).2.role? name = none := by
  unfold deleteRole
  split
  · refine List.find?_eq_none.mpr fun r hr => ?_
    have hne := (List.mem_filter.mp hr).2
    rw [bne_iff_ne] at hne
    simpa using hne
  · rename_i hnone
    exact Option.not_isSome_iff_eq_none.mp hnone

theorem deleteRole_of_eq_none (h : s.role? name = none) : s.deleteRole name = (.notFound, s) := by
  refine if_neg ?_
  rw [h]
  simp

theorem role?_deleteRole_of_ne {other : String} (hne : other ≠ name) :
    (s.deleteRole name).2.role? other = s.role? other := by
  unfold deleteRole
  split
  · show ((s.roles.filter fun r => r.name != name).find? fun r => r.name == other) = _
    rw [List.find?_filter]
    refine congrArg (fun look => s.roles.find? look) (funext fun r => ?_)
    by_cases hr : r.name = other
    · simp [hr, hne]
    · simp [hr]
  · rfl

/-- A role that nobody is a member of is created. -/
theorem memberships_createRole (hempty : role.members = ∅) :
    (s.createRole role).2.memberships = s.memberships.enroll role.name := by
  unfold Memberships.enroll
  cases hrole : s.role? role.name with
  | some r =>
      have hmembers : s.memberships role.name = some r.members := by rw [memberships, hrole]; rfl
      rw [createRole_of_isSome (by rw [hrole]; rfl), hmembers]
      exact (Function.update_eq_self_iff.mpr hmembers.symm).symm
  | none =>
      have hmembers : s.memberships role.name = none := by rw [memberships, hrole]; rfl
      rw [hmembers]
      funext name
      rw [memberships, role?_createRole_of_eq_none hrole]
      split
      · rename_i hname
        subst hname
        rw [Function.update_self]
        exact congrArg some hempty
      · rename_i hname
        rw [Function.update_of_ne hname]
        rfl

theorem memberships_deleteRole :
    (s.deleteRole name).2.memberships = s.memberships.drop name := by
  funext other
  unfold Memberships.drop
  by_cases hname : other = name
  · subst hname
    rw [Function.update_self, memberships, role?_deleteRole]
    rfl
  · rw [Function.update_of_ne hname, memberships, role?_deleteRole_of_ne hname]
    rfl

theorem name_change (hf : ∀ r, (f r).name = r.name) (r : NativeRole) :
    (if r.name = name then f r else r).name = r.name := by
  split
  · exact hf r
  · rfl

/-- The role of one name is changed, and no other. -/
theorem role?_changeRole (hf : ∀ r, (f r).name = r.name) {other : String} :
    (s.changeRole name f).role? other
      = (s.role? other).map fun r => if other = name then f r else r := by
  show (s.roles.map _).find? (fun r : NativeRole => r.name == other) = _
  rw [List.find?_map]
  have hlook : (fun r : NativeRole => r.name == other)
      ∘ (fun r => if r.name = name then f r else r) = fun r => r.name == other :=
    funext fun r => congrArg (· == other) (name_change hf r)
  rw [hlook]
  refine Option.map_congr fun r hr => ?_
  have hr : r.name = other := by simpa using List.find?_some hr
  rw [hr]

/-- Changing a role of a name changes what the map has there. -/
theorem memberships_changeRole (hf : ∀ r, (f r).name = r.name) :
    (s.changeRole name f).memberships
      = Function.update s.memberships name ((s.role? name).map fun r => (f r).members) := by
  funext other
  rw [memberships, role?_changeRole hf, Option.map_map]
  by_cases hname : other = name
  · subst hname
    rw [Function.update_self]
    exact Option.map_congr fun r _ => congrArg NativeRole.members (if_pos rfl)
  · rw [Function.update_of_ne hname]
    exact Option.map_congr fun r _ => congrArg NativeRole.members (if_neg hname)

/-! ## Nothing twice -/

theorem Orderly.createRole (h : s.Orderly) (hempty : ∀ kind, role.names kind = []) :
    (s.createRole role).2.Orderly := by
  unfold Store.createRole
  split
  · exact h
  · rename_i hnone
    rw [Option.not_isSome_iff_eq_none, role?_eq_none_iff] at hnone
    refine ⟨?_, fun r hr kind => ?_⟩
    · show ((s.roles ++ [_]).map NativeRole.name).Nodup
      rw [List.map_append]
      refine List.nodup_append.mpr ⟨h.apart, List.nodup_singleton _, fun a ha b hb heq => hnone ?_⟩
      rwa [show role.name = a from (List.mem_singleton.mp hb).symm.trans heq.symm]
    · rcases List.mem_append.mp hr with hr | hr
      · exact h.once r hr kind
      · rw [List.mem_singleton.mp hr]
        exact (hempty kind).symm ▸ List.nodup_nil

theorem Orderly.deleteRole (h : s.Orderly) : (s.deleteRole name).2.Orderly := by
  unfold Store.deleteRole
  split
  · exact ⟨h.apart.sublist (List.filter_sublist.map _),
      fun r hr => h.once r (List.mem_filter.mp hr).1⟩
  · exact h

theorem Orderly.changeRole (h : s.Orderly) (hf : ∀ r, (f r).name = r.name)
    (honce : ∀ r kind, (r.names kind).Nodup → ((f r).names kind).Nodup) :
    (s.changeRole name f).Orderly := by
  refine ⟨?_, fun r hr kind => ?_⟩
  · show ((s.roles.map _).map NativeRole.name).Nodup
    rw [List.map_map]
    have hsame : NativeRole.name ∘ (fun r => if r.name = name then f r else r)
        = NativeRole.name := funext (name_change hf)
    rw [hsame]
    exact h.apart
  · obtain ⟨r, hmem, rfl⟩ := List.mem_map.mp hr
    split
    · exact honce r kind (h.once r hmem kind)
    · exact h.once r hmem kind

end Store

end PolicyKeeper
