import PolicyKeeper.Proofs.Store.Keyed
import PolicyKeeper.Proofs.Store.Members

/-!
# Calls that fail

Before a policy is created or updated, everything that stands against it is looked for, so a call
that is refused then has changed nothing. The only other calls that can fail are those about the
members of native roles. They go through the roles one after the other and see only at the role
itself whether it exists, so when they fail at one that does not, the roles before it have been
changed already.

It does not matter then in which order they were changed, and how often: members that join twice
have joined. So what such a call leaves behind is said in one step (`changeRoles_eq`), and whether
that is what was there before is a matter of who the members were (`Spared`).
-/

namespace PolicyKeeper

/-- The answer says that there was nothing to do. -/
def Call.Needless : (c : Call) → c.Answer → Prop
  | .deletePolicy _, answer => answer = Deletion.notFound
  | .deleteAccount .., answer => answer = Deletion.notFound
  | .deleteRole .., answer => answer = Deletion.notFound
  | .createAccount _, answer => answer = Creation.alreadyExists
  | .createRole .., answer => answer = Creation.alreadyExists
  | _, _ => False

namespace Store

variable {s : Store} {name : String} {names : List String} {f : NativeRole → NativeRole}

/-! ## How far a call about native roles gets -/

/-- The names up to the first that no native role has. -/
def reached (s : Store) (names : List String) : List String :=
  names.takeWhile fun name => (s.role? name).isSome

/-- The first name that no native role has. -/
def missing? (s : Store) (names : List String) : Option String :=
  names.find? fun name => !(s.role? name).isSome

/-- The store with the native roles of the given names changed, each once. -/
def changeAll (s : Store) (names : List String) (f : NativeRole → NativeRole) : Store :=
  { s with roles := s.roles.map fun r => if r.name ∈ names then f r else r }

theorem changeAll_nil : s.changeAll [] f = s := by
  have hroles : s.roles.map (fun r => if r.name ∈ ([] : List String) then f r else r) = s.roles :=
    List.map_id'' (fun r => if_neg List.not_mem_nil) s.roles
  rw [changeAll, hroles]

/-- Changing one role and then others is changing them all, as changing a role again does nothing
more. -/
theorem changeAll_changeRole (hf : ∀ r, (f r).name = r.name) (hidem : ∀ r, f (f r) = f r) :
    (s.changeRole name f).changeAll names f = s.changeAll (name :: names) f := by
  have hroles : (s.changeRole name f).roles.map (fun r => if r.name ∈ names then f r else r)
      = s.roles.map fun r => if r.name ∈ name :: names then f r else r := by
    rw [changeRole, List.map_map]
    refine List.map_congr_left fun r _ => ?_
    simp only [Function.comp_apply, name_change hf, List.mem_cons]
    by_cases hname : r.name = name
    · by_cases hin : r.name ∈ names
      · rw [if_pos hin, if_pos hname, if_pos (Or.inl hname), hidem]
      · rw [if_neg hin, if_pos hname, if_pos (Or.inl hname)]
    · simp only [hname, if_false, false_or]
  rw [changeAll, hroles]
  rfl

theorem changeAll_eq_self_iff :
    s.changeAll names f = s ↔ ∀ r ∈ s.roles, r.name ∈ names → f r = r := by
  have hroles : s.changeAll names f = s
      ↔ s.roles.map (fun r => if r.name ∈ names then f r else r) = s.roles.map id := by
    rw [List.map_id]
    refine ⟨congrArg Store.roles, fun h => ?_⟩
    rw [changeAll, h]
  rw [hroles, List.map_inj_left]
  refine forall_congr' fun r => forall_congr' fun _ => ?_
  by_cases hin : r.name ∈ names
  · rw [if_pos hin]
    exact ⟨fun h _ => h, fun h => h hin⟩
  · rw [if_neg hin]
    exact iff_of_true rfl fun h => absurd h hin

/-- No role comes or goes when one is changed. -/
theorem isSome_role?_changeRole (hf : ∀ r, (f r).name = r.name) (other : String) :
    ((s.changeRole name f).role? other).isSome = (s.role? other).isSome := by
  rw [role?_changeRole hf, Option.isSome_map]

/-- A call about native roles changes all that it reaches, and fails if there is one it does not
reach. -/
theorem changeRoles_eq (hf : ∀ r, (f r).name = r.name) (hidem : ∀ r, f (f r) = f r)
    (names : List String) (s : Store) :
    changeRoles f names s
      = ((match s.missing? names with
          | some name => .error (.noSuchRole name)
          | none => .ok ()), s.changeAll (s.reached names) f) := by
  induction names generalizing s with
  | nil => rw [reached, List.takeWhile_nil, changeAll_nil]; rfl
  | cons name names ih =>
      rw [changeRoles, missing?, reached]
      split
      · rename_i hsome
        -- the rest is judged by the roles there are, and these are the same after the change
        have hreached : (s.changeRole name f).reached names = s.reached names := by
          unfold reached
          simp only [isSome_role?_changeRole hf]
        have hmissing : (s.changeRole name f).missing? names = s.missing? names := by
          unfold missing?
          simp only [isSome_role?_changeRole hf]
        rw [ih, hreached, hmissing, changeAll_changeRole hf hidem,
          List.takeWhile_cons_of_pos (by exact hsome),
          List.find?_cons_of_neg (by simp [hsome])]
        rfl
      · rename_i hnone
        rw [List.takeWhile_cons_of_neg (by exact hnone), changeAll_nil,
          List.find?_cons_of_pos (by simp [hnone])]

/-! ## What is left of a call that failed -/

/-- What a call that fails leaves behind. -/
def halfway (s : Store) : Call → Store
  | .grantRoles _ request => s.changeAll (s.reached request.targets) (NativeRole.join request)
  | .revokeRoles _ request => s.changeAll (s.reached request.targets) (NativeRole.leave request)
  | _ => s

/-- There is nothing to do at the native roles that a call reaches: those who are to join are
members, or those who are to leave are none. -/
def Spared (s : Store) : Call → Prop
  | .grantRoles _ request => ∀ r ∈ s.roles, r.name ∈ s.reached request.targets →
      request.members ⊆ r.members
  | .revokeRoles _ request => ∀ r ∈ s.roles, r.name ∈ s.reached request.targets →
      Disjoint r.members request.members
  | _ => True

theorem halfway_eq_self_iff {c : Call} : s.halfway c = s ↔ s.Spared c := by
  cases c with
  | grantRoles service request =>
      refine changeAll_eq_self_iff.trans ?_
      simp only [NativeRole.join_eq_self_iff]
      rfl
  | revokeRoles service request =>
      refine changeAll_eq_self_iff.trans ?_
      simp only [NativeRole.leave_eq_self_iff]
      rfl
  | _ => exact iff_of_true rfl trivial

/-- A call that fails has done its work at the native roles it reached, and else nothing. -/
theorem perform_eq_halfway {c : Call} {failure : Failure}
    (hfail : (s.perform c).1 = .error failure) : (s.perform c).2 = s.halfway c := by
  cases c with
  | createPolicy | updatePolicy | deletePolicy => exact perform_refused rfl hfail
  | grantRoles service request =>
      exact congrArg Prod.snd
        (changeRoles_eq (fun r => r.name_join) (fun _ => NativeRole.join_join) request.targets s)
  | revokeRoles service request =>
      exact congrArg Prod.snd
        (changeRoles_eq (fun r => r.name_leave) (fun _ => NativeRole.leave_leave) request.targets s)
  | _ => exact absurd hfail (by simp [perform, ofAnswer])

/-- What was done where there are two things to do can be seen from the answer. -/
theorem snd_of_fst_ite {α : Type} {p : Prop} [Decidable p] {a b : α} {t : Store} (hne : a ≠ b) :
    ((if p then (a, t) else (b, s)).1 = b → (if p then (a, t) else (b, s)).2 = s)
      ∧ ((if p then (b, s) else (a, t)).1 = b → (if p then (b, s) else (a, t)).2 = s) := by
  by_cases hp : p
  · rw [if_pos hp, if_pos hp]
    exact ⟨fun h => absurd h hne, fun _ => rfl⟩
  · rw [if_neg hp, if_neg hp]
    exact ⟨fun _ => rfl, fun h => absurd h hne⟩

/-- What is gone already is not taken away, and what is there is not put there again. -/
theorem perform_needless {c : Call} {answer : c.Answer} (hanswer : (s.perform c).1 = .ok answer)
    (hneedless : c.Needless answer) : (s.perform c).2 = s := by
  have hdeleted : Deletion.deleted ≠ Deletion.notFound := by decide
  have hcreated : Creation.created ≠ Creation.alreadyExists := by decide
  cases c with
  | deletePolicy | deleteAccount | deleteRole =>
      exact (snd_of_fst_ite hdeleted).1 ((Except.ok.inj hanswer).trans hneedless)
  | createAccount | createRole =>
      exact (snd_of_fst_ite hcreated).2 ((Except.ok.inj hanswer).trans hneedless)
  | _ => exact hneedless.elim

/-- **A call that fails leaves the store as it was, unless members of a native role that it reached
were changed by then.** A call that finds nothing to do leaves it so, too. -/
theorem unchanged_iff_spared (s : Store) (c : Call) :
    (∀ failure, (s.perform c).1 = .error failure →
        (s.perform c).2 = s.halfway c ∧ ((s.perform c).2 = s ↔ s.Spared c))
      ∧ ∀ answer, (s.perform c).1 = .ok answer → c.Needless answer → (s.perform c).2 = s := by
  refine ⟨fun failure hfail => ?_, fun answer hanswer => perform_needless hanswer⟩
  have hhalfway := perform_eq_halfway hfail
  refine ⟨hhalfway, ?_⟩
  rw [hhalfway]
  exact halfway_eq_self_iff

/-- A store that knows readers, but no lenders. -/
def withReaders : Store := (({} : Store).perform (.createRole "hiveDev" { name := "reader" })).2

/-- The same, and Alice is a reader. -/
def withAlice : Store :=
  (withReaders.perform (.grantRoles "hiveDev"
    { grantor := "admin", users := ["alice"], targets := ["reader"] })).2

/-- Alice is to be a reader and a lender. -/
def toLend : RoleRequest :=
  { grantor := "admin", users := ["alice"], targets := ["reader", "lender"] }

theorem unchanged_iff_spared_withAlice :
    (withAlice.perform (.grantRoles "hiveDev" toLend)).1
        = .error { cause := .refused (.noSuchRole "lender") }
      ∧ (withAlice.perform (.grantRoles "hiveDev" toLend)).2 = withAlice
      ∧ (withAlice.perform (.createRole "hiveDev" { name := "reader" })).2 = withAlice := by
  have hfail : (withAlice.perform (.grantRoles "hiveDev" toLend)).1
      = .error { cause := .refused (.noSuchRole "lender") } := by rfl
  have hstay : ∀ r ∈ withAlice.roles, r.join toLend = r := by decide +kernel
  refine ⟨hfail, ?_, ?_⟩
  · refine ((withAlice.unchanged_iff_spared _).1 _ hfail).2.mpr fun r hr _ => ?_
    exact NativeRole.join_eq_self_iff.mp (hstay r hr)
  · exact (withAlice.unchanged_iff_spared _).2 Creation.alreadyExists (by rfl) (by rfl)

/-- There are no lenders, so nobody becomes one, but Alice is a reader from now on. -/
theorem not_unchanged_withReaders :
    (withReaders.perform (.grantRoles "hiveDev" toLend)).1
        = .error { cause := .refused (.noSuchRole "lender") }
      ∧ (withReaders.perform (.grantRoles "hiveDev" toLend)).2 ≠ withReaders := by
  refine ⟨by rfl, by decide +kernel⟩

end Store

end PolicyKeeper
