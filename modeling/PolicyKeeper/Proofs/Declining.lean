import PolicyKeeper.Proofs.Looking
import PolicyKeeper.Proofs.Replacing
import PolicyKeeper.Proofs.Store.Accounts

/-!
# Grants that are declined

Roles are granted one after the other. Before anything is done for a role, the policies of all of
its objects are looked for, and if there is none of an object, the grant is declined. So a grant
that is declined has done just what granting the roles before does (`grantEach_append`), and nothing
has been made of the role itself.

The grant is declined for an object that no policy is found of (`Keeper.Overlooked`). There need not
be a policy of it, and then that is as it should be. But its path may not match itself, and then the
object may well have one (`not_declined_boxed`).
-/

namespace PolicyKeeper.Keeper

open Plan

variable {k : Keeper} {s t u : Store} {role : Role} {roles before after : List Role}
  {os : List Securable} {o : CatalogObject} {who : Principal}

/-- The object has a place, and no policy is found there: because there is none, or because the path
does not match itself. -/
def Overlooked (k : Keeper) (s : Store) (o : CatalogObject) : Prop :=
  ∃ path, k.layout.path o = .ok path
    ∧ (k.Vacant s path.get? ∨ ∃ l ∈ path.entries, Text.Glob.matchesValue l.2 l.2 = false)

/-- One of the objects is overlooked, and the policies of those before it are found. -/
def Declines (k : Keeper) (s : Store) (os : List Securable) : Prop :=
  ∃ found o rest, os = found ++ o :: rest ∧ (∀ x ∈ found, k.finds s x.object = true)
    ∧ k.Overlooked s o.object

theorem finds_iff : k.finds s o = true ↔ ∃ p, k.lookup s o = .ok (some p) := by
  unfold finds
  split
  · rename_i p h
    exact ⟨fun _ => ⟨p, h⟩, fun _ => rfl⟩
  · rename_i h
    refine ⟨fun hfalse => absurd hfalse (by simp), ?_⟩
    rintro ⟨p, hp⟩
    exact absurd hp (h p)

theorem overlooked_iff : k.Overlooked s o ↔ k.lookup s o = .ok none := lookup_eq_none_iff.symm

theorem not_declines_nil : ¬ k.Declines s [] := by
  rintro ⟨found, o, rest, hsplit, _⟩
  exact absurd hsplit (by simp)

theorem declines_cons {x : Securable} : k.Declines s (x :: os)
    ↔ k.Overlooked s x.object ∨ (k.finds s x.object = true ∧ k.Declines s os) := by
  refine ⟨?_, ?_⟩
  · rintro ⟨found, o, rest, hsplit, hfound, hover⟩
    cases found with
    | nil =>
        obtain ⟨rfl, rfl⟩ := List.cons.inj hsplit
        exact Or.inl hover
    | cons y found =>
        obtain ⟨rfl, rfl⟩ := List.cons.inj hsplit
        obtain ⟨hfirst, hfound⟩ := List.forall_mem_cons.mp hfound
        exact Or.inr ⟨hfirst, found, o, rest, rfl, hfound, hover⟩
  · rintro (hover | ⟨hfirst, found, o, rest, rfl, hfound, hover⟩)
    · exact ⟨[], x, os, rfl, fun y hy => absurd hy List.not_mem_nil, hover⟩
    · exact ⟨x :: found, o, rest, rfl, List.forall_mem_cons.mpr ⟨hfirst, hfound⟩, hover⟩

/-! ## One role -/

/-- There is nothing to read exactly if an object is overlooked. -/
theorem run_policiesOf_none_iff (role : Role) :
    ((k.policiesOf role os).run Store.perform s).1 = .ok none ↔ k.Declines s os := by
  induction os with
  | nil => exact ⟨fun h => absurd h (by simp [policiesOf]), fun h => absurd h not_declines_nil⟩
  | cons x os ih =>
      rw [declines_cons, overlooked_iff, finds_iff, ← ih, policiesOf, run_bind, run_during,
        run_lookup]
      cases k.lookup s x.object with
      | error e => simp [Failure.within]
      | ok found =>
          cases found with
          | none => exact ⟨fun _ => Or.inl rfl, fun _ => rfl⟩
          | some p =>
              show ((k.policiesOf role os >>= fun more =>
                (pure (more.map ((x, p) :: ·)) : Plan (Option (List (Securable × Policy))))).run
                  Store.perform s).1 = _ ↔ _
              rw [run_bind]
              rcases (k.policiesOf role os).run Store.perform s with ⟨e | _ | ps, t⟩ <;> simp

/-- Once all policies of a role are read, it is granted, or that fails. -/
theorem not_declined_of_read {read : List (Securable × Policy)}
    (h : (k.policiesOf role role.securables).run Store.perform s = (.ok (some read), s)) :
    (k.grantRole who role).run Store.perform s ≠ (.ok false, t) := by
  intro hrun
  unfold grantRole at hrun
  rw [run_bind, h] at hrun
  dsimp only at hrun
  cases hmode : k.mode with
  | role =>
      rw [hmode] at hrun
      obtain ⟨_, _, _, hrest⟩ := run_bind_ok hrun
      obtain ⟨_, _, _, hend⟩ := run_bind_ok hrest
      exact absurd (congrArg Prod.fst hend) (by simp)
  | ownerPlaceholder =>
      rw [hmode] at hrun
      obtain ⟨_, _, _, hend⟩ := run_bind_ok hrun
      exact absurd (congrArg Prod.fst hend) (by simp)

/-- **A role is declined before anything is done for it**, and exactly if an object is
overlooked. -/
theorem run_grantRole_false_iff : (k.grantRole who role).run Store.perform s = (.ok false, t)
    ↔ k.Declines s role.securables ∧ t = s := by
  obtain ⟨r, hrun, _⟩ := run_policiesOf_finds (k := k) (s := s) role role.securables
  rw [← run_policiesOf_none_iff role, hrun]
  rcases r with e | _ | read
  · unfold grantRole
    rw [run_bind, hrun]
    exact ⟨fun h => absurd (congrArg Prod.fst h) (by simp), fun h => absurd h.1 (by simp)⟩
  · unfold grantRole
    rw [run_bind, hrun]
    refine ⟨fun h => ⟨rfl, ?_⟩, ?_⟩
    · cases h
      rfl
    · rintro ⟨_, rfl⟩
      rfl
  · exact ⟨fun h => absurd h (not_declined_of_read hrun), fun h => absurd h.1 (by simp)⟩

/-- A role that is granted has had the policies of all its objects found. -/
theorem finds_of_grantRole (h : (k.grantRole who role).run Store.perform s = (.ok true, t)) :
    ∀ x ∈ role.securables, k.finds s x.object = true := by
  obtain ⟨r, hrun, hread⟩ := run_policiesOf_finds (k := k) (s := s) role role.securables
  unfold grantRole at h
  rw [run_bind, hrun] at h
  rcases r with e | _ | read
  · exact absurd (congrArg Prod.fst h) (by simp)
  · exact absurd (congrArg Prod.fst h) (by simp)
  · exact List.all_eq_true.mp (hread.mp ⟨read, rfl⟩)

/-! ## One role after the other -/

/-- **Granting some roles and then others.** The others are not begun unless all of the first were
granted. -/
theorem run_grantEach_append (who : Principal) (before after : List Role) (s : Store) :
    (k.grantEach who (before ++ after)).run Store.perform s
      = match (k.grantEach who before).run Store.perform s with
        | (.ok true, t) => (k.grantEach who after).run Store.perform t
        | (r, t) => (r, t) := by
  induction before generalizing s with
  | nil => rfl
  | cons role before ih =>
      rw [List.cons_append, grantEach, grantEach, run_bind, run_bind]
      rcases (k.grantRole who role).run Store.perform s with ⟨e | _ | _, s₁⟩
      · rfl
      · rfl
      · exact ih s₁

/-- **The first role that is declined ends it.** -/
theorem run_grantEach_false_iff : (k.grantEach who roles).run Store.perform s = (.ok false, t)
    ↔ ∃ before role after, roles = before ++ role :: after
      ∧ (k.grantEach who before).run Store.perform s = (.ok true, t)
      ∧ k.Declines t role.securables := by
  refine ⟨fun h => ?_, ?_⟩
  · -- the first role is declined, and then there is none before it, or it is granted
    induction roles generalizing s with
    | nil => exact absurd (congrArg Prod.fst h) (by simp [grantEach])
    | cons role roles ih =>
        rw [grantEach] at h
        obtain ⟨granted, s₁, hgrant, hrest⟩ := run_bind_ok h
        cases granted with
        | false =>
            cases hrest
            obtain ⟨hdeclines, rfl⟩ := run_grantRole_false_iff.mp hgrant
            exact ⟨[], role, roles, rfl, rfl, hdeclines⟩
        | true =>
            obtain ⟨before, role', after, rfl, hbefore, hdeclines⟩ := ih hrest
            refine ⟨role :: before, role', after, rfl, ?_, hdeclines⟩
            rw [grantEach, run_bind, hgrant]
            exact hbefore
  · rintro ⟨before, role, after, rfl, hbefore, hdeclines⟩
    have hdeclined : (k.grantRole who role).run Store.perform t = (.ok false, t) :=
      run_grantRole_false_iff.mpr ⟨hdeclines, rfl⟩
    rw [run_grantEach_append, hbefore]
    dsimp only
    rw [grantEach, run_bind, hdeclined]
    rfl

/-- Where all roles are granted, each of them is, after those before it. -/
theorem run_grantEach_true_split
    (h : (k.grantEach who (before ++ role :: after)).run Store.perform s = (.ok true, t)) :
    ∃ u v, (k.grantEach who before).run Store.perform s = (.ok true, u)
      ∧ (k.grantRole who role).run Store.perform u = (.ok true, v) := by
  rw [run_grantEach_append] at h
  rcases hbefore : (k.grantEach who before).run Store.perform s with ⟨e | _ | _, u⟩
  · rw [hbefore] at h
    exact absurd (congrArg Prod.fst h) (by simp)
  · rw [hbefore] at h
    exact absurd (congrArg Prod.fst h) (by simp)
  · rw [hbefore] at h
    dsimp only at h
    rw [grantEach] at h
    obtain ⟨granted, v, hgrant, hrest⟩ := run_bind_ok h
    cases granted with
    | false => exact absurd (congrArg Prod.fst hrest) (by simp)
    | true => exact ⟨u, v, rfl, hgrant⟩

/-! ## Calls -/

/-- The calls for granting roles: searches, writes of policies, and in role mode those about the
native roles. -/
def MayGrant (k : Keeper) (who : Principal) (c : Call) : Prop :=
  c.kind = .findPolicies ∨ Store.writesPolicies c = true
    ∨ (k.mode = .role ∧ ∃ name, c = .createRole k.service (nativeRole name)
      ∨ c = .grantRoles k.service (k.roleRequest name who))

/-- The plan makes no other calls. -/
def Granting {α : Type} (k : Keeper) (who : Principal) (p : Plan α) : Prop :=
  p.Abides (k.MayGrant who) (fun _ _ => True) fun _ => True

theorem granting_policiesOf (role : Role) (os : List Securable) :
    k.Granting who (k.policiesOf role os) := by
  induction os with
  | nil => exact abides_pure trivial
  | cons o os ih =>
      have hfind : k.Granting who (k.findPolicy o.object) :=
        (searches_findPolicy o.object).imp fun _ => Or.inl
      refine Abides.bind (hfind.during _) fun found _ => ?_
      cases found with
      | none => exact abides_pure trivial
      | some p => exact Abides.bind ih fun _ _ => abides_pure trivial

theorem granting_persistChange (p p' : Policy) : k.Granting who (persistChange p p') := by
  have hwrite : ∀ {c : Call}, Store.writesPolicies c = true → k.MayGrant who c :=
    fun hc => Or.inr (Or.inl hc)
  unfold persistChange persist
  split
  · exact abides_pure trivial
  · split
    · exact abides_last (hwrite rfl) _
    · exact abides_pure trivial
    · exact abides_last (hwrite rfl) _
    · exact abides_last (hwrite rfl) _

theorem granting_grantRole (who : Principal) (role : Role) :
    k.Granting who (k.grantRole who role) := by
  refine Abides.bind (granting_policiesOf role role.securables) fun read _ => ?_
  cases read with
  | none => exact abides_pure trivial
  | some ps =>
      dsimp only
      cases hmode : k.mode with
      | role =>
          have hcreate : k.MayGrant who (.createRole k.service (nativeRole role.name)) :=
            Or.inr (Or.inr ⟨hmode, role.name, Or.inl rfl⟩)
          have hgrant : k.MayGrant who (.grantRoles k.service (k.roleRequest role.name who)) :=
            Or.inr (Or.inr ⟨hmode, role.name, Or.inr rfl⟩)
          refine Abides.bind (abides_last hcreate _) fun _ _ => ?_
          exact Abides.bind (Abides.during (abides_only hgrant) _) fun _ _ => abides_pure trivial
      | ownerPlaceholder =>
          refine Abides.bind (abides_forM fun x _ => ?_) fun _ _ => abides_pure trivial
          exact granting_persistChange x.2 _

theorem granting_grantEach (who : Principal) (roles : List Role) :
    k.Granting who (k.grantEach who roles) := by
  induction roles with
  | nil => exact abides_pure trivial
  | cons role roles ih =>
      refine Abides.bind (granting_grantRole who role) fun granted _ => ?_
      cases granted with
      | true => exact ih
      | false => exact abides_pure trivial

/-! ## Accounts -/

theorem changesAccounts_mayGrant {c : Call} (hc : k.MayGrant who c) :
    Store.changesAccounts c = false := by
  rcases hc with hsearch | hwrites | ⟨_, name, rfl | rfl⟩
  · exact Store.changesAccounts_of_search hsearch
  · exact Store.changesAccounts_of_writes hwrites
  · rfl
  · rfl

/-- Granting roles makes no call about accounts, so it leaves them alone. -/
theorem accounts_grantEach (who : Principal) (roles : List Role) (s : Store) :
    ((k.grantEach who roles).run Store.perform s).2.accounts = s.accounts :=
  Abides.run_eq Store.accounts
    (fun _ t hc => Store.accounts_perform (changesAccounts_mayGrant hc) t)
    (granting_grantEach who roles) s

/-! ## The whole event -/

/-- Where a path matches itself, what is overlooked is not there. -/
theorem Overlooked.not_hasPolicy (h : k.Overlooked s o) (hl : k.layout.Legible o) :
    ¬ k.HasPolicy s o := by
  obtain ⟨path, hpath, hor⟩ := h
  rintro ⟨loc, hloc, hnot⟩
  obtain rfl := hloc.unique ⟨path, hpath, rfl⟩
  rcases hor with hvacant | ⟨l, hl', hfalse⟩
  · exact hnot hvacant
  · rw [Text.Glob.matchesValue_self (Layout.path_legible hl hpath l hl')] at hfalse
    exact absurd hfalse (by simp)

/-- **Grants that are declined, and those that are not.** In either mode, on every store, for all
roles and every principal:

* the grant is declined exactly if some roles would have been granted, and the one after them has an
  object that is overlooked by then; and the store is left as granting those roles alone leaves it;
* if roles are granted, the principal has an account, and every object of each role had a managed
  policy when the roles before it were granted;
* if no set begins in the names of a role's objects, one of them has no managed policy when the role
  is declined. -/
theorem declined_exactly (k : Keeper) (who : Principal) (s : Store) :
    let granting (roles : List Role) := (k.handle (.rolesGranted roles who)).run Store.perform s
    (∀ roles t, granting roles = (.ok false, t) ↔ ∃ before role after,
        roles = before ++ role :: after ∧ granting before = (.ok true, t)
          ∧ k.Declines t role.securables)
      ∧ (∀ roles t, granting roles = (.ok true, t) →
        (∃ account ∈ t.accounts, account.principal = who)
          ∧ ∀ before role after, roles = before ++ role :: after →
            ∃ u, granting before = (.ok true, u) ∧ ∀ o ∈ role.securables, k.HasPolicy u o.object)
      ∧ ∀ t (role : Role), k.Declines t role.securables →
        (∀ o ∈ role.securables, k.layout.Legible o.object) →
        ∃ o ∈ role.securables, ¬ k.HasPolicy t o.object := by
  refine ⟨fun roles t => run_grantEach_false_iff, fun roles t hgranted => ⟨?_, ?_⟩, ?_⟩
  · have hgranted : (k.grantEach who roles).run Store.perform (s.createAccount who).2
        = (.ok true, t) := hgranted
    have hsame := accounts_grantEach (k := k) who roles (s.createAccount who).2
    rw [hgranted] at hsame
    rw [hsame]
    exact Store.exists_account who s
  · rintro before role after rfl
    obtain ⟨u, v, hbefore, hrole⟩ := run_grantEach_true_split hgranted
    exact ⟨u, hbefore, fun o ho => hasPolicy_of_finds (finds_of_grantRole hrole o ho)⟩
  · rintro t role ⟨found, o, rest, hsplit, _, hover⟩ hl
    have ho : o ∈ role.securables := by
      rw [hsplit]
      exact List.mem_append_right _ List.mem_cons_self
    exact ⟨o, ho, hover.not_hasPolicy (hl o ho)⟩

/-- A role on a schema that no policy was made for. -/
def hermit : Role :=
  { name := "hermit", securables := [⟨⟨"cat.attic", .schema⟩, [⟨.useSchema, .allow⟩]⟩] }

/-- A user is to hold two roles, and there is no policy for the second. -/
def withoutHermit : Store :=
  ((ofOwners.handle (.rolesGranted [browser, hermit] ⟨.user, "bob"⟩)).run
    Store.perform withBrowser).2

theorem declined_exactly_hermit :
    (ofOwners.handle (.rolesGranted [browser, hermit] ⟨.user, "bob"⟩)).run Store.perform withBrowser
        = (.ok false, withoutHermit)
      ∧ (∃ account ∈ withoutHermit.accounts, account.principal = ⟨.user, "bob"⟩)
      ∧ ∃ role ∈ [browser, hermit], ∃ o ∈ role.securables,
        ¬ ofOwners.HasPolicy withoutHermit o.object := by
  have hrun : (ofOwners.handle (.rolesGranted [browser, hermit] ⟨.user, "bob"⟩)).run
      Store.perform withBrowser = (.ok false, withoutHermit) :=
    Plan.run_eq_ok (by decide +kernel)
  have hlegible : ∀ role ∈ [browser, hermit], ∀ o ∈ role.securables,
      ofOwners.layout.Legible o.object := by decide +kernel
  obtain ⟨hdeclined, hgranted, hmissing⟩ :=
    ofOwners.declined_exactly ⟨.user, "bob"⟩ withBrowser
  obtain ⟨before, role, after, hsplit, hbefore, hdeclines⟩ := (hdeclined _ _).mp hrun
  have hrole : role ∈ [browser, hermit] := by
    rw [hsplit]
    exact List.mem_append_right _ List.mem_cons_self
  exact ⟨hrun, (hgranted _ _ hbefore).1, role, hrole,
    hmissing _ role hdeclines (hlegible role hrole)⟩

/-- A role on a schema whose name stands for another name. -/
def boxed : Role := { name := "boxed", securables := [bracketed] }

def withBoxed : Store := ((ofTables.handle (.roleCreated boxed)).run Store.perform {}).2

/-- The role was created, and so its schema has a managed policy. It is declined all the same. -/
theorem not_declined_boxed :
    (ofTables.handle (.roleCreated boxed)).run Store.perform {} = (.ok true, withBoxed)
      ∧ ((ofTables.handle (.rolesGranted [boxed] ⟨.user, "alice"⟩)).run
        Store.perform withBoxed).1.toOption = some false
      ∧ ¬ ∃ role ∈ [boxed], ∃ o ∈ role.securables, ¬ ofTables.HasPolicy withBoxed o.object := by
  refine ⟨Plan.run_eq_ok (by decide +kernel), by decide +kernel, ?_⟩
  rintro ⟨role, hrole, o, ho, hnot⟩
  obtain rfl := List.mem_singleton.mp hrole
  obtain rfl := List.mem_singleton.mp ho
  have hpath : ofTables.layout.path bracketed.object = .ok (Fields.ofPairs [("database", "[a]")]) :=
    by decide +kernel
  have hmade : ofTables.managedAt withBoxed (Fields.ofPairs [("database", "[a]")]) ≠ [] := by
    decide +kernel
  exact hnot ⟨_, ⟨_, hpath, rfl⟩, fun hvacant => hmade (managedAt_eq_nil_iff.mpr hvacant)⟩

end PolicyKeeper.Keeper
