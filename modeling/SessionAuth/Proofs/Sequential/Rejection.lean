import SessionAuth.Proofs.Sequential.Truth

/-!
# A rejected request changes nothing

A request may fail because a collaborator does, and then it may have been under way. Any other
error turns the caller away before anything has been changed. The one exception is a deletion of an
account that is not there: its slots have been cleared by then, but they were empty.

* `Infrastructure`: the errors that no caller is to blame for.
* `vainDeletion`: the calls of the exception; `unchanged_of_undeleted` is about it.
* `unchanged_of_rejected`: the accounts and the slots after a request that has been turned away.
-/

namespace SessionAuth

namespace Service

/-- The failure of a collaborator, which no caller is to blame for. -/
def Infrastructure (e : ServiceError) : Prop := e.isInfrastructure = true

/-- Accounts and slots are as they were. -/
structure Unchanged (s s' : System) : Prop where
  users : s'.users = s.users
  slots : ∀ slot, System.Kept s s' slot

variable {s₀ s s' : System}

/-! ## A deletion in vain -/

/-- The calls of a deletion that clears both slots and fails then. -/
def vainDeletion (id : UserId) (now : Instant) (e : DomainError) : List Exchange :=
  Request.clearing id ++ [⟨.readClock, now⟩, ⟨.softDelete id now, .error e⟩]

section VainDeletion

variable {id : UserId} {now : Instant} {e : DomainError}

/-- The account has been looked for and not found. -/
theorem missing_of_vainDeletion (h : s.Through Infrastructure (vainDeletion id now e) s')
    (he : ¬ Infrastructure (.domain e)) :
    s.users.findById id = none ∧ s'.users = s.users := by
  have hsplit : vainDeletion id now e =
      (Request.clearing id ++ [⟨.readClock, now⟩]) ++ [⟨.softDelete id now, .error e⟩] := by
    rw [vainDeletion, List.append_assoc, List.singleton_append]
  rw [hsplit] at h
  obtain ⟨s₁, hclear, hlast⟩ := h.split
  obtain ⟨s₂, s₃, hwait, hdelete, hend⟩ := hlast.head
  have hserve : s₂.serve (.softDelete id now) = some (.error e, s₃) := by
    rcases hdelete with hserve | ⟨-, e', he', hfaulty⟩
    · exact hserve
    · obtain rfl := Option.some.inj he'
      exact absurd hfaulty he
  have husers : s₂.users = s.users := by
    rw [hwait.of_nil.1]
    apply hclear.users
    simp [Request.clearing, Call.Rewrites]
  rcases System.serve_softDelete hserve with ⟨-, hgone, hsame⟩ | ⟨_, _, hdone, -⟩
  · rw [hend.of_nil.1, hsame, husers]
    exact ⟨husers ▸ hgone, rfl⟩
  · exact absurd hdone (by simp)

theorem kept_of_vainDeletion {faulty : ServiceError → Prop}
    (h : s.Through faulty (vainDeletion id now e) s') {slot : Slot} (hslot : slot.user ≠ id) :
    System.Kept s s' slot := by
  apply h.kept
  intro x hx hcall
  have hcases : x.call.slot? = none ∨ ∃ kind, x.call.slot? = some ⟨id, kind⟩ := by
    simp only [vainDeletion, Request.clearing, List.mem_append, List.mem_cons, List.not_mem_nil,
      or_false] at hx
    rcases hx with (rfl | rfl) | rfl | rfl
    · exact Or.inr ⟨.access, rfl⟩
    · exact Or.inr ⟨.refresh, rfl⟩
    · exact Or.inl rfl
    · exact Or.inl rfl
  rcases hcases with hnone | ⟨kind, hsome⟩
  · exact absurd (hnone.symm.trans hcall) (by simp)
  · exact hslot (congrArg Slot.user (Option.some.inj (hcall.symm.trans hsome)))

theorem clearing_of_vainDeletion {slot : Slot} (hslot : slot.user = id) :
    (⟨.deleteSession slot, .ok ()⟩ : Exchange) ∈ vainDeletion id now e := by
  obtain ⟨user, kind⟩ := slot
  obtain rfl : user = id := hslot
  cases kind <;> simp [vainDeletion, Request.clearing]

/-- **A deletion of an account that is not there changes nothing**, though it clears the slots
first: no token was on record for such an account. -/
theorem unchanged_of_undeleted {caller : Caller} {rest : Flow (Except ServiceError Unit)}
    (hs : Truthful s)
    (hreaches : (ExceptT.run (softDelete caller)).Reaches (vainDeletion caller.id now e) rest)
    (hthrough : s.Through Infrastructure (vainDeletion caller.id now e) s')
    (he : ¬ Infrastructure (.domain e)) : Unchanged s s' := by
  have hupright := hs.through (r := .softDelete caller) hreaches hthrough
  obtain ⟨hgone, husers⟩ := missing_of_vainDeletion hthrough he
  refine ⟨husers, fun slot => ?_⟩
  by_cases hslot : slot.user = caller.id
  · -- The slot was empty before it was cleared.
    have hbefore : s.sessions.holds? slot = none := by
      refine Option.eq_none_iff_forall_ne_some.mpr fun token hholds => ?_
      obtain ⟨user, hfound, -⟩ := hs.held slot token hholds
      rw [hslot, hgone] at hfound
      exact absurd hfound (by simp)
    have hafter : s'.sessions.holds? slot = none :=
      (hupright.cleared slot (clearing_of_vainDeletion hslot)).2
    intro t _
    rw [SessionStore.live?_eq_none_of_holds? hafter, SessionStore.live?_eq_none_of_holds? hbefore]
  · exact kept_of_vainDeletion hthrough hslot

end VainDeletion

/-! ## Requests that are turned away -/

/-- **A request that is turned away changes nothing.** Requests have been answered one after
another, and collaborators have failed: whatever is asked for then, if it ends with an error that is
not the failure of a collaborator, all accounts are as they were, and every slot holds what it would
hold without the request. -/
theorem unchanged_of_rejected (hunused : Unused s₀) (h : Course Infrastructure s₀ s)
    {r : Request} {e : ServiceError} (hyields : r.operation.Yields Infrastructure s (.error e) s')
    (he : e.isInfrastructure = false) :
    s'.users = s.users ∧ ∀ slot, System.Kept s s' slot := by
  have hfault : ¬ Infrastructure e := by
    intro hinfrastructure
    rw [Infrastructure, he] at hinfrastructure
    exact absurd hinfrastructure (by decide)
  obtain ⟨log, hreaches, hthrough⟩ := hyields
  have hbreaks : r.Breaks log e := r.ends_operation.flow.of_done hreaches hthrough e rfl
  cases hbreaks with
  | failed hfailed => exact absurd hfailed hfault
  | unsigned user kind extra hmem =>
    -- Tokens are signed unless the provider fails.
    obtain ⟨s₁, s₂, hserve | ⟨-, e', he', hfaulty⟩⟩ := hthrough.replies_of_mem hmem
    · obtain ⟨htoken, -⟩ := Prod.mk.inj (Option.some.inj hserve)
      exact absurd htoken (by simp)
    · obtain rfl := Option.some.inj he'
      exact absurd hfaulty hfault
  | harmless hharmless => exact hthrough.harmless hharmless
  | undeleted hr hlog =>
    subst hr hlog
    have hs := truthful_of_course hunused h
    obtain ⟨husers, hslots⟩ := unchanged_of_undeleted hs hreaches hthrough hfault
    exact ⟨husers, hslots⟩

/-! ## An account that is deleted twice -/

open Operation in
/-- Deleting an account that is not there ends with the error that says so. -/
theorem settle_softDelete_of_missing {caller : Caller}
    (h : s.users.findById caller.id = none) :
    (softDelete caller).settle s =
      some (.error (.domain UserTable.missing), s.revoked caller.id) := by
  have hclock : (s.revoked caller.id).serve .readClock =
      some (s.serviceTime, s.revoked caller.id) := rfl
  have hmissing : s.users.softDelete caller.id s.serviceTime = .error UserTable.missing := by
    rw [UserTable.softDelete, UserTable.update, h]
  have hserve : (s.revoked caller.id).serve (.softDelete caller.id s.serviceTime) =
      some (.error UserTable.missing, s.revoked caller.id) := by
    have husers : (s.revoked caller.id).users = s.users := rfl
    rw [System.serve, husers, hmissing]
    rfl
  rw [softDelete, settle_bind_ok (settle_revokeAll s caller.id), settle_bind_ok (settle_ask hclock),
    settle_bind_ok (settle_ask hserve), settle_ofDomain]
  rfl

theorem unchanged_of_secondDeletion : ∃ caller s₁ s₂, Unused Sample.system ∧
    Course Infrastructure Sample.system s₁ ∧
    (softDelete caller).Yields Infrastructure s₁ (.error (.domain UserTable.missing)) s₂ ∧
    (ServiceError.domain UserTable.missing).isInfrastructure = false ∧
    s₂.users = s₁.users ∧ ∀ slot, System.Kept s₁ s₂ slot := by
  let owner : Caller := ⟨Sample.alice.id, []⟩
  have hhealthy := Plan.fails_none Infrastructure
  obtain ⟨calls, hlogin⟩ := Operation.exists_run_of_settle Sample.settle_login
  have hloggedIn : Course Infrastructure Sample.system Sample.loggedIn :=
    Course.start.yields (r := .login "alice" "secret123") (Operation.yields_of_run hhealthy hlogin)
  -- After the first deletion the account is not found any more.
  obtain ⟨result, s₁, hsettle, -, hcases⟩ := settle_softDelete Sample.loggedIn owner
  have hgone : s₁.users.findById owner.id = none := by
    rcases hcases with ⟨-, hgone⟩ | ⟨-, -, hgone⟩
    · exact Option.eq_none_iff_forall_ne_some.mpr fun u hu =>
        hgone (UserTable.hasLive_iff.mpr ⟨u, hu⟩)
    · have hlive : Sample.loggedIn.users.HasLive owner.id :=
        UserTable.hasLive_iff.mpr ⟨Sample.alice, Sample.findById_alice⟩
      exact absurd hlive hgone
  obtain ⟨calls₁, hfirst⟩ := Operation.exists_run_of_settle hsettle
  obtain ⟨calls₂, hsecond⟩ :=
    Operation.exists_run_of_settle (@settle_softDelete_of_missing s₁ owner hgone)
  have hcourse : Course Infrastructure Sample.system s₁ :=
    hloggedIn.yields (r := .softDelete owner) (Operation.yields_of_run hhealthy hfirst)
  have hyields := Operation.yields_of_run hhealthy hsecond
  exact ⟨owner, s₁, _, unused_system, hcourse, hyields, rfl,
    unchanged_of_rejected unused_system hcourse (r := .softDelete owner) hyields rfl⟩

end Service

end SessionAuth
