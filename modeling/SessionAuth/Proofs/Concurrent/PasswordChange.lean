import SessionAuth.Proofs.Concurrent.Revocation
import SessionAuth.Proofs.Concurrent.Supersession

/-!
# Sessions across a change of password

A change of password rewrites the account first and replaces the tokens on record afterwards. What
happens in between decides whether the sessions from before outlive the old password.

* `Call.Rewrites`: the calls that may change the user table.
* `Thread.Interrupted`: a change of password that has not replaced the token of some kind.
* `not_accepted_after_changePassword`: the sessions from before end unless the table is as it was or
  the change was interrupted.
* `not_passwordChangeFinal`: an interrupted change does leave them alive.
-/

namespace SessionAuth

/-! ## The user table -/

/-- The call may change the user table. -/
def Call.Rewrites : Call → Prop
  | .insertUser _ | .updatePassword _ _ _ | .softDelete _ _ => True
  | _ => False

theorem System.serve_users {s s' : System} {c : Call} {a : c.Answer}
    (h : s.serve c = some (a, s')) (hc : ¬ c.Rewrites) : s'.users = s.users := by
  cases c with
  | insertUser _ | updatePassword _ _ _ | softDelete _ _ => exact absurd trivial hc
  | saveSession session ttl =>
    obtain ⟨sessions, -, rfl⟩ := System.serve_save h
    rfl
  | _ =>
    obtain ⟨-, rfl⟩ := Prod.mk.inj (Option.some.inj h)
    rfl

namespace Concurrent

open Service

variable {faults : Bool} {w₀ w w' w₁ : World}

/-- **Only a request that rewrites the user table changes it.** -/
theorem exists_rewrite (h : Run faults w w') (hne : w'.system.users ≠ w.system.users) :
    ∃ j x w₁ w₂, Run faults w w₁ ∧ Exchanges faults j x w₁ w₂ ∧ Run faults w₂ w' ∧
      x.call.Rewrites := by
  induction h with
  | refl => exact absurd rfl hne
  | @tail w₁ w₂ hrun hstep ih =>
    by_cases hearlier : w₁.system.users = w.system.users
    · rw [← hearlier] at hne
      rcases step_system hstep with he | hlater | ⟨j, x, a, hexchange, hserve⟩
      · exact absurd (congrArg System.users he) hne
      · rw [hlater.onlyClocks] at hne
        exact absurd rfl hne
      · have hrewrites : x.call.Rewrites :=
          Classical.byContradiction fun hx => hne (System.serve_users hserve hx)
        exact ⟨j, x, w₁, w₂, hrun, hexchange, .refl, hrewrites⟩
    · obtain ⟨j, x, w₃, w₄, h₁, h₂, h₃, hrewrites⟩ := ih hearlier
      exact ⟨j, x, w₃, w₄, h₁, h₂, h₃.tail hstep, hrewrites⟩

/-! ## A change of password -/

/-- The request has asked for the password of a user to be replaced and has not put a token of some
kind on record for them. -/
structure Thread.Interrupted (user : UserId) (kind : TokenKind) (t : Thread) : Prop where
  updated : ∃ hash at' answer, ⟨.updatePassword user hash at', answer⟩ ∈ t.past
  unrecorded : ∀ token, ¬ Recorded ⟨user, kind, token⟩ t.past

/-- All that a change of password does to the user table is to ask for the password of its caller to
be replaced. -/
theorem updated_of_rewrites {t : Thread} (h : t.Follows Request.Measured Request.Stores)
    {caller : Caller} {current new : String}
    (hrequest : t.request = .changePassword caller current new) {x : Exchange} (hx : x ∈ t.past)
    (hrewrites : x.call.Rewrites) :
    ∃ hash at' answer, ⟨.updatePassword caller.id hash at', answer⟩ ∈ t.past := by
  obtain ⟨before, after, hpast⟩ := List.append_of_mem hx
  have hsafe := h.safe before x after hpast
  obtain ⟨c, answer⟩ := x
  cases c with
  | updatePassword id hash at' =>
    obtain rfl := hsafe caller current new hrequest
    exact ⟨hash, at', answer, hx⟩
  | insertUser user => exact absurd hrequest (hsafe caller current new)
  | softDelete id at' => exact absurd hrequest (hsafe caller current new)
  | _ => exact hrewrites.elim

/-- **No session from before a change of password outlives it**, however the change ends, unless the
user table is as it was or the change was interrupted. -/
theorem not_accepted_after_changePassword (hfresh : w₀.Fresh) (hrun : Run faults w₀ w)
    (hrun₁ : Run faults w w₁) {t : Thread} (hthreads : w₁.threads = w.threads ++ [t])
    {caller : Caller} {current new : String}
    (hrequest : t.request = .changePassword caller current new) (kind : TokenKind) :
    w₁.system.users = w.system.users ∨ t.Interrupted caller.id kind ∨
      ∀ w₂, Run faults w₁ w₂ → w.Over w₂ → w₂.system.issued.Nodup →
        ∀ (i : Nat) u raw, w₂.threads[i]? = some u →
          (∀ v, w₁.threads[i]? = some v → v.Unread) → w.Issued caller.id kind (bareToken raw) →
            ¬ u.Accepted raw := by
  have hnew : w.threads[w.threads.length]? = none := List.getElem?_eq_none (Nat.le_refl _)
  have hlast : w₁.threads[w.threads.length]? = some t := by
    rw [hthreads]
    exact List.getElem?_concat_length
  by_cases husers : w₁.system.users = w.system.users
  · exact Or.inl husers
  by_cases hrecorded : ∃ token, Recorded ⟨caller.id, kind, token⟩ t.past
  · obtain ⟨token, hrecorded⟩ := hrecorded
    right
    right
    intro w₂ hrun₂ hover hdistinct i u raw hi hlater hissued
    exact not_accepted_of_superseded hfresh hrun hrun₁ hrun₂ hover hdistinct hnew hlast hrecorded
      hi hlater hissued
  · -- The requests from before stand still meanwhile, so the change itself has rewritten the table.
    have hover : w.Over w₁ := World.over_of_append hthreads
    obtain ⟨j, x, w₂, w₃, hrun₂, hexchange, hrun₃, hrewrites⟩ := exists_rewrite hrun₁ husers
    have hnone := hover.eq_none hrun₂ hexchange hrun₃
    obtain ⟨u, hu, hx⟩ := hexchange.mem_past
    obtain ⟨u', hu', hgrows⟩ := run_grows hrun₃ hu
    have hj : j = w.threads.length := by
      have hge := List.getElem?_eq_none_iff.mp hnone
      have hlt := (List.getElem?_eq_some_iff.mp hu').1
      rw [hthreads, List.length_append, List.length_singleton] at hlt
      omega
    subst hj
    obtain rfl := Option.some.inj (hlast.symm.trans hu')
    have hfollows := follows_of_run Request.along_measured hfresh (hrun.trans hrun₁) hlast
    have hupdated := updated_of_rewrites hfollows hrequest (hgrows.past.subset hx) hrewrites
    exact Or.inr (Or.inl ⟨hupdated, fun token h => hrecorded ⟨token, h⟩⟩)

end Concurrent

/-! ## A change that is interrupted -/

namespace Service

open Operation

/-- What a change of password does before it opens a session. -/
def renewAccount (caller : Caller) (current new : String) : Operation User := do
  let user ← ownAccount caller.id
  ofResult ((← ask (.checkPassword current user.passwordHash.text)).mapError checkFailure)
  ofResult (checkNewPassword new)
  let hash ← newHash new
  let now ← ask .readClock
  ofDomain (← ask (.updatePassword user.id hash now))

theorem changePassword_eq (caller : Caller) (current new : String) :
    changePassword caller current new = renewAccount caller current new >>= issueSession := by
  simp only [changePassword, renewAccount, bind_assoc]

end Service

namespace Sample

open Concurrent Operation Service

/-- The hash of the second password. -/
def secondHash : PasswordHash := ⟨"plain$secret456", by decide⟩

/-- The account with its second password. -/
def renewed : User := alice.setPassword secondHash system.now

/-- The system after the account has logged in and has got another password, but no tokens yet. -/
def interrupted : System := { loggedIn with users := ⟨[renewed]⟩, draws := loggedIn.draws + 1 }

theorem settle_renewAccount :
    (renewAccount owner "secret123" "secret456").settle loggedIn =
      some (.ok renewed, interrupted) := by
  have hfind : loggedIn.serve (.findById alice.id) = some (.ok (some alice), loggedIn) := by
    rw [System.serve]
    exact congrArg (fun found => some (Except.ok found, loggedIn)) findById_alice
  have haccount : (ownAccount owner.id).settle loggedIn = some (.ok alice, loggedIn) := by
    rw [ownAccount]
    exact settle_bind_ok (settle_ask hfind) _
  have hcheck : loggedIn.serve (.checkPassword "secret123" alice.passwordHash.text) =
      some (.ok (), loggedIn) := by
    rw [System.serve]
    exact congrArg (fun r => some (r, loggedIn)) check_alice
  have hchecked : (ofResult ((Except.ok ()).mapError checkFailure)).settle loggedIn =
      some (.ok (), loggedIn) := rfl
  have hrule : checkNewPassword "secret456" = .ok () := by decide
  let hashed : System := { loggedIn with draws := loggedIn.draws + 1 }
  have hhash : (newHash "secret456").settle loggedIn = some (.ok secondHash, hashed) := rfl
  have hclock : hashed.serve .readClock = some (system.now, hashed) := rfl
  have hupdate : hashed.serve (.updatePassword alice.id secondHash system.now) =
      some (.ok renewed, interrupted) := rfl
  rw [renewAccount, settle_bind_ok haccount, settle_bind_ok (settle_ask hcheck),
    settle_bind_ok hchecked, hrule, settle_bind_ok (settle_ofResult _ _), settle_bind_ok hhash,
    settle_bind_ok (settle_ask hclock), settle_bind_ok (settle_ask hupdate)]
  rfl

/-- A change of password of which nothing is left to be done but to open a session, and one whose
access token could not be signed. -/
def renewing (past : List Exchange) : Thread :=
  ⟨.changePassword owner "secret123" "secret456", past, ExceptT.run (issueSession renewed)⟩

@[inherit_doc renewing] def unsigned (past : List Exchange) (e : ServiceError) : Thread :=
  ⟨.changePassword owner "secret123" "secret456", past, .done (.error e)⟩

theorem run_renewAccount (faults : Bool) (threads : List Thread) : ∃ past,
    Concurrent.Run faults ⟨loggedIn, threads⟩ ⟨interrupted, threads ++ [renewing past]⟩ := by
  obtain ⟨past, hrun⟩ := run_begin (r := .changePassword owner "secret123" "secret456") threads
    (changePassword_eq _ _ _) settle_renewAccount
  exact ⟨past, hrun⟩

/-- Signing fails in the middle of a change of password. -/
theorem run_unsigned (e : ServiceError) (threads : List Thread) : ∃ past,
    Concurrent.Run true ⟨loggedIn, threads⟩ ⟨interrupted, threads ++ [unsigned past e]⟩ := by
  obtain ⟨past, hrun⟩ := run_renewAccount true threads
  let x : Exchange := ⟨.signToken alice.id .access (sessionClaims renewed), .error e⟩
  have hlast : (threads ++ [renewing past])[threads.length]? = some (renewing past) :=
    List.getElem?_concat_length
  have hfails : interrupted.Answers true x interrupted := Or.inr ⟨rfl, ⟨e, rfl⟩, Or.inl rfl⟩
  have hexchange := Exchanges.mk (x := x) hlast hfails
  rw [List.set_append_right _ _ (Nat.le_refl _), Nat.sub_self, List.set_cons_zero] at hexchange
  exact ⟨past ++ [x], hrun.tail hexchange.step⟩

theorem passwordHash_interrupted : (interrupted.users.findById owner.id).map User.passwordHash ≠
    (loggedIn.users.findById owner.id).map User.passwordHash := by decide

theorem settle_changePassword :
    (Service.changePassword owner "secret123" "secret456").settle loggedIn =
      some (.ok (interrupted.openSession renewed).1, (interrupted.openSession renewed).2) := by
  have hclocks : System.SameClocks loggedIn interrupted := ⟨rfl, rfl, rfl, rfl⟩
  rw [changePassword_eq, settle_bind_ok settle_renewAccount]
  exact settle_issueSession (hclocks.steady steady_loggedIn) (hclocks.room room_loggedIn) renewed

theorem nodup_loggedIn : loggedIn.issued.Nodup := by
  have hids : loggedIn.DrawsIds := System.DrawsIds.openSession ⟨rfl⟩ steady_system alice
  apply hids.nodup
  change ((List.range 2).map fun n => Uuid.text (system.random n)).Nodup
  decide

end Sample

namespace Concurrent

open Service

/-- After a change of password, whatever it is answered and whatever fails, no token is accepted
that was issued to its caller before, unless their password is what it was. -/
def PasswordChangeFinal : Prop :=
  ∀ w₀ w w₁ w₂ : World, w₀.Fresh → InTurn w₀ w → Run true w w₁ → InTurn w₁ w₂ →
    w₂.system.issued.Nodup →
    ∀ t caller current new, w₁.threads = w.threads ++ [t] → t.IsDone →
      t.request = .changePassword caller current new →
      (w₁.system.users.findById caller.id).map User.passwordHash =
          (w.system.users.findById caller.id).map User.passwordHash ∨
        ∀ (i : Nat) u kind raw, w₁.threads[i]? = none → w₂.threads[i]? = some u →
          w.Issued caller.id kind (bareToken raw) → ¬ u.Accepted raw

/-- **A change of password that is interrupted leaves the old sessions alive.** -/
theorem not_passwordChangeFinal : ¬ PasswordChangeFinal := by
  intro h
  have hfresh : InTurn ⟨Sample.system, []⟩ ⟨Sample.system, []⟩ := .start
  have hlogin : (Request.login "alice" "secret123").operation.settle Sample.system =
      some (.ok ⟨Sample.alice.view, Sample.pair⟩, Sample.loggedIn) := Sample.settle_login
  obtain ⟨past, hbefore⟩ := hfresh.settle hlogin
  let w := Sample.afterLogin past
  let e : ServiceError := .infrastructure "cache unavailable"
  obtain ⟨past', hchange⟩ := Sample.run_unsigned e w.threads
  let w₁ : World := ⟨Sample.interrupted, w.threads ++ [Sample.unsigned past' e]⟩
  -- The slots are as they were.
  obtain ⟨claims, hverified, hsubject, hstored⟩ := Sample.accepts_pair .access
  have haccepts : Sample.interrupted.Accepts .access Sample.pair.access Sample.alice.id claims :=
    ⟨hverified, hsubject, hstored⟩
  have hvalidate : (Request.validate Sample.pair.access).operation.settle Sample.interrupted =
      some (.ok ⟨Sample.alice.id, claims⟩, Sample.interrupted) :=
    settle_validate_of_accepts haccepts
  have hhere : InTurn w₁ ⟨Sample.interrupted, w₁.threads⟩ := .start
  obtain ⟨past'', hafter⟩ := hhere.settle hvalidate
  have hissued := Sample.issued_afterLogin hbefore.run .access
  rw [← Sample.bareToken_pair .access] at hissued
  rcases h _ w w₁ _ Sample.fresh hbefore hchange hafter Sample.nodup_loggedIn _ Sample.owner _ _ rfl
    ⟨_, rfl⟩ rfl with hsame | hnone
  · exact absurd hsame Sample.passwordHash_interrupted
  · exact hnone 2 _ .access _ rfl rfl hissued (.validate past'' _)

/-- Another change of password, among healthy collaborators. -/
theorem not_accepted_after_secondPassword : ∃ (w w₁ : World) (t : Thread) (pair : TokenPair),
    Run true ⟨Sample.system, []⟩ w ∧ Run true w w₁ ∧ w₁.threads = w.threads ++ [t] ∧
    t.Opened Sample.alice.id pair ∧
    (∀ kind, w.Issued Sample.alice.id kind (Sample.pair.token kind)) ∧
    ∀ kind, t.Interrupted Sample.alice.id kind ∨
      ∀ w₂, Run true w₁ w₂ → w.Over w₂ → w₂.system.issued.Nodup →
        ∀ (i : Nat) u, w₁.threads[i]? = none → w₂.threads[i]? = some u →
          ¬ u.Accepted (Sample.pair.token kind) := by
  obtain ⟨past, hlogin⟩ := Sample.run_login true
  let w := Sample.afterLogin past
  have hsettle : (Request.changePassword Sample.owner "secret123" "secret456").operation.settle
      Sample.loggedIn = some (.ok (Sample.interrupted.openSession Sample.renewed).1,
        (Sample.interrupted.openSession Sample.renewed).2) := Sample.settle_changePassword
  obtain ⟨past', hchange⟩ : ∃ past, Run true ⟨Sample.loggedIn, w.threads⟩ _ :=
    run_request w.threads hsettle
  have hissued := Sample.issued_afterLogin hlogin
  have husers : (Sample.interrupted.openSession Sample.renewed).2.users ≠ Sample.loggedIn.users :=
    fun he => Sample.passwordHash_interrupted
      (congrArg (fun users => (users.findById Sample.owner.id).map User.passwordHash) he)
  refine ⟨w, _, _, _, hlogin, hchange, rfl, .changePassword rfl, hissued, fun kind => ?_⟩
  have hcases := not_accepted_after_changePassword Sample.fresh hlogin hchange rfl rfl kind
  rcases hcases with hsame | hinterrupted | hnone
  · exact absurd hsame husers
  · exact Or.inl hinterrupted
  · right
    intro w₂ hrun hover hdistinct i u hnew hi
    apply hnone w₂ hrun hover hdistinct i u _ hi
    · intro v hv
      exact absurd (hnew.symm.trans hv) (by simp)
    · rw [Sample.bareToken_pair kind]
      exact hissued kind

end Concurrent

end SessionAuth
