import SessionAuth.Proofs.Sequential.Clock
import SessionAuth.Proofs.Sequential.Effect
import SessionAuth.Proofs.Service.History

/-!
# Requests among healthy collaborators

Requests are answered one after another, nothing fails, and the clocks show whatever they like. An
account stays as it is unless its own user changes the password or deletes it, and a request to do
so that is turned down does neither.

* `Answered`: what has been asked and answered, and the system after it.
* `Event.altered?`: the user whose account a request has changed.
* `Unaltered`: an account in its place, the hasher that its password was hashed with, and clocks
  that tokens can be signed by.
* `unaltered_reply`, `unaltered_of_request`: calls and requests that leave these alone.
* `unaltered_of_answered`: so does everything that is answered, as long as nobody has changed the
  account.
-/

namespace SessionAuth

/-- The account whose password or end a call is about. -/
def Call.alters? : Call → Option UserId
  | .updatePassword id _ _ | .softDelete id _ => some id
  | _ => none

namespace System

variable {faulty : ServiceError → Prop} {s s' : System}

theorem serve_hasher {c : Call} {a : c.Answer} (h : s.serve c = some (a, s')) :
    s'.hasher = s.hasher := by
  cases c with
  | insertUser _ | updatePassword _ _ _ | softDelete _ _ =>
    rcases withUsers_cases (Option.some.inj h) with ⟨-, -, -, rfl⟩ | ⟨b, users, -, -, rfl⟩
    · rfl
    · rfl
  | saveSession session ttl =>
    obtain ⟨sessions, -, rfl⟩ := serve_save h
    rfl
  | _ =>
    obtain ⟨-, rfl⟩ := Prod.mk.inj (Option.some.inj h)
    rfl

theorem Through.hasher {log : List Exchange} (h : s.Through faulty log s') :
    s'.hasher = s.hasher := by
  have hlater : ∀ {s₁ s₂ : System}, s₁.hasher = s.hasher → s₁.Later s₂ →
      s₂.hasher = s.hasher := by
    intro s₁ s₂ h₁ hlater
    rw [hlater.onlyClocks, h₁]
  have hreply : ∀ {s₁ : System} {x : Exchange} {s₂ : System}, s₁.hasher = s.hasher →
      s₁.Replies faulty x s₂ → s₂.hasher = s.hasher := by
    rintro s₁ x s₂ h₁ (hserve | ⟨rfl, -⟩)
    · exact (serve_hasher hserve).trans h₁
    · exact h₁
  exact h.invariant hlater hreply rfl

/-- A call that is not about an account leaves it in its place. -/
theorem serve_holds {c : Call} {a : c.Answer} (h : s.serve c = some (a, s')) {user : User}
    (hc : c.alters? ≠ some user.id) (hholds : s.users.Holds user) : s'.users.Holds user := by
  cases c with
  | insertUser n =>
    rcases withUsers_cases (Option.some.inj h) with ⟨-, -, -, rfl⟩ | ⟨u, users, hinsert, -, rfl⟩
    · exact hholds
    · exact hholds.insert hinsert
  | updatePassword id hash at' =>
    have hne : user.id ≠ id := fun he => hc (congrArg some he.symm)
    rcases withUsers_cases (Option.some.inj h) with ⟨-, -, -, rfl⟩ | ⟨u, users, hupdate, -, rfl⟩
    · exact hholds
    · exact hholds.update (fun u => u.setPassword_id hash at') (fun _ => rfl) hupdate hne
  | softDelete id at' =>
    have hne : user.id ≠ id := fun he => hc (congrArg some he.symm)
    rcases serve_softDelete h with ⟨-, -, rfl⟩ | ⟨u, users, -, hdelete, rfl⟩
    · exact hholds
    · exact hholds.update (fun u => u.markDeleted_id at') (fun _ => rfl) hdelete hne
  | _ => rwa [serve_users h fun h => h]

end System

namespace Service

open Operation

/-- The user whose account a request is there to change. -/
def Request.alters? : Request → Option UserId
  | changePassword caller _ _ | softDelete caller => some caller.id
  | _ => none

/-- The user whose account a request has changed. -/
def Event.altered? (e : Event) : Option UserId :=
  match e.result with
  | .ok _ => e.request.alters?
  | .error _ => none

/-- What has been asked and answered since the beginning, and the system now. Nothing interferes
with a request, no time passes during it, and between requests the clocks move as they like. -/
inductive Answered (s₀ : System) : List Event → System → Prop
  | start : Answered s₀ [] s₀
  | request {log : List Event} {s s' : System} {r : Request}
      {result : Except ServiceError r.Result} {calls : List Call} (earlier : Answered s₀ log s)
      (answered : r.operation.run Plan.none s = ⟨.returned result, calls, s'⟩) :
      Answered s₀ (⟨r, result⟩ :: log) s'
  | pass {log : List Event} {s s' : System} (earlier : Answered s₀ log s) (later : s.Later s') :
      Answered s₀ log s'

/-- What stays as long as nobody changes an account. -/
structure Unaltered (hasher : Hasher) (user : User) (s : System) : Prop where
  holds : s.users.Holds user
  hasher : s.hasher = hasher
  issuing : s.Issuing

variable {hasher : Hasher} {user : User} {s s₀ s' : System}

/-- A request makes no call about an account that it is not there to change. -/
theorem Request.Conduct.alters {r : Request} {past : List Exchange} {c : Call} {id : UserId}
    (h : r.Conduct past c) (hc : c.alters? = some id) : r.alters? = some id := by
  cases c with
  | updatePassword other hash at' =>
    obtain ⟨caller, current, new, rfl, rfl⟩ := h
    exact hc
  | softDelete other at' =>
    obtain ⟨caller, now, rfl, rfl, -⟩ := h
    exact hc
  | _ => exact absurd hc (by simp [Call.alters?])

theorem Unaltered.later (h : Unaltered hasher user s) (hlater : s.Later s') :
    Unaltered hasher user s' where
  holds := hlater.users ▸ h.holds
  hasher := by rw [hlater.onlyClocks, h.hasher]
  issuing := ⟨hlater.inCalendar, hlater.provider ▸ h.issuing.ttl⟩

theorem unaltered_reply {faulty : ServiceError → Prop} {x : Exchange}
    (h : Unaltered hasher user s) (hx : x.call.alters? ≠ some user.id)
    (hreplies : s.Replies faulty x s') : Unaltered hasher user s' := by
  rcases hreplies with hserve | ⟨rfl, -⟩
  · exact ⟨System.serve_holds hserve hx h.holds, (System.serve_hasher hserve).trans h.hasher,
      h.issuing.sameClocks (System.serve_sameClocks hserve)⟩
  · exact h

theorem invariant_unaltered {faulty : ServiceError → Prop} {r : Request}
    (hr : r.alters? ≠ some user.id) :
    Invariant faulty r.Conduct fun _ s => Unaltered hasher user s where
  later := Unaltered.later
  reply := fun h hsafe hreplies =>
    unaltered_reply h (fun hx => hr (hsafe.alters hx)) hreplies

/-- A change of password that is turned down leaves all accounts as they were. -/
theorem users_of_changePassword_error (hissuing : s.Issuing) {caller : Caller}
    {current new : String} {e : ServiceError}
    (h : (changePassword caller current new).settle s = some (.error e, s')) :
    s'.users = s.users := by
  rw [changePassword_eq, settle_bind] at h
  obtain ⟨⟨r, s₁⟩, hrenew, hrest⟩ := Option.bind_eq_some_iff.mp h
  obtain ⟨calls, hrun⟩ := exists_run_of_settle hrenew
  obtain ⟨log, hreaches, hthrough⟩ := yields_of_run (Plan.fails_none fun _ => False) hrun
  have hends := Request.ends_renewAccount caller current new
  cases r with
  | error e₁ =>
    obtain ⟨hharmless, -⟩ := hends.flow.of_done hreaches hthrough
    obtain ⟨-, rfl⟩ := Prod.mk.inj (Option.some.inj hrest)
    exact (hthrough.harmless (hharmless e₁ rfl)).1
  | ok updated =>
    -- With the password changed nothing is left that could fail.
    have honward := hthrough.onward
    have hissuing₁ : s₁.Issuing :=
      ⟨honward.inCalendar hissuing.inCalendar, honward.provider ▸ hissuing.ttl⟩
    have hissue : (issueSession updated).settle s₁ = some (.error e, s') := hrest
    rw [settle_issueSession_eq hissuing₁] at hissue
    obtain ⟨p, -, hp⟩ := Option.map_eq_some_iff.mp hissue
    exact absurd (Prod.mk.inj hp).1 (by simp)

/-- **A request that has not changed an account leaves it in its place**, even if it was there to
change it. -/
theorem unaltered_of_request (h : Unaltered hasher user s) {r : Request}
    {result : Except ServiceError r.Result} {calls : List Call}
    (hrun : r.operation.run Plan.none s = ⟨.returned result, calls, s'⟩)
    (hkept : Event.altered? ⟨r, result⟩ ≠ some user.id) : Unaltered hasher user s' := by
  obtain ⟨log, hreaches, hthrough⟩ := yields_of_run (Plan.fails_none fun _ => False) hrun
  by_cases hr : r.alters? = some user.id
  · have hsettle := settle_of_run hrun
    cases result with
    | ok a => exact absurd hr hkept
    | error e =>
      cases r with
      | changePassword caller current new =>
        have husers : s'.users = s.users := users_of_changePassword_error h.issuing hsettle
        have honward := hthrough.onward
        exact ⟨husers ▸ h.holds, hthrough.hasher.trans h.hasher,
          honward.inCalendar h.issuing.inCalendar, honward.provider ▸ h.issuing.ttl⟩
      | softDelete caller =>
        obtain ⟨r, s₁, hdelete, -, hcases⟩ := settle_softDelete s caller
        obtain ⟨rfl, -⟩ := Prod.mk.inj (Option.some.inj (hdelete.symm.trans hsettle))
        rcases hcases with ⟨hok, -⟩ | ⟨_, -, hgone⟩
        · exact absurd hok (by simp)
        · have hid : user.id = caller.id := (Option.some.inj hr).symm
          exact absurd ⟨user, h.holds.mem_live, hid⟩ hgone
      | _ => exact absurd hr (by simp [Request.alters?])
  · exact ((Request.ends_operation r).flow.through (invariant_unaltered hr) hreaches hthrough h).2

/-- **An account stays in its place as long as nobody has changed it.** -/
theorem unaltered_of_answered {log : List Event} (h : Answered s₀ log s)
    (hs₀ : Unaltered hasher user s₀) (hkept : ∀ e ∈ log, e.altered? ≠ some user.id) :
    Unaltered hasher user s := by
  induction h with
  | start => exact hs₀
  | request _ hrun ih =>
    have hbefore := ih fun e he => hkept e (List.mem_cons_of_mem _ he)
    exact unaltered_of_request hbefore hrun (hkept _ List.mem_cons_self)
  | pass _ hlater ih => exact (ih hkept).later hlater

end Service

end SessionAuth
