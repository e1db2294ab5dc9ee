import SessionAuth.Proofs.Concurrent.World
import SessionAuth.Proofs.Service.Outcome
import SessionAuth.Proofs.Service.Sample

/-!
# Requests in turn

Nothing forces requests to get in each other's way. Among healthy collaborators a request may be
worked on alone for a while, and then the outcome is that of the operations themselves.

* `reach_settle`: a part of a request is carried out at one go.
* `reach_begin`, `reach_finish`, `reach_request`: the same for the first part of a request, for the
  rest of it and for all of it.
* `run_begin`, `run_finish`, `run_request`: the same in runs.
* `Sample.fresh`, `Sample.run_login`: the first login of the small system.
-/

namespace SessionAuth

namespace Concurrent

open Service

variable {faults : Bool}

/-! ## Any steps at all -/

section Reach

variable {R : World → World → Prop}

/-- **A part of a request is carried out at one go**, whatever else there may be to the steps. -/
theorem reach_settle {α : Type} {r : Request} {x : Flow α}
    {f : α → Flow (Except ServiceError r.Result)} {s s' : System} {a : α} {threads : List Thread}
    {i : Nat} {past : List Exchange} (hR : ∀ {i x w w'}, Exchanges faults i x w w' → R w w')
    (h : x.settle s = some (a, s')) (ht : threads[i]? = some ⟨r, past, x >>= f⟩) :
    ∃ past', Relation.ReflTransGen R ⟨s, threads⟩ ⟨s', threads.set i ⟨r, past', f a⟩⟩ := by
  induction x generalizing s past threads with
  | done b =>
    obtain ⟨rfl, rfl⟩ := Prod.mk.inj (Option.some.inj h)
    obtain ⟨hlt, hget⟩ := List.getElem?_eq_some_iff.mp ht
    refine ⟨past, ?_⟩
    rw [← Flow.done_bind b f, ← hget, List.set_getElem_self hlt]
  | call c next ih =>
    rw [Flow.settle_call] at h
    obtain ⟨⟨answer, s₁⟩, hserve, hrest⟩ := Option.bind_eq_some_iff.mp h
    obtain ⟨hlt, -⟩ := List.getElem?_eq_some_iff.mp ht
    have hexchange : Exchanges faults i ⟨c, answer⟩ ⟨s, threads⟩
        ⟨s₁, threads.set i ⟨r, past ++ [⟨c, answer⟩], next answer >>= f⟩⟩ :=
      .mk (x := ⟨c, answer⟩) ht (Or.inl hserve)
    obtain ⟨past', hrun⟩ := ih answer hrest (List.getElem?_set_self hlt)
    rw [List.set_set] at hrun
    exact ⟨past', hrun.head (hR hexchange)⟩

theorem reach_operation {α : Type} {r : Request} {op : Operation α} {f : α → Operation r.Result}
    {s s' : System} {a : α} {threads : List Thread} {i : Nat} {past : List Exchange}
    (hR : ∀ {i x w w'}, Exchanges faults i x w w' → R w w') (h : op.settle s = some (.ok a, s'))
    (ht : threads[i]? = some ⟨r, past, ExceptT.run (op >>= f)⟩) :
    ∃ past', Relation.ReflTransGen R ⟨s, threads⟩
      ⟨s', threads.set i ⟨r, past', ExceptT.run (f a)⟩⟩ := by
  rw [ExceptT.run_bind] at ht
  have hflow : Flow.settle (ExceptT.run op) s = some (Except.ok a, s') := h
  obtain ⟨past', hrun⟩ := reach_settle hR hflow ht
  exact ⟨past', hrun⟩

theorem reach_finish {r : Request} {op : Operation r.Result} {s s' : System}
    {result : Except ServiceError r.Result} {threads : List Thread} {i : Nat}
    {past : List Exchange} (hR : ∀ {i x w w'}, Exchanges faults i x w w' → R w w')
    (h : op.settle s = some (result, s')) (ht : threads[i]? = some ⟨r, past, ExceptT.run op⟩) :
    ∃ past', Relation.ReflTransGen R ⟨s, threads⟩
      ⟨s', threads.set i ⟨r, past', .done result⟩⟩ := by
  rw [← bind_pure (ExceptT.run op)] at ht
  exact reach_settle hR h ht

/-- A request comes in and gets as far as the end of the first part of its operation. -/
theorem reach_begin {α : Type} {r : Request} {op : Operation α} {f : α → Operation r.Result}
    {s s' : System} {a : α} (hR : ∀ {i x w w'}, Exchanges faults i x w w' → R w w')
    (hstart : ∀ s threads r, R ⟨s, threads⟩ ⟨s, threads ++ [Thread.start r]⟩)
    (threads : List Thread) (hr : r.operation = op >>= f) (h : op.settle s = some (.ok a, s')) :
    ∃ past, Relation.ReflTransGen R ⟨s, threads⟩
      ⟨s', threads ++ [⟨r, past, ExceptT.run (f a)⟩]⟩ := by
  have hlast : (threads ++ [Thread.start r])[threads.length]? =
      some ⟨r, [], ExceptT.run (op >>= f)⟩ := by
    rw [← hr]
    exact List.getElem?_concat_length
  obtain ⟨past, hrun⟩ := reach_operation hR h hlast
  rw [List.set_append_right _ _ (Nat.le_refl _), Nat.sub_self, List.set_cons_zero] at hrun
  exact ⟨past, hrun.head (hstart s threads r)⟩

/-- A request comes in and is carried out at one go. -/
theorem reach_request {r : Request} {s s' : System} {result : Except ServiceError r.Result}
    (hR : ∀ {i x w w'}, Exchanges faults i x w w' → R w w')
    (hstart : ∀ s threads r, R ⟨s, threads⟩ ⟨s, threads ++ [Thread.start r]⟩)
    (threads : List Thread) (h : r.operation.settle s = some (result, s')) :
    ∃ past, Relation.ReflTransGen R ⟨s, threads⟩ ⟨s', threads ++ [⟨r, past, .done result⟩]⟩ := by
  have hlast : (threads ++ [Thread.start r])[threads.length]? =
      some ⟨r, [], ExceptT.run r.operation⟩ := List.getElem?_concat_length
  obtain ⟨past, hrun⟩ := reach_finish hR h hlast
  rw [List.set_append_right _ _ (Nat.le_refl _), Nat.sub_self, List.set_cons_zero] at hrun
  exact ⟨past, hrun.head (hstart s threads r)⟩

end Reach

/-! ## Runs -/

theorem run_begin {α : Type} {r : Request} {op : Operation α} {f : α → Operation r.Result}
    {s s' : System} {a : α} (threads : List Thread) (hr : r.operation = op >>= f)
    (h : op.settle s = some (.ok a, s')) :
    ∃ past, Run faults ⟨s, threads⟩ ⟨s', threads ++ [⟨r, past, ExceptT.run (f a)⟩]⟩ :=
  reach_begin Exchanges.step Step.start threads hr h

theorem run_finish {r : Request} {op : Operation r.Result} {s s' : System}
    {result : Except ServiceError r.Result} {threads : List Thread} {i : Nat}
    {past : List Exchange} (h : op.settle s = some (result, s'))
    (ht : threads[i]? = some ⟨r, past, ExceptT.run op⟩) :
    ∃ past', Run faults ⟨s, threads⟩ ⟨s', threads.set i ⟨r, past', .done result⟩⟩ :=
  reach_finish Exchanges.step h ht

theorem run_request {r : Request} {s s' : System} {result : Except ServiceError r.Result}
    (threads : List Thread) (h : r.operation.settle s = some (result, s')) :
    ∃ past, Run faults ⟨s, threads⟩ ⟨s', threads ++ [⟨r, past, .done result⟩]⟩ :=
  reach_request Exchanges.step Step.start threads h

/-! ## The parts of a refresh and of a login -/

theorem run_checkRefresh {raw : String} {id : UserId} {claims : Claims} {s : System}
    (threads : List Thread) (h : s.Accepts .refresh raw id claims) :
    ∃ past, Run faults ⟨s, threads⟩ ⟨s, threads ++
      [⟨.refresh raw, past, ExceptT.run (refreshSubject id >>= issueSession)⟩]⟩ := by
  have hcheck := Operation.settle_attempt (settle_checkRefresh_of_accepts h)
  obtain ⟨past, hrun⟩ := run_begin (r := .refresh raw) threads rfl hcheck
  exact ⟨past, hrun⟩

theorem run_renewal {raw : String} {id : UserId} {user : User} {s : System} (hs : s.Steady)
    (hroom : s.Room) (hfind : s.users.findById id = some user) {threads : List Thread} {i : Nat}
    {past : List Exchange} (ht : threads[i]? =
      some ⟨.refresh raw, past, ExceptT.run (refreshSubject id >>= issueSession)⟩) :
    ∃ past', Run faults ⟨s, threads⟩ ⟨(s.openSession user).2,
      threads.set i ⟨.refresh raw, past', .done (.ok (s.openSession user).1)⟩⟩ := by
  have hserve : s.serve (.findById id) = some (.ok (some user), s) := by
    rw [System.serve, hfind]
  have hsubject : (refreshSubject id).settle s = some (.ok user, s) := by
    rw [refreshSubject, Operation.settle_bind_ok (Operation.settle_ask hserve)]
    rfl
  refine run_finish ?_ ht
  rw [Operation.settle_bind_ok hsubject]
  exact settle_issueSession hs hroom user

/-- What a login does once it has checked the password. -/
def openLogin (user : User) : Operation LoginResult := do
  let tokens ← issueSession user
  return ⟨user.view, tokens⟩

theorem run_authenticate {username password : String} {user : User} {s s' : System}
    (threads : List Thread) (h : (authenticate username password).settle s = some (.ok user, s')) :
    ∃ past, Run faults ⟨s, threads⟩ ⟨s', threads ++
      [⟨.login username password, past, ExceptT.run (openLogin user)⟩]⟩ := by
  obtain ⟨past, hrun⟩ := run_begin (r := .login username password) threads rfl h
  exact ⟨past, hrun⟩

theorem run_openLogin {username password : String} {user : User} {s : System} (hs : s.Steady)
    (hroom : s.Room) {threads : List Thread} {i : Nat} {past : List Exchange} (ht : threads[i]? =
      some ⟨.login username password, past, ExceptT.run (openLogin user)⟩) :
    ∃ past', Run faults ⟨s, threads⟩ ⟨(s.openSession user).2, threads.set i
      ⟨.login username password, past', .done (.ok ⟨user.view, (s.openSession user).1⟩)⟩⟩ := by
  refine run_finish ?_ ht
  rw [openLogin, Operation.settle_bind_ok (settle_issueSession hs hroom user)]
  rfl

/-- The access token of a session that has just been opened is accepted. -/
theorem run_validate_openSession {s : System} (hs : s.Steady) (user : User)
    (threads : List Thread) : ∃ past s' caller, caller.id = user.id ∧
      Run faults ⟨(s.openSession user).2, threads⟩ ⟨s', threads ++
        [⟨.validate (s.openSession user).1.access, past, .done (.ok caller)⟩]⟩ := by
  have hclocks := System.sameClocks_openSession s user
  have hlt : (s.openSession user).2.now.seconds < s.expiry .access :=
    hclocks.now ▸ hs.lt_expiry .access
  obtain ⟨claims, haccepts⟩ := (System.onRecord_openSession hs user).1.accepts
    (hclocks.steady hs) hlt (Token.bareToken_sign _ _)
  have hvalidate : (Request.validate (s.openSession user).1.access).operation.settle
      (s.openSession user).2 = some (.ok ⟨user.id, claims⟩, (s.openSession user).2) :=
    settle_validate_of_accepts haccepts
  obtain ⟨past, hrun⟩ := run_request threads hvalidate
  exact ⟨past, _, _, rfl, hrun⟩

end Concurrent

namespace Sample

open Concurrent Service

theorem fresh : World.Fresh ⟨system, []⟩ := ⟨rfl, rfl, steady_system.inCalendar⟩

/-- The account logs in, and nothing else happens. -/
theorem run_login (faults : Bool) : ∃ past, Concurrent.Run faults ⟨system, []⟩
    ⟨loggedIn, [⟨.login "alice" "secret123", past, .done (.ok ⟨alice.view, pair⟩)⟩]⟩ := by
  have h : (Request.login "alice" "secret123").operation.settle system =
      some (.ok ⟨alice.view, pair⟩, loggedIn) := settle_login
  exact run_request [] h

end Sample

end SessionAuth
