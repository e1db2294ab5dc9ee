import SessionAuth.Proofs.Concurrent.World
import SessionAuth.Proofs.Service.Contract

/-!
# Requests one after another

Requests are worked on one at a time. Any call of any of them may fail with an error of some sort,
in which case nothing is done, time may pass between any two calls, and a request may be dropped at
any call.

* `Exchange.error?`: the error that an answer reports.
* `System.Replies`, `System.Through`: how a call comes to its answer, and any number of calls.
* `Flow.Reaches`: the tree that is left after some answers.
* `Operation.Yields`: the operation returns a result.
* `Course`: any number of requests one after another.
* `Flow.Along.through`: what an operation keeps up from call to call holds wherever it has got to.
* `Operation.yields_of_run`, `Course.run`: the runs under a plan are of this sort.
-/

namespace SessionAuth

/-! ## Calls that are answered -/

/-- The error that an answer reports, if it reports one. -/
def Exchange.error? : Exchange → Option ServiceError
  | ⟨.findByUsername _, .error e⟩ | ⟨.findById _, .error e⟩ | ⟨.insertUser _, .error e⟩
  | ⟨.updatePassword _ _ _, .error e⟩ | ⟨.softDelete _ _, .error e⟩ => some (.domain e)
  | ⟨.hashPassword _, .error e⟩ | ⟨.checkPassword _ _, .error e⟩ | ⟨.signToken _ _ _, .error e⟩
  | ⟨.verifyToken _, .error e⟩ | ⟨.saveSession _ _, .error e⟩ | ⟨.getSession _, .error e⟩
  | ⟨.deleteSession _, .error e⟩ => some e
  | _ => none

theorem Exchange.failed_of_error? {x : Exchange} {e : ServiceError} (h : x.error? = some e) :
    x.Failed := by
  obtain ⟨c, a⟩ := x
  cases c with
  | readClock => exact absurd h (by simp [error?])
  | _ =>
    rcases a with d | b
    · exact ⟨d, rfl⟩
    · exact absurd h (by simp [error?])

namespace System

variable {faulty : ServiceError → Prop} {s s₁ s' : System} {x : Exchange} {log log' : List Exchange}

/-- A call is answered by its collaborator, or it fails with a faulty error and does nothing. -/
def Replies (faulty : ServiceError → Prop) (s : System) (x : Exchange) (s' : System) : Prop :=
  s.serve x.call = some (x.answer, s') ∨ s' = s ∧ ∃ e, x.error? = some e ∧ faulty e

theorem Replies.fair (h : s.Replies faulty x s') : x.Fair := by
  rcases h with hserve | ⟨-, e, he, -⟩
  · exact serve_fair hserve
  · exact Exchange.fair_of_failed (Exchange.failed_of_error? he)

/-- An answer that reports no error is the collaborator's own. -/
theorem Replies.serve (h : s.Replies faulty x s') (hx : x.error? = none) :
    s.serve x.call = some (x.answer, s') := by
  rcases h with hserve | ⟨-, e, he, -⟩
  · exact hserve
  · exact absurd (hx.symm.trans he) (by simp)

theorem Replies.sameClocks (h : s.Replies faulty x s') : SameClocks s s' := by
  rcases h with hserve | ⟨rfl, -⟩
  · exact serve_sameClocks hserve
  · exact SameClocks.refl _

/-- Calls are answered one after another, and time passes in between. -/
inductive Through (faulty : ServiceError → Prop) : System → List Exchange → System → Prop
  | nil (s : System) : Through faulty s [] s
  | pass {s s₁ s' : System} {log : List Exchange} (later : s.Later s₁)
      (rest : Through faulty s₁ log s') : Through faulty s log s'
  | reply {s s₁ s' : System} {x : Exchange} {log : List Exchange} (replies : s.Replies faulty x s₁)
      (rest : Through faulty s₁ log s') : Through faulty s (x :: log) s'

/-- Between two calls there is a moment. -/
theorem Through.split (h : s.Through faulty (log ++ log') s') :
    ∃ s₁, s.Through faulty log s₁ ∧ s₁.Through faulty log' s' := by
  generalize hall : log ++ log' = all at h
  induction h generalizing log with
  | nil s =>
    obtain ⟨rfl, rfl⟩ := List.append_eq_nil_iff.mp hall
    exact ⟨s, .nil s, .nil s⟩
  | pass hlater _ ih =>
    obtain ⟨s₂, hbefore, hafter⟩ := ih hall
    exact ⟨s₂, .pass hlater hbefore, hafter⟩
  | @reply s s₁ s' x all hreplies hrest ih =>
    cases log with
    | nil =>
      obtain rfl : log' = x :: all := hall
      exact ⟨s, .nil s, .reply hreplies hrest⟩
    | cons y log =>
      obtain ⟨rfl, hlog⟩ := List.cons.inj hall
      obtain ⟨s₂, hbefore, hafter⟩ := ih hlog
      exact ⟨s₂, .reply hreplies hbefore, hafter⟩

theorem Through.head (h : s.Through faulty (x :: log) s') :
    ∃ s₁ s₂, s.Through faulty [] s₁ ∧ s₁.Replies faulty x s₂ ∧ s₂.Through faulty log s' := by
  generalize hall : x :: log = all at h
  induction h with
  | nil s => exact absurd hall (by simp)
  | pass hlater _ ih =>
    obtain ⟨s₂, s₃, hbefore, hreplies, hafter⟩ := ih hall
    exact ⟨s₂, s₃, .pass hlater hbefore, hreplies, hafter⟩
  | @reply s s₁ s' y all hreplies hrest ih =>
    obtain ⟨rfl, rfl⟩ := List.cons.inj hall
    exact ⟨s, s₁, .nil s, hreplies, hrest⟩

/-- Every call was answered at some moment. -/
theorem Through.replies_of_mem (h : s.Through faulty log s') (hx : x ∈ log) :
    ∃ s₁ s₂ : System, s₁.Replies faulty x s₂ := by
  induction h with
  | nil s => exact absurd hx List.not_mem_nil
  | pass _ _ ih => exact ih hx
  | reply hreplies _ ih =>
    rcases List.mem_cons.mp hx with rfl | hx
    · exact ⟨_, _, hreplies⟩
    · exact ih hx

/-- What every call and the passing of time keep up holds in the end. -/
theorem Through.invariant {holds : System → Prop} (h : s.Through faulty log s')
    (hlater : ∀ {s s'}, holds s → System.Later s s' → holds s')
    (hreply : ∀ {s x s'}, holds s → System.Replies faulty s x s' → holds s') (hs : holds s) :
    holds s' := by
  induction h with
  | nil s => exact hs
  | pass later _ ih => exact ih (hlater hs later)
  | reply replies _ ih => exact ih (hreply hs replies)

/-- No clock that counts for the sessions goes back, and the provider is the same. -/
structure Onward (s s' : System) : Prop where
  provider : s'.provider = s.provider
  uptime : s.uptime ≤ s'.uptime
  inCalendar : s.now.inCalendar = true → s'.now.inCalendar = true

theorem Onward.refl (s : System) : Onward s s := ⟨rfl, Nat.le_refl _, fun h => h⟩

theorem Onward.trans (h : Onward s s₁) (h' : Onward s₁ s') : Onward s s' where
  provider := h'.provider.trans h.provider
  uptime := Nat.le_trans h.uptime h'.uptime
  inCalendar := fun hs => h'.inCalendar (h.inCalendar hs)

theorem SameClocks.onward (h : SameClocks s s') : Onward s s' where
  provider := h.provider
  uptime := Nat.le_of_eq h.uptime.symm
  inCalendar := fun hs => h.now ▸ hs

theorem Later.users (h : s.Later s') : s'.users = s.users := by
  rw [h.onlyClocks]

theorem Later.sessions (h : s.Later s') : s'.sessions = s.sessions := by
  rw [h.onlyClocks]

theorem Later.provider (h : s.Later s') : s'.provider = s.provider := by
  rw [h.onlyClocks]

theorem Later.onward (h : s.Later s') : Onward s s' :=
  ⟨h.provider, h.uptime, fun _ => h.inCalendar⟩

theorem Through.onward (h : s.Through faulty log s') : Onward s s' := by
  induction h with
  | nil s => exact Onward.refl s
  | pass hlater _ ih => exact hlater.onward.trans ih
  | reply hreplies _ ih => exact hreplies.sameClocks.onward.trans ih

/-- As long as no call is answered, only the clocks change. -/
theorem Through.of_nil (h : s.Through faulty [] s') :
    s'.users = s.users ∧ s'.sessions = s.sessions := by
  generalize hlog : ([] : List Exchange) = log at h
  induction h with
  | nil s => exact ⟨rfl, rfl⟩
  | pass hlater _ ih =>
    obtain ⟨husers, hsessions⟩ := ih hlog
    exact ⟨husers.trans hlater.users, hsessions.trans hlater.sessions⟩
  | reply _ _ _ => exact absurd hlog (by simp)

/-- From the moment of the later system on, a slot holds what it held in the earlier one. -/
def Kept (s s' : System) (slot : Slot) : Prop :=
  ∀ t, s'.uptime ≤ t → s'.sessions.live? t slot = s.sessions.live? t slot

theorem Kept.refl (s : System) (slot : Slot) : Kept s s slot := fun _ _ => rfl

theorem Kept.trans {slot : Slot} (h : Kept s s₁ slot) (hle : s₁.uptime ≤ s'.uptime)
    (h' : Kept s₁ s' slot) : Kept s s' slot := by
  intro t ht
  rw [h' t ht, h t (Nat.le_trans hle ht)]

theorem Later.kept (h : s.Later s') (slot : Slot) : Kept s s' slot := by
  intro t _
  rw [h.sessions]

theorem Untouched.kept {slot : Slot} (h : Untouched s s' slot) (hclocks : SameClocks s s') :
    Kept s s' slot := by
  intro t ht
  rw [hclocks.uptime] at ht
  exact h t ht

end System

/-! ## Operations that get on -/

/-- The tree that is left of a tree of calls after some answers. -/
inductive Flow.Reaches {α : Type} : Flow α → List Exchange → Flow α → Prop
  | nil (x : Flow α) : Reaches x [] x
  | cons {c : Call} {answer : c.Answer} {next : c.Answer → Flow α} {log : List Exchange}
      {rest : Flow α} (h : Reaches (next answer) log rest) :
      Reaches (.call c next) (⟨c, answer⟩ :: log) rest

/-- What holds from one call to the next: it is kept up while time passes, and by every call that
is safe. -/
structure Invariant (faulty : ServiceError → Prop) (safe : List Exchange → Call → Prop)
    (holds : List Exchange → System → Prop) : Prop where
  later : ∀ {past s s'}, holds past s → System.Later s s' → holds past s'
  reply : ∀ {past s x s'}, holds past s → safe past x.call → System.Replies faulty s x s' →
    holds (past ++ [x]) s'

/-- **What every safe call keeps up holds wherever an operation has got to**, and the operation
goes on keeping to its contract. -/
theorem Flow.Along.through {α : Type} {faulty : ServiceError → Prop}
    {safe : List Exchange → Call → Prop} {post : List Exchange → α → Prop}
    {holds : List Exchange → System → Prop} {x rest : Flow α} {past log : List Exchange}
    {s s' : System} (h : x.Along safe post past) (hinv : Invariant faulty safe holds)
    (hreaches : x.Reaches log rest) (hthrough : s.Through faulty log s') (hs : holds past s) :
    rest.Along safe post (past ++ log) ∧ holds (past ++ log) s' := by
  induction hthrough generalizing x past with
  | nil s =>
    cases hreaches
    rw [List.append_nil]
    exact ⟨h, hs⟩
  | pass hlater _ ih => exact ih h hreaches (hinv.later hs hlater)
  | @reply s s₁ s' y log hreplies _ ih =>
    cases hreaches with
    | cons hrest =>
      have hnext := ih (h.2 _ hreplies.fair) hrest (hinv.reply hs h.1 hreplies)
      rwa [List.append_assoc, List.singleton_append] at hnext

/-- What an operation returns is as its contract says. -/
theorem Flow.Along.of_done {α : Type} {faulty : ServiceError → Prop}
    {safe : List Exchange → Call → Prop} {post : List Exchange → α → Prop} {x : Flow α}
    {log : List Exchange} {a : α} {s s' : System} (h : x.Along safe post [])
    (hreaches : x.Reaches log (.done a)) (hthrough : s.Through faulty log s') : post log a := by
  have hinv : Invariant faulty safe fun _ _ => True := ⟨fun _ _ => trivial, fun _ _ _ => trivial⟩
  exact (h.through hinv hreaches hthrough trivial).1

/-- The operation returns a result. -/
def Operation.Yields {α : Type} (faulty : ServiceError → Prop) (op : Operation α) (s : System)
    (result : Except ServiceError α) (s' : System) : Prop :=
  ∃ log, (ExceptT.run op).Reaches log (.done result) ∧ s.Through faulty log s'

namespace Service

/-- Requests have been worked on one after another, each until it has returned or been dropped, and
time has passed in between. -/
inductive Course (faulty : ServiceError → Prop) (s₀ : System) : System → Prop
  | start : Course faulty s₀ s₀
  | request {s s' : System} {r : Request} {log : List Exchange}
      {rest : Flow (Except ServiceError r.Result)} (earlier : Course faulty s₀ s)
      (reaches : (ExceptT.run r.operation).Reaches log rest)
      (through : s.Through faulty log s') : Course faulty s₀ s'
  | pass {s s' : System} (earlier : Course faulty s₀ s) (later : s.Later s') : Course faulty s₀ s'

variable {faulty : ServiceError → Prop} {s₀ s s' : System}

theorem Course.yields {r : Request} {result : Except ServiceError r.Result}
    (h : Course faulty s₀ s) (hyields : r.operation.Yields faulty s result s') :
    Course faulty s₀ s' := by
  obtain ⟨log, hreaches, hthrough⟩ := hyields
  exact h.request hreaches hthrough

/-- What every call and the passing of time keep up holds at the end of a course. -/
theorem Course.invariant {holds : System → Prop} (h : Course faulty s₀ s)
    (hlater : ∀ {s s'}, holds s → System.Later s s' → holds s')
    (hreply : ∀ {s x s'}, holds s → System.Replies faulty s x s' → holds s') (hs : holds s₀) :
    holds s := by
  induction h with
  | start => exact hs
  | request _ _ through ih => exact through.invariant hlater hreply ih
  | pass _ later ih => exact hlater ih later

/-- An account that is deleted stays deleted. -/
theorem Course.deleted {id : UserId} (h : Course faulty s₀ s) (hid : s₀.users.Deleted id) :
    s.users.Deleted id := by
  have hlater : ∀ {s s' : System}, s.users.Deleted id → s.Later s' → s'.users.Deleted id := by
    intro s s' hs hlater
    rwa [hlater.users]
  have hreply : ∀ {s : System} {x : Exchange} {s' : System}, s.users.Deleted id →
      s.Replies faulty x s' → s'.users.Deleted id := by
    rintro s x s' hs (hserve | ⟨rfl, -⟩)
    · exact System.serve_deleted hserve hs
    · exact hs
  exact h.invariant hlater hreply hid

end Service

/-! ## Runs under a plan -/

/-- Whatever the plan does to calls is to let them fail with faulty errors or wait for ever. -/
def Plan.Fails (faulty : ServiceError → Prop) (plan : Plan) : Prop :=
  ∀ n c a, plan n c = some (.answer a) → ∃ e, Exchange.error? ⟨c, a⟩ = some e ∧ faulty e

theorem Plan.fails_none (faulty : ServiceError → Prop) : Plan.none.Fails faulty :=
  fun _ _ _ h => absurd h (by simp [none])

/-- **A run in which calls only fail is made of exchanges with the system.** -/
theorem Flow.exists_through {α : Type} {faulty : ServiceError → Prop} {plan : Plan}
    (hplan : plan.Fails faulty) (x : Flow α) (n : Nat) (s : System) :
    ∃ log rest, x.Reaches log rest ∧ s.Through faulty log (x.run plan n s).system ∧
      ∀ a, (x.run plan n s).ending = .returned a → rest = .done a := by
  induction x generalizing n s with
  | done b =>
    refine ⟨[], .done b, .nil _, .nil s, fun a ha => ?_⟩
    rw [Ending.returned.inj ha]
  | call c next ih =>
    rw [run]
    split
    · rename_i answer hreply
      obtain ⟨log, rest, hreaches, hthrough, hdone⟩ := ih answer (n + 1) s
      obtain ⟨e, he, hfaulty⟩ := hplan n c answer hreply
      have hfails : s.Replies faulty ⟨c, answer⟩ s := Or.inr ⟨rfl, e, he, hfaulty⟩
      exact ⟨⟨c, answer⟩ :: log, rest, .cons hreaches, .reply hfails hthrough, hdone⟩
    · exact ⟨[], _, .nil _, .nil s, fun a ha => absurd ha (by simp)⟩
    · split
      · rename_i answer s₁ hserve
        obtain ⟨log, rest, hreaches, hthrough, hdone⟩ := ih answer (n + 1) s₁
        have hserves : s.Replies faulty ⟨c, answer⟩ s₁ := Or.inl hserve
        exact ⟨⟨c, answer⟩ :: log, rest, .cons hreaches, .reply hserves hthrough, hdone⟩
      · exact ⟨[], _, .nil _, .nil s, fun a ha => absurd ha (by simp)⟩

theorem Operation.yields_of_run {α : Type} {faulty : ServiceError → Prop} {plan : Plan}
    (hplan : plan.Fails faulty) {op : Operation α} {s s' : System} {calls : List Call}
    {result : Except ServiceError α} (h : op.run plan s = ⟨.returned result, calls, s'⟩) :
    op.Yields faulty s result s' := by
  obtain ⟨log, rest, hreaches, hthrough, hdone⟩ := Flow.exists_through hplan (ExceptT.run op) 0 s
  have hrest : rest = .done result := hdone result (congrArg Run.ending h)
  have hsystem : (op.run plan s).system = s' := congrArg Run.system h
  exact ⟨log, hrest ▸ hreaches, hsystem ▸ hthrough⟩

/-- A request may be run under any plan that lets calls fail, however it ends. -/
theorem Service.Course.run {faulty : ServiceError → Prop} {plan : Plan}
    (hplan : plan.Fails faulty) {s₀ s : System} (h : Course faulty s₀ s) (r : Request) :
    Course faulty s₀ (r.operation.run plan s).system := by
  obtain ⟨log, rest, hreaches, hthrough, -⟩ :=
    Flow.exists_through hplan (ExceptT.run r.operation) 0 s
  exact h.request hreaches hthrough

end SessionAuth
