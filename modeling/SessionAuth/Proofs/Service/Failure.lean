import SessionAuth.Proofs.Service.History
import SessionAuth.Proofs.Service.Trace
import SessionAuth.Service.Outage

/-!
# What a failure leaves behind

A request that issues tokens may break off wherever a collaborator fails. Up to the moment at which
it puts its access token on record it leaves no trace in any slot; from then on it leaves just that
token, which nobody has been given.

* `Plan.OnlyFails`: a plan by which calls fail or are never answered.
* `System.Served`: what has been exchanged in a run, and the system after it.
* `Flow.exists_served`: every run under such a plan is of this sort.
* `untouched_or_halfOpened`: the slots after a request that has failed.
* `not_issuingAtomic`: there may be a trace.
-/

namespace SessionAuth

/-! ## Runs in which calls fail -/

/-- Whatever the plan does to calls is to let them fail or wait for ever. -/
def Plan.OnlyFails (plan : Plan) : Prop :=
  ∀ n c a, plan n c = some (.answer a) → Exchange.Failed ⟨c, a⟩

theorem Outage.Failure.failed_of_reply {f : Failure} (hf : f ≠ .emptyHash) {c : Call} {a : c.Answer}
    (h : f.reply c = some (.answer a)) : Exchange.Failed ⟨c, a⟩ := by
  have husers : ∀ {α : Type} {a : Except DomainError α}, f.usersReply = .answer a →
      ∃ e, a = .error e := by
    intro α a h
    cases f with
    | silence => exact absurd h (by simp [Failure.usersReply])
    | _ => exact ⟨_, (Reply.answer.inj h).symm⟩
  have hother : ∀ {α : Type} {a : Except ServiceError α}, f.otherReply = .answer a →
      ∃ e, a = .error e := by
    intro α a h
    cases f with
    | silence => exact absurd h (by simp [Failure.otherReply])
    | _ => exact ⟨_, (Reply.answer.inj h).symm⟩
  cases c with
  | readClock => exact absurd h (by simp [Failure.reply])
  | findByUsername _ | findById _ | insertUser _ | updatePassword _ _ _ | softDelete _ _ =>
    exact husers (Option.some.inj h)
  | hashPassword _ =>
    rw [Failure.reply, if_neg hf] at h
    exact hother (Option.some.inj h)
  | checkPassword _ _ | signToken _ _ _ | verifyToken _ | saveSession _ _ | getSession _
  | deleteSession _ => exact hother (Option.some.inj h)

/-- An outage at one place only makes calls fail. -/
theorem Outage.onlyFails_plan (point : Point) {f : Failure} (hf : f ≠ .emptyHash) :
    (plan [(point, f)]).OnlyFails := by
  intro n c a h
  obtain ⟨g, hfailure, hreply⟩ := Option.bind_eq_some_iff.mp h
  obtain ⟨p, -, hlookup⟩ := List.exists_of_findSome?_eq_some hfailure
  obtain rfl : f = g := by
    rw [List.lookup_cons] at hlookup
    split at hlookup
    · exact Option.some.inj hlookup
    · exact absurd hlookup (by simp)
  exact f.failed_of_reply hf hreply

/-- What has been exchanged, one after another: each call has been answered by its collaborator or
has failed and done nothing. -/
inductive System.Served : System → List Exchange → System → Prop
  | nil (s : System) : Served s [] s
  | answered {s s₁ s' : System} {x : Exchange} {log : List Exchange}
      (serve : s.serve x.call = some (x.answer, s₁)) (rest : Served s₁ log s') :
      Served s (x :: log) s'
  | failed {s s' : System} {x : Exchange} {log : List Exchange} (failed : x.Failed)
      (rest : Served s log s') : Served s (x :: log) s'

/-- **A run in which calls only fail is a run of exchanges**: they are what the operation is
answered, and they keep to its contract. -/
theorem Flow.exists_served {α : Type} {safe : List Exchange → Call → Prop}
    {post : List Exchange → α → Prop} {past : List Exchange} {x : Flow α} {plan : Plan} {n : Nat}
    {s : System} {a : α} (h : x.Along safe post past) (hplan : plan.OnlyFails)
    (hreturned : (x.run plan n s).ending = .returned a) :
    ∃ log, log.map Exchange.call = (x.run plan n s).calls ∧
      s.Served log (x.run plan n s).system ∧ (∀ y ∈ log, ∃ past, safe past y.call) ∧
      post (past ++ log) a := by
  induction x generalizing past n s with
  | done b =>
    obtain rfl : b = a := Ending.returned.inj hreturned
    refine ⟨[], rfl, .nil s, by simp, ?_⟩
    rw [List.append_nil]
    exact h
  | call c next ih =>
    -- Whoever has answered the first call, the rest goes on with the answer.
    have hnext : ∀ (answer : c.Answer) (s₁ : System), Exchange.Fair ⟨c, answer⟩ →
        ((next answer).run plan (n + 1) s₁).ending = .returned a →
        ∃ log, (⟨c, answer⟩ :: log).map Exchange.call =
            c :: ((next answer).run plan (n + 1) s₁).calls ∧
          s₁.Served log ((next answer).run plan (n + 1) s₁).system ∧
          (∀ y ∈ (⟨c, answer⟩ : Exchange) :: log, ∃ past, safe past y.call) ∧
          post (past ++ ⟨c, answer⟩ :: log) a := by
      intro answer s₁ hfair hending
      obtain ⟨log, hcalls, hserved, hsafe, hpost⟩ := ih answer (h.2 answer hfair) hending
      refine ⟨log, by rw [List.map_cons, hcalls], hserved, ?_, ?_⟩
      · intro y hy
        rcases List.mem_cons.mp hy with rfl | hy
        · exact ⟨past, h.1⟩
        · exact hsafe y hy
      · rwa [List.append_assoc, List.singleton_append] at hpost
    rw [run] at hreturned ⊢
    split at hreturned
    · rename_i answer hreply
      have hfailed := hplan n c answer hreply
      obtain ⟨log, hcalls, hserved, hsafe, hpost⟩ :=
        hnext answer s (Exchange.fair_of_failed hfailed) hreturned
      exact ⟨_, hcalls, .failed hfailed hserved, hsafe, hpost⟩
    · exact absurd hreturned (by simp)
    · split at hreturned
      · rename_i answer s₁ hserve
        obtain ⟨log, hcalls, hserved, hsafe, hpost⟩ :=
          hnext answer s₁ (System.serve_fair hserve) hreturned
        exact ⟨_, hcalls, .answered hserve hserved, hsafe, hpost⟩
      · exact absurd hreturned (by simp)

/-! ## The slots after a run -/

theorem Exchange.Failed.recorded?_eq_none {x : Exchange} (h : x.Failed) : x.recorded? = none := by
  obtain ⟨c, a⟩ := x
  cases c with
  | saveSession session ttl =>
    obtain ⟨e, rfl⟩ := h
    rfl
  | _ => rfl

namespace System

variable {s s' : System} {log : List Exchange}

theorem Served.sameClocks (h : s.Served log s') : SameClocks s s' := by
  induction h with
  | nil s => exact SameClocks.refl s
  | answered hserve _ ih => exact (serve_sameClocks hserve).trans ih
  | failed _ _ ih => exact ih

/-- A call that has been answered has put on record what it is there to save. -/
theorem recorded?_of_serve {x : Exchange} (h : s.serve x.call = some (x.answer, s')) :
    x.recorded? = x.call.saves? := by
  obtain ⟨c, a⟩ := x
  cases c with
  | saveSession session ttl =>
    obtain ⟨sessions, -, he⟩ := Option.map_eq_some_iff.mp h
    obtain rfl : Except.ok () = a := (Prod.mk.inj he).1
    rfl
  | _ => rfl

theorem live?_of_serve_recorded {x : Exchange} (h : s.serve x.call = some (x.answer, s'))
    {session : Session} (hrecorded : x.recorded? = some session) :
    s'.live? session.slot = some session.token := by
  rw [recorded?_of_serve h] at hrecorded
  obtain ⟨c, a⟩ := x
  cases c with
  | saveSession other ttl =>
    obtain rfl := Option.some.inj hrecorded
    exact live?_of_serve_save h
  | _ => exact absurd hrecorded (by simp [Call.saves?])

/-- A slot is untouched if nothing is put on record there and nothing is cleared. -/
theorem Served.untouched (h : s.Served log s') {slot : Slot}
    (hdelete : ∀ x ∈ log, x.call ≠ .deleteSession slot)
    (hrecorded : ∀ x ∈ log, ∀ session, x.recorded? = some session → slot ≠ session.slot) :
    Untouched s s' slot := by
  induction h with
  | nil s => exact Untouched.refl s slot
  | @answered s s₁ s' x log hserve _ ih =>
    have hfirst : Untouched s s₁ slot := by
      apply serve_untouched hserve _ (hdelete x List.mem_cons_self)
      rw [← recorded?_of_serve hserve]
      exact hrecorded x List.mem_cons_self
    apply hfirst.trans (serve_sameClocks hserve)
    apply ih
    · intro y hy
      exact hdelete y (List.mem_cons_of_mem x hy)
    · intro y hy
      exact hrecorded y (List.mem_cons_of_mem x hy)
  | @failed s s' x log _ _ ih =>
    apply ih
    · intro y hy
      exact hdelete y (List.mem_cons_of_mem x hy)
    · intro y hy
      exact hrecorded y (List.mem_cons_of_mem x hy)

/-- The only session that is put on record in its slot is live in the end. -/
theorem Served.live?_of_recorded (h : s.Served log s') {session : Session}
    (hdelete : ∀ x ∈ log, x.call ≠ .deleteSession session.slot)
    (honly : ∀ x ∈ log, ∀ other, x.recorded? = some other → other = session)
    (hrecorded : s.live? session.slot = some session.token ∨
      ∃ x ∈ log, x.recorded? = some session) :
    s'.live? session.slot = some session.token := by
  induction h with
  | nil s =>
    rcases hrecorded with hlive | ⟨x, hx, -⟩
    · exact hlive
    · exact absurd hx List.not_mem_nil
  | @answered s s₁ s' x log hserve _ ih =>
    refine ih (fun y hy => hdelete y (List.mem_cons_of_mem x hy))
      (fun y hy => honly y (List.mem_cons_of_mem x hy)) ?_
    by_cases hfirst : x.recorded? = some session
    · exact Or.inl (live?_of_serve_recorded hserve hfirst)
    · -- The call has put nothing on record.
      have huntouched : Untouched s s₁ session.slot := by
        apply serve_untouched hserve _ (hdelete x List.mem_cons_self)
        intro other hother
        rw [← recorded?_of_serve hserve] at hother
        exact absurd (honly x List.mem_cons_self other hother ▸ hother) hfirst
      rw [huntouched.live?_eq (serve_sameClocks hserve)]
      rcases hrecorded with hlive | ⟨y, hy, hsession⟩
      · exact Or.inl hlive
      · rcases List.mem_cons.mp hy with rfl | hy
        · exact absurd hsession hfirst
        · exact Or.inr ⟨y, hy, hsession⟩
  | @failed s s' x log hfailed _ ih =>
    refine ih (fun y hy => hdelete y (List.mem_cons_of_mem x hy))
      (fun y hy => honly y (List.mem_cons_of_mem x hy)) ?_
    rcases hrecorded with hlive | ⟨y, hy, hsession⟩
    · exact Or.inl hlive
    · rcases List.mem_cons.mp hy with rfl | hy
      · rw [hfailed.recorded?_eq_none] at hsession
        exact absurd hsession (by simp)
      · exact Or.inr ⟨y, hy, hsession⟩

end System

namespace Service

open Operation

/-! ## Requests that fail -/

/-- The request is there to get new tokens. -/
inductive Request.Issues : Request → Prop
  | login (username password : String) : Issues (.login username password)
  | refresh (raw : String) : Issues (.refresh raw)
  | changePassword (caller : Caller) (current new : String) :
      Issues (.changePassword caller current new)

/-- A call that clears no slot. -/
def ClearsNothing (_ : List Exchange) (c : Call) : Prop := ∀ slot, c ≠ .deleteSession slot

theorem permits_clearsNothing (r : Request) : Permits r ClearsNothing where
  free := by
    rintro past _ h slot rfl
    exact h
  read := fun _ _ _ _ => Call.noConfusion
  update := fun _ _ _ _ _ _ _ _ => Call.noConfusion
  sign := fun _ _ _ _ _ _ _ => Call.noConfusion
  save := fun _ _ _ _ _ _ _ => Call.noConfusion

theorem Request.Issues.traced {r : Request} (h : r.Issues) :
    r.operation.Traced ClearsNothing (fun _ _ => True)
      (fun past => NothingRecorded past ∨ HalfRecorded past) [] := by
  have hpermits := permits_clearsNothing r
  cases h with
  | login username password =>
    exact (traced_login hpermits).mono (fun _ _ _ => trivial) fun _ => id
  | refresh raw => exact (traced_refresh hpermits).mono (fun _ _ _ => trivial) fun _ => id
  | changePassword caller current new =>
    exact (traced_changePassword hpermits).mono (fun _ _ _ => trivial) fun _ => id

/-- The access slot of a user holds another token, and all other slots are untouched. -/
structure HalfOpened (s : System) (user : UserId) (access : String) (s' : System) : Prop where
  live : s'.live? ⟨user, .access⟩ = some access
  untouched : ∀ slot, slot ≠ ⟨user, .access⟩ → System.Untouched s s' slot

/-- **A request for new tokens that fails leaves all slots as they were**, unless it has got as far
as to ask for a refresh token: then its access token may be on record. -/
theorem untouched_or_halfOpened {r : Request} (hr : r.Issues) {plan : Plan}
    (hplan : plan.OnlyFails) {s s' : System} {e : ServiceError} {calls : List Call}
    (h : r.operation.run plan s = ⟨.returned (.error e), calls, s'⟩) :
    (∀ slot, System.Untouched s s' slot) ∨ ∃ user access ttl,
      .saveSession ⟨user, .access, access⟩ ttl ∈ calls ∧ .signToken user .refresh [] ∈ calls ∧
        HalfOpened s user access s' := by
  have hending : (r.operation.run plan s).ending = .returned (.error e) := congrArg Run.ending h
  obtain ⟨log, hcalls, hserved, hsafe, -, hfail⟩ := Flow.exists_served hr.traced.flow hplan hending
  have hsystem : (r.operation.run plan s).system = s' := congrArg Run.system h
  have hserved' : s.Served log s' := hsystem ▸ hserved
  have hcalls' : log.map Exchange.call = calls := hcalls.trans (congrArg Run.calls h)
  have hdelete : ∀ slot, ∀ x ∈ log, x.call ≠ .deleteSession slot := by
    intro slot x hx
    obtain ⟨past, hclears⟩ := hsafe x hx
    exact hclears slot
  have hcases : NothingRecorded log ∨ HalfRecorded log := hfail e rfl
  rcases hcases with hnothing | ⟨user, access, ⟨ttl, hsave⟩, ⟨answer, hsign⟩, honly⟩
  · left
    intro slot
    apply hserved'.untouched (hdelete slot)
    intro x hx session hsession
    exact absurd ((hnothing x hx).symm.trans hsession) (by simp)
  · let session : Session := ⟨user, .access, access⟩
    have hrecorded : ∃ x ∈ log, x.recorded? = some session := ⟨_, hsave, rfl⟩
    have hlive : s'.live? session.slot = some session.token :=
      hserved'.live?_of_recorded (hdelete session.slot) honly (Or.inr hrecorded)
    refine Or.inr ⟨user, access, ttl, ?_, ?_, hlive, ?_⟩
    · exact hcalls' ▸ List.mem_map_of_mem hsave
    · exact hcalls' ▸ List.mem_map_of_mem hsign
    · intro slot hslot
      apply hserved'.untouched (hdelete slot)
      intro x hx session hsession
      rw [honly x hx session hsession]
      exact hslot

end Service

/-! ## Calls that a plan spares -/

/-- The run with other calls in front of its own. -/
def Run.behind {α : Type} (calls : List Call) (r : Run α) : Run α :=
  { r with calls := calls ++ r.calls }

/-- A part of an operation whose calls the plan leaves alone is carried out as among healthy
collaborators. -/
theorem Flow.run_bind_of_spared {α β : Type} {safe : List Exchange → Call → Prop}
    {post : List Exchange → α → Prop} {past : List Exchange} {x : Flow α} {f : α → Flow β}
    {plan : Plan} (h : x.Along safe post past)
    (hspared : ∀ past c, safe past c → ∀ n, plan n c = none) {s s' : System} {a : α}
    (hsettle : x.settle s = some (a, s')) (n : Nat) :
    ∃ m calls, (x >>= f).run plan n s = ((f a).run plan m s').behind calls := by
  induction x generalizing past s n with
  | done b =>
    obtain ⟨rfl, rfl⟩ := Prod.mk.inj (Option.some.inj hsettle)
    exact ⟨n, [], rfl⟩
  | call c next ih =>
    rw [settle_call] at hsettle
    obtain ⟨⟨answer, s₁⟩, hserve, hrest⟩ := Option.bind_eq_some_iff.mp hsettle
    obtain ⟨m, calls, hrun⟩ := ih answer (h.2 answer (System.serve_fair hserve)) hrest (n + 1)
    refine ⟨m, c :: calls, ?_⟩
    rw [call_bind, run, hspared past c h.1 n, hserve]
    exact congrArg (Run.after c) hrun

theorem Operation.run_bind_of_spared {α β : Type} {safe : List Exchange → Call → Prop}
    {post : List Exchange → α → Prop} {past : List Exchange} {op : Operation α}
    {f : α → Operation β} {plan : Plan} (h : op.Along safe post past)
    (hspared : ∀ past c, safe past c → ∀ n, plan n c = none) {s s' : System} {a : α}
    (hsettle : op.settle s = some (.ok a, s')) (n : Nat) :
    ∃ m calls, Flow.run plan n (ExceptT.run (op >>= f)) s =
      (Flow.run plan m (ExceptT.run (f a)) s').behind calls := by
  rw [ExceptT.run_bind]
  exact Flow.run_bind_of_spared h.flow hspared hsettle n

namespace Sample

open Operation Service

/-- Refresh tokens cannot be signed. -/
def outage : Outage := [(.signToken (some .refresh), .other (.infrastructure "out of order"))]

theorem onlyFails_outage : (Outage.plan outage).OnlyFails := Outage.onlyFails_plan _ (by decide)

theorem run_login_outage : ∃ calls, (Service.login "alice" "secret123").run (Outage.plan outage)
    system = ⟨.returned (.error (.infrastructure "out of order")), calls, halfOpened⟩ := by
  let spared (_ : List Exchange) (c : Call) : Prop := ∀ n, Outage.plan outage n c = none
  have hfree : ∀ past c, c.IsFree → spared past c := by
    intro past c h n
    cases c with
    | findByUsername _ | findById _ | hashPassword _ | checkPassword _ _ | verifyToken _
    | readClock => rfl
    | _ => exact h.elim
  have haccess : (openAccess "alice" "secret123").Along spared (fun _ _ => True) [] := by
    refine along_bind (Request.traced_authenticate hfree "alice" "secret123").along ?_
    rintro past user ⟨-, hnone⟩
    have hgrant : (grantToken user.id .access (sessionClaims user)).Traced spared _ _ past :=
      traced_grantToken hfree (fun _ => rfl) (hnone.unsaved _) fun _ _ _ _ _ _ _ => rfl
    exact along_bind hgrant.along fun _ _ _ => along_pure trivial
  obtain ⟨m, calls, hfirst⟩ := run_bind_of_spared haccess (fun _ _ => id) settle_openAccess 0
  rw [Operation.run, login_eq, hfirst]
  exact ⟨_, rfl⟩

/-- The login has failed, and there is an access token on record all the same. -/
theorem live?_halfOpened :
    halfOpened.live? ⟨alice.id, .access⟩ ≠ system.live? ⟨alice.id, .access⟩ := by
  have hrecord := System.onRecord_grant steady_system alice.id .access
    (supplement_sessionClaims alice)
  have hlt : halfOpened.now.seconds < system.expiry .access :=
    sameClocks_halfOpened.now ▸ steady_system.lt_expiry .access
  have hlive : halfOpened.live? ⟨alice.id, .access⟩ = some _ :=
    hrecord.live?_eq (sameClocks_halfOpened.steady steady_system) hlt
  have hnone : system.live? ⟨alice.id, .access⟩ = none := SessionStore.live?_empty _ _
  rw [hlive, hnone]
  simp

end Sample

namespace Service

/-- A login or a refresh that fails, as one collaborator is out of order, leaves all slots as they
were. -/
def IssuingAtomic : Prop :=
  ∀ s₀ events s, Fresh s₀ → History s₀ events s → s.Room →
    ∀ r : Request, (∃ username password, r = .login username password) ∨ (∃ raw, r = .refresh raw) →
      ∀ point failure e calls s', r.operation.run (Outage.plan [(point, failure)]) s =
        ⟨.returned (.error e), calls, s'⟩ → ∀ slot, s'.live? slot = s.live? slot

/-- **A login that fails may leave an access token on record.** -/
theorem not_issuingAtomic : ¬ IssuingAtomic := by
  intro h
  obtain ⟨calls, hrun⟩ := Sample.run_login_outage
  have hfresh : Fresh Sample.system := ⟨Sample.steady_system, rfl⟩
  exact Sample.live?_halfOpened (h _ _ _ hfresh .start Sample.room_system
    (.login "alice" "secret123") (Or.inl ⟨_, _, rfl⟩) _ _ _ calls _ hrun ⟨Sample.alice.id, .access⟩)

/-- A login while refresh tokens cannot be signed. -/
theorem halfOpened_of_outage : (Outage.plan Sample.outage).OnlyFails ∧ ∃ calls user access ttl,
    (Request.login "alice" "secret123").operation.run (Outage.plan Sample.outage) Sample.system =
      ⟨.returned (.error (.infrastructure "out of order")), calls, Sample.halfOpened⟩ ∧
    .saveSession ⟨user, .access, access⟩ ttl ∈ calls ∧ .signToken user .refresh [] ∈ calls ∧
    HalfOpened Sample.system user access Sample.halfOpened := by
  obtain ⟨calls, hrun⟩ := Sample.run_login_outage
  have hcases := untouched_or_halfOpened (.login "alice" "secret123") Sample.onlyFails_outage hrun
  have htouched : ¬ ∀ slot, System.Untouched Sample.system Sample.halfOpened slot := fun h =>
    Sample.live?_halfOpened ((h _).live?_eq Sample.sameClocks_halfOpened)
  obtain ⟨user, access, ttl, hsave, hsign, hopened⟩ := hcases.resolve_left htouched
  exact ⟨Sample.onlyFails_outage, calls, user, access, ttl, hrun, hsave, hsign, hopened⟩

end Service

end SessionAuth
