import SessionAuth.Http.Server
import SessionAuth.Proofs.Service.AnyPlan
import SessionAuth.Proofs.Service.Sample

/-!
# Routes that act for a caller

Four routes act for a caller. Whatever a request to one of them looks like, and whatever becomes of
the calls that it leads to, the service acts for nobody but the caller whom it has accepted the
presented token as. Without such a caller nothing happens, and the response tells no more than that.

* `Request.Presents`: the token that a request presents.
* `Guarded`: the routes; `Guarded.act` is what each of them has the service do for a caller.
* `Verdict`: how a validation may end; `verdict_of_validate` for any plan.
* `TurnedAway`: nothing has happened, and the response tells nothing.
* `respond_guarded`: the main statement.
-/

namespace SessionAuth

/-! ## Validation under any plan -/

/-- A call of the run was to read a slot, and the store has reported an error. -/
def Plan.HidesSlot (plan : Plan) (calls : List Call) : Prop :=
  ∃ n slot e, calls[n]? = some (.getSession slot) ∧
    plan n (.getSession slot) = some (.answer (.error e))

namespace Service

open Operation

theorem only_validate (raw : String) :
    (validate raw).Only (fun c => ¬ c.Writes) fun _ => True := by
  refine only_ask_bind id fun verified => ?_
  rcases verified with _ | claims
  · exact only_throw trivial
  refine only_ofResult_bind (fun user => only_ask_bind id fun read => ?_) fun _ _ => trivial
  refine only_ofResult_bind (fun stored => ?_) fun _ _ => trivial
  split
  · exact only_pure trivial
  · exact only_throw trivial

/-- How a validation ends: the token is accepted or refused, or there was no telling. -/
inductive Verdict (plan : Plan) (v : Run (Except ServiceError Caller)) : Prop
  | accepted (caller : Caller) (ending : v.ending = .returned (.ok caller))
  | refused (e : AuthError) (ending : v.ending = .returned (.error (.auth e)))
  | unread (cause : String) (ending : v.ending = .returned (.error (.infrastructure cause)))
      (hidden : plan.HidesSlot v.calls)
  | hung (ending : v.ending = .hung) (silent : plan.Silences v.calls)

/-- Only the plan can make the store report an error. -/
theorem answered_of_error {plan : Plan} {n : Nat} {s s' : System} {slot : Slot} {e : ServiceError}
    (h : plan.serve n s (.getSession slot) = (.returned (.error e), s')) :
    plan n (.getSession slot) = some (.answer (.error e)) := by
  rw [Plan.serve] at h
  cases hreply : plan n (.getSession slot) with
  | none =>
    rw [hreply, serve_get] at h
    exact absurd (Ending.returned.inj (Prod.mk.inj h).1) (by simp)
  | some reply =>
    rw [hreply] at h
    cases reply with
    | answer a => rw [Ending.returned.inj (Prod.mk.inj h).1]
    | silence => exact absurd (Prod.mk.inj h).1 (by simp)

theorem verdict_of_returned {plan : Plan} {s : System} {raw : String}
    {r : Except ServiceError Caller} (h : ((validate raw).run plan s).ending = .returned r) :
    Verdict plan ((validate raw).run plan s) := by
  rw [Operation.run, validate] at h ⊢
  obtain ⟨verified, s₁, -, hrun⟩ := of_run_ask_bind h
  rw [hrun] at h ⊢
  rcases verified with e | claims
  · exact .refused _ rfl
  dsimp only at h ⊢
  cases hsubject : claims.subject with
  | error e => exact .refused e rfl
  | ok user =>
    rw [hsubject] at h
    -- The calls so far are the one that has verified the token and the one that has read the slot.
    obtain ⟨read, s₂, hread, hrest⟩ := of_run_ask_bind h
    rw [mapError_ok, run_ofResult_ok_bind, hrest]
    rcases read with e | stored
    · exact .unread _ rfl ⟨1, _, e, rfl, answered_of_error hread⟩
    · rw [orFailed, mapError_ok, run_ofResult_ok_bind]
      split
      · exact .accepted _ rfl
      · exact .refused _ rfl

theorem verdict_of_validate (plan : Plan) (s : System) (raw : String) :
    Verdict plan ((validate raw).run plan s) := by
  cases hending : ((validate raw).run plan s).ending with
  | returned r => exact verdict_of_returned hending
  | hung => exact .hung hending (silences_of_hung hending)
  | crashed => exact absurd hending ((only_validate raw).intact plan s).2

end Service

namespace Http

open Service

/-! ## Presented tokens -/

namespace Request

variable {r : Request} {token : String}

/-- The request presents a token: the one in its `Authorization` header or, where the header holds
none, the one in its cookie, unless that is empty. -/
def Presents (r : Request) (token : String) : Prop :=
  r.bearer? = some token ∨ r.bearer? = none ∧ r.cookie? authCookie = some token ∧ token ≠ ""

theorem presents_iff : r.Presents token ↔ r.token? = some token := by
  rw [Presents, token?, Option.or_eq_some_iff, Option.filter_eq_some_iff]
  simp

/-- A request with a method, a path and a token in its header, and nothing else. -/
def withBearer (method path token : String) : Request :=
  ⟨method, path, [("authorization", "Bearer " ++ token)], ""⟩

theorem presents_withBearer (method path : String)
    (hvisible : ∀ c ∈ token.toList, 33 ≤ c.toNat ∧ c.toNat ≤ 126) :
    (withBearer method path token).Presents token := by
  have hname : ("authorization".toLower == "authorization") = true := by decide +kernel
  have hvalue : (withBearer method path token).value? "authorization" =
      some ("Bearer " ++ token) := by
    rw [value?, values, withBearer, List.filter_cons, if_pos hname]
    rfl
  have hreadable : readable? ("Bearer " ++ token) = some ("Bearer " ++ token) := by
    refine if_pos (List.all_eq_true.mpr fun c hc => ?_)
    rw [String.toList_append] at hc
    rcases List.mem_append.mp hc with hc | hc
    · exact List.all_eq_true.mp (by decide : "Bearer ".toList.all fun c =>
        (32 ≤ c.toNat && c.toNat < 127) || c == '\t') c hc
    · obtain ⟨hlow, hhigh⟩ := hvisible c hc
      simp only [Bool.or_eq_true, Bool.and_eq_true, decide_eq_true_eq]
      omega
  have htrim : Text.trimStart token.toList = token.toList := by
    refine Text.trimStart_eq_self fun c hc => ?_
    obtain ⟨hlow, hhigh⟩ := hvisible c (List.mem_of_mem_head? hc)
    exact Text.not_blank_of_visible hlow hhigh
  have hsplit : ("Bearer " ++ token).toList.splitAt bearerScheme.length =
      ("Bearer".toList, ' ' :: token.toList) := by
    rw [String.toList_append, List.splitAt_eq]
    rfl
  have hscheme : "Bearer".toList.map Char.toLower = bearerScheme := by decide
  refine Or.inl ?_
  rw [bearer?, hvalue, Option.bind_some, hreadable, Option.bind_eq_bind, Option.bind_some, hsplit]
  change (if _ then some (String.ofList (Text.trimStart token.toList)) else none) = _
  rw [if_pos hscheme, htrim, String.ofList_toList]

end Request

/-! ## The routes -/

/-- The routes that act for a caller. -/
inductive Guarded where
  | logout
  | profile
  | changePassword
  | softDelete
deriving DecidableEq, Repr

namespace Guarded

def method : Guarded → String
  | .logout | .changePassword => "POST"
  | .profile => "GET"
  | .softDelete => "DELETE"

def path : Guarded → String
  | .logout => "/api/v1/auth/logout"
  | .profile => "/api/v1/auth/me"
  | .changePassword => "/api/v1/users/me/password"
  | .softDelete => "/api/v1/users/me"

/-- The request goes to the route. -/
def Receives (g : Guarded) (r : Request) : Prop := r.method = g.method ∧ r.path = g.path

/-- What the route does for a caller: it has the service act under the id of the caller. A new
password is asked for in the body. -/
def act (r : Request) (caller : Caller) : Guarded → Flow Response
  | .logout => perform (Service.logout caller.id) fun _ => .empty 204
  | .profile => perform (Service.profile caller) fun profile => .json 200 profile.toJson
  | .changePassword => withTexts r ["current_password", "new_password"] fun texts =>
    perform (Service.changePassword caller (texts.getD 0 "") (texts.getD 1 "")) fun tokens =>
      .json 200 tokens.toJson
  | .softDelete => perform (Service.softDelete caller) fun _ => .empty 204

theorem dispatch_eq {g : Guarded} {r : Request} (h : g.Receives r) :
    dispatch r = withCaller r fun caller => g.act r caller := by
  obtain ⟨hmethod, hpath⟩ := h
  rw [dispatch, hmethod, hpath]
  cases g <;> rfl

end Guarded

/-- The run of a route for a caller, behind the validation that has accepted the token as that of
the caller. -/
def Guarded.proceed (g : Guarded) (plan : Plan) (s : System) (r : Request) (token : String)
    (caller : Caller) : Run Response :=
  let v := (validate token).run plan s
  ((g.act r caller).run plan v.calls.length v.system).behind v.calls

/-! ## Responses -/

/-- The run of a server that has come by a response in a run. -/
def Server.finish (server : Server) (r : Request) (run : Run Response) : Run Response :=
  { run with ending := match run.ending with
    | .returned response => .returned (response.withHeaders (server.cors.headers r))
    | .hung => .returned (Server.timedOut.withHeaders (server.cors.headers r))
    | .crashed => .crashed }

theorem Server.respond_eq_finish (server : Server) (plan : Plan) (r : Request) (s : System) :
    server.respond plan r s = server.finish r ((dispatch r).run plan 0 s) := rfl

theorem Server.finish_returned (server : Server) (r : Request) (response : Response)
    (calls : List Call) (s : System) : server.finish r ⟨.returned response, calls, s⟩ =
      ⟨.returned (response.withHeaders (server.cors.headers r)), calls, s⟩ := rfl

theorem Response.ofError_auth (e : AuthError) : ofError (.auth e) = unauthorized := rfl

@[simp] theorem Response.withHeaders_body (response : Response)
    (headers : List (String × String)) : (response.withHeaders headers).body = response.body := rfl

/-- Nothing has happened, and the response tells nothing: it is the one to callers who are turned
away, or the one to failures because a slot could not be read, or that of the deadline because a
call has never returned. -/
structure TurnedAway (server : Server) (plan : Plan) (r : Request) (s : System)
    (run : Run Response) : Prop where
  response :
    run.ending = .returned (Response.unauthorized.withHeaders (server.cors.headers r)) ∨
    run.ending = .returned (Response.internal.withHeaders (server.cors.headers r)) ∧
      plan.HidesSlot run.calls ∨
    run.ending = .returned (Server.timedOut.withHeaders (server.cors.headers r)) ∧
      plan.Silences run.calls
  intact : s.Intact run.system
  calls : run.calls = [] ∨
    ∃ token, r.Presents token ∧ run.calls = ((Service.validate token).run plan s).calls

section Gate

variable {server : Server} {plan : Plan} {s : System} {g : Guarded} {r : Request}

theorem respond_of_no_token (h : g.Receives r) (htoken : r.token? = none) :
    server.respond plan r s = server.finish r ⟨.returned .unauthorized, [], s⟩ := by
  have hdispatch : dispatch r = pure .unauthorized := by
    rw [Guarded.dispatch_eq h, withCaller, htoken]
  rw [Server.respond, hdispatch]
  rfl

/-- What comes after a token has been judged goes on from the run that has judged it. -/
theorem respond_of_token (h : g.Receives r) {token : String} (htoken : r.token? = some token) :
    server.respond plan r s = server.finish r
      ((((validate token).run plan s).ending.andThen ((validate token).run plan s).system fun
        | .ok caller => (g.act r caller).run plan ((validate token).run plan s).calls.length
            ((validate token).run plan s).system
        | .error e => ⟨.returned (.ofError e), [], ((validate token).run plan s).system⟩).behind
          ((validate token).run plan s).calls) := by
  have hdispatch : dispatch r = ExceptT.run (validate token) >>= fun
      | .ok caller => g.act r caller
      | .error e => pure (.ofError e) := by
    have hcaller := Guarded.dispatch_eq h
    rw [withCaller, htoken] at hcaller
    exact hcaller
  rw [Server.respond_eq_finish, hdispatch, Flow.run_bind, Nat.zero_add]
  change server.finish r ((((validate token).run plan s).ending.andThen _ _).behind _) = _
  congr 3
  funext result
  cases result <;> rfl

/-- The request presents a token, and a validation of it accepts it as that of the caller. -/
def Admits (plan : Plan) (s : System) (r : Request) (token : String) (caller : Caller) : Prop :=
  r.Presents token ∧ ((validate token).run plan s).ending = .returned (.ok caller)

theorem turnedAway_of_token (h : g.Receives r) {token : String} (hpresents : r.Presents token)
    (hrefused : ∀ caller, ((validate token).run plan s).ending ≠ .returned (.ok caller)) :
    TurnedAway server plan r s (server.respond plan r s) := by
  have hintact := ((only_validate token).intact plan s).1
  have hcalls := List.append_nil ((validate token).run plan s).calls
  rw [respond_of_token h (Request.presents_iff.mp hpresents)]
  cases verdict_of_validate plan s token with
  | accepted caller hending => exact absurd hending (hrefused caller)
  | refused e hending =>
    rw [hending]
    exact ⟨Or.inl rfl, hintact, Or.inr ⟨token, hpresents, hcalls⟩⟩
  | unread cause hending hhidden =>
    rw [hending]
    rw [← hcalls] at hhidden
    exact ⟨Or.inr (Or.inl ⟨rfl, hhidden⟩), hintact, Or.inr ⟨token, hpresents, hcalls⟩⟩
  | hung hending hsilent =>
    rw [hending]
    rw [← hcalls] at hsilent
    exact ⟨Or.inr (Or.inr ⟨rfl, hsilent⟩), hintact, Or.inr ⟨token, hpresents, hcalls⟩⟩

/-- **A guarded route acts for an accepted caller only.** Whatever a request to it looks like, and
whatever becomes of the calls: if the request presents a token, and a validation accepts the token
as that of a caller, then the route acts for this caller; and if there is no such caller, then the
request is turned away, and nothing has happened. -/
theorem respond_guarded (server : Server) (plan : Plan) (s : System) (h : g.Receives r) :
    (∀ token caller, Admits plan s r token caller →
      server.respond plan r s = server.finish r (g.proceed plan s r token caller)) ∧
    ((∀ token caller, ¬ Admits plan s r token caller) →
      TurnedAway server plan r s (server.respond plan r s)) := by
  refine ⟨fun token caller ⟨hpresents, hending⟩ => ?_, fun hnobody => ?_⟩
  · rw [respond_of_token h (Request.presents_iff.mp hpresents), hending]
    rfl
  · cases htoken : r.token? with
    | none =>
      rw [respond_of_no_token h htoken]
      exact ⟨Or.inl rfl, .refl s, Or.inl rfl⟩
    | some token =>
      have hpresents := Request.presents_iff.mpr htoken
      exact turnedAway_of_token h hpresents fun caller hending =>
        hnobody token caller ⟨hpresents, hending⟩

end Gate

/-! ## A deletion with and without a login -/

theorem accepts_of_admits {s : System} {r : Request} {token : String} {caller : Caller}
    (h : Admits Plan.none s r token caller) : s.Accepts .access token caller.id caller.claims := by
  obtain ⟨result, s', hsettle, hiff⟩ := settle_validate s token
  have hending := (Operation.settle_eq_some_iff.mp hsettle).1
  exact (hiff caller).mp (Ending.returned.inj (hending.symm.trans h.2))

section Sample

open Sample (alice pair loggedIn)

/-- A server that the pages of no foreign origin may use. -/
def ownServer : Server := ⟨⟨[]⟩⟩

/-- A request to delete the account of the caller, with the token that a login has given out. -/
def deletion : Request := .withBearer "DELETE" "/api/v1/users/me" pair.access

theorem presents_deletion : deletion.Presents pair.access :=
  Request.presents_withBearer _ _ fun _ hc => Token.visible_of_mem_sign hc

theorem admits_deletion : ∃ claims,
    Admits Plan.none loggedIn deletion pair.access ⟨alice.id, claims⟩ := by
  obtain ⟨claims, haccepts⟩ := Sample.accepts_pair .access
  have hsettle := settle_validate_of_accepts haccepts
  exact ⟨claims, presents_deletion, (Operation.settle_eq_some_iff.mp hsettle).1⟩

theorem not_admits_deletion (token : String) (caller : Caller) :
    ¬ Admits Plan.none Sample.system deletion token caller := by
  intro hadmits
  have hstored := (accepts_of_admits hadmits).stored
  rw [System.live?, Sample.system, SessionStore.live?_empty] at hstored
  exact absurd hstored (by simp)

/-- The account is deleted for the caller who has logged in; before that, nothing happens. -/
theorem respond_deletion : Guarded.softDelete.Receives deletion ∧
    (∃ claims, Admits Plan.none loggedIn deletion pair.access ⟨alice.id, claims⟩ ∧
      ownServer.respond Plan.none deletion loggedIn = ownServer.finish deletion
        (Guarded.softDelete.proceed Plan.none loggedIn deletion pair.access ⟨alice.id, claims⟩)) ∧
    TurnedAway ownServer Plan.none deletion Sample.system
      (ownServer.respond Plan.none deletion Sample.system) := by
  have hreceives : Guarded.softDelete.Receives deletion := ⟨rfl, rfl⟩
  obtain ⟨claims, hadmits⟩ := admits_deletion
  refine ⟨hreceives, ⟨claims, hadmits, ?_⟩, ?_⟩
  · exact (respond_guarded ownServer Plan.none _ hreceives).1 _ _ hadmits
  · exact (respond_guarded ownServer Plan.none _ hreceives).2 not_admits_deletion

end Sample

end Http

end SessionAuth
