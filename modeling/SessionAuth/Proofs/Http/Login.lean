import SessionAuth.Proofs.Http.Gate

/-!
# Logins that are refused

A login is refused because there is no such username, because the password is wrong, or because it
could not be found out. A client is never told which of these it was.

* `error_of_authenticate`: every reason comes to the same error.
* `Request.AsksLogin`: the requests to log in.
* `Refused`: the username and the password of a request have been checked in vain.
* `respond_of_refused`: the response to such a request.
* `refused_alike`: the main statement.
-/

namespace SessionAuth

namespace Service

open Operation

/-- Whatever is answered, a username and a password are checked without writing anything, and there
is one error only. -/
theorem only_authenticate (username password : String) :
    (authenticate username password).Only (fun c => ¬ c.Writes) fun r =>
      ∀ e, r = .error e → e = .auth .invalidCredentials := by
  have hthrow : (throw (.auth .invalidCredentials) : Operation User).Only (fun c => ¬ c.Writes)
      fun r => ∀ e, r = .error e → e = .auth .invalidCredentials :=
    only_throw fun _ he => (Except.error.inj he).symm
  rw [authenticate]
  split
  · exact hthrow
  refine only_ask_bind id fun found => ?_
  split
  · refine only_ask_bind id fun checked => ?_
    split
    · exact only_pure fun _ he => absurd he (by simp)
    · exact hthrow
  · exact hthrow

theorem error_of_authenticate {plan : Plan} {s : System} {username password : String}
    {e : ServiceError}
    (h : ((authenticate username password).run plan s).ending = .returned (.error e)) :
    e = .auth .invalidCredentials :=
  (only_authenticate username password).of_returned h e rfl

end Service

namespace Http

/-- The request asks to log in with a username and a password: its body is a record of the two. -/
structure Request.AsksLogin (r : Request) (username password : String) : Prop where
  method : r.method = "POST"
  path : r.path = "/api/v1/auth/login"
  texts : ∃ texts, r.texts ["username", "password"] = .ok texts ∧
    texts.getD 0 "" = username ∧ texts.getD 1 "" = password

/-- The request asks to log in, and its username and its password have been checked in vain. -/
def Refused (plan : Plan) (s : System) (r : Request) : Prop :=
  ∃ username password e, r.AsksLogin username password ∧
    ((Service.authenticate username password).run plan s).ending = .returned (.error e)

theorem dispatch_login {r : Request} {username password : String}
    (h : r.AsksLogin username password) :
    dispatch r = perform (Service.login username password) fun result =>
      .json 200 result.toJson := by
  obtain ⟨hmethod, hpath, texts, htexts, rfl, rfl⟩ := h
  have hroute : dispatch r = Route.login.handle r := by
    rw [dispatch, hmethod, hpath]
    rfl
  rw [hroute, Route.handle, withTexts, htexts]

/-- **The response to a login that is refused** is the one to all who are turned away, and nothing
has changed. -/
theorem respond_of_refused (server : Server) {plan : Plan} {s : System} {r : Request}
    (h : Refused plan s r) :
    (server.respond plan r s).ending =
        .returned (Response.unauthorized.withHeaders (server.cors.headers r)) ∧
      s.Intact (server.respond plan r s).system := by
  obtain ⟨username, password, e, hasks, hending⟩ := h
  obtain rfl := Service.error_of_authenticate hending
  have hintact := ((Service.only_authenticate username password).intact plan s).1
  rw [Operation.run] at hending hintact
  rw [server.respond_eq_finish, dispatch_login hasks, perform, Flow.run_map, Service.login,
    Operation.run_bind_of_error hending, Ending.map, respond, Response.ofError_auth,
    server.finish_returned]
  dsimp only
  exact ⟨rfl, hintact⟩

/-- **A refused login does not tell which usernames there are.** Take two requests to log in, two
systems, and whatever becomes of the calls in each of them. If neither username with its password
has been found to be right, then both responses have the status 401 and the same body, and no
account and no slot has changed. -/
theorem refused_alike (server : Server) {plan₁ plan₂ : Plan} {s₁ s₂ : System} {r₁ r₂ : Request}
    (h₁ : Refused plan₁ s₁ r₁) (h₂ : Refused plan₂ s₂ r₂) :
    ∃ response₁ response₂, (server.respond plan₁ r₁ s₁).ending = .returned response₁ ∧
      (server.respond plan₂ r₂ s₂).ending = .returned response₂ ∧
      response₁.status = 401 ∧ response₂.status = 401 ∧ response₁.body = response₂.body ∧
      s₁.Intact (server.respond plan₁ r₁ s₁).system ∧
      s₂.Intact (server.respond plan₂ r₂ s₂).system := by
  obtain ⟨hending₁, hintact₁⟩ := respond_of_refused server h₁
  obtain ⟨hending₂, hintact₂⟩ := respond_of_refused server h₂
  refine ⟨_, _, hending₁, hending₂, rfl, rfl, ?_, hintact₁, hintact₂⟩
  rw [Response.withHeaders_body, Response.withHeaders_body]

/-! ## Nobody and somebody -/

section Sample

open Operation

/-- A request to log in, with a username and a password in its body. -/
def loginRequest (username password : String) : Request where
  method := "POST"
  path := "/api/v1/auth/login"
  headers := [("content-type", "application/json")]
  body := "\x7b\"username\":\"" ++ username ++ "\",\"password\":\"" ++ password ++ "\"\x7d"

/-- A username without an account. -/
def nobody : Username := ⟨"nobody", by decide, by decide⟩

theorem refused_nobody : Refused Plan.none Sample.system (loginRequest "nobody" "secret123") := by
  have hasks : (loginRequest "nobody" "secret123").AsksLogin "nobody" "secret123" :=
    ⟨rfl, rfl, ["nobody", "secret123"], by decide +kernel, rfl, rfl⟩
  have hname : Username.ofText "nobody" = .ok nobody := by decide
  have hfind : Sample.system.serve (.findByUsername nobody) = some (.ok none, Sample.system) := by
    rw [System.serve, (by decide : Sample.system.users.findByUsername nobody = none)]
  have hsettle : (Service.authenticate "nobody" "secret123").settle Sample.system =
      some (.error (.auth .invalidCredentials), Sample.system) := by
    rw [Service.authenticate, hname]
    dsimp only
    rw [settle_bind_ok (settle_ask hfind)]
    rfl
  exact ⟨_, _, _, hasks, (settle_eq_some_iff.mp hsettle).1⟩

theorem refused_alice : Refused Plan.none Sample.system (loginRequest "alice" "secret124") := by
  have hasks : (loginRequest "alice" "secret124").AsksLogin "alice" "secret124" :=
    ⟨rfl, rfl, ["alice", "secret124"], by decide +kernel, rfl, rfl⟩
  have hfind : Sample.system.serve (.findByUsername Sample.alice.username) =
      some (.ok (some Sample.alice), Sample.system) := by
    rw [System.serve, Sample.findByUsername_alice]
  have hcheck : Sample.system.serve (.checkPassword "secret124" Sample.alice.passwordHash.text) =
      some (.error (.auth .invalidCredentials), Sample.system) := by
    have hplain : Hasher.plain.check "secret124" Sample.alice.passwordHash.text =
        .error (.auth .invalidCredentials) := by decide
    exact congrArg (fun r => some (r, Sample.system)) hplain
  have hsettle : (Service.authenticate "alice" "secret124").settle Sample.system =
      some (.error (.auth .invalidCredentials), Sample.system) := by
    rw [Service.authenticate, Sample.ofText_username]
    dsimp only
    rw [settle_bind_ok (settle_ask hfind)]
    dsimp only
    rw [settle_bind_ok (settle_ask hcheck)]
    rfl
  exact ⟨_, _, _, hasks, (settle_eq_some_iff.mp hsettle).1⟩

/-- A username that does not exist and a wrong password look the same. -/
theorem nobody_alike_alice :
    Refused Plan.none Sample.system (loginRequest "nobody" "secret123") ∧
    Refused Plan.none Sample.system (loginRequest "alice" "secret124") ∧
    ∃ response₁ response₂,
      (ownServer.respond Plan.none (loginRequest "nobody" "secret123") Sample.system).ending =
        .returned response₁ ∧
      (ownServer.respond Plan.none (loginRequest "alice" "secret124") Sample.system).ending =
        .returned response₂ ∧
      response₁.status = 401 ∧ response₂.status = 401 ∧ response₁.body = response₂.body := by
  obtain ⟨response₁, response₂, hending₁, hending₂, hstatus₁, hstatus₂, hbody, -⟩ :=
    refused_alike ownServer refused_nobody refused_alice
  exact ⟨refused_nobody, refused_alice, response₁, response₂, hending₁, hending₂, hstatus₁,
    hstatus₂, hbody⟩

end Sample

end Http

end SessionAuth
