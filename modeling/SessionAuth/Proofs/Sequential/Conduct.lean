import SessionAuth.Proofs.Concurrent.PasswordChange
import SessionAuth.Proofs.Sequential.Course

/-!
# What each request writes, and how it may fail

The calls of a request that change accounts or slots are told apart from all others: each kind of
request makes its own ones only, and only for one user. An error comes before the first of them,
or it is the failure of a collaborator.

* `Operation.Ends` and its rules: every call is safe, and results and errors are as stated.
* `Call.Writes`, `Exchange.Harmless`: the calls that change accounts or slots, and the exchanges
  that have changed none.
* `Request.Knows`: the account that a request issues tokens for.
* `Request.Conduct`: the calls that a request may make.
* `Request.Breaks`: the errors that a request may end with.
* `Request.ends_operation`: every request keeps to this contract.
-/

namespace SessionAuth

/-! ## Results and errors together -/

namespace Operation

variable {α β : Type} {safe : List Exchange → Call → Prop} {past : List Exchange}

/-- Every call is safe where it is made, and the operation ends as stated. -/
structure Ends (safe : List Exchange → Call → Prop)
    (post : List Exchange → Except ServiceError α → Prop) (past : List Exchange)
    (op : Operation α) : Prop where
  flow : Flow.Along safe post past (ExceptT.run op)

theorem Ends.mono {post post' : List Exchange → Except ServiceError α → Prop} {op : Operation α}
    (h : op.Ends safe post past) (hpost : ∀ past r, post past r → post' past r) :
    op.Ends safe post' past :=
  ⟨h.flow.mono hpost⟩

theorem ends_ofResult {post : List Exchange → Except ServiceError α → Prop}
    {r : Except ServiceError α} (h : post past r) : (ofResult r).Ends safe post past :=
  ⟨h⟩

theorem ends_pure {post : List Exchange → Except ServiceError α → Prop} {a : α}
    (h : post past (.ok a)) : (pure a : Operation α).Ends safe post past :=
  ⟨h⟩

theorem ends_throw {post : List Exchange → Except ServiceError α → Prop} {e : ServiceError}
    (h : post past (.error e)) : (throw e : Operation α).Ends safe post past :=
  ⟨h⟩

theorem ends_bind {mid : List Exchange → Except ServiceError α → Prop}
    {post : List Exchange → Except ServiceError β → Prop} {op : Operation α}
    {f : α → Operation β} (h : op.Ends safe mid past)
    (hok : ∀ past a, mid past (.ok a) → (f a).Ends safe post past)
    (herror : ∀ past e, mid past (.error e) → post past (.error e)) :
    (op >>= f).Ends safe post past := by
  refine ⟨Flow.Along.bind h.flow fun past r hr => ?_⟩
  cases r with
  | ok a => exact (hok past a hr).flow
  | error e => exact herror past e hr

theorem ends_ask_bind {post : List Exchange → Except ServiceError β → Prop} {c : Call}
    {f : c.Answer → Operation β} (hsafe : safe past c)
    (hrest : ∀ a, Exchange.Fair ⟨c, a⟩ → (f a).Ends safe post (past ++ [⟨c, a⟩])) :
    (ask c >>= f).Ends safe post past :=
  ⟨hsafe, fun a ha => (hrest a ha).flow⟩

theorem ends_ofResult_bind {post : List Exchange → Except ServiceError β → Prop}
    {r : Except ServiceError α} {f : α → Operation β}
    (hok : ∀ a, r = .ok a → (f a).Ends safe post past)
    (herror : ∀ e, r = .error e → post past (.error e)) :
    (ofResult r >>= f).Ends safe post past := by
  cases r with
  | ok a => exact ⟨(hok a rfl).flow⟩
  | error e => exact ⟨herror e rfl⟩

theorem ends_ofDomain_bind {post : List Exchange → Except ServiceError β → Prop}
    {r : Except DomainError α} {f : α → Operation β}
    (hok : ∀ a, r = .ok a → (f a).Ends safe post past)
    (herror : ∀ e, r = .error e → post past (.error (.domain e))) :
    (ofDomain r >>= f).Ends safe post past := by
  cases r with
  | ok a => exact ⟨(hok a rfl).flow⟩
  | error e => exact ⟨herror e rfl⟩

theorem ends_orFailed_bind {post : List Exchange → Except ServiceError β → Prop}
    {heading : String} {r : Except ServiceError α} {f : α → Operation β}
    (hok : ∀ a, r = .ok a → (f a).Ends safe post past)
    (herror : ∀ cause, post past (.error (.failed heading cause))) :
    (orFailed heading r >>= f).Ends safe post past := by
  cases r with
  | ok a => exact ⟨(hok a rfl).flow⟩
  | error e => exact ⟨herror e.message⟩

theorem ends_orFailed {post : List Exchange → Except ServiceError α → Prop} {heading : String}
    {r : Except ServiceError α} (hok : ∀ a, r = .ok a → post past (.ok a))
    (herror : ∀ cause, post past (.error (.failed heading cause))) :
    (orFailed heading r).Ends safe post past := by
  cases r with
  | ok a => exact ⟨hok a rfl⟩
  | error e => exact ⟨herror e.message⟩

/-- The errors of a part that is attempted go to the rest. -/
theorem ends_attempt_bind {mid : List Exchange → Except ServiceError α → Prop}
    {post : List Exchange → Except ServiceError β → Prop} {op : Operation α}
    {f : Except ServiceError α → Operation β} (h : op.Ends safe mid past)
    (hrest : ∀ past r, mid past r → (f r).Ends safe post past) :
    (attempt op >>= f).Ends safe post past := by
  have hrun : ExceptT.run (attempt op >>= f) = ExceptT.run op >>= fun r => ExceptT.run (f r) := by
    rw [ExceptT.run_bind]
    exact bind_assoc (ExceptT.run op) _ _
  exact ⟨hrun ▸ Flow.Along.bind h.flow fun past r hr => (hrest past r hr).flow⟩

end Operation

/-! ## Calls that change something -/

/-- The call is there to change an account or a slot. -/
def Call.Writes : Call → Prop
  | .insertUser _ | .updatePassword _ _ _ | .softDelete _ _ | .saveSession _ _
  | .deleteSession _ => True
  | _ => False

/-- The exchange has changed no account and no slot. -/
def Exchange.Harmless (x : Exchange) : Prop := ¬ x.call.Writes ∨ ∃ e, x.error? = some e

/-- The account that an exchange shows. -/
def Exchange.seen? : Exchange → Option User
  | ⟨.findByUsername _, .ok user?⟩ | ⟨.findById _, .ok user?⟩ => user?
  | ⟨.updatePassword _ _ _, .ok user⟩ => some user
  | _ => none

/-- Nothing has been changed. -/
def AllHarmless (past : List Exchange) : Prop := ∀ x ∈ past, x.Harmless

theorem allHarmless_nil : AllHarmless [] := fun _ h => absurd h List.not_mem_nil

theorem AllHarmless.snoc {past : List Exchange} {x : Exchange} (h : AllHarmless past)
    (hx : x.Harmless) : AllHarmless (past ++ [x]) := by
  intro y hy
  rcases List.mem_append.mp hy with hy | hy
  · exact h y hy
  · obtain rfl := List.mem_singleton.mp hy
    exact hx

/-- A call that is there to change nothing has changed nothing. -/
theorem AllHarmless.ask {past : List Exchange} {c : Call} (h : AllHarmless past) (a : c.Answer)
    (hc : ¬ c.Writes) : AllHarmless (past ++ [⟨c, a⟩]) :=
  h.snoc (Or.inl hc)

namespace Service

open Operation

/-- The extra claims of a token for an account. -/
def supplement (user : User) : TokenKind → Claims
  | .access => sessionClaims user
  | .refresh => []

theorem supplement_supplement (user : User) (kind : TokenKind) :
    TokenProvider.Supplement (supplement user kind) := by
  cases kind with
  | access => exact supplement_sessionClaims user
  | refresh => exact TokenProvider.supplement_nil

namespace Request

/-! ## The contract -/

/-- The request has been shown the account that it is to issue tokens for. -/
def Knows : Request → List Exchange → User → Prop
  | login username _, past, user =>
    ∃ name, Username.ofText username = .ok name ∧ ⟨.findByUsername name, .ok (some user)⟩ ∈ past
  | refresh raw, past, user =>
    ⟨.findById user.id, .ok (some user)⟩ ∈ past ∧
      ∃ claims, ⟨.verifyToken (bareToken raw), .ok claims⟩ ∈ past ∧ claims.subject = .ok user.id
  | changePassword caller _ _, past, user =>
    user.id = caller.id ∧ ∃ hash at', ⟨.updatePassword caller.id hash at', .ok user⟩ ∈ past
  | _, _, _ => False

theorem Knows.mono {r : Request} {past past' : List Exchange} {user : User}
    (h : r.Knows past user) (hsub : past ⊆ past') : r.Knows past' user := by
  cases r with
  | login username password =>
    obtain ⟨name, hname, hfound⟩ := h
    exact ⟨name, hname, hsub hfound⟩
  | refresh raw =>
    obtain ⟨hfound, claims, hverified, hsubject⟩ := h
    exact ⟨hsub hfound, claims, hsub hverified, hsubject⟩
  | changePassword caller current new =>
    obtain ⟨hid, hash, at', hupdated⟩ := h
    exact ⟨hid, hash, at', hsub hupdated⟩
  | register _ | validate _ | logout _ | softDelete _ | profile _ => exact h.elim

theorem Knows.seen {r : Request} {past : List Exchange} {user : User} (h : r.Knows past user) :
    ∃ x ∈ past, x.seen? = some user := by
  cases r with
  | login username password =>
    obtain ⟨name, -, hfound⟩ := h
    exact ⟨_, hfound, rfl⟩
  | refresh raw =>
    obtain ⟨hfound, -⟩ := h
    exact ⟨_, hfound, rfl⟩
  | changePassword caller current new =>
    obtain ⟨-, hash, at', hupdated⟩ := h
    exact ⟨_, hupdated, rfl⟩
  | register _ | validate _ | logout _ | softDelete _ | profile _ => exact h.elim

/-- A request that issues tokens for an account ends nobody's sessions. -/
theorem Knows.not_revokes {r : Request} {past : List Exchange} {user : User}
    (h : r.Knows past user) (id : UserId) : ¬ r.Revokes id := by
  intro hrevokes
  cases r with
  | logout _ | softDelete _ => exact h
  | _ => exact hrevokes

/-- Both slots of a user are cleared, and nothing else is done. -/
def clearing (user : UserId) : List Exchange :=
  [⟨.deleteSession ⟨user, .access⟩, .ok ()⟩, ⟨.deleteSession ⟨user, .refresh⟩, .ok ()⟩]

/-- The calls that a request may make, as far as they change something or sign a token. -/
def Conduct (r : Request) (past : List Exchange) : Call → Prop
  | .insertUser _ => (∃ registration, r = register registration) ∧ AllHarmless past
  | .updatePassword id _ _ => ∃ caller current new, r = changePassword caller current new ∧
      caller.id = id
  | .softDelete id _ => ∃ caller now, r = softDelete caller ∧ caller.id = id ∧
      past = clearing id ++ [⟨.readClock, now⟩]
  | .signToken id kind extra => ∃ user, r.Knows past user ∧ user.id = id ∧
      extra = supplement user kind
  | .saveSession session _ => (∃ user, r.Knows past user ∧ user.id = session.user) ∧
      ∃ extra, ⟨.signToken session.user session.kind extra, .ok session.token⟩ ∈ past
  | .deleteSession slot => r.Revokes slot.user
  | _ => True

/-- The errors that a request may end with. -/
inductive Breaks (r : Request) (past : List Exchange) : ServiceError → Prop
  | failed {e : ServiceError} (h : e.isInfrastructure = true) : Breaks r past e
  | unsigned {e : ServiceError} (user : UserId) (kind : TokenKind) (extra : Claims)
      (h : ⟨.signToken user kind extra, .error e⟩ ∈ past) : Breaks r past e
  | harmless {e : ServiceError} (h : AllHarmless past) : Breaks r past e
  /-- The account to delete could not be deleted, and its slots have been cleared. -/
  | undeleted {caller : Caller} {now : Instant} {e : DomainError} (hr : r = softDelete caller)
      (h : past = clearing caller.id ++
        [⟨.readClock, now⟩, ⟨.softDelete caller.id now, .error e⟩]) : Breaks r past (.domain e)

/-- The request ends without an error or with one that it may end with. -/
def Concludes {α : Type} (r : Request) (past : List Exchange) (result : Except ServiceError α) :
    Prop := ∀ e, result = .error e → r.Breaks past e

section Parts

variable {α : Type} {r : Request} {past : List Exchange}

theorem concludes_ok (a : α) : r.Concludes past (.ok a) := by
  intro e he
  exact absurd he (by simp)

theorem Breaks.concludes {e : ServiceError} (h : r.Breaks past e) :
    r.Concludes past (.error e : Except ServiceError α) := by
  intro e' he
  obtain rfl := Except.error.inj he
  exact h

theorem concludes_of_harmless (h : AllHarmless past) (result : Except ServiceError α) :
    r.Concludes past result :=
  fun _ _ => .harmless h

theorem concludes_failed (heading cause : String) :
    r.Concludes past (.error (.failed heading cause) : Except ServiceError α) :=
  Breaks.concludes (.failed rfl)

/-! ## Issuing -/

theorem ends_storeToken {user : User} {kind : TokenKind} {token : String}
    (hknows : r.Knows past user)
    (hsigned : ∃ extra, ⟨.signToken user.id kind extra, .ok token⟩ ∈ past) :
    (storeToken ⟨user.id, kind, token⟩).Ends r.Conduct
      (fun past' result => past ⊆ past' ∧ r.Concludes past' result) past := by
  rw [storeToken]
  apply ends_ask_bind trivial
  intro verified _
  have hverify : past ⊆ past ++ [⟨.verifyToken token, verified⟩] := List.subset_append_left _ _
  apply ends_orFailed_bind
  · intro claims hclaims
    apply ends_ask_bind trivial
    intro now _
    have hclock := List.Subset.trans hverify
      (List.subset_append_left _ [(⟨.readClock, now⟩ : Exchange)])
    split
    · exact ends_pure ⟨hclock, concludes_ok ()⟩
    · rename_i seconds _
      obtain ⟨extra, hextra⟩ := hsigned
      apply ends_ask_bind ⟨⟨user, hknows.mono hclock, rfl⟩, extra, hclock hextra⟩
      intro saved _
      have hsaved := List.Subset.trans hclock (List.subset_append_left _ 
        [(⟨.saveSession ⟨user.id, kind, token⟩ (.ofSeconds seconds), saved⟩ : Exchange)])
      apply ends_orFailed
      · exact fun _ _ => ⟨hsaved, concludes_ok _⟩
      · exact fun cause => ⟨hsaved, concludes_failed _ cause⟩
  · exact fun cause => ⟨hverify, concludes_failed _ cause⟩

theorem ends_grantToken {user : User} (hknows : r.Knows past user) (kind : TokenKind) :
    (grantToken user.id kind (supplement user kind)).Ends r.Conduct
      (fun past' result => past ⊆ past' ∧ r.Concludes past' result) past := by
  rw [grantToken]
  apply ends_ask_bind ⟨user, hknows, rfl, rfl⟩
  intro signed _
  have hsign : past ⊆ past ++ [⟨.signToken user.id kind (supplement user kind), signed⟩] :=
    List.subset_append_left _ _
  apply ends_ofResult_bind
  · rintro token rfl
    have hmem : ∃ extra, (⟨.signToken user.id kind extra, .ok token⟩ : Exchange) ∈
        past ++ [⟨.signToken user.id kind (supplement user kind), .ok token⟩] :=
      ⟨_, List.mem_append_right _ (List.mem_singleton_self _)⟩
    apply ends_bind (ends_storeToken (hknows.mono hsign) hmem)
    · rintro past' ⟨⟩ ⟨hkept, -⟩
      exact ends_pure ⟨List.Subset.trans hsign hkept, concludes_ok token⟩
    · rintro past' e ⟨hkept, hconcludes⟩
      exact ⟨List.Subset.trans hsign hkept, Breaks.concludes (hconcludes e rfl)⟩
  · rintro e rfl
    have hmem : (⟨.signToken user.id kind (supplement user kind), .error e⟩ : Exchange) ∈
        past ++ [⟨.signToken user.id kind (supplement user kind), .error e⟩] :=
      List.mem_append_right _ (List.mem_singleton_self _)
    exact ⟨hsign, Breaks.concludes (.unsigned _ _ _ hmem)⟩

/-- **Issuing a session signs and saves tokens for the account that is known**, and it fails only
when a collaborator does. -/
theorem ends_issueSession {user : User} (hknows : r.Knows past user) :
    (issueSession user).Ends r.Conduct r.Concludes past := by
  rw [issueSession_eq]
  apply ends_bind (ends_grantToken hknows .access)
  · rintro past₁ access ⟨hkept, -⟩
    apply ends_bind (ends_grantToken (hknows.mono hkept) .refresh)
    · rintro past₂ refresh -
      exact ends_pure (concludes_ok _)
    · rintro past₂ e ⟨-, hconcludes⟩
      exact Breaks.concludes (hconcludes e rfl)
  · rintro past₁ e ⟨-, hconcludes⟩
    exact Breaks.concludes (hconcludes e rfl)

/-! ## Checks -/

theorem ends_authenticate (username password : String) :
    (authenticate username password).Ends (login username password).Conduct
      (fun past result => AllHarmless past ∧
        ∀ user, result = .ok user → (login username password).Knows past user) [] := by
  rw [authenticate]
  split
  · exact ends_throw ⟨allHarmless_nil, fun _ h => absurd h (by simp)⟩
  · rename_i name hname
    apply ends_ask_bind trivial
    intro found _
    have hfound := allHarmless_nil.ask found fun h => h
    rcases found with _ | _ | user
    · exact ends_throw ⟨hfound, fun _ h => absurd h (by simp)⟩
    · exact ends_throw ⟨hfound, fun _ h => absurd h (by simp)⟩
    apply ends_ask_bind trivial
    intro checked _
    have hchecked := hfound.ask checked fun h => h
    rcases checked with _ | ⟨⟩
    · exact ends_throw ⟨hchecked, fun _ h => absurd h (by simp)⟩
    · refine ends_pure ⟨hchecked, ?_⟩
      intro other hother
      obtain rfl := Except.ok.inj hother
      exact ⟨name, hname, by simp⟩

theorem ends_checkRefresh (raw : String) :
    (checkRefresh raw).Ends (refresh raw).Conduct
      (fun past result => AllHarmless past ∧ ∀ id, result = .ok id →
        ∃ claims, ⟨.verifyToken (bareToken raw), .ok claims⟩ ∈ past ∧ claims.subject = .ok id)
      [] := by
  rw [checkRefresh]
  apply ends_ask_bind trivial
  intro verified _
  have hverified := allHarmless_nil.ask verified fun h => h
  apply ends_ofResult_bind
  · rintro claims rfl
    apply ends_ofResult_bind
    · intro id hsubject
      apply ends_ask_bind trivial
      intro read _
      have hread := hverified.ask read fun h => h
      apply ends_ofResult_bind
      · intro stored _
        split
        · refine ends_pure ⟨hread, ?_⟩
          intro other hother
          obtain rfl := Except.ok.inj hother
          exact ⟨claims, by simp, mapError_eq_ok_iff.mp hsubject⟩
        · exact ends_throw ⟨hread, fun _ h => absurd h (by simp)⟩
      · exact fun e _ => ⟨hread, fun _ h => absurd h (by simp)⟩
    · exact fun e _ => ⟨hverified, fun _ h => absurd h (by simp)⟩
  · exact fun e _ => ⟨hverified, fun _ h => absurd h (by simp)⟩

theorem ends_refreshSubject (hpast : AllHarmless past) (id : UserId) :
    (refreshSubject id).Ends r.Conduct
      (fun past' result => AllHarmless past' ∧ past ⊆ past' ∧
        ∀ user, result = .ok user → user.id = id ∧ ⟨.findById id, .ok (some user)⟩ ∈ past')
      past := by
  rw [refreshSubject]
  apply ends_ask_bind trivial
  intro found hfair
  have hfound := hpast.ask found fun h => h
  have hkept := List.subset_append_left past [(⟨.findById id, found⟩ : Exchange)]
  rcases found with e | _ | user
  · exact ends_throw ⟨hfound, hkept, fun _ h => absurd h (by simp)⟩
  · exact ends_throw ⟨hfound, hkept, fun _ h => absurd h (by simp)⟩
  · refine ends_pure ⟨hfound, hkept, ?_⟩
    intro other hother
    obtain rfl := Except.ok.inj hother
    exact ⟨hfair, List.mem_append_right _ (List.mem_singleton_self _)⟩

theorem ends_ownAccount (hpast : AllHarmless past) (id : UserId) :
    (ownAccount id).Ends r.Conduct
      (fun past' result => AllHarmless past' ∧ ∀ user, result = .ok user → user.id = id) past := by
  rw [ownAccount]
  apply ends_ask_bind trivial
  intro found hfair
  have hfound := hpast.ask found fun h => h
  apply ends_ofDomain_bind
  · rintro (_ | user) rfl
    · exact ends_throw ⟨hfound, fun _ h => absurd h (by simp)⟩
    · refine ends_pure ⟨hfound, ?_⟩
      intro other hother
      obtain rfl := Except.ok.inj hother
      exact hfair
  · exact fun e _ => ⟨hfound, fun _ h => absurd h (by simp)⟩

theorem ends_newHash (hpast : AllHarmless past) (password : String) :
    (newHash password).Ends r.Conduct (fun past' _ => AllHarmless past') past := by
  rw [newHash]
  apply ends_ask_bind trivial
  intro hashed _
  have hhashed := hpast.ask hashed fun h => h
  apply ends_ofResult_bind
  · intro text _
    exact ends_ofResult hhashed
  · exact fun _ _ => hhashed

end Parts

/-! ## The requests -/

theorem ends_register (registration : Registration) :
    (Service.register registration).Ends (register registration).Conduct
      (register registration).Concludes [] := by
  rw [Service.register]
  have hnil : ∀ e, (register registration).Concludes []
      (.error e : Except ServiceError UserView) := fun e => concludes_of_harmless allHarmless_nil _
  apply ends_ofDomain_bind _ fun e _ => hnil _
  intro username _
  apply ends_ofDomain_bind _ fun e _ => hnil _
  intro email _
  split
  · exact ends_throw (hnil _)
  apply ends_ofResult_bind _ fun e _ => hnil _
  intro _ _
  apply ends_ask_bind trivial
  intro found _
  have hfound := allHarmless_nil.ask found fun h => h
  apply ends_ofDomain_bind _ fun e _ => concludes_of_harmless hfound _
  intro taken _
  split
  · exact ends_throw (concludes_of_harmless hfound _)
  apply ends_bind (ends_newHash hfound registration.password) _
    fun past e hhash => concludes_of_harmless hhash _
  intro past hash hhash
  apply ends_ask_bind trivial
  intro now _
  have hclock := hhash.ask now fun h => h
  apply ends_ask_bind ⟨⟨registration, rfl⟩, hclock⟩
  intro inserted _
  apply ends_ofDomain_bind
  · intro user _
    exact ends_pure (concludes_ok _)
  · rintro e rfl
    exact concludes_of_harmless (hclock.snoc (Or.inr ⟨.domain e, rfl⟩)) _

theorem ends_login (username password : String) :
    (Service.login username password).Ends (login username password).Conduct
      (login username password).Concludes [] := by
  rw [Service.login]
  apply ends_bind (ends_authenticate username password)
  · rintro past user ⟨-, hknows⟩
    apply ends_bind (ends_issueSession (hknows user rfl))
    · exact fun past' tokens _ => ends_pure (concludes_ok _)
    · exact fun past' e hconcludes => Breaks.concludes (hconcludes e rfl)
  · rintro past e ⟨hharmless, -⟩
    exact concludes_of_harmless hharmless _

theorem ends_validate (raw : String) :
    (Service.validate raw).Ends (validate raw).Conduct (validate raw).Concludes [] := by
  rw [Service.validate]
  apply ends_ask_bind trivial
  intro verified _
  have hverified := allHarmless_nil.ask verified fun h => h
  rcases verified with _ | claims
  · exact ends_throw (concludes_of_harmless hverified _)
  apply ends_ofResult_bind _ fun e _ => concludes_of_harmless hverified _
  intro user _
  apply ends_ask_bind trivial
  intro read _
  have hread := hverified.ask read fun h => h
  apply ends_orFailed_bind _ fun cause => concludes_of_harmless hread _
  intro stored _
  split
  · exact ends_pure (concludes_ok _)
  · exact ends_throw (concludes_of_harmless hread _)

theorem ends_refresh (raw : String) :
    (Service.refresh raw).Ends (refresh raw).Conduct (refresh raw).Concludes [] := by
  rw [Service.refresh]
  apply ends_attempt_bind (ends_checkRefresh raw)
  rintro past (_ | id) ⟨hharmless, hpresented⟩
  · exact ends_throw (concludes_of_harmless hharmless _)
  obtain ⟨claims, hverified, hsubject⟩ := hpresented id rfl
  apply ends_bind (ends_refreshSubject hharmless id)
  · rintro past' user ⟨-, hkept, hfound⟩
    obtain ⟨rfl, hfound⟩ := hfound user rfl
    exact ends_issueSession ⟨hfound, claims, hkept hverified, hsubject⟩
  · rintro past' e ⟨hharmless', -⟩
    exact concludes_of_harmless hharmless' _

theorem ends_revoke {r : Request} {user : UserId} (h : r.Revokes user) (kind : TokenKind)
    (past : List Exchange) :
    (revoke user kind).Ends r.Conduct
      (fun past' result => r.Concludes past' result ∧
        (result = .ok () → past' = past ++ [⟨.deleteSession ⟨user, kind⟩, .ok ()⟩])) past := by
  rw [revoke]
  apply ends_ask_bind h
  intro deleted _
  apply ends_orFailed
  · rintro _ rfl
    exact ⟨concludes_ok _, fun _ => rfl⟩
  · exact fun cause => ⟨concludes_failed _ cause, fun h => absurd h (by simp)⟩

theorem ends_revokeAll {r : Request} {user : UserId} (h : r.Revokes user) :
    (revokeAll user).Ends r.Conduct
      (fun past result => r.Concludes past result ∧ (result = .ok () → past = clearing user))
      [] := by
  rw [revokeAll]
  apply ends_bind (ends_revoke h .access [])
  · rintro past _ ⟨-, hpast⟩
    obtain rfl := hpast rfl
    exact ends_revoke h .refresh [⟨.deleteSession ⟨user, .access⟩, .ok ()⟩]
  · rintro past e ⟨hconcludes, -⟩
    exact ⟨Breaks.concludes (hconcludes e rfl), fun h => absurd h (by simp)⟩

theorem ends_logout (user : UserId) :
    (Service.logout user).Ends (logout user).Conduct (logout user).Concludes [] := by
  have hrevokes : (logout user).Revokes user := rfl
  exact (ends_revokeAll hrevokes).mono fun _ _ h => h.1

/-- A change of password that fails before it issues tokens has changed nothing. -/
theorem ends_renewAccount (caller : Caller) (current new : String) :
    (renewAccount caller current new).Ends (changePassword caller current new).Conduct
      (fun past result => (∀ e, result = .error e → AllHarmless past) ∧
        ∀ user, result = .ok user → (changePassword caller current new).Knows past user) [] := by
  rw [renewAccount]
  have hfails : ∀ {past : List Exchange} (e : ServiceError), AllHarmless past →
      (∀ e', (.error e : Except ServiceError User) = .error e' → AllHarmless past) ∧
        ∀ user, (.error e : Except ServiceError User) = .ok user →
          (changePassword caller current new).Knows past user :=
    fun e hharmless => ⟨fun _ _ => hharmless, fun _ h => absurd h (by simp)⟩
  apply ends_bind (ends_ownAccount allHarmless_nil caller.id) _ fun past e h => hfails e h.1
  rintro past user ⟨hpast, hid⟩
  have hid := hid user rfl
  apply ends_ask_bind trivial
  intro checked _
  have hchecked := hpast.ask checked fun h => h
  apply ends_ofResult_bind _ fun e _ => hfails e hchecked
  intro _ _
  apply ends_ofResult_bind _ fun e _ => hfails e hchecked
  intro _ _
  apply ends_bind (ends_newHash hchecked new) _ fun past e h => hfails e h
  intro past' hash hhash
  apply ends_ask_bind trivial
  intro now _
  have hclock := hhash.ask now fun h => h
  apply ends_ask_bind ⟨caller, current, new, rfl, hid.symm⟩
  rintro (e | renewed) hfair
  · exact ends_ofResult (hfails _ (hclock.snoc (Or.inr ⟨.domain e, rfl⟩)))
  · refine ends_ofResult ⟨fun _ h => absurd h (by simp [mapError_ok]), ?_⟩
    rintro other hother
    obtain rfl := Except.ok.inj hother
    rw [hid] at hfair ⊢
    exact ⟨hfair, hash, now, List.mem_append_right _ (List.mem_singleton_self _)⟩

theorem ends_changePassword (caller : Caller) (current new : String) :
    (Service.changePassword caller current new).Ends (changePassword caller current new).Conduct
      (changePassword caller current new).Concludes [] := by
  rw [changePassword_eq]
  apply ends_bind (ends_renewAccount caller current new)
  · rintro past user ⟨-, hknows⟩
    exact ends_issueSession (hknows user rfl)
  · rintro past e ⟨hharmless, -⟩
    exact concludes_of_harmless (hharmless e rfl) _

theorem ends_softDelete (caller : Caller) :
    (Service.softDelete caller).Ends (softDelete caller).Conduct (softDelete caller).Concludes
      [] := by
  have hrevokes : (softDelete caller).Revokes caller.id := rfl
  rw [Service.softDelete]
  apply ends_bind (ends_revokeAll hrevokes)
  · rintro past _ ⟨-, hpast⟩
    obtain rfl := hpast rfl
    apply ends_ask_bind trivial
    intro now _
    apply ends_ask_bind ⟨caller, now, rfl, rfl, rfl⟩
    rintro (e | _) _
    · apply ends_ofResult
      exact Breaks.concludes (.undeleted rfl rfl)
    · exact ends_ofResult (concludes_ok _)
  · rintro past e ⟨hconcludes, -⟩
    exact Breaks.concludes (hconcludes e rfl)

theorem ends_profile (caller : Caller) :
    (Service.profile caller).Ends (profile caller).Conduct (profile caller).Concludes [] := by
  rw [Service.profile]
  apply ends_bind (ends_ownAccount allHarmless_nil caller.id) _
    fun past e h => concludes_of_harmless h.1 _
  rintro past user -
  split
  · exact ends_pure (concludes_ok _)
  · apply ends_ask_bind trivial
    intro now _
    exact ends_pure (concludes_ok _)

/-- **Every request keeps to its contract and fails only as it may.** -/
theorem ends_operation (r : Request) : r.operation.Ends r.Conduct r.Concludes [] := by
  cases r with
  | register registration => exact ends_register registration
  | login username password => exact ends_login username password
  | validate raw => exact ends_validate raw
  | refresh raw => exact ends_refresh raw
  | logout user => exact ends_logout user
  | changePassword caller current new => exact ends_changePassword caller current new
  | softDelete caller => exact ends_softDelete caller
  | profile caller => exact ends_profile caller

end Request

end Service

end SessionAuth
