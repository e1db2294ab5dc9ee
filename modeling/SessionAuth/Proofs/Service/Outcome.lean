import SessionAuth.Proofs.Service.Contract
import SessionAuth.Proofs.Service.System

/-!
# How each operation ends

Among healthy collaborators whose clocks agree, every operation returns, and it either makes a
quiet change, opens a session, or clears the slots of a user.

* `System.Accepts`: the presented token is genuine, current and on record.
* `settle_login`, `settle_refresh`, `settle_changePassword`: a session or a quiet change.
* `settle_validate`: a caller for an accepted token.
* `settle_logout`, `settle_softDelete`: cleared slots.
-/

namespace SessionAuth

namespace System

/-- The presented token is genuine and current, and the slot of the user that it names holds it. -/
structure Accepts (s : System) (kind : TokenKind) (raw : String) (user : UserId)
    (claims : Claims) : Prop where
  verified : s.provider.verify s.now.seconds (bareToken raw) = .ok claims
  subject : claims.subject = .ok user
  stored : s.live? ⟨user, kind⟩ = some (bareToken raw)

theorem OnRecord.accepts {s : System} {user : UserId} {kind : TokenKind} {token raw : String}
    {expires : Int} (h : s.OnRecord ⟨user, kind⟩ token expires) (hs : s.Steady)
    (hlt : s.now.seconds < expires) (hraw : bareToken raw = token) :
    ∃ claims, s.Accepts kind raw user claims := by
  subst hraw
  obtain ⟨claims, hverified⟩ := (h.genuine.verify_iff s.now.seconds).mpr hlt
  exact ⟨claims, hverified, (h.genuine.names_of_verify hverified).subject_eq, h.live?_eq hs hlt⟩

/-- The system without the sessions of a user. -/
def revoked (s : System) (user : UserId) : System :=
  { s with sessions := (s.sessions.delete ⟨user, .access⟩).delete ⟨user, .refresh⟩ }

end System

theorem TokenProvider.ne_empty_of_verify {p : TokenProvider} {now : Int} {token : String}
    {claims : Claims} (h : p.verify now token = .ok claims) : token ≠ "" := by
  rintro rfl
  obtain ⟨hopen, -⟩ := TokenProvider.verify_eq_ok_iff.mp h
  have hsplit : Token.splitToken? "".toList = none := by decide
  rw [Token.open?, hsplit] at hopen
  exact absurd hopen (by simp)

namespace Service

open Operation

variable {s : System}

/-! ## Tokens -/

theorem serve_verify {token : String} {r : Except AuthError Claims}
    (h : s.provider.verify s.now.seconds token = r) :
    s.serve (.verifyToken token) = some (r.mapError .auth, s) := by
  simp only [System.serve, h]

theorem serve_get (s : System) (slot : Slot) :
    s.serve (.getSession slot) =
      some (.ok ((s.live? slot).map fun token => ⟨slot.user, slot.kind, token⟩),
        { s with sessions := (s.sessions.get s.uptime slot).2 }) := by
  rw [System.live?, ← SessionStore.get_fst]
  rfl

/-- A caller goes on if the slot that has been read holds the presented token. -/
theorem settle_compare {α : Type} (slot : Slot) {token : String} (hne : token ≠ "")
    (s' : System) (a : α) (e : ServiceError) :
    (if ((s.live? slot).map fun live => (⟨slot.user, slot.kind, live⟩ : Session)).any
        (·.isFor token) = true then pure a else throw e : Operation α).settle s' =
      some (if s.live? slot = some token then .ok a else .error e, s') := by
  have hiff : ((s.live? slot).map fun live => (⟨slot.user, slot.kind, live⟩ : Session)).any
      (·.isFor token) = true ↔ s.live? slot = some token := by
    rw [Session.any_isFor_iff]
    constructor
    · rintro ⟨session, hsession, rfl, -⟩
      obtain ⟨live, hlive, rfl⟩ := Option.map_eq_some_iff.mp hsession
      exact hlive
    · intro hlive
      exact ⟨⟨slot.user, slot.kind, token⟩, by rw [hlive, Option.map_some], rfl, hne⟩
  by_cases hlive : s.live? slot = some token
  · rw [if_pos (hiff.mpr hlive), if_pos hlive, settle_pure]
  · rw [if_neg fun h => hlive (hiff.mp h), if_neg hlive, settle_throw]

/-- A token is compared with the one in the slot of the user that it names, and nothing else
counts. -/
theorem settle_lookup_eq {α : Type} (s : System) {token : String} (hne : token ≠ "")
    (claims : Claims) (kind : TokenKind)
    {check : Except ServiceError (Option Session) → Operation (Option Session)}
    (hcheck : ∀ stored s, (check (.ok stored)).settle s = some (.ok stored, s)) (f : UserId → α) :
    ∃ s', (do
        let user ← ofResult (claims.subject.mapError .auth)
        let stored ← check (← ask (.getSession ⟨user, kind⟩))
        if stored.any (·.isFor token) then return f user
        else throw (.auth .tokenMismatch) : Operation α).settle s =
      some (match claims.subject with
        | .error e => .error (.auth e)
        | .ok user => if s.live? ⟨user, kind⟩ = some token then .ok (f user)
            else .error (.auth .tokenMismatch), s') ∧ System.Quiet s s' := by
  cases hsubject : claims.subject with
  | error e => exact ⟨s, settle_bind_error rfl _, System.Quiet.refl s⟩
  | ok user =>
    have hok : (ofResult ((Except.ok user).mapError ServiceError.auth)).settle s =
        some (.ok user, s) := rfl
    rw [settle_bind_ok hok, settle_bind_ok (settle_ask (serve_get s _)),
      settle_bind_ok (hcheck _ _), settle_compare _ hne]
    exact ⟨_, rfl, System.quiet_get s _⟩

/-- The comparison succeeds just for the user whose slot holds the token. -/
theorem settle_lookup {α : Type} {token : String} {claims : Claims}
    (hverify : s.provider.verify s.now.seconds token = .ok claims) (kind : TokenKind)
    {check : Except ServiceError (Option Session) → Operation (Option Session)}
    (hcheck : ∀ stored s, (check (.ok stored)).settle s = some (.ok stored, s)) (f : UserId → α) :
    ∃ r s', (do
        let user ← ofResult (claims.subject.mapError .auth)
        let stored ← check (← ask (.getSession ⟨user, kind⟩))
        if stored.any (·.isFor token) then return f user
        else throw (.auth .tokenMismatch) : Operation α).settle s = some (r, s') ∧
      System.Quiet s s' ∧ ∀ a, r = .ok a ↔
        ∃ user, claims.subject = .ok user ∧ s.live? ⟨user, kind⟩ = some token ∧ a = f user := by
  obtain ⟨s', hsettle, hquiet⟩ :=
    settle_lookup_eq s (TokenProvider.ne_empty_of_verify hverify) claims kind hcheck f
  refine ⟨_, s', hsettle, hquiet, fun a => ?_⟩
  cases claims.subject with
  | error e => exact ⟨fun h => absurd h (by simp), fun ⟨_, h, _⟩ => absurd h (by simp)⟩
  | ok user =>
    refine ⟨fun h => ?_, ?_⟩
    · simp only at h
      split at h
      · rename_i hlive
        exact ⟨user, rfl, hlive, (Except.ok.inj h).symm⟩
      · exact absurd h (by simp)
    · rintro ⟨other, hother, hlive, rfl⟩
      obtain rfl := Except.ok.inj hother
      exact if_pos hlive

/-- **A validation among healthy collaborators.** -/
theorem settle_validate (s : System) (raw : String) :
    ∃ r s', (validate raw).settle s = some (r, s') ∧
      ∀ caller, r = .ok caller ↔ s.Accepts .access raw caller.id caller.claims := by
  rw [validate]
  cases hverify : s.provider.verify s.now.seconds (bareToken raw) with
  | error e =>
    refine ⟨_, s, settle_bind_ok (settle_ask (serve_verify hverify)) _, fun caller => ?_⟩
    exact ⟨fun h => absurd h (by simp), fun h => absurd (hverify.symm.trans h.verified) (by simp)⟩
  | ok claims =>
    have hserve : s.serve (.verifyToken (bareToken raw)) = some (.ok claims, s) :=
      serve_verify hverify
    rw [settle_bind_ok (settle_ask hserve)]
    obtain ⟨r, s', hsettle, -, hiff⟩ := settle_lookup hverify .access
      (fun stored s => settle_orFailed "error to retrieve session" (.ok stored) s)
      (fun user => Caller.mk user claims)
    refine ⟨r, s', hsettle, fun caller => (hiff caller).trans ⟨?_, fun h => ?_⟩⟩
    · rintro ⟨user, hsubject, hlive, rfl⟩
      exact ⟨hverify, hsubject, hlive⟩
    · obtain rfl := Except.ok.inj (hverify.symm.trans h.verified)
      exact ⟨caller.id, h.subject, h.stored, rfl⟩

theorem settle_checkRefresh (s : System) (raw : String) :
    ∃ r s', (checkRefresh raw).settle s = some (r, s') ∧ System.Quiet s s' ∧
      ∀ id, r = .ok id ↔ ∃ claims, s.Accepts .refresh raw id claims := by
  rw [checkRefresh]
  cases hverify : s.provider.verify s.now.seconds (bareToken raw) with
  | error e =>
    have hserve : s.serve (.verifyToken (bareToken raw)) = some (.error (.auth e), s) :=
      serve_verify hverify
    rw [settle_bind_ok (settle_ask hserve)]
    refine ⟨.error (.auth e), s, settle_bind_error rfl _, System.Quiet.refl s, fun id => ?_⟩
    refine ⟨fun h => absurd h (by simp), fun ⟨claims, h⟩ => ?_⟩
    exact absurd (hverify.symm.trans h.verified) (by simp)
  | ok claims =>
    have hserve : s.serve (.verifyToken (bareToken raw)) = some (.ok claims, s) :=
      serve_verify hverify
    rw [settle_bind_ok (settle_ask hserve), settle_bind_ok (settle_ofResult _ _)]
    obtain ⟨r, s', hsettle, hquiet, hiff⟩ := settle_lookup hverify .refresh
      (fun stored s => settle_ofResult (.ok stored) s) id
    refine ⟨r, s', hsettle, hquiet, fun id => (hiff id).trans ⟨?_, fun ⟨claims', h⟩ => ?_⟩⟩
    · rintro ⟨user, hsubject, hlive, rfl⟩
      exact ⟨claims, hverify, hsubject, hlive⟩
    · obtain rfl := Except.ok.inj (hverify.symm.trans h.verified)
      exact ⟨id, h.subject, h.stored, rfl⟩

/-- Reading a slot that holds a token changes nothing. -/
theorem serve_get_of_live? {slot : Slot} {token : String} (h : s.live? slot = some token) :
    s.serve (.getSession slot) = some (.ok (some ⟨slot.user, slot.kind, token⟩), s) := by
  have hget : (s.sessions.get s.uptime slot).2 = s.sessions := by
    have hlive : s.sessions.live? s.uptime slot = some token := h
    rw [SessionStore.get, hlive]
  rw [serve_get, h, hget, Option.map_some]

section Accepts

variable {kind : TokenKind} {raw : String} {id : UserId} {claims : Claims}

/-- Looking up a token that is on record changes nothing. -/
theorem settle_lookup_of_accepts {α : Type} (h : s.Accepts kind raw id claims)
    {check : Except ServiceError (Option Session) → Operation (Option Session)}
    (hcheck : ∀ stored s, (check (.ok stored)).settle s = some (.ok stored, s)) (f : UserId → α) :
    (do
      let user ← ofResult (claims.subject.mapError .auth)
      let stored ← check (← ask (.getSession ⟨user, kind⟩))
      if stored.any (·.isFor (bareToken raw)) then return f user
      else throw (.auth .tokenMismatch) : Operation α).settle s = some (.ok (f id), s) := by
  have hsubject : (ofResult (claims.subject.mapError ServiceError.auth)).settle s =
      some (.ok id, s) := by
    rw [h.subject]
    rfl
  have hcompare := settle_compare (s := s) ⟨id, kind⟩
    (TokenProvider.ne_empty_of_verify h.verified) s (f id) (.auth .tokenMismatch)
  rw [h.stored, Option.map_some, if_pos rfl] at hcompare
  rw [settle_bind_ok hsubject, settle_bind_ok (settle_ask (serve_get_of_live? h.stored)),
    settle_bind_ok (hcheck _ _)]
  exact hcompare

theorem settle_validate_of_accepts (h : s.Accepts .access raw id claims) :
    (validate raw).settle s = some (.ok ⟨id, claims⟩, s) := by
  have hverify : s.serve (.verifyToken (bareToken raw)) = some (.ok claims, s) :=
    serve_verify h.verified
  rw [validate, settle_bind_ok (settle_ask hverify)]
  exact settle_lookup_of_accepts h
    (fun stored s => settle_orFailed "error to retrieve session" (.ok stored) s)
    fun user => Caller.mk user claims

theorem settle_checkRefresh_of_accepts (h : s.Accepts .refresh raw id claims) :
    (checkRefresh raw).settle s = some (.ok id, s) := by
  have hverify : s.serve (.verifyToken (bareToken raw)) = some (.ok claims, s) :=
    serve_verify h.verified
  rw [checkRefresh, settle_bind_ok (settle_ask hverify), settle_bind_ok (settle_ofResult _ _)]
  exact settle_lookup_of_accepts h (fun stored s => settle_ofResult (.ok stored) s) fun user => user

end Accepts

/-! ## Sessions -/

/-- The operation has opened a session for a user of an account that is there. -/
def Opened (s : System) (id : UserId) (pair : TokenPair) (s' : System) : Prop :=
  ∃ s₁ user, System.Quiet s s₁ ∧ user.id = id ∧ s₁.users.HasLive id ∧
    pair = (s₁.openSession user).1 ∧ s' = (s₁.openSession user).2

theorem settle_authenticate (s : System) (username password : String) :
    ∃ r, (authenticate username password).settle s = some (r, s) ∧
      ∀ user, r = .ok user → s.users.HasLive user.id := by
  rw [authenticate]
  split
  · exact ⟨_, rfl, fun user h => absurd h (by simp)⟩
  · rename_i name _
    have hserve : s.serve (.findByUsername name) =
        some (.ok (s.users.findByUsername name), s) := rfl
    rw [settle_bind_ok (settle_ask hserve)]
    cases hfind : s.users.findByUsername name with
    | none => exact ⟨_, rfl, fun user h => absurd h (by simp)⟩
    | some user =>
      have hcheck : s.serve (.checkPassword password user.passwordHash.text) =
          some (s.hasher.check password user.passwordHash.text, s) := rfl
      dsimp only
      rw [settle_bind_ok (settle_ask hcheck)]
      split
      · refine ⟨_, rfl, fun u h => ?_⟩
        obtain rfl := Except.ok.inj h
        exact ⟨_, (UserTable.findByUsername_spec hfind).1, rfl⟩
      · exact ⟨_, rfl, fun user h => absurd h (by simp)⟩

/-- An account that is found under its username proves who it is with its password. -/
theorem settle_authenticate_of_found {s : System} {username password : String} {user : User}
    (hname : Username.ofText username = .ok user.username)
    (hfind : s.users.findByUsername user.username = some user)
    (hcheck : s.hasher.check password user.passwordHash.text = .ok ()) :
    (authenticate username password).settle s = some (.ok user, s) := by
  have hlookup : s.serve (.findByUsername user.username) = some (.ok (some user), s) := by
    rw [System.serve, hfind]
  have hverify : s.serve (.checkPassword password user.passwordHash.text) = some (.ok (), s) := by
    rw [System.serve, hcheck]
  rw [authenticate, hname]
  dsimp only
  rw [settle_bind_ok (settle_ask hlookup)]
  dsimp only
  rw [settle_bind_ok (settle_ask hverify)]
  rfl

/-- **A login among healthy collaborators.** -/
theorem settle_login (h : s.Steady) (hroom : s.Room) (username password : String) :
    ∃ r s', (login username password).settle s = some (r, s') ∧
      ((∃ e, r = .error e ∧ System.Quiet s s') ∨
        ∃ result id, r = .ok result ∧ result.user.id = id.val ∧
          Opened s id result.tokens s') := by
  obtain ⟨r, hauth, hlive⟩ := settle_authenticate s username password
  cases r with
  | error e =>
    exact ⟨_, _, settle_bind_error hauth _, Or.inl ⟨e, rfl, System.Quiet.refl s⟩⟩
  | ok user =>
    rw [login, settle_bind_ok hauth, settle_bind_ok (settle_issueSession h hroom user)]
    refine ⟨_, _, rfl, Or.inr ⟨_, user.id, rfl, rfl, s, user, System.Quiet.refl s, rfl, ?_⟩⟩
    exact ⟨hlive user rfl, rfl, rfl⟩

theorem settle_refreshSubject (s : System) (id : UserId) :
    ∃ r, (refreshSubject id).settle s = some (r, s) ∧
      ((∃ user, r = .ok user ∧ user.id = id ∧ s.users.HasLive id) ∨
        ∃ e, r = .error e ∧ ¬ s.users.HasLive id) := by
  have hserve : s.serve (.findById id) = some (.ok (s.users.findById id), s) := rfl
  rw [refreshSubject, settle_bind_ok (settle_ask hserve)]
  cases hfind : s.users.findById id with
  | none =>
    refine ⟨_, rfl, Or.inr ⟨_, rfl, fun hlive => ?_⟩⟩
    obtain ⟨user, huser⟩ := UserTable.hasLive_iff.mp hlive
    exact absurd (hfind.symm.trans huser) (by simp)
  | some user =>
    obtain ⟨hmem, hid⟩ := UserTable.findById_spec hfind
    exact ⟨_, rfl, Or.inl ⟨user, rfl, hid, user, hmem, hid⟩⟩

/-- **A refresh among healthy collaborators.** -/
theorem settle_refresh (h : s.Steady) (hroom : s.Room) (raw : String) :
    ∃ r s', (refresh raw).settle s = some (r, s') ∧
      ((∃ e, r = .error e ∧ System.Quiet s s' ∧
          ∀ id claims, s.Accepts .refresh raw id claims → ¬ s.users.HasLive id) ∨
        ∃ pair id claims, r = .ok pair ∧ s.Accepts .refresh raw id claims ∧
          Opened s id pair s') := by
  obtain ⟨r, s₁, hcheck, hquiet, hiff⟩ := settle_checkRefresh s raw
  rw [refresh, settle_bind_ok (settle_attempt hcheck)]
  cases r with
  | error e =>
    refine ⟨_, s₁, rfl, Or.inl ⟨_, rfl, hquiet, fun id claims haccepts => ?_⟩⟩
    exact absurd ((hiff id).mpr ⟨claims, haccepts⟩) (by simp)
  | ok id =>
    obtain ⟨claims, haccepts⟩ := (hiff id).mp rfl
    obtain ⟨r, hsubject, ⟨user, rfl, rfl, hlive⟩ | ⟨e, rfl, hgone⟩⟩ :=
      settle_refreshSubject s₁ id
    · have hroom₁ : s₁.Room := hquiet.clocks.room hroom
      dsimp only
      rw [settle_bind_ok hsubject, settle_issueSession (hquiet.clocks.steady h) hroom₁]
      exact ⟨_, _, rfl, Or.inr ⟨_, user.id, claims, rfl, haccepts, s₁, user, hquiet, rfl, hlive,
        rfl, rfl⟩⟩
    · refine ⟨_, s₁, settle_bind_error hsubject _, Or.inl ⟨e, rfl, hquiet, ?_⟩⟩
      intro other claims' hother hlive
      obtain rfl := Except.ok.inj ((hiff other).mpr ⟨claims', hother⟩)
      exact hgone (hquiet.hasLive id hlive)

theorem settle_ownAccount (s : System) (id : UserId) :
    ∃ r, (ownAccount id).settle s = some (r, s) ∧
      ∀ user, r = .ok user → user.id = id ∧ s.users.HasLive id := by
  have hserve : s.serve (.findById id) = some (.ok (s.users.findById id), s) := rfl
  rw [ownAccount, settle_bind_ok (settle_ask hserve), settle_bind_ok (settle_ofDomain _ _)]
  cases hfind : s.users.findById id with
  | none => exact ⟨_, rfl, fun user h => absurd h (by simp)⟩
  | some user =>
    refine ⟨_, rfl, fun u h => ?_⟩
    obtain rfl := Except.ok.inj h
    obtain ⟨hmem, hid⟩ := UserTable.findById_spec hfind
    exact ⟨hid, _, hmem, hid⟩

theorem settle_newHash (s : System) (password : String) :
    ∃ r s', (newHash password).settle s = some (r, s') ∧ System.Quiet s s' := by
  have hserve : s.serve (.hashPassword password) =
      some (s.hasher.hash (s.random s.draws) password, { s with draws := s.draws + 1 }) := rfl
  rw [newHash, settle_bind_ok (settle_ask hserve)]
  cases s.hasher.hash (s.random s.draws) password with
  | error e => exact ⟨_, _, settle_bind_error rfl _, System.quiet_draw s⟩
  | ok text =>
    rw [settle_bind_ok (settle_ofResult _ _)]
    exact ⟨_, _, rfl, System.quiet_draw s⟩

theorem settle_renew (h : s.Steady) (hroom : s.Room) (id : UserId) (hash : PasswordHash) :
    ∃ r s', (do
        let now ← ask .readClock
        let updated ← ofDomain (← ask (.updatePassword id hash now))
        issueSession updated).settle s = some (r, s') ∧
      ((∃ e, r = .error e ∧ System.Quiet s s') ∨
        ∃ pair, r = .ok pair ∧ Opened s id pair s') := by
  have hclock : s.serve .readClock = some (s.serviceTime, s) := rfl
  have hserve : s.serve (.updatePassword id hash s.serviceTime) =
      some (s.withUsers (s.users.updatePassword id hash s.serviceTime)) := rfl
  rw [settle_bind_ok (settle_ask hclock)]
  rcases hupdate : s.users.updatePassword id hash s.serviceTime with e | ⟨renewed, users⟩
  · rw [hupdate] at hserve
    rw [settle_bind_ok (settle_ask hserve)]
    exact ⟨_, s, settle_bind_error rfl _, Or.inl ⟨_, rfl, System.Quiet.refl s⟩⟩
  · rw [hupdate] at hserve
    have hquiet : System.Quiet s { s with users } :=
      System.quiet_users s fun other => (UserTable.hasLive_updatePassword hupdate other).mpr
    obtain ⟨user, hfind, rfl, -⟩ := UserTable.update_spec hupdate
    obtain ⟨hmem, rfl⟩ := UserTable.findById_spec hfind
    have hok : (ofDomain (Except.ok (user.setPassword hash s.serviceTime))).settle
        { s with users } = some (.ok (user.setPassword hash s.serviceTime), { s with users }) := rfl
    rw [settle_bind_ok (settle_ask hserve), settle_bind_ok hok,
      settle_issueSession (hquiet.clocks.steady h) (hquiet.clocks.room hroom)]
    refine ⟨_, _, rfl, Or.inr ⟨_, rfl, _, user.setPassword hash s.serviceTime, hquiet, rfl, ?_⟩⟩
    exact ⟨hquiet.hasLive _ ⟨user, hmem, rfl⟩, rfl, rfl⟩

/-- **A change of password among healthy collaborators.** -/
theorem settle_changePassword (h : s.Steady) (hroom : s.Room) (caller : Caller)
    (current new : String) :
    ∃ r s', (changePassword caller current new).settle s = some (r, s') ∧
      ((∃ e, r = .error e ∧ System.Quiet s s') ∨
        ∃ pair, r = .ok pair ∧ Opened s caller.id pair s') := by
  obtain ⟨r, haccount, hfound⟩ := settle_ownAccount s caller.id
  rw [changePassword]
  cases r with
  | error e =>
    exact ⟨_, s, settle_bind_error haccount _, Or.inl ⟨e, rfl, System.Quiet.refl s⟩⟩
  | ok user =>
    obtain ⟨hid, hlive⟩ := hfound user rfl
    have hcheck : s.serve (.checkPassword current user.passwordHash.text) =
        some (s.hasher.check current user.passwordHash.text, s) := rfl
    rw [settle_bind_ok haccount, settle_bind_ok (settle_ask hcheck)]
    cases s.hasher.check current user.passwordHash.text with
    | error e => exact ⟨_, s, settle_bind_error rfl _, Or.inl ⟨_, rfl, System.Quiet.refl s⟩⟩
    | ok u =>
      have hchecked : (ofResult ((Except.ok u).mapError checkFailure)).settle s =
          some (.ok u, s) := rfl
      rw [settle_bind_ok hchecked]
      cases hrule : checkNewPassword new with
      | error e => exact ⟨_, s, settle_bind_error rfl _, Or.inl ⟨e, rfl, System.Quiet.refl s⟩⟩
      | ok u =>
        obtain ⟨r, s₁, hhash, hquiet⟩ := settle_newHash s new
        rw [settle_bind_ok (settle_ofResult _ _)]
        cases r with
        | error e => exact ⟨_, s₁, settle_bind_error hhash _, Or.inl ⟨e, rfl, hquiet⟩⟩
        | ok hash =>
          obtain ⟨r, s₂, hupdate, hcases⟩ :=
            settle_renew (hquiet.clocks.steady h) (hquiet.clocks.room hroom) user.id hash
          rw [settle_bind_ok hhash]
          refine ⟨r, s₂, hupdate, ?_⟩
          rcases hcases with ⟨e, rfl, hquiet'⟩ | ⟨pair, rfl, s₃, renewed, hquiet', hrest⟩
          · exact Or.inl ⟨e, rfl, hquiet.trans hquiet'⟩
          · exact Or.inr ⟨pair, rfl, s₃, renewed, hquiet.trans hquiet', hid ▸ hrest⟩

theorem Opened.onRecord {id : UserId} {pair : TokenPair} {s' : System} (h : s.Steady)
    (ho : Opened s id pair s') (kind : TokenKind) :
    s'.OnRecord ⟨id, kind⟩ (pair.token kind) (s.expiry kind) := by
  obtain ⟨s₁, user, hquiet, rfl, -, rfl, rfl⟩ := ho
  have hexpiry : s₁.expiry kind = s.expiry kind := by
    rw [System.expiry, System.expiry, hquiet.clocks.now, hquiet.clocks.provider]
  obtain ⟨haccess, hrefresh⟩ := System.onRecord_openSession (hquiet.clocks.steady h) user
  rw [← hexpiry]
  cases kind with
  | access => exact haccess
  | refresh => exact hrefresh

theorem Opened.sameClocks {id : UserId} {pair : TokenPair} {s' : System}
    (ho : Opened s id pair s') : System.SameClocks s s' := by
  obtain ⟨s₁, user, hquiet, -, -, -, rfl⟩ := ho
  exact hquiet.clocks.trans (System.sameClocks_openSession s₁ user)

theorem Opened.untouched {id : UserId} {pair : TokenPair} {s' : System}
    (ho : Opened s id pair s') {slot : Slot} (hne : slot.user ≠ id) :
    System.Untouched s s' slot := by
  obtain ⟨s₁, user, hquiet, rfl, -, -, rfl⟩ := ho
  exact (hquiet.untouched slot).trans hquiet.clocks (System.untouched_openSession s₁ user hne)

theorem Opened.hasLive {id : UserId} {pair : TokenPair} {s' : System}
    (ho : Opened s id pair s') :
    s'.users.HasLive id ∧ ∀ other, s.users.HasLive other → s'.users.HasLive other := by
  obtain ⟨s₁, user, hquiet, -, hlive, -, rfl⟩ := ho
  exact ⟨hlive, hquiet.hasLive⟩

/-! ## Revocation -/

theorem live?_revoked (s : System) (user : UserId) (t : Nat) (slot : Slot) :
    (s.revoked user).sessions.live? t slot =
      if slot.user = user then none else s.sessions.live? t slot := by
  have hcases : slot = ⟨user, .access⟩ ∨ slot = ⟨user, .refresh⟩ ↔ slot.user = user := by
    obtain ⟨u, kind⟩ := slot
    cases kind <;> simp
  rw [System.revoked, SessionStore.live?_delete, SessionStore.live?_delete]
  by_cases hslot : slot.user = user
  · rw [if_pos hslot]
    rcases hcases.mpr hslot with rfl | rfl
    · rw [if_pos rfl, ite_self]
    · rw [if_pos rfl]
  · have hne := fun h => hslot (hcases.mp h)
    rw [if_neg hslot, if_neg fun h => hne (Or.inr h), if_neg fun h => hne (Or.inl h)]

theorem settle_revokeAll (s : System) (user : UserId) :
    (revokeAll user).settle s = some (.ok (), s.revoked user) := by
  have hserve : ∀ (s : System) kind, s.serve (.deleteSession ⟨user, kind⟩) =
      some (.ok (), { s with sessions := s.sessions.delete ⟨user, kind⟩ }) := fun _ _ => rfl
  have hrevoke : ∀ (s : System) kind, (revoke user kind).settle s =
      some (.ok (), { s with sessions := s.sessions.delete ⟨user, kind⟩ }) := fun s kind => by
    rw [revoke, settle_bind_ok (settle_ask (hserve s kind)), settle_orFailed]
    rfl
  rw [revokeAll, settle_bind_ok (hrevoke s .access), hrevoke]
  rfl

/-- The operation has cleared the slots of a user and nothing else. -/
structure Revoked (s : System) (id : UserId) (s' : System) : Prop where
  clocks : System.SameClocks s s'
  cleared : ∀ kind, s'.Cleared ⟨id, kind⟩
  untouched : ∀ slot : Slot, slot.user ≠ id → System.Untouched s s' slot
  hasLive : ∀ other, other ≠ id → s.users.HasLive other → s'.users.HasLive other

theorem revoked_revoked (s : System) (user : UserId) : Revoked s user (s.revoked user) where
  clocks := ⟨rfl, rfl, rfl, rfl⟩
  cleared := fun kind t _ => by rw [live?_revoked, if_pos rfl]
  untouched := fun slot hne t _ => by rw [live?_revoked, if_neg hne]
  hasLive := fun _ _ => id

/-- **A logout among healthy collaborators.** -/
theorem settle_logout (s : System) (user : UserId) :
    ∃ s', (logout user).settle s = some (.ok (), s') ∧ Revoked s user s' ∧ s'.users = s.users :=
  ⟨s.revoked user, settle_revokeAll s user, revoked_revoked s user, rfl⟩

/-- **A deletion of an account among healthy collaborators.** -/
theorem settle_softDelete (s : System) (caller : Caller) :
    ∃ r s', (softDelete caller).settle s = some (r, s') ∧ Revoked s caller.id s' ∧
      ((r = .ok () ∧ ¬ s'.users.HasLive caller.id) ∨
        ∃ e, r = .error e ∧ ¬ s.users.HasLive caller.id) := by
  have hclock : (s.revoked caller.id).serve .readClock =
      some (s.serviceTime, s.revoked caller.id) := rfl
  have hserve : (s.revoked caller.id).serve (.softDelete caller.id s.serviceTime) =
      some ((s.revoked caller.id).withUsers
        ((s.users.softDelete caller.id s.serviceTime).map fun p => ((), p.2))) := rfl
  rw [softDelete, settle_bind_ok (settle_revokeAll s caller.id), settle_bind_ok (settle_ask hclock)]
  have hrevoked := revoked_revoked s caller.id
  rcases hdelete : s.users.softDelete caller.id s.serviceTime with e | ⟨user, users⟩
  · rw [hdelete] at hserve
    rw [settle_bind_ok (settle_ask hserve)]
    refine ⟨_, _, rfl, hrevoked, Or.inr ⟨_, rfl, fun hlive => ?_⟩⟩
    obtain ⟨user, huser⟩ := UserTable.hasLive_iff.mp hlive
    rw [UserTable.softDelete, UserTable.update, huser] at hdelete
    exact absurd hdelete (by simp)
  · rw [hdelete] at hserve
    rw [settle_bind_ok (settle_ask hserve)]
    have hiff := UserTable.hasLive_softDelete hdelete
    refine ⟨_, _, rfl, ⟨⟨rfl, rfl, rfl, rfl⟩, hrevoked.cleared, hrevoked.untouched, ?_⟩,
      Or.inl ⟨rfl, fun hlive => ?_⟩⟩
    · exact fun other hne hlive => (hiff other).mpr ⟨hne, hlive⟩
    · exact ((hiff caller.id).mp hlive).1 rfl

/-! ## Quiet operations -/

/-- The request neither signs tokens nor ends sessions. -/
structure IsQuiet (r : Request) : Prop where
  entitled : ∀ past id, ¬ r.Entitled past id
  revokes : ∀ id, ¬ r.Revokes id

theorem isQuiet_register (registration : Registration) : IsQuiet (.register registration) :=
  ⟨fun _ _ => id, fun _ => id⟩

theorem isQuiet_validate (raw : String) : IsQuiet (.validate raw) :=
  ⟨fun _ _ => id, fun _ => id⟩

theorem isQuiet_profile (caller : Caller) : IsQuiet (.profile caller) :=
  ⟨fun _ _ => id, fun _ => id⟩

theorem IsQuiet.call {r : Request} (h : IsQuiet r) (past : List Exchange) (c : Call)
    (hsafe : r.Safe past c) : c.IsQuiet := by
  cases c with
  | saveSession session ttl => exact absurd hsafe.1 (h.entitled past session.user)
  | deleteSession slot => exact absurd hsafe (h.revokes slot.user)
  | softDelete id at' => exact absurd hsafe (h.revokes id)
  | _ => trivial

theorem IsQuiet.settle {r : Request} (h : IsQuiet r) {s' : System}
    {result : Except ServiceError r.Result}
    (hsettle : r.operation.settle s = some (result, s')) : System.Quiet s s' :=
  Flow.settle_quiet (Request.along_operation r).flow h.call hsettle

/-- **Every request is answered.** -/
theorem exists_settle (h : s.Steady) (hroom : s.Room) (r : Request) :
    ∃ result s', r.operation.settle s = some (result, s') := by
  cases r with
  | register registration =>
    exact Flow.exists_settle (Request.along_register registration).flow
      (isQuiet_register registration).call s
  | validate raw =>
    exact Flow.exists_settle (Request.along_validate raw).flow (isQuiet_validate raw).call s
  | profile caller =>
    exact Flow.exists_settle (Request.along_profile caller).flow (isQuiet_profile caller).call s
  | login username password =>
    obtain ⟨r, s', hsettle, -⟩ := settle_login h hroom username password
    exact ⟨r, s', hsettle⟩
  | refresh raw =>
    obtain ⟨r, s', hsettle, -⟩ := settle_refresh h hroom raw
    exact ⟨r, s', hsettle⟩
  | changePassword caller current new =>
    obtain ⟨r, s', hsettle, -⟩ := settle_changePassword h hroom caller current new
    exact ⟨r, s', hsettle⟩
  | logout user => exact ⟨_, _, settle_revokeAll s user⟩
  | softDelete caller =>
    obtain ⟨r, s', hsettle, -⟩ := settle_softDelete s caller
    exact ⟨r, s', hsettle⟩

end Service

end SessionAuth
