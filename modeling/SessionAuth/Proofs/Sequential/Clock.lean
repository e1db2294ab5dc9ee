import SessionAuth.Proofs.Service.Outcome
import SessionAuth.Proofs.Token.Bearer

/-!
# Issuing whatever the clock of the service shows

The provider reads one clock and the service another. A token is signed by the first one and put on
record for the time that the second one leaves it, which may be none. Issuing succeeds either way.

* `System.file?`, `System.grant?`, `System.issue?`: what storing a token, granting one and issuing
  a pair do; `settle_issueSession_eq` says that issuing does just this.
* `System.Filed`: what storing leaves alone, and what the slot holds afterwards.
* `System.ServiceRoom`: the clock of the session store can show the end of the time that is left.
* `accepts_of_issue?`: the access token of a new pair is accepted if the clock leaves it any time.
-/

namespace SessionAuth

namespace System

variable {s s' : System}

/-- The clocks of the provider are in order: they show a time of the calendar, and tokens live for
a second at least. -/
structure Issuing (s : System) : Prop where
  inCalendar : s.now.inCalendar = true
  ttl : ∀ kind, 0 < (s.provider.ttl kind).seconds

theorem Issuing.lt_expiry (h : s.Issuing) (kind : TokenKind) : s.now.seconds < s.expiry kind :=
  TokenProvider.lt_expiry (Instant.bounds_of_inCalendar h.inCalendar).2 (h.ttl kind)

theorem Issuing.sameClocks (h : s.Issuing) (hclocks : SameClocks s s') : s'.Issuing :=
  ⟨hclocks.now ▸ h.inCalendar, hclocks.provider ▸ h.ttl⟩

theorem Issuing.genuine (h : s.Issuing) (id : String) (user : UserId) (kind : TokenKind)
    {extra : Claims} (hextra : TokenProvider.Supplement extra) :
    s.provider.Genuine (s.provider.issue s.now.seconds id user kind extra) user kind
      (s.expiry kind) := by
  obtain ⟨hmin, hmax⟩ := Instant.bounds_of_inCalendar h.inCalendar
  exact TokenProvider.genuine_issue hmin (Int.le_of_lt hmax) hextra

/-- The clock of the session store can show the end of the time that the clock of the service
leaves a token that is signed now. -/
def ServiceRoom (s : System) : Prop :=
  ∀ kind, s.uptime + (s.expiry kind - s.serviceTime.seconds).toNat * Instant.perSecond < clockLimit

theorem SameClocks.serviceTime (h : SameClocks s s') : s'.serviceTime = s.serviceTime := by
  rw [System.serviceTime, h.now, h.clockAhead, ← System.serviceTime]

theorem SameClocks.expiry (h : SameClocks s s') (kind : TokenKind) :
    s'.expiry kind = s.expiry kind := by
  rw [System.expiry, h.now, h.provider, ← System.expiry]

theorem SameClocks.serviceRoom (h : SameClocks s s') (hs : s.ServiceRoom) : s'.ServiceRoom := by
  intro kind
  rw [h.uptime, h.expiry, h.serviceTime]
  exact hs kind

/-! ## What issuing does -/

/-- The system after a session has been put on record for the time that the clock of the service
leaves it, if it leaves any. There is none if the clock of the session store cannot show the end of
that time. -/
def file? (s : System) (session : Session) (expires : Int) : Option System :=
  if 0 < expires - s.serviceTime.seconds ∧ expires - s.serviceTime.seconds ≤ maxInt64 then
    (s.sessions.save s.uptime session
      (.ofSeconds (expires - s.serviceTime.seconds).toNat)).map fun sessions => { s with sessions }
  else some s

/-- A new token for a user, signed and put on record. -/
def grant? (s : System) (user : UserId) (kind : TokenKind) (extra : Claims) :
    Option (String × System) :=
  let signed := s.sign user kind extra
  (signed.2.file? ⟨user, kind, signed.1⟩ (s.expiry kind)).map fun s' => (signed.1, s')

/-- A new pair of tokens for a user, signed and put on record. -/
def issue? (s : System) (user : User) : Option (TokenPair × System) :=
  (s.grant? user.id .access (Service.sessionClaims user)).bind fun access =>
    (access.2.grant? user.id .refresh []).map fun refresh =>
      (⟨access.1, refresh.1⟩, refresh.2)

/-- A session has been put on record, or the clock of the service has left it no time. -/
structure Filed (s : System) (session : Session) (expires : Int) (s' : System) : Prop where
  users : s'.users = s.users
  clocks : SameClocks s s'
  untouched : ∀ slot, slot ≠ session.slot → s'.live? slot = s.live? slot
  live : s.serviceTime.seconds < expires → expires - s.serviceTime.seconds ≤ maxInt64 →
    s'.live? session.slot = some session.token

theorem filed_of_file? {session : Session} {expires : Int}
    (h : s.file? session expires = some s') : Filed s session expires s' := by
  rw [file?] at h
  split at h
  · obtain ⟨sessions, hsave, rfl⟩ := Option.map_eq_some_iff.mp h
    refine ⟨rfl, ⟨rfl, rfl, rfl, rfl⟩, ?_, ?_⟩
    · intro slot hslot
      exact (SessionStore.live?_save hsave s.uptime slot).trans (if_neg hslot)
    · intro _ _
      have hlt : s.uptime < s.uptime + (lifetime (.ofSeconds
          (expires - s.serviceTime.seconds).toNat)).nanos :=
        Nat.lt_add_of_pos_right (SessionStore.lifetime_pos _)
      refine (SessionStore.live?_save hsave s.uptime session.slot).trans ?_
      rw [if_pos rfl, if_pos hlt]
  · rename_i hnone
    obtain rfl := Option.some.inj h
    exact ⟨rfl, SameClocks.refl s, fun _ _ => rfl, fun hlt hle => absurd ⟨by omega, hle⟩ hnone⟩

theorem exists_file? {session : Session} {expires : Int}
    (hroom : s.uptime + (expires - s.serviceTime.seconds).toNat * Instant.perSecond < clockLimit) :
    ∃ s', s.file? session expires = some s' := by
  rw [file?]
  split
  · rename_i hleft
    rw [SessionStore.save, Service.lifetime_ofSeconds (by omega), Duration.ofSeconds, if_pos hroom]
    exact ⟨_, rfl⟩
  · exact ⟨s, rfl⟩

end System

namespace Service

open Operation

variable {s s' : System}

/-- **Storing a genuine token never fails**, whatever the clock of the service shows. -/
theorem settle_storeToken_eq {session : Session} {expires : Int}
    (hgenuine : s.provider.Genuine session.token session.user session.kind expires)
    (hlt : s.now.seconds < expires) :
    (storeToken session).settle s = (s.file? session expires).map fun s' => (.ok (), s') := by
  obtain ⟨claims, hverify⟩ := (hgenuine.verify_iff s.now.seconds).mpr hlt
  have hnames := hgenuine.names_of_verify hverify
  have hserve : s.serve (.verifyToken session.token) = some (.ok claims, s) := serve_verify hverify
  have hclock : s.serve .readClock = some (s.serviceTime, s) := rfl
  rw [storeToken, settle_bind_ok (settle_ask hserve), settle_bind_ok (settle_orFailed _ _ _),
    settle_bind_ok (settle_ask hclock), System.file?]
  by_cases hleft : 0 < expires - s.serviceTime.seconds ∧
      expires - s.serviceTime.seconds ≤ maxInt64
  · have hremaining : claims.remaining? s.serviceTime.seconds =
        some (expires - s.serviceTime.seconds).toNat := by
      rw [Claims.remaining?, hnames.expiry]
      exact if_pos hleft
    simp only [hremaining, if_pos hleft]
    rw [settle_bind]
    have hask : (ask (.saveSession session (.ofSeconds
        (expires - s.serviceTime.seconds).toNat))).settle s =
          (s.serve (.saveSession session (.ofSeconds
            (expires - s.serviceTime.seconds).toNat))).bind fun p => some (.ok p.1, p.2) := rfl
    rw [hask, System.serve]
    cases s.sessions.save s.uptime session
        (.ofSeconds (expires - s.serviceTime.seconds).toNat) with
    | none => rfl
    | some sessions => rfl
  · have hremaining : claims.remaining? s.serviceTime.seconds = none := by
      rw [Claims.remaining?, hnames.expiry]
      exact if_neg hleft
    simp only [hremaining, if_neg hleft]
    rfl

theorem settle_grantToken_eq (h : s.Issuing) {user : UserId} {kind : TokenKind} {extra : Claims}
    (hextra : TokenProvider.Supplement extra) :
    (grantToken user kind extra).settle s =
      (s.grant? user kind extra).map fun p => (.ok p.1, p.2) := by
  have hsign : s.serve (.signToken user kind extra) =
      some (.ok (s.sign user kind extra).1, (s.sign user kind extra).2) := rfl
  have hstore : (storeToken ⟨user, kind, (s.sign user kind extra).1⟩).settle
      (s.sign user kind extra).2 =
      ((s.sign user kind extra).2.file? ⟨user, kind, (s.sign user kind extra).1⟩
        (s.expiry kind)).map fun s' => (.ok (), s') :=
    settle_storeToken_eq (h.genuine _ user kind hextra) (h.lt_expiry kind)
  rw [grantToken, settle_bind_ok (settle_ask hsign), settle_bind_ok (settle_ofResult _ _),
    settle_bind, hstore]
  dsimp only [System.grant?]
  cases (s.sign user kind extra).2.file? ⟨user, kind, (s.sign user kind extra).1⟩
      (s.expiry kind) with
  | none => rfl
  | some s' => rfl

/-- Granting a token stores it, and signing before that changes neither accounts nor slots. -/
theorem filed_of_grant? {user : UserId} {kind : TokenKind} {extra : Claims} {token : String}
    (h : s.grant? user kind extra = some (token, s')) :
    (∃ id, token = s.provider.issue s.now.seconds id user kind extra) ∧
      System.Filed s ⟨user, kind, token⟩ (s.expiry kind) s' := by
  obtain ⟨s₁, hfile, he⟩ := Option.map_eq_some_iff.mp h
  obtain ⟨rfl, rfl⟩ := Prod.mk.inj he
  obtain ⟨husers, hclocks, huntouched, hlive⟩ := System.filed_of_file? hfile
  exact ⟨⟨_, rfl⟩, husers, ⟨hclocks.provider, hclocks.now, hclocks.clockAhead, hclocks.uptime⟩,
    huntouched, hlive⟩

theorem exists_grant? (hroom : s.ServiceRoom) (user : UserId) (kind : TokenKind) (extra : Claims) :
    ∃ token s', s.grant? user kind extra = some (token, s') := by
  let signed := s.sign user kind extra
  obtain ⟨s', hfile⟩ : ∃ s', signed.2.file? ⟨user, kind, signed.1⟩ (s.expiry kind) = some s' :=
    System.exists_file? (hroom kind)
  exact ⟨_, s', Option.map_eq_some_iff.mpr ⟨s', hfile, rfl⟩⟩

/-- **Issuing a session never fails**, whatever the clock of the service shows. -/
theorem settle_issueSession_eq (h : s.Issuing) (user : User) :
    (issueSession user).settle s = (s.issue? user).map fun p => (.ok p.1, p.2) := by
  rw [issueSession_eq, settle_bind, settle_grantToken_eq h (supplement_sessionClaims user),
    System.issue?]
  cases haccess : s.grant? user.id .access (sessionClaims user) with
  | none => rfl
  | some access =>
    have hclocks := (filed_of_grant? haccess).2.clocks
    rw [Option.map_some, Option.bind_some, Option.bind_some]
    dsimp only
    rw [settle_bind, settle_grantToken_eq (h.sameClocks hclocks) TokenProvider.supplement_nil]
    cases access.2.grant? user.id .refresh [] with
    | none => rfl
    | some refresh => rfl

/-- What issuing a pair does, in two halves. -/
theorem grants_of_issue? {user : User} {pair : TokenPair} (h : s.issue? user = some (pair, s')) :
    ∃ s₁, s.grant? user.id .access (sessionClaims user) = some (pair.access, s₁) ∧
      s₁.grant? user.id .refresh [] = some (pair.refresh, s') := by
  obtain ⟨⟨access, s₁⟩, haccess, hrest⟩ := Option.bind_eq_some_iff.mp h
  obtain ⟨⟨refresh, s₂⟩, hrefresh, he⟩ := Option.map_eq_some_iff.mp hrest
  obtain ⟨rfl, rfl⟩ := Prod.mk.inj he
  exact ⟨s₁, haccess, hrefresh⟩

theorem exists_issue? (hroom : s.ServiceRoom) (user : User) :
    ∃ pair s', s.issue? user = some (pair, s') := by
  obtain ⟨access, s₁, haccess⟩ := exists_grant? hroom user.id .access (sessionClaims user)
  have hclocks := (filed_of_grant? haccess).2.clocks
  obtain ⟨refresh, s', hrefresh⟩ := exists_grant? (hclocks.serviceRoom hroom) user.id .refresh []
  refine ⟨⟨access, refresh⟩, s', ?_⟩
  rw [System.issue?, haccess, Option.bind_some, hrefresh]
  rfl

/-- **The access token of a new pair is accepted**, as long as the clock of the service leaves it
any time. -/
theorem accepts_of_issue? (h : s.Issuing) (hroom : s.ServiceRoom) {user : User} {pair : TokenPair}
    (hissue : s.issue? user = some (pair, s')) (hleft : s.serviceTime.seconds < s.expiry .access) :
    ∃ claims, s'.Accepts .access pair.access user.id claims := by
  obtain ⟨s₁, haccess, hrefresh⟩ := grants_of_issue? hissue
  obtain ⟨⟨id, htoken⟩, hfirst⟩ := filed_of_grant? haccess
  have hsecond := (filed_of_grant? hrefresh).2
  have hclocks := hfirst.clocks.trans hsecond.clocks
  have hgenuine : s.provider.Genuine pair.access user.id .access (s.expiry .access) :=
    htoken ▸ h.genuine id user.id .access (supplement_sessionClaims user)
  have hbare : bareToken pair.access = pair.access := htoken ▸ Token.bareToken_sign _ _
  have hle : s.expiry .access - s.serviceTime.seconds ≤ maxInt64 := by
    have hend := hroom .access
    unfold clockLimit Instant.perSecond maxInt64 at hend
    unfold maxInt64
    omega
  obtain ⟨claims, hverified⟩ := (hgenuine.verify_iff s.now.seconds).mpr (h.lt_expiry .access)
  refine ⟨claims, ?_, (hgenuine.names_of_verify hverified).subject_eq, ?_⟩
  · rw [hclocks.provider, hclocks.now, hbare]
    exact hverified
  · -- The refresh token goes to another slot.
    have hne : (⟨user.id, .access⟩ : Slot) ≠ ⟨user.id, .refresh⟩ := by simp
    rw [hbare, hsecond.untouched ⟨user.id, .access⟩ hne]
    exact hfirst.live hleft hle

end Service

end SessionAuth
