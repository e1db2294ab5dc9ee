import SessionAuth.Proofs.Service.Settle
import SessionAuth.Proofs.Session.Store
import SessionAuth.Proofs.Token.Issue
import SessionAuth.Service.Auth

/-!
# A new pair of tokens on record

Among healthy collaborators whose clocks agree, issuing a session never fails: both tokens are
signed, found to be good and put on record for as long as they are.

* `System.Steady`, `System.Room`: the clocks agree, and there is time left on them.
* `System.openSession`: what issuing does; `settle_issueSession` says that it does just this, and
  `settle_issueSession_of_expired` what it does when the clock of the service is far ahead.
* `grantToken`, `issueSession_eq`, `login_eq`: issuing and a login are done in two halves.
* `System.OnRecord`, `System.Cleared`: what a slot holds from now on.
* `System.onRecord_openSession`: after issuing, both tokens are on record.
-/

namespace SessionAuth

/-! ## Supplements -/

namespace Service

/-- The extra claims of an access token leave the canonical ones alone. -/
theorem supplement_sessionClaims (user : User) : TokenProvider.Supplement (sessionClaims user) := by
  have hmem : ∀ m ∈ sessionClaims user,
      m = (Claims.rolesKey, .array [.string user.role.name]) ∨
        m = (Claims.nameKey, .string user.name) := fun m hm => by
    simpa using Json.Fields.mem_ofList hm
  have hdepth : Json.maxDepth - 1 = Json.maxDepth - 2 + 1 := rfl
  refine ⟨⟨fun m hm => ?_, fun m hm => ?_⟩, fun m hm => ?_⟩
  · rcases hmem m hm with rfl | rfl
    · refine hdepth ▸ Json.Printable.array fun v hv => ?_
      obtain rfl := List.mem_singleton.mp hv
      exact .string _
    · exact .string _
  · rcases hmem m hm with rfl | rfl <;> rfl
  · rcases hmem m hm with rfl | rfl <;> (simp only; decide)

end Service

namespace System

/-! ## Clocks -/

/-- The service reads the same clock as the provider, which shows no leap second and a time of
the calendar, and tokens live for a second at least. -/
structure Steady (s : System) : Prop where
  clock : s.clockAhead = 0
  inCalendar : s.now.inCalendar = true
  nanos : s.now.nanos < Instant.perSecond
  ttl : ∀ kind, 0 < (s.provider.ttl kind).seconds

/-- The time at which a token signed now expires. -/
def expiry (s : System) (kind : TokenKind) : Int :=
  TokenProvider.expiry s.now.seconds (s.provider.ttl kind)

theorem expiry_le (s : System) (kind : TokenKind) : s.expiry kind ≤ s.now.seconds + maxInt64 := by
  unfold expiry TokenProvider.expiry
  omega

/-- The clock of the session store can show the time at which a token saved now expires. -/
def Room (s : System) : Prop :=
  ∀ kind, s.uptime + (s.expiry kind - s.now.seconds).toNat * Instant.perSecond < clockLimit

namespace Steady

variable {s : System}

theorem minInt64_le (h : s.Steady) : minInt64 ≤ s.now.seconds :=
  (Instant.bounds_of_inCalendar h.inCalendar).1

theorem lt_maxInt64 (h : s.Steady) : s.now.seconds < maxInt64 :=
  (Instant.bounds_of_inCalendar h.inCalendar).2

theorem serviceTime (h : s.Steady) : s.serviceTime = s.now := by
  rw [System.serviceTime, h.clock, Int.add_zero]

theorem lt_expiry (h : s.Steady) (kind : TokenKind) : s.now.seconds < s.expiry kind :=
  TokenProvider.lt_expiry h.lt_maxInt64 (h.ttl kind)

end Steady

/-! ## What issuing does -/

/-- The system with a session on record until it expires. -/
def keep (s : System) (session : Session) (expires : Int) : System :=
  { s with sessions := s.sessions.put ⟨session.slot.key, session.token,
      s.uptime + (expires - s.now.seconds).toNat * Instant.perSecond⟩ }

/-- A new token for a user, signed and put on record. -/
def grant (s : System) (user : UserId) (kind : TokenKind) (extra : Claims) : String × System :=
  let (token, s') := s.sign user kind extra
  (token, s'.keep ⟨user, kind, token⟩ (s.expiry kind))

/-- A new pair of tokens for a user, signed and put on record. -/
def openSession (s : System) (user : User) : TokenPair × System :=
  let (access, s₁) := s.grant user.id .access (Service.sessionClaims user)
  let (refresh, s₂) := s₁.grant user.id .refresh []
  (⟨access, refresh⟩, s₂)

/-- A new pair of tokens for a user, signed and not put on record. -/
def signPair (s : System) (user : User) : TokenPair × System :=
  let (access, s₁) := s.sign user.id .access (Service.sessionClaims user)
  let (refresh, s₂) := s₁.sign user.id .refresh []
  (⟨access, refresh⟩, s₂)

/-- Which tokens are signed does not hang on the clock of the service. -/
theorem issued_signPair (s : System) (clockAhead : Int) (user : User) :
    (({ s with clockAhead } : System).signPair user).2.issued = (s.openSession user).2.issued := rfl

theorem Steady.sign {s : System} (h : s.Steady) (user : UserId) (kind : TokenKind)
    (extra : Claims) : (s.sign user kind extra).2.Steady :=
  ⟨h.clock, h.inCalendar, h.nanos, h.ttl⟩

theorem Steady.keep {s : System} (h : s.Steady) (session : Session) (expires : Int) :
    (s.keep session expires).Steady :=
  ⟨h.clock, h.inCalendar, h.nanos, h.ttl⟩

theorem genuine_sign {s : System} (h : s.Steady) {user : UserId} {kind : TokenKind}
    {extra : Claims} (hextra : TokenProvider.Supplement extra) :
    s.provider.Genuine (s.sign user kind extra).1 user kind (s.expiry kind) :=
  TokenProvider.genuine_issue h.minInt64_le (Int.le_of_lt h.lt_maxInt64) hextra

end System

namespace Service

open Operation

variable {s : System}

theorem lifetime_ofSeconds {n : Nat} (h : 0 < n) :
    lifetime (.ofSeconds n) = .ofSeconds n := by
  have hne : (Duration.ofSeconds n).nanos ≠ 0 :=
    Nat.mul_ne_zero (Nat.ne_of_gt h) (by decide)
  rw [lifetime, if_neg hne]

theorem remaining?_eq {claims : Claims} {user : UserId} {kind : TokenKind} {now expires : Int}
    (hnames : claims.Names user kind expires) (hlt : now < expires)
    (hmax : (expires - now).toNat * Instant.perSecond < clockLimit) :
    claims.remaining? now = some (expires - now).toNat := by
  have hle : expires - now ≤ maxInt64 := by
    unfold clockLimit Instant.perSecond maxInt64 at hmax
    unfold maxInt64
    omega
  rw [Claims.remaining?, hnames.expiry]
  exact if_pos ⟨by omega, hle⟩

theorem settle_storeToken (h : s.Steady) {session : Session} {expires : Int}
    (hgenuine : s.provider.Genuine session.token session.user session.kind expires)
    (hlt : s.now.seconds < expires)
    (hroom : s.uptime + (expires - s.now.seconds).toNat * Instant.perSecond < clockLimit) :
    (storeToken session).settle s = some (.ok (), s.keep session expires) := by
  obtain ⟨claims, hverify⟩ := (hgenuine.verify_iff s.now.seconds).mpr hlt
  have hnames := hgenuine.names_of_verify hverify
  have hremaining := remaining?_eq hnames hlt (by omega)
  have hserve : s.serve (.verifyToken session.token) = some (.ok claims, s) := by
    simp only [System.serve, hverify]
    rfl
  have hclock : s.serve .readClock = some (s.now, s) := by
    simp only [System.serve, h.serviceTime]
  have hsave : s.serve (.saveSession session (.ofSeconds (expires - s.now.seconds).toNat)) =
      some (.ok (), s.keep session expires) := by
    have hpos : 0 < (expires - s.now.seconds).toNat := by omega
    simp only [System.serve, SessionStore.save, lifetime_ofSeconds hpos]
    rw [Duration.ofSeconds, if_pos hroom]
    rfl
  rw [storeToken, settle_bind_ok (settle_ask hserve), settle_bind_ok (settle_orFailed _ _ _),
    settle_bind_ok (settle_ask hclock)]
  simp only [hremaining]
  rw [settle_bind_ok (settle_ask hsave), settle_orFailed]
  rfl

/-- A token with no time left on the clock of the service is not put on record. -/
theorem settle_storeToken_of_expired {session : Session} {expires : Int}
    (hgenuine : s.provider.Genuine session.token session.user session.kind expires)
    (hlt : s.now.seconds < expires) (hpast : expires ≤ s.serviceTime.seconds) :
    (storeToken session).settle s = some (.ok (), s) := by
  obtain ⟨claims, hverify⟩ := (hgenuine.verify_iff s.now.seconds).mpr hlt
  have hnames := hgenuine.names_of_verify hverify
  have hremaining : claims.remaining? s.serviceTime.seconds = none := by
    rw [Claims.remaining?, hnames.expiry]
    exact if_neg fun hleft => by omega
  have hserve : s.serve (.verifyToken session.token) = some (.ok claims, s) := by
    simp only [System.serve, hverify]
    rfl
  have hclock : s.serve .readClock = some (s.serviceTime, s) := rfl
  rw [storeToken, settle_bind_ok (settle_ask hserve), settle_bind_ok (settle_orFailed _ _ _),
    settle_bind_ok (settle_ask hclock)]
  simp only [hremaining]
  rfl

/-- A new token for a user, signed and put on record: one half of issuing a session. -/
def grantToken (user : UserId) (kind : TokenKind) (extra : Claims) : Operation String := do
  let token ← ofResult (← ask (.signToken user kind extra))
  storeToken ⟨user, kind, token⟩
  return token

theorem issueSession_eq (user : User) : issueSession user = (do
    let access ← grantToken user.id .access (sessionClaims user)
    let refresh ← grantToken user.id .refresh []
    return ⟨access, refresh⟩) := by
  simp only [issueSession, grantToken, bind_assoc, pure_bind]

/-- A login up to where its access token is on record, with the account and the token. -/
def openAccess (username password : String) : Operation (User × String) := do
  let user ← authenticate username password
  let access ← grantToken user.id .access (sessionClaims user)
  return (user, access)

/-- What a login does after that. -/
def openRefresh (opened : User × String) : Operation LoginResult := do
  let refresh ← grantToken opened.1.id .refresh []
  return ⟨opened.1.view, ⟨opened.2, refresh⟩⟩

theorem login_eq (username password : String) :
    login username password = openAccess username password >>= openRefresh := by
  simp only [login, issueSession_eq, openAccess, openRefresh, bind_assoc, pure_bind]

theorem settle_grantToken (h : s.Steady) (hroom : s.Room) {user : UserId} {kind : TokenKind}
    {extra : Claims} (hextra : TokenProvider.Supplement extra) :
    (grantToken user kind extra).settle s =
      some (.ok (s.grant user kind extra).1, (s.grant user kind extra).2) := by
  have hsign : s.serve (.signToken user kind extra) =
      some (.ok (s.sign user kind extra).1, (s.sign user kind extra).2) := rfl
  have hstore : (storeToken ⟨user, kind, (s.sign user kind extra).1⟩).settle
      (s.sign user kind extra).2 = some (.ok (), (s.grant user kind extra).2) :=
    settle_storeToken (h.sign user kind extra) (System.genuine_sign h hextra) (h.lt_expiry kind)
      (hroom kind)
  rw [grantToken, settle_bind_ok (settle_ask hsign), settle_bind_ok (settle_ofResult _ _),
    settle_bind_ok hstore]
  rfl

/-- **Issuing a session among healthy collaborators.** -/
theorem settle_issueSession (h : s.Steady) (hroom : s.Room) (user : User) :
    (issueSession user).settle s =
      some (.ok (s.openSession user).1, (s.openSession user).2) := by
  have hgrant : (s.grant user.id .access (sessionClaims user)).2.Steady :=
    (h.sign _ _ _).keep _ _
  rw [issueSession_eq, settle_bind_ok (settle_grantToken h hroom (supplement_sessionClaims user)),
    settle_bind_ok (settle_grantToken hgrant hroom TokenProvider.supplement_nil)]
  rfl

/-- **Issuing a session when the clock of the service is too far ahead**: both tokens are signed,
and none is put on record. -/
theorem settle_issueSession_of_expired (hcalendar : s.now.inCalendar = true)
    (hlt : ∀ kind, s.now.seconds < s.expiry kind)
    (hpast : ∀ kind, s.expiry kind ≤ s.serviceTime.seconds) (user : User) :
    (issueSession user).settle s = some (.ok (s.signPair user).1, (s.signPair user).2) := by
  obtain ⟨hmin, hmax⟩ := Instant.bounds_of_inCalendar hcalendar
  have hgenuine : ∀ id kind extra, TokenProvider.Supplement extra → s.provider.Genuine
      (s.provider.issue s.now.seconds id user.id kind extra) user.id kind (s.expiry kind) :=
    fun _ _ _ hextra => TokenProvider.genuine_issue hmin (Int.le_of_lt hmax) hextra
  have haccess : s.serve (.signToken user.id .access (sessionClaims user)) =
      some (.ok (s.signPair user).1.access, (s.sign user.id .access (sessionClaims user)).2) := rfl
  have hrefresh : (s.sign user.id .access (sessionClaims user)).2.serve
      (.signToken user.id .refresh []) =
        some (.ok (s.signPair user).1.refresh, (s.signPair user).2) := rfl
  have hfirst : (storeToken ⟨user.id, .access, (s.signPair user).1.access⟩).settle
      (s.sign user.id .access (sessionClaims user)).2 =
        some (.ok (), (s.sign user.id .access (sessionClaims user)).2) :=
    settle_storeToken_of_expired (hgenuine _ .access _ (supplement_sessionClaims user))
      (hlt .access) (hpast .access)
  have hsecond : (storeToken ⟨user.id, .refresh, (s.signPair user).1.refresh⟩).settle
      (s.signPair user).2 = some (.ok (), (s.signPair user).2) :=
    settle_storeToken_of_expired (hgenuine _ .refresh _ TokenProvider.supplement_nil)
      (hlt .refresh) (hpast .refresh)
  rw [issueSession, settle_bind_ok (settle_ask haccess), settle_bind_ok (settle_ofResult _ _),
    settle_bind_ok hfirst, settle_bind_ok (settle_ask hrefresh),
    settle_bind_ok (settle_ofResult _ _), settle_bind_ok hsecond]
  rfl

end Service

/-! ## What is on record -/

namespace System

/-- A slot holds a genuine token from now on, until it expires at least. -/
structure OnRecord (s : System) (slot : Slot) (token : String) (expires : Int) : Prop where
  genuine : s.provider.Genuine token slot.user slot.kind expires
  lives : ∃ deadline : Nat, expires * Instant.perSecond - s.now.toNanos ≤ deadline - s.uptime ∧
    ∀ t, s.uptime ≤ t →
      s.sessions.live? t slot = if t < deadline then some token else none

/-- A slot holds nothing from now on. -/
def Cleared (s : System) (slot : Slot) : Prop :=
  ∀ t, s.uptime ≤ t → s.sessions.live? t slot = none

/-- A slot holds from now on what it held before. -/
def Untouched (s s' : System) (slot : Slot) : Prop :=
  ∀ t, s.uptime ≤ t → s'.sessions.live? t slot = s.sessions.live? t slot

/-- Two systems with the same provider and the same time on all clocks. -/
structure SameClocks (s s' : System) : Prop where
  provider : s'.provider = s.provider
  now : s'.now = s.now
  clockAhead : s'.clockAhead = s.clockAhead
  uptime : s'.uptime = s.uptime

theorem SameClocks.refl (s : System) : SameClocks s s := ⟨rfl, rfl, rfl, rfl⟩

theorem SameClocks.trans {s₁ s₂ s₃ : System} (h : SameClocks s₁ s₂) (h' : SameClocks s₂ s₃) :
    SameClocks s₁ s₃ :=
  ⟨h'.provider.trans h.provider, h'.now.trans h.now, h'.clockAhead.trans h.clockAhead,
    h'.uptime.trans h.uptime⟩

theorem SameClocks.steady {s s' : System} (h : SameClocks s s') (hs : s.Steady) : s'.Steady :=
  ⟨h.clockAhead ▸ hs.clock, h.now ▸ hs.inCalendar, h.now ▸ hs.nanos, h.provider ▸ hs.ttl⟩

theorem SameClocks.room {s s' : System} (h : SameClocks s s') (hs : s.Room) : s'.Room := by
  intro kind
  rw [expiry, h.uptime, h.now, h.provider]
  exact hs kind

theorem Untouched.refl (s : System) (slot : Slot) : Untouched s s slot := fun _ _ => rfl

theorem Untouched.trans {s₁ s₂ s₃ : System} {slot : Slot} (hclocks : SameClocks s₁ s₂)
    (h : Untouched s₁ s₂ slot) (h' : Untouched s₂ s₃ slot) : Untouched s₁ s₃ slot := fun t ht =>
  (h' t (hclocks.uptime.symm ▸ ht)).trans (h t ht)

theorem Untouched.live?_eq {s s' : System} {slot : Slot} (h : Untouched s s' slot)
    (hclocks : SameClocks s s') : s'.live? slot = s.live? slot := by
  rw [live?, hclocks.uptime]
  exact h s.uptime (Nat.le_refl _)

theorem OnRecord.untouched {s s' : System} {slot : Slot} {token : String} {expires : Int}
    (h : s.OnRecord slot token expires) (hclocks : SameClocks s s')
    (hsame : Untouched s s' slot) : s'.OnRecord slot token expires := by
  obtain ⟨hgenuine, deadline, hdeadline, hlives⟩ := h
  refine ⟨hclocks.provider ▸ hgenuine, deadline, ?_, fun t ht => ?_⟩
  · rw [hclocks.now, hclocks.uptime]
    exact hdeadline
  · rw [hclocks.uptime] at ht
    rw [hsame t ht, hlives t ht]

theorem Cleared.untouched {s s' : System} {slot : Slot} (h : s.Cleared slot)
    (hclocks : SameClocks s s') (hsame : Untouched s s' slot) : s'.Cleared slot := fun t ht => by
  rw [hclocks.uptime] at ht
  rw [hsame t ht, h t ht]

theorem OnRecord.live?_eq {s : System} {slot : Slot} {token : String} {expires : Int}
    (h : s.OnRecord slot token expires) (hs : s.Steady) (hlt : s.now.seconds < expires) :
    s.live? slot = some token := by
  obtain ⟨-, deadline, hdeadline, hlives⟩ := h
  have hnanos := hs.nanos
  have hlive : s.uptime < deadline := by
    simp only [Instant.toNanos, Instant.perSecond] at *
    omega
  rw [live?, hlives s.uptime (Nat.le_refl _), if_pos hlive]

theorem OnRecord.eq_of_live? {s : System} {slot : Slot} {token token' : String} {expires : Int}
    (h : s.OnRecord slot token expires) (hlive : s.live? slot = some token') : token' = token := by
  obtain ⟨-, deadline, -, hlives⟩ := h
  rw [live?, hlives s.uptime (Nat.le_refl _)] at hlive
  split at hlive
  · exact (Option.some.inj hlive).symm
  · exact absurd hlive (by simp)

theorem untouched_keep (s : System) (session : Session) (expires : Int) {slot : Slot}
    (h : slot ≠ session.slot) : Untouched s (s.keep session expires) slot := by
  intro t _
  have hput := SessionStore.live?_put s.sessions t session.slot slot session.token
    (s.uptime + (expires - s.now.seconds).toNat * Instant.perSecond)
  rw [if_neg h] at hput
  exact hput

theorem onRecord_keep {s : System} (h : s.Steady) {session : Session} {expires : Int}
    (hgenuine : s.provider.Genuine session.token session.user session.kind expires)
    (hlt : s.now.seconds < expires) :
    (s.keep session expires).OnRecord session.slot session.token expires := by
  refine ⟨hgenuine, s.uptime + (expires - s.now.seconds).toNat * Instant.perSecond, ?_, ?_⟩
  · have hnanos := h.nanos
    simp only [keep, Instant.toNanos, Instant.perSecond] at *
    omega
  · intro t _
    have hput := SessionStore.live?_put s.sessions t session.slot session.slot session.token
      (s.uptime + (expires - s.now.seconds).toNat * Instant.perSecond)
    rwa [if_pos rfl] at hput

theorem untouched_grant (s : System) (user : UserId) (kind : TokenKind) (extra : Claims)
    {slot : Slot} (h : slot ≠ ⟨user, kind⟩) : Untouched s (s.grant user kind extra).2 slot :=
  untouched_keep (s.sign user kind extra).2 _ _ h

theorem onRecord_grant {s : System} (h : s.Steady) (user : UserId) (kind : TokenKind)
    {extra : Claims} (hextra : TokenProvider.Supplement extra) :
    (s.grant user kind extra).2.OnRecord ⟨user, kind⟩ (s.grant user kind extra).1
      (s.expiry kind) :=
  onRecord_keep (h.sign user kind extra) (genuine_sign h hextra) (h.lt_expiry kind)

theorem sameClocks_grant (s : System) (user : UserId) (kind : TokenKind) (extra : Claims) :
    SameClocks s (s.grant user kind extra).2 := ⟨rfl, rfl, rfl, rfl⟩

theorem sameClocks_openSession (s : System) (user : User) :
    SameClocks s (s.openSession user).2 :=
  (sameClocks_grant s _ _ _).trans (sameClocks_grant _ _ _ _)

/-- **Both tokens of a new pair are on record.** -/
theorem onRecord_openSession {s : System} (h : s.Steady) (user : User) :
    (s.openSession user).2.OnRecord ⟨user.id, .access⟩ (s.openSession user).1.access
        (s.expiry .access) ∧
      (s.openSession user).2.OnRecord ⟨user.id, .refresh⟩ (s.openSession user).1.refresh
        (s.expiry .refresh) := by
  have hextra := Service.supplement_sessionClaims user
  have hclocks := sameClocks_grant s user.id .access (Service.sessionClaims user)
  have hne : (⟨user.id, .access⟩ : Slot) ≠ ⟨user.id, .refresh⟩ := by simp
  constructor
  · exact (onRecord_grant h user.id .access hextra).untouched (sameClocks_grant _ _ _ _)
      (untouched_grant _ _ _ _ hne)
  · exact onRecord_grant (hclocks.steady h) user.id .refresh TokenProvider.supplement_nil

theorem untouched_openSession (s : System) (user : User) {slot : Slot} (h : slot.user ≠ user.id) :
    Untouched s (s.openSession user).2 slot := by
  have hne : ∀ kind, slot ≠ ⟨user.id, kind⟩ := fun kind he => h (congrArg Slot.user he)
  exact (untouched_grant s _ _ _ (hne .access)).trans (sameClocks_grant s _ _ _)
    (untouched_grant _ _ _ _ (hne .refresh))

end System

end SessionAuth
