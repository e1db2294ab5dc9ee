import SessionAuth.Proofs.Service.Outcome
import SessionAuth.Proofs.Service.Sample

/-!
# What a history of requests says about the next one

Requests are answered one after another, and between them time passes. The history alone decides
which tokens are accepted then: for each user those of the pair that was given out last, unless the
sessions of the user were ended since, and each of them until it expires.

* `Event`, `History`: what has been asked and answered, and the system after it.
* `current?`: the pair of tokens of a user that a history leaves valid.
* `Standing`: what the slots of a user hold; `followed_of_history` ties them to the history.
* `accepted_iff_of_history`: which tokens are accepted after a history.
-/

namespace SessionAuth

/-! ## Time -/

/-- The instant so many nanoseconds later. -/
def Instant.later (t : Instant) (nanos : Nat) : Instant :=
  ⟨t.seconds + ((t.nanos + nanos) / perSecond : Nat), (t.nanos + nanos) % perSecond⟩

theorem Instant.toNanos_later (t : Instant) (nanos : Nat) :
    (t.later nanos).toNanos = t.toNanos + nanos := by
  have hdiv := Nat.div_add_mod (t.nanos + nanos) perSecond
  simp only [toNanos, later, perSecond] at *
  omega

namespace System

/-- So many nanoseconds pass on all clocks. -/
def elapse (s : System) (nanos : Nat) : System :=
  { s with now := s.now.later nanos, uptime := s.uptime + nanos }

theorem Steady.elapse {s : System} (h : s.Steady) {nanos : Nat}
    (hcalendar : (s.elapse nanos).now.inCalendar = true) : (s.elapse nanos).Steady :=
  ⟨h.clock, hcalendar, Nat.mod_lt _ (by decide), h.ttl⟩

theorem OnRecord.elapse {s : System} {slot : Slot} {token : String} {expires : Int}
    (h : s.OnRecord slot token expires) (nanos : Nat) :
    (s.elapse nanos).OnRecord slot token expires := by
  obtain ⟨hgenuine, deadline, hdeadline, hlives⟩ := h
  refine ⟨hgenuine, deadline, ?_, fun t ht => hlives t (Nat.le_trans (Nat.le_add_right _ _) ht)⟩
  have htime := Instant.toNanos_later s.now nanos
  simp only [System.elapse] at *
  omega

theorem Cleared.elapse {s : System} {slot : Slot} (h : s.Cleared slot) (nanos : Nat) :
    (s.elapse nanos).Cleared slot := fun t ht =>
  h t (Nat.le_trans (Nat.le_add_right _ _) ht)

end System

namespace Service

/-! ## Histories -/

/-- A request and its result. -/
structure Event where
  request : Request
  result : Except ServiceError request.Result

/-- The user that a presented token names, if it is genuine. -/
def presentedUser? (p : TokenProvider) (raw : String) : Option UserId :=
  (Token.open? p.key (bareToken raw)).bind fun claims => claims.subject.toOption

namespace Event

/-- The pair of tokens that was given out, and the user whom it was given out to. -/
def issued? (p : TokenProvider) : Event → Option (UserId × TokenPair)
  | ⟨.login _ _, .ok result⟩ => (UserId.ofNat? result.user.id).map (·, result.tokens)
  | ⟨.refresh raw, .ok pair⟩ => (presentedUser? p raw).map (·, pair)
  | ⟨.changePassword caller _ _, .ok pair⟩ => some (caller.id, pair)
  | _ => none

/-- The user whose sessions were ended. -/
def revoked? : Event → Option UserId
  | ⟨.logout user, .ok _⟩ => some user
  | ⟨.softDelete caller, .ok _⟩ => some caller.id
  | _ => none

end Event

/-- The pair of tokens that was given out to a user last, unless the user's sessions were ended
since. The latest event comes first. -/
def current? (p : TokenProvider) (user : UserId) : List Event → Option TokenPair
  | [] => none
  | e :: earlier =>
    if e.revoked? = some user then none
    else
      match e.issued? p with
      | some (id, pair) => if id = user then some pair else current? p user earlier
      | none => current? p user earlier

/-- What has been asked and answered since a system was set up, and the system now. Nothing
interferes with a request, and no time passes during it. -/
inductive History (s₀ : System) : List Event → System → Prop
  | start : History s₀ [] s₀
  | request {h : List Event} {s s' : System} {r : Request} {result : Except ServiceError r.Result}
      {calls : List Call} (earlier : History s₀ h s) (room : s.Room)
      (answered : r.operation.run Plan.none s = ⟨.returned result, calls, s'⟩) :
      History s₀ (⟨r, result⟩ :: h) s'
  | elapse {h : List Event} {s : System} (earlier : History s₀ h s) (nanos : Nat)
      (calendar : (s.elapse nanos).now.inCalendar = true) : History s₀ h (s.elapse nanos)

/-! ## Standing -/

/-- What the slots of a user hold, given the pair of tokens that is valid, if one is. -/
structure Standing (s : System) (user : UserId) (valid : Option TokenPair) : Prop where
  onRecord : ∀ pair, valid = some pair → s.users.HasLive user ∧
    ∀ kind, ∃ expires, s.OnRecord ⟨user, kind⟩ (pair.token kind) expires
  cleared : valid = none → ∀ kind, s.Cleared ⟨user, kind⟩

theorem standing_some {s : System} {user : UserId} {pair : TokenPair}
    (hlive : s.users.HasLive user)
    (hrecord : ∀ kind, ∃ expires, s.OnRecord ⟨user, kind⟩ (pair.token kind) expires) :
    Standing s user (some pair) :=
  ⟨fun _ h => Option.some.inj h ▸ ⟨hlive, hrecord⟩, fun h => absurd h (by simp)⟩

theorem standing_none {s : System} {user : UserId} (h : ∀ kind, s.Cleared ⟨user, kind⟩) :
    Standing s user none :=
  ⟨fun _ h => absurd h (by simp), fun _ => h⟩

theorem Standing.frame {s s' : System} {user : UserId} {valid : Option TokenPair}
    (h : Standing s user valid) (hclocks : System.SameClocks s s')
    (hsame : ∀ kind, System.Untouched s s' ⟨user, kind⟩)
    (hlive : s.users.HasLive user → s'.users.HasLive user) : Standing s' user valid := by
  refine ⟨fun pair hpair => ?_, fun hnone kind => ?_⟩
  · obtain ⟨hexists, hrecord⟩ := h.onRecord pair hpair
    refine ⟨hlive hexists, fun kind => ?_⟩
    obtain ⟨expires, hslot⟩ := hrecord kind
    exact ⟨expires, hslot.untouched hclocks (hsame kind)⟩
  · exact (h.cleared hnone kind).untouched hclocks (hsame kind)

theorem Standing.elapse {s : System} {user : UserId} {valid : Option TokenPair}
    (h : Standing s user valid) (nanos : Nat) : Standing (s.elapse nanos) user valid := by
  refine ⟨fun pair hpair => ?_, fun hnone kind => (h.cleared hnone kind).elapse nanos⟩
  obtain ⟨hexists, hrecord⟩ := h.onRecord pair hpair
  refine ⟨hexists, fun kind => ?_⟩
  obtain ⟨expires, hslot⟩ := hrecord kind
  exact ⟨expires, hslot.elapse nanos⟩

/-- An account whose look-up finds nothing has no valid pair. -/
theorem Standing.eq_none {s : System} {user : UserId} {valid : Option TokenPair}
    (h : Standing s user valid) (hgone : ¬ s.users.HasLive user) : valid = none := by
  cases valid with
  | none => rfl
  | some pair => exact absurd (h.onRecord pair rfl).1 hgone

section Steps

variable {p : TokenProvider} {h : List Event} {s s' : System} {e : Event}

theorem standing_quiet (hstanding : ∀ user, Standing s user (current? p user h))
    (hquiet : System.Quiet s s') (hissued : e.issued? p = none) (hrevoked : e.revoked? = none)
    (user : UserId) : Standing s' user (current? p user (e :: h)) := by
  have hcurrent : current? p user (e :: h) = current? p user h := by
    simp [current?, hissued, hrevoked]
  rw [hcurrent]
  exact (hstanding user).frame hquiet.clocks (fun kind => hquiet.untouched _) (hquiet.hasLive user)

theorem standing_opened (hs : s.Steady) (hstanding : ∀ user, Standing s user (current? p user h))
    {id : UserId} {pair : TokenPair} (hopened : Opened s id pair s')
    (hissued : e.issued? p = some (id, pair)) (hrevoked : e.revoked? = none) (user : UserId) :
    Standing s' user (current? p user (e :: h)) := by
  by_cases hid : id = user
  · subst hid
    have hcurrent : current? p id (e :: h) = some pair := by
      simp [current?, hissued, hrevoked]
    rw [hcurrent]
    exact standing_some hopened.hasLive.1 fun kind => ⟨_, hopened.onRecord hs kind⟩
  · have hcurrent : current? p user (e :: h) = current? p user h := by
      simp [current?, hissued, hrevoked, hid]
    have hne : ∀ kind, (⟨user, kind⟩ : Slot).user ≠ id := fun _ he => hid he.symm
    rw [hcurrent]
    exact (hstanding user).frame hopened.sameClocks (fun kind => hopened.untouched (hne kind))
      (hopened.hasLive.2 user)

theorem standing_revoked (hstanding : ∀ user, Standing s user (current? p user h))
    {id : UserId} (hcleared : Revoked s id s') (hissued : e.issued? p = none)
    (hrevoked : e.revoked? = some id ∨ e.revoked? = none ∧ ¬ s.users.HasLive id)
    (user : UserId) : Standing s' user (current? p user (e :: h)) := by
  by_cases hid : id = user
  · subst hid
    have hcurrent : current? p id (e :: h) = none := by
      rcases hrevoked with hrevoked | ⟨hrevoked, hgone⟩
      · simp [current?, hrevoked]
      · simp [current?, hissued, hrevoked, (hstanding id).eq_none hgone]
    rw [hcurrent]
    exact standing_none hcleared.cleared
  · have hcurrent : current? p user (e :: h) = current? p user h := by
      rcases hrevoked with hrevoked | ⟨hrevoked, -⟩
      · simp [current?, hissued, hrevoked, hid]
      · simp [current?, hissued, hrevoked]
    have hne : ∀ kind, (⟨user, kind⟩ : Slot).user ≠ id := fun _ he => hid he.symm
    rw [hcurrent]
    exact (hstanding user).frame hcleared.clocks (fun kind => hcleared.untouched _ (hne kind))
      (hcleared.hasLive user fun he => hid he.symm)

end Steps

/-- Accepting a token reads the user off it that it was presented for. -/
theorem presentedUser?_of_accepts {s : System} {kind : TokenKind} {raw : String} {id : UserId}
    {claims : Claims} (h : s.Accepts kind raw id claims) :
    presentedUser? s.provider raw = some id := by
  obtain ⟨hopen, -⟩ := TokenProvider.verify_eq_ok_iff.mp h.verified
  rw [presentedUser?, hopen, Option.bind_some, h.subject]
  rfl

/-- **What one request does to the standing of all users.** -/
theorem standing_request {h : List Event} {s s' : System} {r : Request}
    {result : Except ServiceError r.Result} (hs : s.Steady) (hroom : s.Room)
    (hstanding : ∀ user, Standing s user (current? s.provider user h))
    (hsettle : r.operation.settle s = some (result, s')) :
    System.SameClocks s s' ∧
      ∀ user, Standing s' user (current? s.provider user (⟨r, result⟩ :: h)) := by
  cases r with
  | register registration =>
    have hquiet := (isQuiet_register registration).settle hsettle
    exact ⟨hquiet.clocks, standing_quiet hstanding hquiet rfl rfl⟩
  | validate raw =>
    have hquiet := (isQuiet_validate raw).settle hsettle
    exact ⟨hquiet.clocks, standing_quiet hstanding hquiet rfl rfl⟩
  | profile caller =>
    have hquiet := (isQuiet_profile caller).settle hsettle
    exact ⟨hquiet.clocks, standing_quiet hstanding hquiet rfl rfl⟩
  | login username password =>
    obtain ⟨r, s₁, hlogin, hcases⟩ := settle_login hs hroom username password
    obtain ⟨rfl, rfl⟩ := Prod.mk.inj (Option.some.inj (hlogin.symm.trans hsettle))
    rcases hcases with ⟨e, rfl, hquiet⟩ | ⟨result, id, rfl, hid, hopened⟩
    · exact ⟨hquiet.clocks, standing_quiet hstanding hquiet rfl rfl⟩
    · have hissued : Event.issued? s.provider ⟨.login username password, .ok result⟩ =
          some (id, result.tokens) := by
        simp only [Event.issued?, UserId.ofNat?_eq_some_iff.mpr hid.symm, Option.map_some]
      exact ⟨hopened.sameClocks, standing_opened hs hstanding hopened hissued rfl⟩
  | refresh raw =>
    obtain ⟨r, s₁, hrefresh, hcases⟩ := settle_refresh hs hroom raw
    obtain ⟨rfl, rfl⟩ := Prod.mk.inj (Option.some.inj (hrefresh.symm.trans hsettle))
    rcases hcases with ⟨e, rfl, hquiet, -⟩ | ⟨pair, id, claims, rfl, haccepts, hopened⟩
    · exact ⟨hquiet.clocks, standing_quiet hstanding hquiet rfl rfl⟩
    · have hissued : Event.issued? s.provider ⟨.refresh raw, .ok pair⟩ = some (id, pair) := by
        simp only [Event.issued?, presentedUser?_of_accepts haccepts, Option.map_some]
      exact ⟨hopened.sameClocks, standing_opened hs hstanding hopened hissued rfl⟩
  | changePassword caller current new =>
    obtain ⟨r, s₁, hchange, hcases⟩ := settle_changePassword hs hroom caller current new
    obtain ⟨rfl, rfl⟩ := Prod.mk.inj (Option.some.inj (hchange.symm.trans hsettle))
    rcases hcases with ⟨e, rfl, hquiet⟩ | ⟨pair, rfl, hopened⟩
    · exact ⟨hquiet.clocks, standing_quiet hstanding hquiet rfl rfl⟩
    · exact ⟨hopened.sameClocks, standing_opened hs hstanding hopened rfl rfl⟩
  | logout user =>
    obtain ⟨s₁, hlogout, hrevoked, -⟩ := settle_logout s user
    obtain ⟨rfl, rfl⟩ := Prod.mk.inj (Option.some.inj (hlogout.symm.trans hsettle))
    exact ⟨hrevoked.clocks, standing_revoked hstanding hrevoked rfl (Or.inl rfl)⟩
  | softDelete caller =>
    obtain ⟨r, s₁, hdelete, hrevoked, hcases⟩ := settle_softDelete s caller
    obtain ⟨rfl, rfl⟩ := Prod.mk.inj (Option.some.inj (hdelete.symm.trans hsettle))
    rcases hcases with ⟨rfl, -⟩ | ⟨e, rfl, hgone⟩
    · exact ⟨hrevoked.clocks, standing_revoked hstanding hrevoked rfl (Or.inl rfl)⟩
    · exact ⟨hrevoked.clocks, standing_revoked hstanding hrevoked rfl (Or.inr ⟨rfl, hgone⟩)⟩

/-! ## After a history -/

/-- A system in which nobody has logged in yet, with clocks that agree. -/
structure Fresh (s : System) : Prop where
  steady : s.Steady
  sessions : s.sessions = .empty

/-- What holds after a history. -/
structure Followed (s₀ : System) (h : List Event) (s : System) : Prop where
  steady : s.Steady
  provider : s.provider = s₀.provider
  standing : ∀ user, Standing s user (current? s₀.provider user h)

theorem followed_of_history {s₀ s : System} {h : List Event} (hfresh : Fresh s₀)
    (hist : History s₀ h s) : Followed s₀ h s := by
  induction hist with
  | start =>
    refine ⟨hfresh.steady, rfl, fun user => standing_none fun kind t _ => ?_⟩
    rw [hfresh.sessions]
    exact SessionStore.live?_empty t _
  | request earlier room answered ih =>
    have hstanding := ih.standing
    rw [← ih.provider] at hstanding
    have hsettle := Operation.settle_of_run answered
    obtain ⟨hclocks, hnext⟩ := standing_request ih.steady room hstanding hsettle
    rw [ih.provider] at hnext
    exact ⟨hclocks.steady ih.steady, hclocks.provider.trans ih.provider, hnext⟩
  | elapse earlier nanos calendar ih =>
    exact ⟨ih.steady.elapse calendar, ih.provider, fun user => (ih.standing user).elapse nanos⟩

/-- The time at which a token says that it expires. -/
def expiryOf? (p : TokenProvider) (token : String) : Option Int :=
  (Token.open? p.key token).bind Claims.expiry?

/-- The token says that it expires later than now. -/
def Unexpired (s : System) (token : String) : Prop :=
  ∃ expires, expiryOf? s.provider token = some expires ∧ s.now.seconds < expires

theorem unexpired_iff {s : System} {token : String} {user : UserId} {kind : TokenKind}
    {expires : Int} (h : s.provider.Genuine token user kind expires) :
    Unexpired s token ↔ s.now.seconds < expires := by
  obtain ⟨claims, hopen, hnames⟩ := h
  have hexpiry : expiryOf? s.provider token = some expires := by
    rw [expiryOf?, hopen, Option.bind_some, hnames.expiry]
  constructor
  · rintro ⟨expires', he, hlt⟩
    obtain rfl := Option.some.inj (hexpiry.symm.trans he)
    exact hlt
  · exact fun hlt => ⟨expires, hexpiry, hlt⟩

/-- **The tokens that are accepted are those of the pair that is valid.** -/
theorem accepts_iff {s : System} {user : UserId} {valid : Option TokenPair} (hs : s.Steady)
    (h : Standing s user valid) (kind : TokenKind) (raw : String) :
    (∃ claims, s.Accepts kind raw user claims) ↔
      ∃ pair, valid = some pair ∧ bareToken raw = pair.token kind ∧
        Unexpired s (pair.token kind) := by
  cases valid with
  | none =>
    have hnone : s.live? ⟨user, kind⟩ = none := h.cleared rfl kind s.uptime (Nat.le_refl _)
    refine ⟨fun ⟨claims, ha⟩ => absurd (hnone.symm.trans ha.stored) (by simp), ?_⟩
    rintro ⟨pair, hpair, -⟩
    exact absurd hpair (by simp)
  | some pair =>
    obtain ⟨-, hrecord⟩ := h.onRecord pair rfl
    obtain ⟨expires, hslot⟩ := hrecord kind
    have hgenuine := hslot.genuine
    constructor
    · rintro ⟨claims, ha⟩
      have htoken := hslot.eq_of_live? ha.stored
      have hverified := ha.verified
      rw [htoken] at hverified
      have hlt := (hgenuine.verify_iff s.now.seconds).mp ⟨claims, hverified⟩
      exact ⟨pair, rfl, htoken, (unexpired_iff hgenuine).mpr hlt⟩
    · rintro ⟨pair', hpair, htoken, hunexpired⟩
      obtain rfl := Option.some.inj hpair
      have hlt := (unexpired_iff hgenuine).mp hunexpired
      exact hslot.accepts hs hlt htoken

theorem validate_succeeds_iff (s : System) (user : UserId) (raw : String) :
    (∃ caller, (validate raw).Succeeds s caller ∧ caller.id = user) ↔
      ∃ claims, s.Accepts .access raw user claims := by
  obtain ⟨r, s', hsettle, hiff⟩ := settle_validate s raw
  constructor
  · rintro ⟨caller, hsucceeds, rfl⟩
    obtain ⟨s₁, hcaller⟩ := Operation.succeeds_iff.mp hsucceeds
    obtain ⟨rfl, -⟩ := Prod.mk.inj (Option.some.inj (hsettle.symm.trans hcaller))
    exact ⟨caller.claims, (hiff caller).mp rfl⟩
  · rintro ⟨claims, haccepts⟩
    obtain rfl := (hiff ⟨user, claims⟩).mpr haccepts
    exact ⟨⟨user, claims⟩, Operation.succeeds_iff.mpr ⟨s', hsettle⟩, rfl⟩

/-- Only an accepted refresh token is traded in. -/
theorem accepts_of_refresh_succeeds {s : System} {user : UserId} {raw : String}
    (h : ∃ pair, (refresh raw).Succeeds s pair)
    (huser : presentedUser? s.provider raw = some user) :
    ∃ claims, s.Accepts .refresh raw user claims := by
  obtain ⟨pair, hsucceeds⟩ := h
  obtain ⟨s', hpair⟩ := Operation.succeeds_iff.mp hsucceeds
  obtain ⟨r, s₁, hcheck, -, hiff⟩ := settle_checkRefresh s raw
  rw [refresh, Operation.settle_bind_ok (Operation.settle_attempt hcheck)] at hpair
  cases r with
  | error e => exact absurd hpair (by simp)
  | ok id =>
    obtain ⟨claims, haccepts⟩ := (hiff id).mp rfl
    have hid := presentedUser?_of_accepts haccepts
    obtain rfl := Option.some.inj (huser.symm.trans hid)
    exact ⟨claims, haccepts⟩

theorem refresh_succeeds_iff {s : System} (hs : s.Steady) (hroom : s.Room) {user : UserId}
    {raw : String} (hlive : (∃ claims, s.Accepts .refresh raw user claims) → s.users.HasLive user) :
    (∃ pair, (refresh raw).Succeeds s pair) ∧ presentedUser? s.provider raw = some user ↔
      ∃ claims, s.Accepts .refresh raw user claims := by
  constructor
  · rintro ⟨hsucceeds, huser⟩
    exact accepts_of_refresh_succeeds hsucceeds huser
  · rintro ⟨claims, haccepts⟩
    obtain ⟨r, s', hsettle, hcases⟩ := settle_refresh hs hroom raw
    rcases hcases with ⟨e, -, -, hgone⟩ | ⟨pair, id, claims', rfl, -, -⟩
    · exact absurd (hlive ⟨claims, haccepts⟩) (hgone user claims haccepts)
    · exact ⟨⟨pair, Operation.succeeds_iff.mpr ⟨s', hsettle⟩⟩, presentedUser?_of_accepts haccepts⟩

/-- A history can always go on. -/
theorem exists_answer {s₀ s : System} {h : List Event} (hfresh : Fresh s₀)
    (hist : History s₀ h s) (hroom : s.Room) (r : Request) :
    ∃ result s', History s₀ (⟨r, result⟩ :: h) s' := by
  obtain ⟨result, s', hsettle⟩ := exists_settle (followed_of_history hfresh hist).steady hroom r
  obtain ⟨calls, hrun⟩ := Operation.exists_run_of_settle hsettle
  exact ⟨result, s', hist.request hroom hrun⟩

/-- **Which tokens are accepted after a history.** A validation succeeds for a user just for the
access token of the user's valid pair, and a refresh just for its refresh token, and each until the
token expires. -/
theorem accepted_iff_of_history {s₀ s : System} {h : List Event} (hfresh : Fresh s₀)
    (hist : History s₀ h s) (hroom : s.Room) (user : UserId) (raw : String) :
    ((∃ caller, (validate raw).Succeeds s caller ∧ caller.id = user) ↔
      ∃ pair, current? s₀.provider user h = some pair ∧ bareToken raw = pair.access ∧
        Unexpired s pair.access) ∧
    ((∃ pair, (refresh raw).Succeeds s pair) ∧ presentedUser? s.provider raw = some user ↔
      ∃ pair, current? s₀.provider user h = some pair ∧ bareToken raw = pair.refresh ∧
        Unexpired s pair.refresh) := by
  have hfollowed := followed_of_history hfresh hist
  have hs := hfollowed.steady
  have hstanding := hfollowed.standing user
  have hlive : (∃ claims, s.Accepts .refresh raw user claims) → s.users.HasLive user := by
    intro haccepts
    obtain ⟨pair, hpair, -⟩ := (accepts_iff hs hstanding .refresh raw).mp haccepts
    exact (hstanding.onRecord pair hpair).1
  constructor
  · rw [validate_succeeds_iff]
    exact accepts_iff hs hstanding .access raw
  · rw [refresh_succeeds_iff hs hroom hlive]
    exact accepts_iff hs hstanding .refresh raw

theorem accepted_after_login :
    (∃ caller, (validate Sample.pair.access).Succeeds Sample.loggedIn caller ∧
      caller.id = Sample.alice.id) ∧
    ∃ pair, (refresh Sample.pair.refresh).Succeeds Sample.loggedIn pair := by
  obtain ⟨calls, hrun⟩ := Operation.exists_run_of_settle Sample.settle_login
  have hist := History.start.request (r := .login "alice" "secret123") Sample.room_system hrun
  have hfresh : Fresh Sample.system := ⟨Sample.steady_system, rfl⟩
  have hunexpired : ∀ kind, Unexpired Sample.loggedIn (Sample.pair.token kind) := fun kind => by
    refine (unexpired_iff (Sample.onRecord_loggedIn kind).genuine).mpr ?_
    exact Sample.steady_system.lt_expiry kind
  have hiff := accepted_iff_of_history hfresh hist Sample.room_loggedIn Sample.alice.id
  constructor
  · exact (hiff Sample.pair.access).1.mpr
      ⟨Sample.pair, rfl, Sample.bareToken_pair .access, hunexpired .access⟩
  · exact ((hiff Sample.pair.refresh).2.mpr
      ⟨Sample.pair, rfl, Sample.bareToken_pair .refresh, hunexpired .refresh⟩).1

end Service

end SessionAuth
