import SessionAuth.Proofs.Service.Along
import SessionAuth.Proofs.Service.Issue
import SessionAuth.Proofs.Service.Request

/-!
# What it takes to issue tokens

Three requests issue tokens, and they all do it in the same way: they check a password or a refresh
token, sign an access token, put it on record, and do the same with a refresh token. Their calls
are followed here one by one, whatever is asked of the calls besides.

* `Request.Entitled`: the check that a request has made before it signs tokens for a user.
* `Weighed`, `Stored`: a token is put on record for the time that the clock leaves it, if any.
* `HalfRecorded`: where a request that fails may have got to.
* `Permits`: a standard that allows all these calls.
* `Request.traced_login`, `Request.traced_refresh`, `Request.traced_changePassword`: the requests.
-/

namespace SessionAuth

/-- Whether a call signs a token. -/
def Call.signs : Call → Bool
  | .signToken _ _ _ => true
  | _ => false

/-- What a call puts on record. -/
def Call.saves? : Call → Option Session
  | .saveSession session _ => some session
  | _ => none

/-- The call looks at an account, a password or a token, makes a hash, or reads the clock. Every
request may do so at any time. -/
def Call.IsFree : Call → Prop
  | .findByUsername _ | .findById _ | .hashPassword _ | .checkPassword _ _ | .verifyToken _
  | .readClock => True
  | _ => False

/-- What an exchange has put on record. -/
def Exchange.recorded? : Exchange → Option Session
  | ⟨.saveSession session _, .ok ()⟩ => some session
  | _ => none

theorem Exchange.recorded?_eq_none {x : Exchange} (h : x.call.saves? = none) :
    x.recorded? = none := by
  obtain ⟨c, a⟩ := x
  cases c with
  | saveSession session ttl => exact absurd h (by simp [Call.saves?])
  | _ => rfl

namespace Service

namespace Request

/-! ## Checks -/

/-- The presented token has been found to be the refresh token on record for a user. -/
def HasPresented (raw : String) (past : List Exchange) (id : UserId) : Prop :=
  ∃ session, session.token = bareToken raw ∧
    ⟨.getSession ⟨id, .refresh⟩, .ok (some session)⟩ ∈ past

/-- The request has seen the user's password or refresh token to be right, and the account to be
there. -/
def Entitled : Request → List Exchange → UserId → Prop
  | login username password, past, id =>
    ∃ name user, Username.ofText username = .ok name ∧ user.id = id ∧
      ⟨.findByUsername name, .ok (some user)⟩ ∈ past ∧
      ⟨.checkPassword password user.passwordHash.text, .ok ()⟩ ∈ past
  | changePassword caller current _, past, id =>
    caller.id = id ∧ ∃ user, user.id = id ∧ ⟨.findById id, .ok (some user)⟩ ∈ past ∧
      ⟨.checkPassword current user.passwordHash.text, .ok ()⟩ ∈ past
  | refresh raw, past, id =>
    HasPresented raw past id ∧ ∃ user, user.id = id ∧ ⟨.findById id, .ok (some user)⟩ ∈ past
  | _, _, _ => False

/-- The exchange puts nothing on record. -/
def Idle (x : Exchange) : Prop := x.call.saves? = none

/-- Nothing has been put on record. -/
def NoneSaved (past : List Exchange) : Prop := ∀ x ∈ past, Idle x

/-- Nothing of some kind has been put on record. -/
def Unsaved (kind : TokenKind) (past : List Exchange) : Prop :=
  ∀ x ∈ past, ∀ session, x.call.saves? = some session → session.kind ≠ kind

/-- All that has been put on record is a pair of tokens for a user. -/
def OnlySaves (past : List Exchange) (user : UserId) (pair : TokenPair) : Prop :=
  ∀ x ∈ past, ∀ session, x.call.saves? = some session →
    session = ⟨user, session.kind, pair.token session.kind⟩ ∧
      ∃ ttl, x = ⟨.saveSession session ttl, .ok ()⟩

theorem HasPresented.mono {raw : String} {past past' : List Exchange} {id : UserId}
    (h : HasPresented raw past id) (hsub : past ⊆ past') : HasPresented raw past' id := by
  obtain ⟨session, htoken, hget⟩ := h
  exact ⟨session, htoken, hsub hget⟩

theorem NoneSaved.adds {past past' : List Exchange} (h : NoneSaved past)
    (hadds : Adds Idle past past') : NoneSaved past' := fun x hx =>
  (hadds.added x hx).elim (h x) id

theorem NoneSaved.unsaved {past : List Exchange} (h : NoneSaved past) (kind : TokenKind) :
    Unsaved kind past := fun x hx _ hsaves => absurd ((h x hx).symm.trans hsaves) (by simp)

theorem Unsaved.adds {kind : TokenKind} {past past' : List Exchange} {p : Exchange → Prop}
    (h : Unsaved kind past) (hadds : Adds p past past')
    (hp : ∀ x, p x → ∀ session, x.call.saves? = some session → session.kind ≠ kind) :
    Unsaved kind past' := fun x hx session hsaves =>
  (hadds.added x hx).elim (fun hx => h x hx session hsaves) fun hx => hp x hx session hsaves

theorem Unsaved.adds_none {kind : TokenKind} {past past' : List Exchange}
    (h : Unsaved kind past) (hadds : Adds Idle past past') :
    Unsaved kind past' :=
  h.adds hadds fun _ hx _ hsaves => absurd (hx.symm.trans hsaves) (by simp)

theorem Entitled.mono {r : Request} {past past' : List Exchange} {id : UserId}
    (h : r.Entitled past id) (hsub : past ⊆ past') : r.Entitled past' id := by
  cases r with
  | login username password =>
    obtain ⟨name, user, hname, hid, hfind, hcheck⟩ := h
    exact ⟨name, user, hname, hid, hsub hfind, hsub hcheck⟩
  | changePassword caller current new =>
    obtain ⟨hcaller, user, hid, hfind, hcheck⟩ := h
    exact ⟨hcaller, user, hid, hsub hfind, hsub hcheck⟩
  | refresh raw =>
    obtain ⟨hpresented, user, hid, hfind⟩ := h
    exact ⟨hpresented.mono hsub, user, hid, hsub hfind⟩
  | register _ => exact h.elim
  | validate _ => exact h.elim
  | logout _ => exact h.elim
  | softDelete _ => exact h.elim
  | profile _ => exact h.elim

end Request

/-! ## Issuing -/

section Issue

open Operation Request

variable {r : Request} {past : List Exchange} {safe : List Exchange → Call → Prop}

/-- Nothing is put on record but one session. -/
def Keeps (session : Session) (x : Exchange) : Prop :=
  Idle x ∨ ∃ ttl, x = ⟨.saveSession session ttl, .ok ()⟩

/-- A token has been signed and found to be good, and the clock has been read: so much time is
left. -/
def Weighed (session : Session) (left : Option Nat) (past : List Exchange) : Prop :=
  ∃ before extra claims now, past = before ++
      [⟨.signToken session.user session.kind extra, .ok session.token⟩,
        ⟨.verifyToken session.token, .ok claims⟩, ⟨.readClock, now⟩] ∧
    claims.remaining? now.seconds = left

/-- A token was not put on record, as the clock left no time for it. -/
def PassedOver (session : Session) (past : List Exchange) : Prop :=
  ∃ earlier, earlier <+: past ∧ Weighed session none earlier

/-- A token has been put on record. -/
def Recorded (session : Session) (past : List Exchange) : Prop :=
  ∃ ttl, ⟨.saveSession session ttl, .ok ()⟩ ∈ past

/-- A token has been put on record, unless the clock left no time for it. -/
def Stored (session : Session) (past : List Exchange) : Prop :=
  PassedOver session past ∨ Recorded session past

theorem Weighed.signed {session : Session} {left : Option Nat} (h : Weighed session left past) :
    ∃ extra, ⟨.signToken session.user session.kind extra, .ok session.token⟩ ∈ past := by
  obtain ⟨before, extra, claims, now, rfl, -⟩ := h
  exact ⟨extra, by simp⟩

theorem Stored.mono {session : Session} {past' : List Exchange} (h : Stored session past)
    (hpast : past <+: past') : Stored session past' := by
  rcases h with ⟨earlier, hearlier, hweighed⟩ | ⟨ttl, hsave⟩
  · exact Or.inl ⟨earlier, hearlier.trans hpast, hweighed⟩
  · exact Or.inr ⟨ttl, hpast.subset hsave⟩

/-- **A token that has been signed is put on record for the time that is left**, if any is. -/
theorem traced_storeToken {session : Session} {before : List Exchange} {extra : Claims}
    (hfree : ∀ past c, c.IsFree → safe past c)
    (hpast : past = before ++ [⟨.signToken session.user session.kind extra, .ok session.token⟩])
    (hsave : ∀ past' n, Adds Idle past past' → Weighed session (some n) past' →
      safe past' (.saveSession session (.ofSeconds n))) :
    (storeToken session).Traced safe
      (fun past' _ => past <+: past' ∧ Adds (Keeps session) past past' ∧ Stored session past')
      (Adds (fun x => x.recorded? = none) past) past := by
  refine traced_ask_bind (hfree _ _ trivial) fun verified _ => ?_
  have hverify : Idle ⟨.verifyToken session.token, verified⟩ := rfl
  refine traced_orFailed_bind (Adds.refl.snoc rfl) ?_
  rintro claims rfl
  refine traced_ask_bind (hfree _ _ trivial) fun now _ => ?_
  have hidle : Adds Idle past (past ++ [⟨.verifyToken session.token, .ok claims⟩] ++
      [⟨.readClock, now⟩]) := (Adds.refl.snoc hverify).snoc rfl
  have hadds : Adds (Keeps session) past _ := hidle.mono fun _ => Or.inl
  have hbefore : past <+: past ++ [⟨.verifyToken session.token, .ok claims⟩] ++
      [⟨.readClock, now⟩] := (List.prefix_append _ _).trans (List.prefix_append _ _)
  have hweighed : Weighed session (claims.remaining? now.seconds)
      (past ++ [⟨.verifyToken session.token, .ok claims⟩] ++ [⟨.readClock, now⟩]) :=
    ⟨before, extra, claims, now, by simp [hpast], rfl⟩
  split
  · rename_i hnone
    rw [hnone] at hweighed
    exact traced_pure ⟨hbefore, hadds, Or.inl ⟨_, List.prefix_refl _, hweighed⟩⟩
  · rename_i n hsome
    rw [hsome] at hweighed
    refine traced_ask_bind (hsave _ n hidle hweighed) fun saved _ => ?_
    rcases saved with e | ⟨⟩
    · exact traced_throw _ ((hidle.mono fun _ => Exchange.recorded?_eq_none).snoc rfl)
    · exact traced_pure ⟨hbefore.trans (List.prefix_append _ _), hadds.snoc (Or.inr ⟨_, rfl⟩),
        Or.inr ⟨_, List.mem_append_right _ (List.mem_singleton_self _)⟩⟩

/-- **A token is signed and then put on record**; when this breaks off, nothing has been put on
record. -/
theorem traced_grantToken {user : UserId} {kind : TokenKind} {extra : Claims}
    (hfree : ∀ past c, c.IsFree → safe past c) (hsign : safe past (.signToken user kind extra))
    (hunsaved : Unsaved kind past)
    (hsave : ∀ past' token n, past ⊆ past' → Weighed ⟨user, kind, token⟩ (some n) past' →
      Unsaved kind past' → safe past' (.saveSession ⟨user, kind, token⟩ (.ofSeconds n))) :
    (grantToken user kind extra).Traced safe
      (fun past' token => past <+: past' ∧ Adds (Keeps ⟨user, kind, token⟩) past past' ∧
        Stored ⟨user, kind, token⟩ past')
      (fun past' => Adds (fun x => x.recorded? = none) past past' ∧
        ∃ answer, ⟨.signToken user kind extra, answer⟩ ∈ past') past := by
  refine traced_ask_bind hsign fun signed _ => ?_
  have hmem : ⟨.signToken user kind extra, signed⟩ ∈
      past ++ [⟨.signToken user kind extra, signed⟩] :=
    List.mem_append_right _ (List.mem_singleton_self _)
  refine traced_ofResult_bind ⟨Adds.refl.snoc rfl, _, hmem⟩ ?_
  rintro token rfl
  have hadds : Adds Idle past (past ++ [⟨.signToken user kind extra, .ok token⟩]) :=
    Adds.refl.snoc rfl
  let session : Session := ⟨user, kind, token⟩
  have hstore : (storeToken session).Traced safe _ _
      (past ++ [⟨.signToken user kind extra, .ok token⟩]) :=
    traced_storeToken hfree rfl fun past' n hidle hweighed =>
      hsave past' token n (fun x hx => hidle.kept (hadds.kept hx)) hweighed
        ((hunsaved.adds_none hadds).adds_none hidle)
  refine traced_bind (hstore.mono (fun _ _ => id) fun past' hpast' => ?_) ?_
  · exact ⟨(hadds.mono fun _ => Exchange.recorded?_eq_none).trans hpast', _, hpast'.kept hmem⟩
  · rintro past' - ⟨hbefore, hkeeps, hstored⟩
    exact traced_pure ⟨(List.prefix_append _ _).trans hbefore,
      (hadds.mono fun _ => Or.inl).trans hkeeps, hstored⟩

/-- What issuing a pair of tokens puts on record. -/
def KeepsPair (user : UserId) (pair : TokenPair) (x : Exchange) : Prop :=
  Idle x ∨
    ∃ kind ttl, x = ⟨.saveSession ⟨user, kind, pair.token kind⟩ ttl, .ok ()⟩

theorem onlySaves_of_adds {past' : List Exchange} {user : UserId} {pair : TokenPair}
    (hnone : NoneSaved past) (hadds : Adds (KeepsPair user pair) past past') :
    OnlySaves past' user pair := by
  intro x hx session hsaves
  have hcase : KeepsPair user pair x := (hadds.added x hx).elim (fun hx => Or.inl (hnone x hx)) id
  rcases hcase with hx | ⟨kind, ttl, rfl⟩
  · exact absurd (hx.symm.trans hsaves) (by simp)
  · obtain rfl := Option.some.inj hsaves
    exact ⟨rfl, ttl, rfl⟩

/-- Nothing has been put on record. -/
def NothingRecorded (past : List Exchange) : Prop := ∀ x ∈ past, x.recorded? = none

theorem Request.NoneSaved.nothingRecorded (h : NoneSaved past) : NothingRecorded past :=
  fun x hx => Exchange.recorded?_eq_none (h x hx)

/-- An access token has been put on record and nothing else, and then a refresh token has been
asked for. -/
def HalfRecorded (past : List Exchange) : Prop :=
  ∃ user token, Recorded ⟨user, .access, token⟩ past ∧
    (∃ answer, ⟨.signToken user .refresh [], answer⟩ ∈ past) ∧
    ∀ x ∈ past, ∀ session, x.recorded? = some session → session = ⟨user, .access, token⟩

theorem halfRecorded_of_adds {past₁ past₂ : List Exchange} {user : UserId} {token : String}
    (hnone : NoneSaved past) (hfirst : Adds (Keeps ⟨user, .access, token⟩) past past₁)
    (hsecond : Adds (fun x => x.recorded? = none) past₁ past₂)
    (hsign : ∃ answer, ⟨.signToken user .refresh [], answer⟩ ∈ past₂) :
    NothingRecorded past₂ ∨ HalfRecorded past₂ := by
  have hcases : ∀ x ∈ past₂, x.recorded? = none ∨
      ∃ ttl, x = ⟨.saveSession ⟨user, .access, token⟩ ttl, .ok ()⟩ := by
    intro x hx
    rcases hsecond.added x hx with hx | hx
    · rcases hfirst.added x hx with hx | hx | hx
      · exact Or.inl (hnone.nothingRecorded x hx)
      · exact Or.inl (Exchange.recorded?_eq_none hx)
      · exact Or.inr hx
    · exact Or.inl hx
  by_cases hrecorded : Recorded ⟨user, .access, token⟩ past₂
  · right
    refine ⟨user, token, hrecorded, hsign, ?_⟩
    intro x hx session hsession
    rcases hcases x hx with hnone | ⟨ttl, rfl⟩
    · exact absurd (hnone.symm.trans hsession) (by simp)
    · exact (Option.some.inj hsession).symm
  · left
    intro x hx
    rcases hcases x hx with hnone | ⟨ttl, rfl⟩
    · exact hnone
    · exact absurd ⟨ttl, hx⟩ hrecorded

/-- A standard by which a request may do all that it takes to issue tokens. -/
structure Permits (r : Request) (safe : List Exchange → Call → Prop) : Prop where
  free : ∀ past c, c.IsFree → safe past c
  read : ∀ past slot, (∀ x ∈ past, x.call.signs = false) → safe past (.getSession slot)
  update : ∀ past caller current new hash at', r = .changePassword caller current new →
    safe past (.updatePassword caller.id hash at')
  sign : ∀ past user kind extra, TokenProvider.Supplement extra → r.Entitled past user →
    safe past (.signToken user kind extra)
  save : ∀ past session n, r.Entitled past session.user → Weighed session (some n) past →
    Unsaved session.kind past → safe past (.saveSession session (.ofSeconds n))

/-- **Issuing puts the two tokens on record that it gives out, and nothing else**; when it breaks
off, it may have put the access token on record. -/
theorem traced_issueSession (h : Permits r safe) {user : User}
    (hentitled : r.Entitled past user.id) (hnone : NoneSaved past) :
    (issueSession user).Traced safe
      (fun past' pair => past ⊆ past' ∧ OnlySaves past' user.id pair ∧
        ∀ kind, Stored ⟨user.id, kind, pair.token kind⟩ past')
      (fun past' => NothingRecorded past' ∨ HalfRecorded past') past := by
  have hsave : ∀ past' kind token n, past ⊆ past' → Weighed ⟨user.id, kind, token⟩ (some n) past' →
      Unsaved kind past' → safe past' (.saveSession ⟨user.id, kind, token⟩ (.ofSeconds n)) :=
    fun past' _ _ n hsub => h.save past' _ n (hentitled.mono hsub)
  have hgrant := traced_grantToken h.free (h.sign _ _ _ _ (supplement_sessionClaims user) hentitled)
    (hnone.unsaved _) (fun past' => hsave past' .access)
  rw [issueSession_eq]
  refine traced_bind (hgrant.mono (fun _ _ => id) ?_) ?_
  · rintro past' ⟨hadds, -⟩
    exact Or.inl fun x hx => (hadds.added x hx).elim (hnone.nothingRecorded x) id
  rintro past₁ access ⟨hbefore₁, hadds₁, haccess⟩
  have hunsaved : Unsaved .refresh past₁ := by
    apply (hnone.unsaved .refresh).adds hadds₁
    rintro x (hx | ⟨ttl, rfl⟩) session hs
    · exact absurd (hx.symm.trans hs) (by simp)
    · obtain rfl := Option.some.inj hs
      simp
  have hentitled₁ := hentitled.mono hbefore₁.subset
  have hgrant₁ := traced_grantToken h.free
    (h.sign _ _ _ _ TokenProvider.supplement_nil hentitled₁) hunsaved
    (fun past' token n hsub => hsave past' .refresh token n fun x hx => hsub (hbefore₁.subset hx))
  refine traced_bind (hgrant₁.mono (fun _ _ => id) ?_) ?_
  · rintro past' ⟨hadds₂, hsigned⟩
    exact halfRecorded_of_adds hnone hadds₁ hadds₂ hsigned
  rintro past₂ refresh ⟨hbefore₂, hadds₂, hrefresh⟩
  have hfirst : ∀ x, Keeps ⟨user.id, .access, access⟩ x →
      KeepsPair user.id ⟨access, refresh⟩ x := by
    rintro x (hx | ⟨ttl, rfl⟩)
    · exact Or.inl hx
    · exact Or.inr ⟨.access, ttl, rfl⟩
  have hsecond : ∀ x, Keeps ⟨user.id, .refresh, refresh⟩ x →
      KeepsPair user.id ⟨access, refresh⟩ x := by
    rintro x (hx | ⟨ttl, rfl⟩)
    · exact Or.inl hx
    · exact Or.inr ⟨.refresh, ttl, rfl⟩
  have hall := (hadds₁.mono hfirst).trans (hadds₂.mono hsecond)
  refine traced_pure ⟨hall.kept, onlySaves_of_adds hnone hall, fun kind => ?_⟩
  cases kind with
  | access => exact haccess.mono hbefore₂
  | refresh => exact hrefresh

end Issue

/-! ## The requests that issue tokens -/

namespace Request

open Operation

section Parts

variable {safe : List Exchange → Call → Prop} {past : List Exchange}

theorem noneSaved_nil : NoneSaved [] := fun _ hx => absurd hx List.not_mem_nil

theorem NoneSaved.snoc {x : Exchange} (h : NoneSaved past) (hx : Idle x) :
    NoneSaved (past ++ [x]) := h.adds (Adds.refl.snoc hx)

theorem traced_authenticate (hfree : ∀ past c, c.IsFree → safe past c)
    (username password : String) :
    (authenticate username password).Traced safe
      (fun past user => (login username password).Entitled past user.id ∧ NoneSaved past)
      NoneSaved [] := by
  rw [authenticate]
  split
  · exact traced_throw _ noneSaved_nil
  · rename_i name hname
    refine traced_ask_bind (hfree _ _ trivial) fun found _ => ?_
    have hfound : NoneSaved ([] ++ [⟨.findByUsername name, found⟩]) := noneSaved_nil.snoc rfl
    rcases found with _ | _ | user
    · exact traced_throw _ hfound
    · exact traced_throw _ hfound
    refine traced_ask_bind (hfree _ _ trivial) fun checked _ => ?_
    rcases checked with _ | ⟨⟩
    · exact traced_throw _ (hfound.snoc rfl)
    refine traced_pure ⟨⟨name, user, hname, rfl, ?_, ?_⟩, hfound.snoc rfl⟩
    · simp
    · simp

theorem traced_checkRefresh (hfree : ∀ past c, c.IsFree → safe past c)
    (hget : ∀ past slot, (∀ x ∈ past, x.call.signs = false) → safe past (.getSession slot))
    (raw : String) :
    (checkRefresh raw).Traced safe (fun past id => HasPresented raw past id ∧ NoneSaved past)
      NoneSaved [] := by
  refine traced_ask_bind (hfree _ _ trivial) fun verified _ => ?_
  have hverified : NoneSaved ([] ++ [⟨.verifyToken (bareToken raw), verified⟩]) :=
    noneSaved_nil.snoc rfl
  refine traced_ofResult_bind hverified ?_
  rintro claims rfl
  refine traced_ofResult_bind hverified fun id _ => ?_
  refine traced_ask_bind (hget _ _ (by simp [Call.signs])) fun read _ => ?_
  have hread : NoneSaved ([] ++ [⟨.verifyToken (bareToken raw), .ok claims⟩] ++
      [⟨.getSession ⟨id, .refresh⟩, read⟩]) := hverified.snoc rfl
  refine traced_ofResult_bind hread ?_
  rintro stored rfl
  split
  · rename_i hfor
    obtain ⟨session, rfl, htoken, -⟩ := Session.any_isFor_iff.mp hfor
    refine traced_pure ⟨⟨session, htoken, ?_⟩, hread⟩
    simp
  · exact traced_throw _ hread

theorem traced_refreshSubject (hfree : ∀ past c, c.IsFree → safe past c) (hnone : NoneSaved past)
    (id : UserId) :
    (refreshSubject id).Traced safe (fun past' user => user.id = id ∧
      past' = past ++ [⟨.findById id, .ok (some user)⟩]) NoneSaved past := by
  refine traced_ask_bind (hfree _ _ trivial) fun found hfound => ?_
  have hnone' : NoneSaved (past ++ [⟨.findById id, found⟩]) := hnone.snoc rfl
  rcases found with e | _ | user
  · exact traced_throw _ hnone'
  · exact traced_throw _ hnone'
  · exact traced_pure ⟨hfound, rfl⟩

theorem traced_ownAccount (hfree : ∀ past c, c.IsFree → safe past c) (hnone : NoneSaved past)
    (id : UserId) :
    (ownAccount id).Traced safe (fun past' user => user.id = id ∧
      past' = past ++ [⟨.findById id, .ok (some user)⟩]) NoneSaved past := by
  refine traced_ask_bind (hfree _ _ trivial) fun found hfound => ?_
  have hnone' : NoneSaved (past ++ [⟨.findById id, found⟩]) := hnone.snoc rfl
  refine traced_ofDomain_bind hnone' ?_
  rintro (_ | user) rfl
  · exact traced_throw _ hnone'
  · exact traced_pure ⟨hfound, rfl⟩

theorem traced_newHash (hfree : ∀ past c, c.IsFree → safe past c) (hnone : NoneSaved past)
    (password : String) :
    (newHash password).Traced safe (fun past' _ => Adds Idle past past') NoneSaved past := by
  refine traced_ask_bind (hfree _ _ trivial) fun hashed _ => ?_
  have hadds : Adds Idle past (past ++ [⟨.hashPassword password, hashed⟩]) := Adds.refl.snoc rfl
  have hnone' := hnone.adds hadds
  exact traced_ofResult_bind hnone' fun _ _ => traced_ofResult hnone' fun _ _ => hadds

theorem traced_login {username password : String} (h : Permits (login username password) safe) :
    (Service.login username password).Traced safe
      (fun past result => ∃ id : UserId, result.user.id = id.val ∧
        OnlySaves past id result.tokens ∧ ∀ kind, Stored ⟨id, kind, result.tokens.token kind⟩ past)
      (fun past => NothingRecorded past ∨ HalfRecorded past) [] := by
  have hauth := traced_authenticate h.free username password
  refine traced_bind (hauth.mono (fun _ _ => id) fun _ hnone => Or.inl hnone.nothingRecorded) ?_
  rintro past user ⟨hentitled, hnone⟩
  refine traced_bind (traced_issueSession h hentitled hnone) ?_
  rintro past' pair ⟨-, hsaves, hstored⟩
  exact traced_pure ⟨user.id, rfl, hsaves, hstored⟩

theorem traced_refresh {raw : String} (h : Permits (refresh raw) safe) :
    (Service.refresh raw).Traced safe
      (fun past pair => ∃ id, HasPresented raw past id ∧ OnlySaves past id pair ∧
        ∀ kind, Stored ⟨id, kind, pair.token kind⟩ past)
      (fun past => NothingRecorded past ∨ HalfRecorded past) [] := by
  refine traced_attempt_bind (traced_checkRefresh h.free h.read raw) ?_
    fun past e hnone => traced_throw _ (Or.inl hnone.nothingRecorded)
  rintro past _ ⟨hpresented, hnone⟩
  have hsubject := traced_refreshSubject h.free hnone
  refine traced_bind ((hsubject _).mono (fun _ _ => id) fun _ hnone =>
    Or.inl hnone.nothingRecorded) ?_
  rintro _ user ⟨rfl, rfl⟩
  have hnone' : NoneSaved (past ++ [⟨.findById user.id, .ok (some user)⟩]) := hnone.snoc rfl
  have hpresented' := hpresented.mono
    (List.subset_append_left past [⟨.findById user.id, .ok (some user)⟩])
  have hentitled : (refresh raw).Entitled (past ++ [⟨.findById user.id, .ok (some user)⟩])
      user.id := ⟨hpresented', user, rfl, List.mem_append_right _ (List.mem_singleton_self _)⟩
  refine (traced_issueSession h hentitled hnone').mono ?_ fun _ => id
  rintro past' pair ⟨hkept, hsaves⟩
  exact ⟨user.id, hpresented'.mono hkept, hsaves⟩

theorem traced_changePassword {caller : Caller} {current new : String}
    (h : Permits (changePassword caller current new) safe) :
    (Service.changePassword caller current new).Traced safe
      (fun past pair => OnlySaves past caller.id pair ∧
        ∀ kind, Stored ⟨caller.id, kind, pair.token kind⟩ past)
      (fun past => NothingRecorded past ∨ HalfRecorded past) [] := by
  have hfail : ∀ past, NoneSaved past → NothingRecorded past ∨ HalfRecorded past :=
    fun _ hnone => Or.inl hnone.nothingRecorded
  refine traced_bind ((traced_ownAccount h.free noneSaved_nil caller.id).mono
    (fun _ _ => id) hfail) ?_
  rintro _ user ⟨hid, rfl⟩
  have hfound : NoneSaved ([] ++ [⟨.findById caller.id, .ok (some user)⟩]) :=
    noneSaved_nil.snoc rfl
  refine traced_ask_bind (h.free _ _ trivial) fun checked _ => ?_
  have hnone : NoneSaved ([] ++ [⟨.findById caller.id, .ok (some user)⟩] ++
      [⟨.checkPassword current user.passwordHash.text, checked⟩]) := hfound.snoc rfl
  refine traced_ofResult_bind (hfail _ hnone) fun _ hchecked => ?_
  obtain rfl := mapError_eq_ok_iff.mp hchecked
  have hentitled : (changePassword caller current new).Entitled
      ([] ++ [⟨.findById caller.id, .ok (some user)⟩] ++
        [⟨.checkPassword current user.passwordHash.text, .ok ()⟩]) caller.id :=
    ⟨rfl, user, hid, by simp, by simp⟩
  refine traced_ofResult_bind (hfail _ hnone) fun _ _ => ?_
  refine traced_bind ((traced_newHash h.free hnone new).mono (fun _ _ => id) hfail)
    fun past hash hadds => ?_
  refine traced_ask_bind (h.free _ _ trivial) fun now _ => ?_
  refine traced_ask_bind (hid ▸ h.update _ _ _ _ _ _ rfl) fun updated hupdated => ?_
  have hclock : Idle ⟨.readClock, now⟩ := rfl
  have hupdate : Idle ⟨.updatePassword user.id hash now, updated⟩ := rfl
  have hadds' := (hadds.snoc hclock).snoc hupdate
  refine traced_ofDomain_bind (hfail _ (hnone.adds hadds')) ?_
  rintro renewed rfl
  have hrenewed : renewed.id = caller.id := hupdated.trans hid
  have hentitled' := hentitled.mono hadds'.kept
  rw [← hrenewed] at hentitled'
  refine (traced_issueSession h hentitled' (hnone.adds hadds')).mono ?_ fun _ => id
  rintro past' pair ⟨-, hsaves, hstored⟩
  rw [hrenewed] at hsaves hstored
  exact ⟨hsaves, hstored⟩

end Parts

end Request

end Service

end SessionAuth
