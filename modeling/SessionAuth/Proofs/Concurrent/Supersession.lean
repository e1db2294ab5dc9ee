import SessionAuth.Proofs.Concurrent.SingleUse
import SessionAuth.Proofs.Service.Record

/-!
# New tokens in place of old ones

Whoever logs in, trades a refresh token in or changes the password gets a new pair of tokens, which
takes the place of the old one. A token that the clock of the service leaves no time for is not put
on record, though, and then the old one of its kind stays.

* `World.Issued`: what has been signed so far.
* `superseded`: an old token leaves its slot for good when a new one is put on record.
* `Thread.Opened`, `Thread.Accepted`: requests that have given tokens out, or accepted one.
* `not_accepted_after_opened`: no old token is accepted once a new one has been given out, unless
  the new one was passed over.
* `not_latestOnly`: a clock that is ahead does let an old one live on.
-/

namespace SessionAuth

namespace Concurrent

open Service

variable {faults : Bool} {w₀ w w₁ w₂ w₃ : World}

/-! ## Old tokens -/

/-- Some request has signed a token of a kind for a user. -/
def World.Issued (w : World) (user : UserId) (kind : TokenKind) (token : String) : Prop :=
  ∃ (i : Nat) (t : Thread) (extra : Claims), w.threads[i]? = some t ∧
    ⟨.signToken user kind extra, .ok token⟩ ∈ t.past

theorem World.Issued.mono {user : UserId} {kind : TokenKind} {token : String}
    (h : w.Issued user kind token) (hrun : Run faults w w₁) : w₁.Issued user kind token := by
  obtain ⟨i, t, extra, ht, hsign⟩ := h
  obtain ⟨t', ht', hgrows⟩ := run_grows hrun ht
  exact ⟨i, t', extra, ht', hgrows.past.subset hsign⟩

theorem World.Issued.genuine (hfresh : w₀.Fresh) (hrun : Run faults w₀ w) {user : UserId}
    {kind : TokenKind} {token : String} (h : w.Issued user kind token) :
    ∃ expires, w.system.provider.Genuine token user kind expires := by
  obtain ⟨i, t, extra, ht, hsign⟩ := h
  exact genuine_of_generated hfresh hrun ht ((lawful_of_run hfresh hrun ht).generated hsign)

/-- **Nobody puts an old token on record again** once the requests of its time are over: only the
one that has signed it might. -/
theorem not_saved_again (hfresh : w₀.Fresh) (hrun : Run faults w₀ w) (hrun₁ : Run faults w w₁)
    {k : Nat} {x : Exchange} (h : Exchanges faults k x w₁ w₂) (hrun₂ : Run faults w₂ w₃)
    (hover : w.Over w₃) (hdistinct : w₃.system.issued.Nodup) {user : UserId} {kind : TokenKind}
    {token : String} (hissued : w.Issued user kind token) :
    x.call.saves? ≠ some ⟨user, kind, token⟩ := by
  intro hsaves
  obtain ⟨i, t, extra, ht, hsign⟩ := hissued
  obtain ⟨u, hu, hgenerated, -⟩ := h.saves hfresh (hrun.trans hrun₁) hsaves
  obtain ⟨extra', hsign'⟩ := hgenerated.signed
  obtain ⟨t₁, ht₁, hgrows⟩ := run_grows hrun₁ ht
  have hdistinct₁ := nodup_of_run (hrun₂.head h.step) hdistinct
  obtain rfl : i = k := signed_once hfresh (hrun.trans hrun₁) hdistinct₁ ht₁ hu
    (hgrows.past.subset hsign) hsign'
  exact absurd (ht.symm.trans (hover.eq_none hrun₁ h hrun₂)) (by simp)

/-- **An old token leaves its slot for good when a new one is put on record.** -/
theorem superseded (hfresh : w₀.Fresh) (hrun : Run faults w₀ w) (hrun₁ : Run faults w w₁)
    {k : Nat} {user : UserId} {kind : TokenKind} {new : String} {ttl : Duration}
    (h : Exchanges faults k ⟨.saveSession ⟨user, kind, new⟩ ttl, .ok ()⟩ w₁ w₂)
    (hrun₂ : Run faults w₂ w₃) (hover : w.Over w₃) (hdistinct : w₃.system.issued.Nodup)
    {token : String} (hissued : w.Issued user kind token) :
    w₃.system.sessions.holds? ⟨user, kind⟩ ≠ some token := by
  intro hholds
  rcases exists_save hrun₂ hholds with hheld | ⟨j, x, w₄, w₅, hrun₄, hexchange, hrun₅, hsaves⟩
  · -- The new token is not an old one.
    have hset : w₂.system.sessions.holds? ⟨user, kind⟩ = some new := h.holds?_of_sets ⟨rfl, rfl⟩
    obtain rfl := Option.some.inj (hset.symm.trans hheld)
    exact not_saved_again hfresh hrun hrun₁ h hrun₂ hover hdistinct hissued rfl
  · have hrun₃ : Run faults w w₄ := (hrun₁.tail h.step).trans hrun₄
    exact not_saved_again hfresh hrun hrun₃ hexchange hrun₅ hover hdistinct hissued hsaves

/-! ## Accepted tokens -/

/-- The request has been presented with a token and has succeeded. -/
inductive Thread.Accepted (raw : String) : Thread → Prop
  | validate (past : List Exchange) (caller : Caller) :
      Accepted raw ⟨.validate raw, past, .done (.ok caller)⟩
  | refresh (past : List Exchange) (pair : TokenPair) :
      Accepted raw ⟨.refresh raw, past, .done (.ok pair)⟩

theorem Thread.Accepted.read (hfresh : w₀.Fresh) (hrun : Run faults w₀ w) {i : Nat} {t : Thread}
    (ht : w.threads[i]? = some t) {raw : String} (h : t.Accepted raw) :
    ∃ slot session, session.token = bareToken raw ∧
      ⟨.getSession slot, .ok (some session)⟩ ∈ t.past := by
  cases h with
  | validate past caller =>
    obtain ⟨-, session, htoken, hpast⟩ := past_of_validate hfresh hrun ht
    exact ⟨⟨caller.id, .access⟩, session, htoken, by simp [hpast]⟩
  | refresh past pair =>
    obtain ⟨id, session, htoken, hread, -⟩ := read_of_refresh hfresh hrun ht
    exact ⟨_, session, htoken, hread⟩

/-- The request has not looked anything up in a slot. -/
def Thread.Unread (t : Thread) : Prop := ∀ slot answer, ⟨.getSession slot, answer⟩ ∉ t.past

/-- A request that accepts a token, and that has looked it up after some moment, has found it in a
slot then. -/
theorem Thread.Accepted.live? (hfresh : w₀.Fresh) (hrun : Run faults w₀ w₁)
    (hrun' : Run faults w₁ w₂) {i : Nat} {t : Thread} (ht : w₂.threads[i]? = some t) {raw : String}
    (h : t.Accepted raw) (hlater : ∀ v, w₁.threads[i]? = some v → v.Unread) :
    ∃ w slot, Run faults w₁ w ∧ Run faults w w₂ ∧
      w.system.live? slot = some (bareToken raw) := by
  obtain ⟨slot, session, htoken, hread⟩ := h.read hfresh (hrun.trans hrun') ht
  rcases exchanged_since hrun' ht hread with ⟨v, hv, hearlier⟩ | ⟨w, w', hrun₁, hexchange, hrun₂⟩
  · exact absurd hearlier (hlater v hv _ _)
  · exact ⟨w, slot, hrun₁, hrun₂.head hexchange.step, htoken ▸ hexchange.live?⟩

/-- A token can only be in the slot that it was signed for. -/
theorem slot_of_issued (hfresh : w₀.Fresh) (hrun : Run faults w₀ w) {user : UserId}
    {kind : TokenKind} {token : String} (hissued : w.Issued user kind token) {slot : Slot}
    (hholds : w.system.sessions.holds? slot = some token) : slot = ⟨user, kind⟩ := by
  obtain ⟨expires, hgenuine⟩ := hissued.genuine hfresh hrun
  obtain ⟨i, t, ht, hgenerated⟩ := generated_of_holds hfresh hrun hholds
  obtain ⟨expires', hgenuine'⟩ := genuine_of_generated hfresh hrun ht hgenerated
  obtain ⟨rfl, rfl, -⟩ := hgenuine.unique hgenuine'
  rfl

/-- **An old token is not accepted once a new one has been put on record.** -/
theorem not_accepted_of_superseded (hfresh : w₀.Fresh) (hrun : Run faults w₀ w)
    (hrun₁ : Run faults w w₁) (hrun₂ : Run faults w₁ w₂) (hover : w.Over w₂)
    (hdistinct : w₂.system.issued.Nodup) {k : Nat} {t : Thread} (hnew : w.threads[k]? = none)
    (hk : w₁.threads[k]? = some t) {user : UserId} {kind : TokenKind} {new : String}
    (hrecorded : Recorded ⟨user, kind, new⟩ t.past) {i : Nat} {u : Thread}
    (hi : w₂.threads[i]? = some u) (hlater : ∀ v, w₁.threads[i]? = some v → v.Unread)
    {raw : String} (hissued : w.Issued user kind (bareToken raw)) : ¬ u.Accepted raw := by
  intro haccepted
  obtain ⟨ttl, hsave⟩ := hrecorded
  obtain ⟨w₃, w₄, hrun₃, hexchange, hrun₄⟩ := exchanged_of_new hrun₁ hnew hk hsave
  obtain ⟨w₅, slot, hrun₅, hrun₆, hlive⟩ :=
    haccepted.live? hfresh (hrun.trans hrun₁) hrun₂ hi hlater
  have hholds := SessionStore.holds?_of_live? hlive
  have hissued₅ := hissued.mono (hrun₁.trans hrun₅)
  obtain rfl := slot_of_issued hfresh ((hrun.trans hrun₁).trans hrun₅) hissued₅ hholds
  have hover₅ := hover.between (hrun₁.trans hrun₅) hrun₆
  exact superseded hfresh hrun hrun₃ hexchange (hrun₄.trans hrun₅) hover₅
    (nodup_of_run hrun₆ hdistinct) hissued hholds

/-! ## Requests that give tokens out -/

/-- The request has succeeded and has given a pair of tokens out to a user. -/
inductive Thread.Opened (user : UserId) (pair : TokenPair) : Thread → Prop
  | login {username password : String} {past : List Exchange} {result : LoginResult}
      (h : result.user.id = user.val) (h' : result.tokens = pair) :
      Opened user pair ⟨.login username password, past, .done (.ok result)⟩
  | refresh {raw : String} {past : List Exchange} (h : Request.HasPresented raw past user) :
      Opened user pair ⟨.refresh raw, past, .done (.ok pair)⟩
  | changePassword {caller : Caller} {current new : String} {past : List Exchange}
      (h : caller.id = user) :
      Opened user pair ⟨.changePassword caller current new, past, .done (.ok pair)⟩

theorem presented_unique (hfresh : w₀.Fresh) (hrun : Run faults w₀ w) {i : Nat} {t : Thread}
    (ht : w.threads[i]? = some t) {raw : String} {id id' : UserId}
    (h : Request.HasPresented raw t.past id) (h' : Request.HasPresented raw t.past id') :
    id = id' := by
  obtain ⟨session, htoken, hread⟩ := h
  obtain ⟨session', htoken', hread'⟩ := h'
  obtain ⟨expires, hgenuine⟩ := genuine_of_read hfresh hrun ht hread
  obtain ⟨expires', hgenuine'⟩ := genuine_of_read hfresh hrun ht hread'
  rw [htoken, ← htoken'] at hgenuine
  exact (hgenuine.unique hgenuine').1

/-- **Tokens that have been given out have been put on record**, unless the clock left no time for
them. -/
theorem Thread.Opened.stored (hfresh : w₀.Fresh) (hrun : Run faults w₀ w) {i : Nat} {t : Thread}
    (ht : w.threads[i]? = some t) {user : UserId} {pair : TokenPair} (h : t.Opened user pair)
    (kind : TokenKind) : Stored ⟨user, kind, pair.token kind⟩ t.past := by
  have hfollows := follows_of_run Request.along_measured hfresh hrun ht
  cases h with
  | login huser hpair =>
    obtain ⟨id, hid, hstored⟩ := hfollows.along _ rfl
    obtain rfl : id = user := UserId.ext (hid.symm.trans huser)
    exact hpair ▸ hstored kind
  | refresh hpresented =>
    obtain ⟨id, hpresented', hstored⟩ := hfollows.along _ rfl
    obtain rfl := presented_unique hfresh hrun ht hpresented' hpresented
    exact hstored kind
  | changePassword hcaller =>
    have hstored := hfollows.along _ rfl
    exact hcaller ▸ hstored kind

/-- **No old token is accepted once a new one of its kind has been given out**, unless the clock of
the service left no time for the new one. -/
theorem not_accepted_after_opened (hfresh : w₀.Fresh) (hrun : Run faults w₀ w)
    (hrun₁ : Run faults w w₁) {k : Nat} {t : Thread} (hnew : w.threads[k]? = none)
    (hk : w₁.threads[k]? = some t) {user : UserId} {pair : TokenPair} (hopened : t.Opened user pair)
    (kind : TokenKind) :
    PassedOver ⟨user, kind, pair.token kind⟩ t.past ∨
      ∀ w₂, Run faults w₁ w₂ → w.Over w₂ → w₂.system.issued.Nodup →
        ∀ (i : Nat) u raw, w₂.threads[i]? = some u →
          (∀ v, w₁.threads[i]? = some v → v.Unread) → w.Issued user kind (bareToken raw) →
            ¬ u.Accepted raw := by
  rcases hopened.stored hfresh (hrun.trans hrun₁) hk kind with hpassed | hrecorded
  · exact Or.inl hpassed
  · right
    intro w₂ hrun₂ hover hdistinct i u raw hi hlater hissued
    exact not_accepted_of_superseded hfresh hrun hrun₁ hrun₂ hover hdistinct hnew hk hrecorded hi
      hlater hissued

/-! ## Requests in turn -/

/-- The request has been answered. -/
def Thread.IsDone (t : Thread) : Prop := ∃ result, t.rest = .done result

/-- One request is answered after another and nothing fails, while the clocks show whatever they
like. -/
inductive InTurn (w₀ : World) : World → Prop
  | start : InTurn w₀ w₀
  | request {w w' : World} {t : Thread} (earlier : InTurn w₀ w) (run : Run false w w')
      (threads : w'.threads = w.threads ++ [t]) (done : t.IsDone) : InTurn w₀ w'
  | pass {s s' : System} {threads : List Thread} (earlier : InTurn w₀ ⟨s, threads⟩)
      (later : s.Later s') : InTurn w₀ ⟨s', threads⟩

theorem InTurn.run (h : InTurn w₀ w) : Run false w₀ w := by
  induction h with
  | start => exact .refl
  | request _ hrun _ _ ih => exact ih.trans hrun
  | pass _ hlater ih => exact ih.tail (.pass hlater)

theorem InTurn.settle {s s' : System} {threads : List Thread} (earlier : InTurn w₀ ⟨s, threads⟩)
    {r : Request} {result : Except ServiceError r.Result}
    (h : r.operation.settle s = some (result, s')) :
    ∃ past, InTurn w₀ ⟨s', threads ++ [⟨r, past, .done result⟩]⟩ := by
  obtain ⟨past, hrun⟩ := run_request threads h
  exact ⟨past, earlier.request hrun rfl ⟨result, rfl⟩⟩

end Concurrent

/-! ## A login while the clock is ahead -/

namespace Sample

open Concurrent Service

/-- The account has logged in, and then the clock of the service has gone more than a day ahead. -/
def ahead : System := { loggedIn with clockAhead := 100000 }

theorem settle_secondLogin :
    (Service.login "alice" "secret123").settle loggedIn =
      some (.ok ⟨alice.view, (loggedIn.openSession alice).1⟩, refreshed) :=
  settle_login_of_steady steady_loggedIn room_loggedIn rfl rfl

theorem settle_loginAhead :
    (Service.login "alice" "secret123").settle ahead =
      some (.ok ⟨alice.view, (ahead.signPair alice).1⟩, (ahead.signPair alice).2) := by
  have hauth : (authenticate "alice" "secret123").settle ahead = some (.ok alice, ahead) :=
    settle_authenticate rfl rfl
  have hcalendar : ahead.now.inCalendar = true := steady_loggedIn.inCalendar
  have hlt : ∀ kind, ahead.now.seconds < ahead.expiry kind := steady_loggedIn.lt_expiry
  have hpast : ∀ kind, ahead.expiry kind ≤ ahead.serviceTime.seconds := fun kind => by
    cases kind <;> decide
  rw [Service.login, Operation.settle_bind_ok hauth,
    Operation.settle_bind_ok (settle_issueSession_of_expired hcalendar hlt hpast alice)]
  rfl

/-- A login of the account that has given out a pair of tokens. -/
def answeredLogin (past : List Exchange) (pair : TokenPair) : Thread :=
  ⟨.login "alice" "secret123", past, .done (.ok ⟨alice.view, pair⟩)⟩

/-- The worlds after a first login, and after a second one while the clock is ahead. -/
def afterLogin (past : List Exchange) : World := ⟨loggedIn, [answeredLogin past pair]⟩

@[inherit_doc afterLogin] def afterLoginAhead (past past' : List Exchange) : World :=
  ⟨(ahead.signPair alice).2,
    [answeredLogin past pair, answeredLogin past' (ahead.signPair alice).1]⟩

theorem nodup_ahead : (ahead.signPair alice).2.issued.Nodup := by
  have hissued : (ahead.signPair alice).2.issued = refreshed.issued :=
    System.issued_signPair loggedIn 100000 alice
  have hsuffix : refreshed.issued <:+ refreshedTwice.issued :=
    (List.suffix_cons (refreshed.openSession alice).1.access _).trans
      (List.suffix_cons (refreshed.openSession alice).1.refresh _)
  rw [hissued]
  exact nodup_refreshedTwice.sublist hsuffix.sublist

/-- Two logins one after the other, the second one while the clock is ahead, and then the access
token of the first one is presented. -/
theorem inTurn_ahead : ∃ past past' past'' caller,
    InTurn ⟨system, []⟩ (afterLogin past) ∧
    InTurn (afterLogin past) (afterLoginAhead past past') ∧
    InTurn (afterLoginAhead past past') ⟨(ahead.signPair alice).2,
      (afterLoginAhead past past').threads ++
        [⟨.validate pair.access, past'', .done (.ok caller)⟩]⟩ := by
  have hfirst : (Request.login "alice" "secret123").operation.settle system =
      some (.ok ⟨alice.view, pair⟩, loggedIn) := settle_login
  have hfresh : InTurn ⟨system, []⟩ ⟨system, []⟩ := .start
  obtain ⟨past, hlogin⟩ := hfresh.settle hfirst
  have hlater : loggedIn.Later ahead := ⟨rfl, Nat.le_refl _, steady_loggedIn.inCalendar⟩
  have hsecond : (Request.login "alice" "secret123").operation.settle ahead =
      some (.ok ⟨alice.view, (ahead.signPair alice).1⟩, (ahead.signPair alice).2) :=
    settle_loginAhead
  have hbefore : InTurn (afterLogin past) ⟨loggedIn, [answeredLogin past pair]⟩ := .start
  obtain ⟨past', hlogin'⟩ := (hbefore.pass hlater).settle hsecond
  -- The second login has left the slots alone.
  obtain ⟨claims, hverified, hsubject, hstored⟩ := accepts_pair .access
  have haccepts : (ahead.signPair alice).2.Accepts .access pair.access alice.id claims :=
    ⟨hverified, hsubject, hstored⟩
  have hthird : (Request.validate pair.access).operation.settle (ahead.signPair alice).2 =
      some (.ok ⟨alice.id, claims⟩, (ahead.signPair alice).2) :=
    settle_validate_of_accepts haccepts
  have hafter : InTurn (afterLoginAhead past past')
      ⟨(ahead.signPair alice).2, (afterLoginAhead past past').threads⟩ := .start
  obtain ⟨past'', hpresented⟩ := hafter.settle hthird
  exact ⟨past, past', past'', _, hlogin, hlogin', hpresented⟩

/-- The access token of the first login has been issued. -/
theorem issued_afterLogin {past : List Exchange} {faults : Bool}
    (h : Concurrent.Run faults ⟨system, []⟩ (afterLogin past)) (kind : TokenKind) :
    (afterLogin past).Issued alice.id kind (pair.token kind) := by
  obtain ⟨claims, haccepts⟩ := accepts_pair kind
  have hholds := SessionStore.holds?_of_live? haccepts.stored
  rw [bareToken_pair kind] at hholds
  obtain ⟨i, t, ht, hgenerated⟩ := generated_of_holds fresh h hholds
  obtain ⟨extra, hsign⟩ := hgenerated.signed
  exact ⟨i, t, extra, ht, hsign⟩

end Sample

namespace Concurrent

open Service

/-- Where requests are answered one after another and nothing fails, no token is accepted that was
issued to a user before another request has given a pair of tokens out to them. -/
def LatestOnly : Prop :=
  ∀ w₀ w w₁ w₂ : World, w₀.Fresh → InTurn w₀ w → InTurn w w₁ → InTurn w₁ w₂ →
    w₂.system.issued.Nodup →
    ∀ (k : Nat) t user pair, w.threads[k]? = none → w₁.threads[k]? = some t →
      t.Opened user pair → ∀ (i : Nat) u kind raw, w₁.threads[i]? = none →
        w₂.threads[i]? = some u → w.Issued user kind (bareToken raw) → ¬ u.Accepted raw

/-- **A clock that is ahead lets old tokens live on.** -/
theorem not_latestOnly : ¬ LatestOnly := by
  intro h
  obtain ⟨past, past', past'', caller, hfirst, hsecond, hthird⟩ := Sample.inTurn_ahead
  have hissued := Sample.issued_afterLogin hfirst.run .access
  rw [← Sample.bareToken_pair .access] at hissued
  exact h _ _ _ _ Sample.fresh hfirst hsecond hthird Sample.nodup_ahead 1 _ Sample.alice.id _ rfl
    rfl (.login rfl rfl) 2 _ .access _ rfl rfl hissued (.validate past'' caller)

/-- A second login makes the tokens of the first one old. -/
theorem not_accepted_after_secondLogin : ∃ (w w₁ : World) (t : Thread) (pair : TokenPair),
    Run false ⟨Sample.system, []⟩ w ∧ Run false w w₁ ∧ w.threads[1]? = none ∧
    w₁.threads[1]? = some t ∧ t.Opened Sample.alice.id pair ∧
    (∀ kind, w.Issued Sample.alice.id kind (Sample.pair.token kind)) ∧
    ∀ kind, PassedOver ⟨Sample.alice.id, kind, pair.token kind⟩ t.past ∨
      ∀ w₂, Run false w₁ w₂ → w.Over w₂ → w₂.system.issued.Nodup →
        ∀ (i : Nat) u, w₁.threads[i]? = none → w₂.threads[i]? = some u →
          ¬ u.Accepted (Sample.pair.token kind) := by
  obtain ⟨past, hfirst⟩ := Sample.run_login false
  have hlogin : (Request.login "alice" "secret123").operation.settle Sample.loggedIn =
      some (.ok ⟨Sample.alice.view, (Sample.loggedIn.openSession Sample.alice).1⟩,
        Sample.refreshed) := Sample.settle_secondLogin
  obtain ⟨past', hsecond⟩ := run_request (Sample.afterLogin past).threads hlogin
  have hissued := Sample.issued_afterLogin hfirst
  refine ⟨Sample.afterLogin past, _, _, _, hfirst, hsecond, rfl, rfl, .login rfl rfl, hissued,
    fun kind => ?_⟩
  have hcases := not_accepted_after_opened Sample.fresh hfirst hsecond (k := 1) rfl rfl
    (.login rfl rfl) kind
  rcases hcases with hpassed | hnone
  · exact Or.inl hpassed
  · right
    intro w₂ hrun hover hdistinct i u hnew hi
    apply hnone w₂ hrun hover hdistinct i u _ hi
    · intro v hv
      exact absurd (hnew.symm.trans hv) (by simp)
    · rw [Sample.bareToken_pair kind]
      exact hissued kind

end Concurrent

end SessionAuth
