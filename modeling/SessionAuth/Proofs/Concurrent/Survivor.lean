import SessionAuth.Proofs.Concurrent.CommonClock
import SessionAuth.Proofs.Concurrent.Supersession
import SessionAuth.Proofs.Concurrent.Revocation

/-!
# Logins of one user at the same time

Each login puts an access token on record and then a refresh token, and the last one to do so wins
the slot. The slots are won one by one: when all logins have been answered, each of them holds the
token of just one login, but not always of the same one.

* `World.OnlyLogins`: some logins of a user have been answered, and nothing else has gone on.
* `World.Kept`: what a slot holds meanwhile; `kept_of_even` says that it does so all the time.
* `Honours`: a presented token is accepted.
* `survivor_of_logins`: of the tokens of each kind just one is accepted.
* `not_wholeSession`: the two that are accepted may be from different pairs.
-/

namespace SessionAuth

namespace Service

/-! ## Acceptance -/

/-- A presented token is accepted for a user among healthy collaborators. -/
def Honours (s : System) (user : UserId) : TokenKind → String → Prop
  | .access, raw => ∃ caller, (validate raw).Succeeds s caller ∧ caller.id = user
  | .refresh, raw =>
    (∃ pair, (refresh raw).Succeeds s pair) ∧ presentedUser? s.provider raw = some user

theorem Honours.accepts {s : System} {user : UserId} {kind : TokenKind} {raw : String}
    (h : Honours s user kind raw) : ∃ claims, s.Accepts kind raw user claims := by
  cases kind with
  | access => exact (validate_succeeds_iff s user raw).mp h
  | refresh => exact accepts_of_refresh_succeeds h.1 h.2

theorem honours_iff {s : System} (hs : s.Steady) (hroom : s.Room) {user : UserId}
    (hlive : s.users.HasLive user) (kind : TokenKind) (raw : String) :
    Honours s user kind raw ↔ ∃ claims, s.Accepts kind raw user claims := by
  cases kind with
  | access => exact validate_succeeds_iff s user raw
  | refresh => exact refresh_succeeds_iff hs hroom fun _ => hlive

end Service

/-- The exchange clears no slot and deletes no account, and what it is there to put on record it
does. -/
structure Exchange.OfLogin (x : Exchange) : Prop where
  slots : ∀ slot, x.call ≠ .deleteSession slot
  accounts : ∀ id at', x.call ≠ .softDelete id at'
  saves : ∀ session, x.call.saves? = some session →
    ∃ ttl, x = ⟨.saveSession session ttl, .ok ()⟩

namespace Concurrent

open Service

variable {faults : Bool} {w₀ w w₁ w₂ w₃ : World}

/-! ## Logins -/

/-- The request is a login that has succeeded and has given a pair of tokens out to a user. -/
inductive Thread.LoggedIn (user : UserId) (pair : TokenPair) : Thread → Prop
  | mk {username password : String} {past : List Exchange} {result : LoginResult}
      (h : result.user.id = user.val) (h' : result.tokens = pair) :
      LoggedIn user pair ⟨.login username password, past, .done (.ok result)⟩

theorem Thread.LoggedIn.opened {t : Thread} {user : UserId} {pair : TokenPair}
    (h : t.LoggedIn user pair) : t.Opened user pair := by
  cases h with
  | mk h h' => exact .login h h'

theorem Thread.LoggedIn.ofLogin {t : Thread} {user : UserId} {pair : TokenPair}
    (h : t.LoggedIn user pair) (hlawful : t.Lawful) {x : Exchange} (hx : x ∈ t.past) :
    x.OfLogin := by
  obtain ⟨before, after, hpast⟩ := List.append_of_mem hx
  have hsafe := hlawful.safe before x after hpast
  cases h with
  | mk huser hpair =>
    obtain ⟨id, -, hsaves⟩ := hlawful.along _ rfl
    constructor
    · intro slot he
      rw [he] at hsafe
      exact hsafe
    · intro id at' he
      rw [he] at hsafe
      exact hsafe
    · intro session hsession
      exact (hsaves x hx session hsession).2

/-- A login that has come in since has given a pair of tokens out to a user. -/
def World.LoginSince (w w' : World) (i : Nat) (user : UserId) (pair : TokenPair) : Prop :=
  ∃ t, w.threads[i]? = none ∧ w'.threads[i]? = some t ∧ t.LoggedIn user pair

/-- Some logins of a user have come in since, all of them have succeeded, and nothing else has gone
on. -/
structure World.OnlyLogins (w w' : World) (user : UserId) : Prop where
  earlier : w.Over w'
  nonempty : w.threads.length < w'.threads.length
  logins : ∀ i, w.threads[i]? = none → i < w'.threads.length → ∃ pair, w.LoginSince w' i user pair

/-- All that is exchanged meanwhile belongs to one of the logins. -/
theorem World.OnlyLogins.exchange (hfresh : w₀.Fresh) (hrun : Run faults w₀ w) {user : UserId}
    (hlogins : w.OnlyLogins w₁ user) (hrun₂ : Run faults w w₂) {j : Nat} {x : Exchange}
    (h : Exchanges faults j x w₂ w₃) (hrun₃ : Run faults w₃ w₁) :
    w.threads[j]? = none ∧ x.OfLogin := by
  have hnone := hlogins.earlier.eq_none hrun₂ h hrun₃
  obtain ⟨u, hu, hx⟩ := h.mem_past
  obtain ⟨t, ht, hgrows⟩ := run_grows hrun₃ hu
  obtain ⟨pair, t', -, ht', hloggedIn⟩ :=
    hlogins.logins j hnone (List.getElem?_eq_some_iff.mp ht).1
  obtain rfl := Option.some.inj (ht.symm.trans ht')
  have hlawful := lawful_of_run hfresh ((hrun.trans hrun₂).trans (hrun₃.head h.step)) ht
  exact ⟨hnone, hloggedIn.ofLogin hlawful (hgrows.past.subset hx)⟩

/-! ## What a slot holds meanwhile -/

/-- Of the requests since, either none has put a token on record in a slot, or one has, and the slot
holds its token until it expires. -/
def World.Kept (w w' : World) (slot : Slot) : Prop :=
  (∀ (i : Nat) t token, w.threads[i]? = none → w'.threads[i]? = some t →
    ¬ Recorded ⟨slot.user, slot.kind, token⟩ t.past) ∨
  ∃ (i : Nat) (t : Thread) (token : String) (expires : Int), w.threads[i]? = none ∧
    w'.threads[i]? = some t ∧ Recorded ⟨slot.user, slot.kind, token⟩ t.past ∧
    w'.system.OnRecord slot token expires

/-- What is on record stays there while nobody touches the slot. -/
theorem onRecord_of_evenStep {w' : World} (hstep : EvenStep faults w w') {slot : Slot}
    (h : ∀ j x, Exchanges faults j x w w' → x.call ≠ .deleteSession slot ∧
      ∀ session, x.call.saves? = some session → slot ≠ session.slot)
    {token : String} {expires : Int} (hrecord : w.system.OnRecord slot token expires) :
    w'.system.OnRecord slot token expires := by
  cases hstep with
  | start s threads r => exact hrecord
  | elapse s threads nanos calendar => exact hrecord.elapse nanos
  | exchange hexchange =>
    obtain ⟨hdelete, hsave⟩ := h _ _ hexchange
    rcases hexchange.answers.cases with he | ⟨a, hserve⟩
    · rwa [he]
    · exact hrecord.untouched (System.serve_sameClocks hserve)
        (System.serve_untouched hserve hsave hdelete)

theorem kept_of_evenStep (hfresh : w₀.Fresh) (hrun : Run faults w₀ w) (hs : w.system.Steady)
    (heven : EvenRun faults w w₂) (hstep : EvenStep faults w₂ w₃) {slot : Slot}
    (hexchange : ∀ j x, Exchanges faults j x w₂ w₃ → w.threads[j]? = none ∧ x.OfLogin)
    (hkept : w.Kept w₂ slot) : w.Kept w₃ slot := by
  by_cases hsaves : ∃ j token ttl,
      Exchanges faults j ⟨.saveSession ⟨slot.user, slot.kind, token⟩ ttl, .ok ()⟩ w₂ w₃
  · obtain ⟨j, token, ttl, hsave⟩ := hsaves
    obtain ⟨hnone, -⟩ := hexchange j _ hsave
    obtain ⟨t, ht, hmem⟩ := hsave.mem_past
    obtain ⟨expires, hrecord⟩ := onRecord_of_save hfresh hrun hs heven hnone hsave
    exact Or.inr ⟨j, t, token, expires, hnone, ht, ⟨ttl, hmem⟩, hrecord⟩
  · -- Nobody touches the slot.
    rcases hkept with hnothing | ⟨i, t, token, expires, hnone, ht, ⟨ttl, hsave⟩, hrecord⟩
    · left
      rintro i t' token hnone ht' ⟨ttl, hsave⟩
      rcases step_thread hstep.step ht' with ht | ⟨-, r, rfl⟩ | ⟨x, t, ht, hgets, hx⟩
      · exact hnothing i t' token hnone ht ⟨ttl, hsave⟩
      · exact absurd hsave List.not_mem_nil
      · obtain ⟨t₂, ht₂, hpast⟩ := hx.past_eq ht'
        rw [hpast] at hsave
        rcases List.mem_append.mp hsave with hearlier | hlast
        · exact hnothing i t₂ token hnone ht₂ ⟨ttl, hearlier⟩
        · rw [← List.mem_singleton.mp hlast] at hx
          exact hsaves ⟨i, token, ttl, hx⟩
    · obtain ⟨t', ht', hgrows⟩ := step_grows hstep.step ht
      refine Or.inr ⟨i, t', token, expires, hnone, ht', ⟨ttl, hgrows.past.subset hsave⟩, ?_⟩
      apply onRecord_of_evenStep hstep _ hrecord
      intro j x hx
      obtain ⟨-, hlogin⟩ := hexchange j x hx
      refine ⟨hlogin.slots slot, ?_⟩
      rintro session hsession rfl
      obtain ⟨ttl', rfl⟩ := hlogin.saves session hsession
      exact hsaves ⟨j, session.token, ttl', hx⟩

/-- **All the time a slot holds the token of one of the logins**, once one has put it there. -/
theorem kept_of_even (hfresh : w₀.Fresh) (hrun : Run faults w₀ w) (hs : w.system.Steady)
    {user : UserId} (hlogins : w.OnlyLogins w₁ user) (heven : EvenRun faults w w₂)
    (hrest : EvenRun faults w₂ w₁) (slot : Slot) : w.Kept w₂ slot := by
  induction heven with
  | refl =>
    left
    intro i t token hnone ht
    exact absurd (hnone.symm.trans ht) (by simp)
  | @tail w₂ w₃ heven hstep ih =>
    apply kept_of_evenStep hfresh hrun hs heven hstep _ (ih (hrest.head hstep))
    intro j x hx
    exact hlogins.exchange hfresh hrun (run_of_even heven) hx (run_of_even hrest)

/-! ## What a login has signed -/

theorem Thread.LoggedIn.eq_of_recorded {t : Thread} {user : UserId} {pair : TokenPair}
    (h : t.LoggedIn user pair) (hlawful : t.Lawful) {kind : TokenKind} {token : String}
    (hrecorded : Recorded ⟨user, kind, token⟩ t.past) : token = pair.token kind := by
  obtain ⟨ttl, hsave⟩ := hrecorded
  cases h with
  | mk huser hpair =>
    obtain ⟨id, -, hsaves⟩ := hlawful.along _ rfl
    have hsession := (hsaves _ hsave _ rfl).1
    exact hpair ▸ (Session.mk.inj hsession).2.2

theorem World.LoginSince.generated (hfresh : w₀.Fresh) (hrun : Run faults w₀ w₁) {i : Nat}
    {user : UserId} {pair : TokenPair} (h : w.LoginSince w₁ i user pair) (kind : TokenKind) :
    ∃ t, w₁.threads[i]? = some t ∧ t.Generated user kind (pair.token kind) := by
  obtain ⟨t, -, ht, hloggedIn⟩ := h
  have hlawful := lawful_of_run hfresh hrun ht
  refine ⟨t, ht, ?_⟩
  rcases hloggedIn.opened.stored hfresh hrun ht kind with ⟨earlier, hearlier, hweighed⟩ | hrecorded
  · obtain ⟨extra, hsign⟩ := hweighed.signed
    exact hlawful.generated (hearlier.subset hsign)
  · exact hlawful.generated_of_recorded hrecorded

/-- On one clock a login has put each of its tokens on record that is still good. -/
theorem World.LoginSince.recorded (hfresh : w₀.Fresh) (hrun : Run faults w₀ w)
    (hs : w.system.Steady) (heven : EvenRun faults w w₁) {i : Nat} {user : UserId}
    {pair : TokenPair} (h : w.LoginSince w₁ i user pair) {kind : TokenKind}
    (hunexpired : Unexpired w₁.system (pair.token kind)) :
    ∃ t, w₁.threads[i]? = some t ∧ Recorded ⟨user, kind, pair.token kind⟩ t.past := by
  obtain ⟨t, hnone, ht, hloggedIn⟩ := h
  have hstored := hloggedIn.opened.stored hfresh (hrun.trans (run_of_even heven)) ht kind
  exact ⟨t, ht, recorded_of_unexpired hfresh hrun hs heven hnone ht hstored hunexpired⟩

/-! ## The account -/

/-- The account that somebody has logged in to is there. -/
theorem World.OnlyLogins.hasLive (hfresh : w₀.Fresh) (hrun : Run faults w₀ w) {user : UserId}
    (hlogins : w.OnlyLogins w₁ user) (hrun₁ : Run faults w w₁) {i : Nat} {t : Thread}
    (hnone : w.threads[i]? = none) (ht : w₁.threads[i]? = some t) {kind : TokenKind}
    {token : String} (hgenerated : t.Generated user kind token) :
    w₁.system.users.HasLive user := by
  obtain ⟨before, extra, after, hpast, hentitled⟩ := hgenerated
  obtain ⟨x, hx, hfinds⟩ := hentitled.finds
  have hmem : x ∈ t.past := hpast ▸ List.mem_append_left _ hx
  obtain ⟨w₂, w₃, hrun₂, hexchange, hrun₃⟩ := exchanged_of_new hrun₁ hnone ht hmem
  apply run_hasLive (hrun₃.head hexchange.step)
  · intro j y w₄ w₅ hrun₄ hexchange' hrun₅
    exact (hlogins.exchange hfresh hrun (hrun₂.trans hrun₄) hexchange' hrun₅).2.accounts
  · exact hexchange.hasLive_of_finds hfinds

/-! ## The survivors -/

/-- A token that has been signed is accepted only for its user, and only from the slot. -/
theorem live?_of_honours (hfresh : w₀.Fresh) (hrun : Run faults w₀ w) {i : Nat} {t : Thread}
    (ht : w.threads[i]? = some t) {user id : UserId} {kind : TokenKind} {token : String}
    (hgenerated : t.Generated user kind token) (h : Honours w.system id kind token) :
    w.system.live? ⟨user, kind⟩ = some token := by
  obtain ⟨extra, hsign⟩ := hgenerated.signed
  have hbare := bareToken_of_signed hfresh hrun ht hsign
  obtain ⟨expires, hgenuine⟩ := genuine_of_generated hfresh hrun ht hgenerated
  obtain ⟨claims, hverified, hsubject, hstored⟩ := Honours.accepts h
  rw [hbare] at hverified hstored
  have hnames := hgenuine.names_of_verify hverified
  obtain rfl : id = user := Except.ok.inj (hsubject.symm.trans hnames.subject_eq)
  exact hstored

/-- **Of the tokens of each kind that the logins have given out one at most is accepted.** -/
theorem eq_of_honours (hfresh : w₀.Fresh) (hrun : Run faults w₀ w₁)
    (hdistinct : w₁.system.issued.Nodup) {i j : Nat} {user id id' : UserId}
    {pair pair' : TokenPair} {kind : TokenKind} (h : w.LoginSince w₁ i user pair)
    (h' : w.LoginSince w₁ j user pair') (hhonours : Honours w₁.system id kind (pair.token kind))
    (hhonours' : Honours w₁.system id' kind (pair'.token kind)) : i = j := by
  obtain ⟨t, ht, hgenerated⟩ := h.generated hfresh hrun kind
  obtain ⟨u, hu, hgenerated'⟩ := h'.generated hfresh hrun kind
  have hlive := live?_of_honours hfresh hrun ht hgenerated hhonours
  have hlive' := live?_of_honours hfresh hrun hu hgenerated' hhonours'
  obtain ⟨extra, hsign⟩ := hgenerated.signed
  obtain ⟨extra', hsign'⟩ := hgenerated'.signed
  rw [Option.some.inj (hlive'.symm.trans hlive)] at hsign'
  exact signed_once hfresh hrun hdistinct ht hu hsign hsign'

/-- **On one clock one of them is accepted**, as long as they are good. -/
theorem exists_honours (hfresh : w₀.Fresh) (hrun : Run faults w₀ w) (hs : w.system.Steady)
    (heven : EvenRun faults w w₁) {user : UserId} (hlogins : w.OnlyLogins w₁ user)
    (hroom : w₁.system.Room) {kind : TokenKind} (hunexpired : ∀ i pair,
      w.LoginSince w₁ i user pair → Unexpired w₁.system (pair.token kind)) :
    ∃ i pair, w.LoginSince w₁ i user pair ∧
      ∀ raw, Honours w₁.system user kind raw ↔ bareToken raw = pair.token kind := by
  have hrun₁ := run_of_even heven
  have hs₁ := steady_of_even heven hs
  -- One login at least has put its token on record, so that the slot holds a token.
  obtain ⟨i, t, token, expires, hnone, ht, hrecorded, hslot⟩ :
      ∃ (i : Nat) (t : Thread) (token : String) (expires : Int), w.threads[i]? = none ∧
        w₁.threads[i]? = some t ∧ Recorded ⟨user, kind, token⟩ t.past ∧
        w₁.system.OnRecord ⟨user, kind⟩ token expires := by
    rcases kept_of_even hfresh hrun hs hlogins heven .refl ⟨user, kind⟩ with hnothing | hkept
    · have hfirst : w.threads[w.threads.length]? = none := List.getElem?_eq_none (Nat.le_refl _)
      obtain ⟨pair, hlogin⟩ := hlogins.logins _ hfirst hlogins.nonempty
      obtain ⟨t, ht, hrecorded⟩ := hlogin.recorded hfresh hrun hs heven (hunexpired _ _ hlogin)
      exact absurd hrecorded (hnothing _ t _ hfirst ht)
    · exact hkept
  obtain ⟨pair, hlogin⟩ := hlogins.logins i hnone (List.getElem?_eq_some_iff.mp ht).1
  have hlawful := lawful_of_run hfresh (hrun.trans hrun₁) ht
  obtain rfl : token = pair.token kind := by
    obtain ⟨t', -, ht', hloggedIn⟩ := hlogin
    obtain rfl := Option.some.inj (ht.symm.trans ht')
    exact hloggedIn.eq_of_recorded hlawful hrecorded
  have hgenerated := hlawful.generated_of_recorded hrecorded
  have hlive := hlogins.hasLive hfresh hrun hrun₁ hnone ht hgenerated
  have hlt := (unexpired_iff hslot.genuine).mp (hunexpired i pair hlogin)
  refine ⟨i, pair, hlogin, fun raw => ?_⟩
  rw [honours_iff hs₁ hroom hlive]
  constructor
  · rintro ⟨claims, haccepts⟩
    exact hslot.eq_of_live? haccepts.stored
  · exact hslot.accepts hs₁ hlt

/-- **The survivors of some logins of one user.** Of the tokens of each kind that they have given
out one at most is accepted, and on one clock just one is, as long as they are good. -/
theorem survivor_of_logins (hfresh : w₀.Fresh) (hrun : Run faults w₀ w) (hrun₁ : Run faults w w₁)
    {user : UserId} (hlogins : w.OnlyLogins w₁ user) (hdistinct : w₁.system.issued.Nodup)
    (kind : TokenKind) :
    (∀ i j pair pair' id id', w.LoginSince w₁ i user pair → w.LoginSince w₁ j user pair' →
      Honours w₁.system id kind (pair.token kind) →
      Honours w₁.system id' kind (pair'.token kind) → i = j) ∧
    (EvenRun faults w w₁ → w.system.Steady → w₁.system.Room →
      (∀ i pair, w.LoginSince w₁ i user pair → Unexpired w₁.system (pair.token kind)) →
      ∃ i pair, w.LoginSince w₁ i user pair ∧
        ∀ raw, Honours w₁.system user kind raw ↔ bareToken raw = pair.token kind) := by
  constructor
  · intro i j pair pair' id id'
    exact eq_of_honours hfresh (hrun.trans hrun₁) hdistinct
  · intro heven hs hroom hunexpired
    exact exists_honours hfresh hrun hs heven hlogins hroom hunexpired

end Concurrent

/-! ## Two logins that overlap -/

namespace Sample

open Concurrent Operation Service

/-- The system after the first of two logins has put its access token on record and the second one
has opened a session, and then after the first one has put its refresh token on record, too. -/
def overtaken : System := (halfOpened.openSession alice).2

@[inherit_doc overtaken] def entwined : System := (overtaken.grant alice.id .refresh []).2

/-- The pairs of tokens of the first and of the second login. -/
def firstPair : TokenPair :=
  ⟨(system.grant alice.id .access (sessionClaims alice)).1,
    (overtaken.grant alice.id .refresh []).1⟩

@[inherit_doc firstPair] def secondPair : TokenPair := (halfOpened.openSession alice).1

theorem sameClocks_overtaken : System.SameClocks system overtaken :=
  sameClocks_halfOpened.trans (System.sameClocks_openSession halfOpened alice)

theorem sameClocks_entwined : System.SameClocks system entwined :=
  sameClocks_overtaken.trans (System.sameClocks_grant _ _ _ _)

/-- Both logins have been answered. -/
def twoLogins (past past' : List Exchange) : World :=
  ⟨entwined, [answeredLogin past firstPair, answeredLogin past' secondPair]⟩

theorem settle_openRefresh : (openRefresh (alice, firstPair.access)).settle overtaken =
    some (.ok ⟨alice.view, firstPair⟩, entwined) := by
  rw [openRefresh, settle_bind_ok (settle_grantToken (sameClocks_overtaken.steady steady_system)
    (sameClocks_overtaken.room room_system) TokenProvider.supplement_nil)]
  rfl

/-- The second login is answered while the first one is between its two tokens. -/
theorem run_twoLogins (faults : Bool) :
    ∃ past past', EvenRun faults ⟨system, []⟩ (twoLogins past past') := by
  let r : Request := .login "alice" "secret123"
  let rest : Operation r.Result := openRefresh (alice, firstPair.access)
  let waiting (past : List Exchange) : Thread := ⟨r, past, ExceptT.run rest⟩
  have hsecond : r.operation.settle halfOpened = some (.ok ⟨alice.view, secondPair⟩, overtaken) :=
    settle_login_of_steady (sameClocks_halfOpened.steady steady_system)
      (sameClocks_halfOpened.room room_system) rfl rfl
  have hthird : rest.settle overtaken = some (.ok ⟨alice.view, firstPair⟩, entwined) :=
    settle_openRefresh
  have hfirst : r.operation = openAccess "alice" "secret123" >>= openRefresh := login_eq _ _
  obtain ⟨past, hrun₁⟩ := reach_begin EvenStep.exchange EvenStep.start [] hfirst settle_openAccess
  obtain ⟨past', hrun₂⟩ := reach_request EvenStep.exchange EvenStep.start [waiting past] hsecond
  have hwaiting : [waiting past, answeredLogin past' secondPair][0]? =
      some ⟨r, past, ExceptT.run rest⟩ := rfl
  obtain ⟨past'', hrun₃⟩ := reach_finish EvenStep.exchange hthird hwaiting
  exact ⟨past'', past', (hrun₁.trans hrun₂).trans hrun₃⟩

theorem nodup_entwined : entwined.issued.Nodup := by
  have hids : halfOpened.DrawsIds := System.DrawsIds.grant ⟨rfl⟩ steady_system alice.id .access
    (supplement_sessionClaims alice)
  have hids' := hids.openSession (sameClocks_halfOpened.steady steady_system) alice
  have hids'' := hids'.grant (sameClocks_overtaken.steady steady_system) alice.id .refresh
    TokenProvider.supplement_nil
  apply hids''.nodup
  change ((List.range 4).map fun n => Uuid.text (system.random n)).Nodup
  decide

/-- The access slot holds the token of the second login, and the refresh slot that of the first
one. -/
theorem live?_entwined : entwined.live? ⟨alice.id, .access⟩ = some secondPair.access ∧
    entwined.live? ⟨alice.id, .refresh⟩ = some firstPair.refresh := by
  have hsteady := sameClocks_entwined.steady steady_system
  have hclocks : System.SameClocks overtaken entwined := System.sameClocks_grant _ _ _ _
  have hne : (⟨alice.id, .access⟩ : Slot) ≠ ⟨alice.id, .refresh⟩ := by simp
  have haccess := (System.onRecord_openSession (sameClocks_halfOpened.steady steady_system) alice).1
  have hrefresh := System.onRecord_grant (sameClocks_overtaken.steady steady_system) alice.id
    .refresh TokenProvider.supplement_nil
  constructor
  · exact (haccess.untouched hclocks (System.untouched_grant _ _ _ _ hne)).live?_eq hsteady
      (steady_system.lt_expiry .access)
  · exact hrefresh.live?_eq hsteady (steady_system.lt_expiry .refresh)

theorem unexpired_grant {s s' : System} (hs : s.Steady) (hclocks : System.SameClocks s s')
    (user : UserId) (kind : TokenKind) {extra : Claims} (hextra : TokenProvider.Supplement extra) :
    Unexpired s' (s.grant user kind extra).1 := by
  have hgenuine : s.provider.Genuine (s.grant user kind extra).1 user kind (s.expiry kind) :=
    System.genuine_sign hs hextra
  rw [← hclocks.provider] at hgenuine
  rw [unexpired_iff hgenuine, hclocks.now]
  exact hs.lt_expiry kind

theorem unexpired_entwined (kind : TokenKind) : Unexpired entwined (firstPair.token kind) ∧
    Unexpired entwined (secondPair.token kind) := by
  have hclaims := supplement_sessionClaims alice
  have hsteady := sameClocks_halfOpened.steady steady_system
  have hlast : System.SameClocks overtaken entwined := System.sameClocks_grant _ _ _ _
  have hopen : System.SameClocks halfOpened entwined :=
    (System.sameClocks_openSession halfOpened alice).trans hlast
  have hgrant := System.sameClocks_grant halfOpened alice.id .access (sessionClaims alice)
  have hrefresh : System.SameClocks (halfOpened.grant alice.id .access (sessionClaims alice)).2
      overtaken := System.sameClocks_grant _ _ _ _
  cases kind with
  | access =>
    exact ⟨unexpired_grant steady_system sameClocks_entwined alice.id .access hclaims,
      unexpired_grant hsteady hopen alice.id .access hclaims⟩
  | refresh =>
    exact ⟨unexpired_grant (sameClocks_overtaken.steady steady_system) hlast alice.id .refresh
        TokenProvider.supplement_nil,
      unexpired_grant (hgrant.steady hsteady) (hrefresh.trans hlast) alice.id .refresh
        TokenProvider.supplement_nil⟩

theorem loginSince_twoLogins {past past' : List Exchange} {i : Nat} {pair : TokenPair}
    (h : World.LoginSince ⟨system, []⟩ (twoLogins past past') i alice.id pair) :
    pair = firstPair ∨ pair = secondPair := by
  obtain ⟨t, -, ht, hloggedIn⟩ := h
  have hmem : t ∈ [answeredLogin past firstPair, answeredLogin past' secondPair] :=
    List.mem_of_getElem? ht
  rcases List.mem_cons.mp hmem with rfl | hmem
  · cases hloggedIn with
    | mk huser hpair => exact Or.inl hpair.symm
  · obtain rfl := List.mem_singleton.mp hmem
    cases hloggedIn with
    | mk huser hpair => exact Or.inr hpair.symm

theorem onlyLogins_twoLogins (past past' : List Exchange) :
    World.OnlyLogins ⟨system, []⟩ (twoLogins past past') alice.id := by
  constructor
  · intro i t ht
    exact absurd ht (by simp)
  · exact Nat.zero_lt_two
  · intro i _ hi
    have hlt : i < 2 := hi
    obtain rfl | rfl : i = 0 ∨ i = 1 := by omega
    · exact ⟨firstPair, _, rfl, rfl, .mk rfl rfl⟩
    · exact ⟨secondPair, _, rfl, rfl, .mk rfl rfl⟩

theorem unexpired_twoLogins {past past' : List Exchange} (kind : TokenKind) (i : Nat)
    (pair : TokenPair)
    (h : World.LoginSince ⟨system, []⟩ (twoLogins past past') i alice.id pair) :
    Unexpired (twoLogins past past').system (pair.token kind) := by
  obtain ⟨hfirst, hsecond⟩ := unexpired_entwined kind
  rcases loginSince_twoLogins h with rfl | rfl
  · exact hfirst
  · exact hsecond

end Sample

namespace Concurrent

open Service

/-- When some logins of one user are over and their tokens are still good, the two slots hold the
tokens of one pair. -/
def WholeSession : Prop :=
  ∀ (w₀ w w₁ : World) (user : UserId), w₀.Fresh → Run false w₀ w → w.system.Steady →
    EvenRun false w w₁ → w.OnlyLogins w₁ user → w₁.system.Room → w₁.system.issued.Nodup →
    (∀ kind i pair, w.LoginSince w₁ i user pair → Unexpired w₁.system (pair.token kind)) →
    ∃ i pair, w.LoginSince w₁ i user pair ∧
      ∀ kind, w₁.system.live? ⟨user, kind⟩ = some (pair.token kind)

/-- **Two logins that overlap may each win one of the slots**, even though nothing fails. -/
theorem not_wholeSession : ¬ WholeSession := by
  intro h
  obtain ⟨past, past', heven⟩ := Sample.run_twoLogins false
  obtain ⟨i, pair, hlogin, hlive⟩ := h _ _ _ _ Sample.fresh .refl Sample.steady_system heven
    (Sample.onlyLogins_twoLogins past past') (Sample.sameClocks_entwined.room Sample.room_system)
    Sample.nodup_entwined Sample.unexpired_twoLogins
  obtain ⟨haccess, hrefresh⟩ := Sample.live?_entwined
  have hdistinct : [Sample.firstPair.refresh, Sample.secondPair.refresh, Sample.secondPair.access,
    Sample.firstPair.access].Nodup := Sample.nodup_entwined
  rcases Sample.loginSince_twoLogins hlogin with rfl | rfl
  · have hsame : Sample.secondPair.access = Sample.firstPair.access :=
      Option.some.inj (haccess.symm.trans (hlive .access))
    rw [hsame] at hdistinct
    exact absurd hdistinct (by simp)
  · have hsame : Sample.firstPair.refresh = Sample.secondPair.refresh :=
      Option.some.inj (hrefresh.symm.trans (hlive .refresh))
    rw [hsame] at hdistinct
    exact absurd hdistinct (by simp)

/-- Of the tokens of two logins that overlap one of each kind is accepted. -/
theorem survivor_of_twoLogins : ∃ past past' : List Exchange,
    let w : World := ⟨Sample.system, []⟩
    let w₁ := Sample.twoLogins past past'
    EvenRun true w w₁ ∧ ∀ kind, ∃ i pair, w.LoginSince w₁ i Sample.alice.id pair ∧
      (∀ raw, Honours w₁.system Sample.alice.id kind raw ↔ bareToken raw = pair.token kind) ∧
      ∀ j pair' id, w.LoginSince w₁ j Sample.alice.id pair' →
        Honours w₁.system id kind (pair'.token kind) → i = j := by
  obtain ⟨past, past', heven⟩ := Sample.run_twoLogins true
  refine ⟨past, past', heven, fun kind => ?_⟩
  obtain ⟨hunique, hexists⟩ := survivor_of_logins Sample.fresh .refl (run_of_even heven)
    (Sample.onlyLogins_twoLogins past past') Sample.nodup_entwined kind
  obtain ⟨i, pair, hlogin, hiff⟩ := hexists heven Sample.steady_system
    (Sample.sameClocks_entwined.room Sample.room_system) (Sample.unexpired_twoLogins kind)
  refine ⟨i, pair, hlogin, hiff, fun j pair' id hother hhonours => ?_⟩
  obtain ⟨t, ht, hgenerated⟩ := hlogin.generated Sample.fresh (run_of_even heven) kind
  obtain ⟨extra, hsign⟩ := hgenerated.signed
  have hbare := bareToken_of_signed Sample.fresh (run_of_even heven) ht hsign
  exact hunique i j pair pair' _ id hlogin hother ((hiff _).mpr hbare) hhonours

end Concurrent

end SessionAuth
