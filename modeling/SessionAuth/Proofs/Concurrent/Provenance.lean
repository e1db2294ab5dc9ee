import SessionAuth.Proofs.Concurrent.Schedule
import SessionAuth.Proofs.Concurrent.Slots

/-!
# Where accepted tokens come from

Clients may present whatever they like, tokens signed with the real key included; requests may
overlap, fail and be abandoned in any way. Still the only tokens that are accepted are those that a
request has generated after it had checked a password or a refresh token, and each of them is
accepted for one purpose only.

* `read_of_validate`, `read_of_refresh`: the moment at which an accepted token was looked up.
* `World.Accepts`: a token that is looked up at this very moment is accepted in the end.
* `accepted_of_generated`: the tokens on record, and those that are accepted.
-/

namespace SessionAuth

namespace Concurrent

open Service

variable {faults : Bool} {w₀ w w' : World}

/-! ## Looking tokens up -/

/-- What is read from a slot is what it holds at that moment. -/
theorem Exchanges.live? {i : Nat} {slot : Slot} {session : Session}
    (h : Exchanges faults i ⟨.getSession slot, .ok (some session)⟩ w w') :
    w.system.live? slot = some session.token := by
  have hserve := h.answers.serve (by simp [Exchange.Failed])
  exact System.live?_of_serve_get hserve

/-- All that a validation does before it succeeds. -/
theorem past_of_validate (hfresh : w₀.Fresh) (hrun : Run faults w₀ w) {i : Nat} {raw : String}
    {past : List Exchange} {caller : Caller}
    (ht : w.threads[i]? = some ⟨.validate raw, past, .done (.ok caller)⟩) :
    caller.claims.subject = .ok caller.id ∧ ∃ session, session.token = bareToken raw ∧
      past = [⟨.verifyToken (bareToken raw), .ok caller.claims⟩,
        ⟨.getSession ⟨caller.id, .access⟩, .ok (some session)⟩] :=
  (lawful_of_run hfresh hrun ht).along caller rfl

/-- **A refresh that succeeds has found the presented token in a slot.** -/
theorem read_of_refresh (hfresh : w₀.Fresh) (hrun : Run faults w₀ w) {i : Nat} {raw : String}
    {past : List Exchange} {pair : TokenPair}
    (ht : w.threads[i]? = some ⟨.refresh raw, past, .done (.ok pair)⟩) :
    ∃ id session, session.token = bareToken raw ∧
      ⟨.getSession ⟨id, .refresh⟩, .ok (some session)⟩ ∈ past ∧
        Request.OnlySaves past id pair := by
  obtain ⟨id, ⟨session, htoken, hget⟩, hsaves⟩ := (lawful_of_run hfresh hrun ht).along pair rfl
  exact ⟨id, session, htoken, hget, hsaves⟩

/-- A token that has been signed is presented as it is. -/
theorem bareToken_of_signed (hfresh : w₀.Fresh) (hrun : Run faults w₀ w) {i : Nat} {t : Thread}
    (ht : w.threads[i]? = some t) {user : UserId} {kind : TokenKind} {extra : Claims}
    {token : String} (hsign : ⟨.signToken user kind extra, .ok token⟩ ∈ t.past) :
    bareToken token = token := by
  obtain ⟨w₁, w₂, -, hexchange, -⟩ := exists_moment hfresh hrun ht hsign
  have hserve := hexchange.answers.serve (by simp [Exchange.Failed])
  obtain rfl := Except.ok.inj (Prod.mk.inj (Option.some.inj hserve)).1
  exact Token.bareToken_sign _ _

theorem genuine_of_read (hfresh : w₀.Fresh) (hrun : Run faults w₀ w) {i : Nat} {t : Thread}
    (ht : w.threads[i]? = some t) {slot : Slot} {session : Session}
    (hread : ⟨.getSession slot, .ok (some session)⟩ ∈ t.past) :
    ∃ expires, w.system.provider.Genuine session.token slot.user slot.kind expires := by
  obtain ⟨w₁, w₂, hrun₁, hexchange, hrun₂⟩ := exists_moment hfresh hrun ht hread
  have hholds := SessionStore.holds?_of_live? hexchange.live?
  obtain ⟨j, t', ht', hgenerated⟩ := generated_of_holds hfresh hrun₁ hholds
  obtain ⟨expires, hgenuine⟩ := genuine_of_generated hfresh hrun₁ ht' hgenerated
  refine ⟨expires, ?_⟩
  rwa [run_provider hrun, ← run_provider hrun₁]

/-- **A validation that succeeds has found the presented token in the access slot of its user.** -/
theorem read_of_validate (hfresh : w₀.Fresh) (hrun : Run faults w₀ w) {i : Nat} {raw : String}
    {past : List Exchange} {caller : Caller}
    (ht : w.threads[i]? = some ⟨.validate raw, past, .done (.ok caller)⟩) :
    ∃ w₁ w₂ session, Run faults w₀ w₁ ∧
      Exchanges faults i ⟨.getSession ⟨caller.id, .access⟩, .ok (some session)⟩ w₁ w₂ ∧
      Run faults w₂ w ∧ w₁.system.live? ⟨caller.id, .access⟩ = some (bareToken raw) := by
  obtain ⟨-, session, htoken, rfl⟩ := past_of_validate hfresh hrun ht
  obtain ⟨w₁, w₂, hrun₁, hexchange, hrun₂⟩ := exists_moment hfresh hrun ht
    (List.mem_cons_of_mem _ (List.mem_singleton_self _))
  exact ⟨w₁, w₂, session, hrun₁, hexchange, hrun₂, htoken ▸ hexchange.live?⟩

theorem genuine_of_validate (hfresh : w₀.Fresh) (hrun : Run faults w₀ w) {i : Nat} {raw : String}
    {past : List Exchange} {caller : Caller}
    (ht : w.threads[i]? = some ⟨.validate raw, past, .done (.ok caller)⟩) :
    ∃ expires, w.system.provider.Genuine (bareToken raw) caller.id .access expires := by
  obtain ⟨-, session, htoken, hpast⟩ := past_of_validate hfresh hrun ht
  have hread : ⟨.getSession ⟨caller.id, .access⟩, .ok (some session)⟩ ∈ past := by simp [hpast]
  exact htoken ▸ genuine_of_read hfresh hrun ht hread

theorem names_of_validate (hfresh : w₀.Fresh) (hrun : Run faults w₀ w) {i : Nat} {raw : String}
    {past : List Exchange} {caller : Caller}
    (ht : w.threads[i]? = some ⟨.validate raw, past, .done (.ok caller)⟩) :
    ∃ expires, caller.claims.Names caller.id .access expires := by
  obtain ⟨-, session, -, hpast⟩ := past_of_validate hfresh hrun ht
  have hverify : ⟨.verifyToken (bareToken raw), .ok caller.claims⟩ ∈ past := by simp [hpast]
  obtain ⟨expires, hgenuine⟩ := genuine_of_validate hfresh hrun ht
  obtain ⟨w₁, w₂, hrun₁, hexchange, -⟩ := exists_moment hfresh hrun ht hverify
  have hserve := hexchange.answers.serve (by simp [Exchange.Failed])
  have hverified : w₁.system.provider.verify w₁.system.now.seconds (bareToken raw) =
      .ok caller.claims := mapError_eq_ok_iff.mp (Prod.mk.inj (Option.some.inj hserve)).1
  rw [run_provider hrun, ← run_provider hrun₁] at hgenuine
  exact ⟨expires, hgenuine.names_of_verify hverified⟩

/-! ## Tokens that are accepted now -/

/-- A validation of the presented token that looks at a slot at this very moment succeeds in the
end. -/
def World.Accepts (faults : Bool) (w : World) (raw : String) (caller : Caller) : Prop :=
  ∃ i slot answer w₁ w₂ past, Exchanges faults i ⟨.getSession slot, answer⟩ w w₁ ∧
    Run faults w₁ w₂ ∧ w₂.threads[i]? = some ⟨.validate raw, past, .done (.ok caller)⟩

theorem World.Accepts.live? (hfresh : w₀.Fresh) (hrun : Run faults w₀ w) {raw : String}
    {caller : Caller} (h : w.Accepts faults raw caller) :
    w.system.live? ⟨caller.id, .access⟩ = some (bareToken raw) := by
  obtain ⟨i, slot, answer, w₁, w₂, past, hexchange, hrun₂, ht⟩ := h
  have hrun' : Run faults w₀ w₂ := (hrun.tail hexchange.step).trans hrun₂
  obtain ⟨-, session, htoken, rfl⟩ := past_of_validate hfresh hrun' ht
  obtain ⟨t, ht', hmem⟩ := hexchange.mem_past
  have hpast := (grows_of_run hrun₂ ht' ht).past.subset hmem
  have hread : (⟨.getSession slot, answer⟩ : Exchange) =
      ⟨.getSession ⟨caller.id, .access⟩, .ok (some session)⟩ := by
    simpa using hpast
  rw [hread] at hexchange
  exact htoken ▸ hexchange.live?

/-! ## The tokens on record and those that are accepted -/

/-- Some request has generated the token for a user after it had checked the user's password or
refresh token, and the token says so itself. -/
def World.Generated (w : World) (slot : Slot) (token : String) : Prop :=
  (∃ (i : Nat) (t : Thread), w.threads[i]? = some t ∧ t.Generated slot.user slot.kind token) ∧
    ∃ expires, w.system.provider.Genuine token slot.user slot.kind expires

theorem World.generated_of_live? (hfresh : w₀.Fresh) (hrun : Run faults w₀ w) {slot : Slot}
    {token : String} (h : w.system.live? slot = some token) : w.Generated slot token := by
  obtain ⟨i, t, ht, hgenerated⟩ := generated_of_holds hfresh hrun (SessionStore.holds?_of_live? h)
  exact ⟨⟨i, t, ht, hgenerated⟩, genuine_of_generated hfresh hrun ht hgenerated⟩

theorem id_eq_of_validate_of_validate (hfresh : w₀.Fresh) (hrun : Run faults w₀ w) {i j : Nat}
    {raw raw' : String} {past past' : List Exchange} {caller caller' : Caller}
    (hi : w.threads[i]? = some ⟨.validate raw, past, .done (.ok caller)⟩)
    (hj : w.threads[j]? = some ⟨.validate raw', past', .done (.ok caller')⟩)
    (hraw : bareToken raw = bareToken raw') : caller.id = caller'.id := by
  obtain ⟨expires, hgenuine⟩ := genuine_of_validate hfresh hrun hi
  obtain ⟨expires', hgenuine'⟩ := genuine_of_validate hfresh hrun hj
  rw [hraw] at hgenuine
  exact (hgenuine.unique hgenuine').1

theorem bareToken_ne_of_validate_of_refresh (hfresh : w₀.Fresh) (hrun : Run faults w₀ w)
    {i j : Nat} {raw raw' : String} {past past' : List Exchange} {caller : Caller}
    {pair : TokenPair} (hi : w.threads[i]? = some ⟨.validate raw, past, .done (.ok caller)⟩)
    (hj : w.threads[j]? = some ⟨.refresh raw', past', .done (.ok pair)⟩) :
    bareToken raw ≠ bareToken raw' := by
  intro he
  obtain ⟨expires, hgenuine⟩ := genuine_of_validate hfresh hrun hi
  obtain ⟨id, session', htoken', hread', -⟩ := read_of_refresh hfresh hrun hj
  obtain ⟨expires', hgenuine'⟩ := genuine_of_read hfresh hrun hj hread'
  rw [he, ← htoken'] at hgenuine
  exact absurd (hgenuine.unique hgenuine').2.1 (by simp)

/-- **Where accepted tokens come from.** Every slot holds a token that a request has generated for
its user and of its kind after checking the password or the refresh token; a validation that
succeeds has found the presented token in the access slot, with claims that say the same; at any
moment one token at most is accepted for a user; no token is ever accepted for two users; and what
a validation accepts no refresh does. -/
theorem accepted_of_generated (hfresh : w₀.Fresh) (hrun : Run true w₀ w) :
    (∀ slot token, w.system.live? slot = some token → w.Generated slot token) ∧
    (∀ (i : Nat) raw past caller,
      w.threads[i]? = some ⟨.validate raw, past, .done (.ok caller)⟩ →
      (∃ w₁ w₂ session, Run true w₀ w₁ ∧
        Exchanges true i ⟨.getSession ⟨caller.id, .access⟩, .ok (some session)⟩ w₁ w₂ ∧
        Run true w₂ w ∧ w₁.system.live? ⟨caller.id, .access⟩ = some (bareToken raw)) ∧
      ∃ expires, caller.claims.Names caller.id .access expires) ∧
    (∀ raw raw' caller caller', w.Accepts true raw caller → w.Accepts true raw' caller' →
      caller.id = caller'.id → bareToken raw = bareToken raw') ∧
    (∀ (i j : Nat) raw raw' past past' caller caller',
      w.threads[i]? = some ⟨.validate raw, past, .done (.ok caller)⟩ →
      w.threads[j]? = some ⟨.validate raw', past', .done (.ok caller')⟩ →
      bareToken raw = bareToken raw' → caller.id = caller'.id) ∧
    ∀ (i j : Nat) raw raw' past past' caller pair,
      w.threads[i]? = some ⟨.validate raw, past, .done (.ok caller)⟩ →
      w.threads[j]? = some ⟨.refresh raw', past', .done (.ok pair)⟩ →
      bareToken raw ≠ bareToken raw' := by
  refine ⟨fun slot token => World.generated_of_live? hfresh hrun, fun i raw past caller ht => ?_,
    fun raw raw' caller caller' h h' hid => ?_, ?_, ?_⟩
  · exact ⟨read_of_validate hfresh hrun ht, names_of_validate hfresh hrun ht⟩
  · have hlive := h.live? hfresh hrun
    have hlive' := h'.live? hfresh hrun
    rw [hid] at hlive
    exact Option.some.inj (hlive.symm.trans hlive')
  · intro i j raw raw' past past' caller caller' hi hj
    exact id_eq_of_validate_of_validate hfresh hrun hi hj
  · intro i j raw raw' past past' caller pair hi hj
    exact bareToken_ne_of_validate_of_refresh hfresh hrun hi hj

theorem validated_after_login : ∃ w past caller,
    Run true ⟨Sample.system, []⟩ w ∧
    w.threads[1]? = some ⟨.validate Sample.pair.access, past, .done (.ok caller)⟩ ∧
    caller.id = Sample.alice.id ∧ ∃ expires, caller.claims.Names caller.id .access expires := by
  obtain ⟨past, hlogin⟩ := Sample.run_login true
  obtain ⟨claims, haccepts⟩ := Sample.accepts_pair .access
  obtain ⟨r, s, hsettle, hiff⟩ := settle_validate Sample.loggedIn Sample.pair.access
  obtain rfl := (hiff ⟨Sample.alice.id, claims⟩).mpr haccepts
  have hoperation : (Request.validate Sample.pair.access).operation.settle Sample.loggedIn =
      some (.ok ⟨Sample.alice.id, claims⟩, s) := hsettle
  obtain ⟨past', hvalidate⟩ := run_request _ hoperation
  have hrun := hlogin.trans hvalidate
  obtain ⟨-, hvalid, -⟩ := accepted_of_generated Sample.fresh hrun
  exact ⟨_, past', _, hrun, rfl, rfl, (hvalid 1 _ past' _ rfl).2⟩

end Concurrent

end SessionAuth
