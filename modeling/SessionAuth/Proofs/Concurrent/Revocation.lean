import SessionAuth.Proofs.Concurrent.Provenance

/-!
# The end of a session while requests overlap

Ending the sessions of a user takes the access token off record. A request that had checked the
user's password or refresh token before, and that puts its own access token on record only
afterwards, is not stopped; nothing else brings an access token back.

* `Thread.Ended`: a request has succeeded in ending the sessions of a user.
* `accepted_after_revocation`: the access tokens that are accepted afterwards.
* `not_revocationFinal`: a login that overlaps with a deletion outlives it.
-/

namespace SessionAuth

/-- The exchange has found the account of a user. -/
def Exchange.Finds (user : UserId) : Exchange → Prop
  | ⟨.findByUsername _, .ok (some found)⟩ => found.id = user
  | ⟨.findById _, .ok (some found)⟩ => found.id = user
  | _ => False

namespace Service

/-- A request is entitled to tokens only for an account that it has found. -/
theorem Request.Entitled.finds {r : Request} {past : List Exchange} {id : UserId}
    (h : r.Entitled past id) : ∃ x ∈ past, x.Finds id := by
  cases r with
  | login username password =>
    obtain ⟨name, user, -, hid, hfind, -⟩ := h
    exact ⟨_, hfind, hid⟩
  | changePassword caller current new =>
    obtain ⟨-, user, hid, hfind, -⟩ := h
    exact ⟨_, hfind, hid⟩
  | refresh raw =>
    obtain ⟨-, user, hid, hfind⟩ := h
    exact ⟨_, hfind, hid⟩
  | _ => exact h.elim

end Service

namespace Concurrent

open Service

variable {faults : Bool} {w₀ w₁ w₂ w w' : World}

/-! ## Accounts -/

theorem Exchanges.hasLive_of_finds {i : Nat} {x : Exchange} (h : Exchanges faults i x w w')
    {user : UserId} (hfinds : x.Finds user) : w.system.users.HasLive user := by
  obtain ⟨c, a⟩ := x
  cases c with
  | findByUsername name =>
    rcases a with e | _ | found
    · exact hfinds.elim
    · exact hfinds.elim
    obtain rfl : found.id = user := hfinds
    have hserve := h.answers.serve (by simp [Exchange.Failed])
    have hfind := Except.ok.inj (Prod.mk.inj (Option.some.inj hserve)).1
    exact ⟨found, (UserTable.findByUsername_spec hfind).1, rfl⟩
  | findById id =>
    rcases a with e | _ | found
    · exact hfinds.elim
    · exact hfinds.elim
    obtain rfl : found.id = user := hfinds
    have hserve := h.answers.serve (by simp [Exchange.Failed])
    have hfind := Except.ok.inj (Prod.mk.inj (Option.some.inj hserve)).1
    exact ⟨found, (UserTable.findById_spec hfind).1, rfl⟩
  | _ => exact hfinds.elim

theorem Exchanges.deleted {i : Nat} {id : UserId} {at' : Instant}
    (h : Exchanges faults i ⟨.softDelete id at', .ok ()⟩ w w') :
    w'.system.users.Deleted id := by
  have hserve := h.answers.serve (by simp [Exchange.Failed])
  rcases System.withUsers_cases (Option.some.inj hserve) with
    ⟨e, -, he, -⟩ | ⟨b, users, hmap, -, hsystem⟩
  · exact absurd he (by simp)
  · rw [hsystem]
    rcases hdelete : w.system.users.softDelete id at' with e | ⟨user, users'⟩
    · rw [hdelete] at hmap
      exact absurd hmap (by simp [Except.map])
    · rw [hdelete] at hmap
      obtain ⟨-, rfl⟩ := Prod.mk.inj (Except.ok.inj hmap)
      exact UserTable.deleted_softDelete hdelete

/-! ## Requests that end sessions -/

/-- The request has succeeded and has taken the access token of a user off record; a change of
password has put its own in the place. -/
inductive Thread.Ended (user : UserId) : Thread → Option String → Prop
  | logout (past : List Exchange) : Ended user ⟨.logout user, past, .done (.ok ())⟩ none
  | softDelete {caller : Caller} (past : List Exchange) (h : caller.id = user) :
      Ended user ⟨.softDelete caller, past, .done (.ok ())⟩ none
  | changePassword {caller : Caller} {current new : String} {past : List Exchange}
      {pair : TokenPair} (h : caller.id = user) (saved : ¬ Request.Unsaved .access past) :
      Ended user ⟨.changePassword caller current new, past, .done (.ok pair)⟩ (some pair.access)

theorem Thread.Ended.exists_sets {t : Thread} {user : UserId} {own : Option String}
    (h : t.Ended user own) (hlawful : t.Lawful) :
    ∃ x ∈ t.past, x.Sets ⟨user, .access⟩ own := by
  cases h with
  | logout past =>
    have hcleared : Request.HasCleared past user := hlawful.along () rfl
    exact ⟨_, hcleared .access, rfl, rfl⟩
  | softDelete past h =>
    subst h
    obtain ⟨hcleared, -⟩ := hlawful.along () rfl
    exact ⟨_, hcleared .access, rfl, rfl⟩
  | @changePassword caller current new past pair h saved =>
    subst h
    have hsaves : Request.OnlySaves past caller.id pair := hlawful.along pair rfl
    simp only [Request.Unsaved, not_forall, not_not] at saved
    obtain ⟨x, hx, session, hsession, hkind⟩ := saved
    obtain ⟨he, ttl, rfl⟩ := hsaves x hx session hsession
    rw [hkind] at he
    subst he
    exact ⟨_, hx, rfl, rfl⟩

theorem Thread.Ended.exists_softDelete {t : Thread} {user : UserId} {own : Option String}
    (h : t.Ended user own) (hlawful : t.Lawful) {caller : Caller}
    (hrequest : t.request = .softDelete caller) :
    ∃ at', ⟨.softDelete user at', .ok ()⟩ ∈ t.past := by
  cases h with
  | softDelete past h =>
    subst h
    obtain ⟨-, hdeleted⟩ := hlawful.along () rfl
    exact hdeleted
  | logout past => exact absurd hrequest (by simp)
  | changePassword h saved => exact absurd hrequest (by simp)

/-- **Only a request that had found an account before it was deleted is entitled to tokens for it
afterwards.** -/
theorem found_before_deletion (hrun : Run faults w₁ w₂) {user : UserId}
    (hdeleted : w₁.system.users.Deleted user) {j : Nat} {u : Thread}
    (hu : w₂.threads[j]? = some u) {kind : TokenKind} {token : String}
    (hgenerated : u.Generated user kind token) :
    ∃ v, w₁.threads[j]? = some v ∧ ∃ x ∈ v.past, x.Finds user := by
  obtain ⟨before, extra, after, hpast, hentitled⟩ := hgenerated
  obtain ⟨x, hx, hfinds⟩ := hentitled.finds
  have hmem : x ∈ u.past := hpast ▸ List.mem_append_left _ hx
  rcases exchanged_since hrun hu hmem with ⟨v, hv, hearlier⟩ | ⟨w₃, w₄, hrun₁, hexchange, -⟩
  · exact ⟨v, hv, x, hearlier, hfinds⟩
  · exact absurd (hexchange.hasLive_of_finds hfinds) (run_deleted hrun₁ hdeleted).not_hasLive

/-! ## Access tokens after the end of a session -/

/-- Some request has generated the token after it had checked the user's password or refresh
token, and had not put any access token on record when the slot was set. -/
def World.OutstandingAt (w₄ w₂ : World) (j : Nat) (user : UserId) (token : String) : Prop :=
  (∃ u, w₂.threads[j]? = some u ∧ u.Generated user .access token) ∧
    ∀ v, w₄.threads[j]? = some v → Request.Unsaved .access v.past

/-- An access token that is on record was there from a moment on or belongs to a request that was
outstanding then. -/
theorem outstanding_of_holds (hfresh : w₀.Fresh) (hrun : Run faults w₀ w₁)
    (hrun' : Run faults w₁ w) {user : UserId} {token : String}
    (hholds : w.system.sessions.holds? ⟨user, .access⟩ = some token) :
    w₁.system.sessions.holds? ⟨user, .access⟩ = some token ∨
      ∃ j, w₁.OutstandingAt w j user token := by
  rcases exists_save hrun' hholds with hfirst | ⟨j, x, w₃, w₄, hrun₃, hexchange, hrun₄, hsaves⟩
  · exact Or.inl hfirst
  · obtain ⟨u, hu, hgenerated, hunsaved⟩ := hexchange.saves hfresh (hrun.trans hrun₃) hsaves
    obtain ⟨u', hu', hgrows⟩ := run_grows (hrun₄.head hexchange.step) hu
    refine Or.inr ⟨j, ⟨u', hu', hgenerated.grows hgrows⟩, fun v hv x hx => ?_⟩
    exact hunsaved x ((grows_of_run hrun₃ hv hu).past.subset hx)

theorem read_after (hfresh : w₀.Fresh) (hrun : Run faults w₀ w₁) (hrun' : Run faults w₁ w₂)
    {i : Nat} {raw : String} {past : List Exchange} {caller : Caller}
    (hi : w₂.threads[i]? = some ⟨.validate raw, past, .done (.ok caller)⟩)
    (hlater : ∀ v, w₁.threads[i]? = some v → ∀ slot answer, ⟨.getSession slot, answer⟩ ∉ v.past) :
    ∃ w, Run faults w₁ w ∧ Run faults w w₂ ∧
      w.system.live? ⟨caller.id, .access⟩ = some (bareToken raw) := by
  obtain ⟨-, session, htoken, rfl⟩ := past_of_validate hfresh (hrun.trans hrun') hi
  have hread : ⟨.getSession ⟨caller.id, .access⟩, .ok (some session)⟩ ∈
      [(⟨.verifyToken (bareToken raw), .ok caller.claims⟩ : Exchange),
        ⟨.getSession ⟨caller.id, .access⟩, .ok (some session)⟩] :=
    List.mem_cons_of_mem _ (List.mem_singleton_self _)
  rcases exchanged_since hrun' hi hread with ⟨v, hv, hearlier⟩ | ⟨w, w', hrun₁, hexchange, hrun₂⟩
  · exact absurd hearlier (hlater v hv _ _)
  · exact ⟨w, hrun₁, hrun₂.head hexchange.step, htoken ▸ hexchange.live?⟩

/-- **The access tokens that are accepted after the end of a session**: the one that a change of
password has given out itself, and those of requests that had not put their own on record when the
access slot was set. Once an account has been deleted, these had found it before. -/
theorem accepted_after_revocation (hfresh : w₀.Fresh) (hrun : Run faults w₀ w₁)
    (hrun' : Run faults w₁ w₂) {k : Nat} {t : Thread} {user : UserId} {own : Option String}
    (hk : w₁.threads[k]? = some t) (hended : t.Ended user own) {i : Nat} {raw : String}
    {past : List Exchange} {caller : Caller}
    (hi : w₂.threads[i]? = some ⟨.validate raw, past, .done (.ok caller)⟩)
    (hcaller : caller.id = user)
    (hlater : ∀ v, w₁.threads[i]? = some v → ∀ slot answer, ⟨.getSession slot, answer⟩ ∉ v.past) :
    own = some (bareToken raw) ∨
      ∃ j x w₃ w₄, Run faults w₀ w₃ ∧ Exchanges faults k x w₃ w₄ ∧ Run faults w₄ w₁ ∧
        x.Sets ⟨user, .access⟩ own ∧ w₄.OutstandingAt w₂ j user (bareToken raw) ∧
        ∀ deleter, t.request = .softDelete deleter →
          ∃ v, w₁.threads[j]? = some v ∧ ∃ x ∈ v.past, x.Finds user := by
  subst hcaller
  have hlawful := lawful_of_run hfresh hrun hk
  obtain ⟨x, hx, hsets⟩ := hended.exists_sets hlawful
  obtain ⟨w₃, w₄, hrun₃, hexchange, hrun₄⟩ := exists_moment hfresh hrun hk hx
  obtain ⟨w, hrun₁, hrun₂, hlive⟩ := read_after hfresh hrun hrun' hi hlater
  rcases outstanding_of_holds hfresh (hrun₃.tail hexchange.step) (hrun₄.trans hrun₁)
      (SessionStore.holds?_of_live? hlive) with hholds | ⟨j, ⟨u, hu, hgenerated⟩, hunsaved⟩
  · exact Or.inl ((hexchange.holds?_of_sets hsets).symm.trans hholds)
  · obtain ⟨u', hu', hgrows⟩ := run_grows hrun₂ hu
    have hgenerated' := hgenerated.grows hgrows
    refine Or.inr ⟨j, x, w₃, w₄, hrun₃, hexchange, hrun₄, hsets, ⟨⟨u', hu', hgenerated'⟩,
      hunsaved⟩, fun deleter hrequest => ?_⟩
    obtain ⟨at', hdelete⟩ := hended.exists_softDelete hlawful hrequest
    obtain ⟨w₅, w₆, -, hdeletion, hrun₆⟩ := exists_moment hfresh hrun hk hdelete
    exact found_before_deletion hrun' (run_deleted hrun₆ hdeletion.deleted) hu' hgenerated'

end Concurrent

/-! ## A login across a deletion -/

namespace Sample

open Concurrent Service

/-- The owner of the account, as a caller. -/
def owner : Caller := ⟨alice.id, []⟩

/-- The password is checked, then the account is deleted, and then the login goes on. -/
theorem run_acrossDeletion : ∃ (w₁ w₂ : World) (raw : String) (caller : Caller),
    Concurrent.Run false ⟨system, []⟩ w₁ ∧ Concurrent.Run false w₁ w₂ ∧ caller.id = alice.id ∧
    (∃ login past, w₁.threads = [login, ⟨.softDelete owner, past, .done (.ok ())⟩]) ∧
    ∃ login deletion past,
      w₂.threads = [login, deletion, ⟨.validate raw, past, .done (.ok caller)⟩] := by
  let waiting (past : List Exchange) : Thread :=
    ⟨.login "alice" "secret123", past, ExceptT.run (openLogin alice)⟩
  obtain ⟨past₀, hlogin⟩ := run_authenticate [] (settle_authenticate rfl rfl)
  obtain ⟨r, s, hsettle, hrevoked, hcases⟩ := settle_softDelete system owner
  obtain rfl : r = .ok () := by
    rcases hcases with ⟨hr, -⟩ | ⟨e, -, hgone⟩
    · exact hr
    · exact absurd (UserTable.hasLive_iff.mpr ⟨alice, findById_alice⟩) hgone
  have hdelete : (Request.softDelete owner).operation.settle system = some (.ok (), s) := hsettle
  obtain ⟨past₁, hdeletion⟩ := run_request [waiting past₀] hdelete
  have hsteady := hrevoked.clocks.steady steady_system
  let done : Thread := ⟨.softDelete owner, past₁, .done (.ok ())⟩
  have hwaiting : [waiting past₀, done][0]? = some (waiting past₀) := rfl
  obtain ⟨past₂, hissue⟩ := run_openLogin hsteady (hrevoked.clocks.room room_system) hwaiting
  obtain ⟨past₃, s', caller, hid, hvalidation⟩ := run_validate_openSession hsteady alice _
  exact ⟨_, _, _, caller, hlogin.trans hdeletion, hissue.trans hvalidation, hid,
    ⟨_, past₁, rfl⟩, _, _, past₃, rfl⟩

end Sample

namespace Concurrent

open Service

/-- After the end of a session no access token is accepted but the one that a change of password
gives out itself and those of requests that have come in since. -/
def RevocationFinal : Prop :=
  ∀ (w₀ w₁ w₂ : World), w₀.Fresh → Run false w₀ w₁ → Run false w₁ w₂ →
    ∀ (k : Nat) t user own, w₁.threads[k]? = some t → t.Ended user own →
      ∀ (i : Nat) raw past caller, w₁.threads[i]? = none →
        w₂.threads[i]? = some ⟨.validate raw, past, .done (.ok caller)⟩ → caller.id = user →
          own = some (bareToken raw) ∨ ∃ (j : Nat) (u : Thread), w₁.threads[j]? = none ∧
            w₂.threads[j]? = some u ∧ u.Generated user .access (bareToken raw)

/-- **A login may outlive the deletion of its account**, even though nothing fails. -/
theorem not_revocationFinal : ¬ RevocationFinal := by
  intro h
  obtain ⟨w₁, w₂, raw, caller, hrun, hrun', hid, ⟨login, past, hw₁⟩, login', deletion, past',
    hw₂⟩ := Sample.run_acrossDeletion
  have hk : w₁.threads[1]? = some ⟨.softDelete Sample.owner, past, .done (.ok ())⟩ := by
    rw [hw₁]
    rfl
  have hi : w₂.threads[2]? = some ⟨.validate raw, past', .done (.ok caller)⟩ := by
    rw [hw₂]
    rfl
  have hnone : w₁.threads[2]? = none := by
    rw [hw₁]
    rfl
  rcases h _ w₁ w₂ Sample.fresh hrun hrun' 1 _ Sample.alice.id none hk (.softDelete past rfl) 2
      raw past' caller hnone hi hid with hown | ⟨j, u, hj, hu, hgenerated⟩
  · exact absurd hown (by simp)
  · -- The validation is the only request that has come in since, and it generates no token.
    have hle : 2 ≤ j := by
      have hlength := List.getElem?_eq_none_iff.mp hj
      rwa [hw₁] at hlength
    have hlt : j < 3 := by
      obtain ⟨hlength, -⟩ := List.getElem?_eq_some_iff.mp hu
      rwa [hw₂] at hlength
    obtain rfl : j = 2 := by omega
    obtain rfl := Option.some.inj (hi.symm.trans hu)
    obtain ⟨before, extra, after, -, hentitled⟩ := hgenerated
    exact hentitled

/-- The access token of a login that a deletion has overtaken was outstanding. -/
theorem outstanding_after_deletion : ∃ (w₁ w₂ : World) (raw : String) (caller : Caller),
    Run false ⟨Sample.system, []⟩ w₁ ∧ Run false w₁ w₂ ∧
    (∃ past, w₁.threads[1]? = some ⟨.softDelete Sample.owner, past, .done (.ok ())⟩) ∧
    (∃ past, w₂.threads[2]? = some ⟨.validate raw, past, .done (.ok caller)⟩) ∧
    ∃ (j : Nat) (w₄ : World) (v : Thread),
      w₄.OutstandingAt w₂ j Sample.alice.id (bareToken raw) ∧ w₁.threads[j]? = some v ∧
        ∃ x ∈ v.past, x.Finds Sample.alice.id := by
  obtain ⟨w₁, w₂, raw, caller, hrun, hrun', hid, ⟨login, past, hw₁⟩, login', deletion, past',
    hw₂⟩ := Sample.run_acrossDeletion
  have hk : w₁.threads[1]? = some ⟨.softDelete Sample.owner, past, .done (.ok ())⟩ := by
    rw [hw₁]
    rfl
  have hi : w₂.threads[2]? = some ⟨.validate raw, past', .done (.ok caller)⟩ := by
    rw [hw₂]
    rfl
  have hlater : ∀ v, w₁.threads[2]? = some v →
      ∀ slot answer, ⟨.getSession slot, answer⟩ ∉ v.past := by
    intro v hv
    rw [hw₁] at hv
    exact absurd hv (by simp)
  rcases accepted_after_revocation Sample.fresh hrun hrun' hk (.softDelete past rfl) hi hid hlater
    with hown | ⟨j, x, w₃, w₄, -, -, -, -, houtstanding, hfound⟩
  · exact absurd hown (by simp)
  · obtain ⟨v, hv, hfinds⟩ := hfound _ rfl
    exact ⟨w₁, w₂, raw, caller, hrun, hrun', ⟨past, hk⟩, ⟨past', hi⟩, j, w₄, v, houtstanding, hv,
      hfinds⟩

end Concurrent

end SessionAuth
