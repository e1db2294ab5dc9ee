import Mathlib.Data.List.Nodup
import SessionAuth.Proofs.Concurrent.Provenance

/-!
# Refresh tokens are traded in once

A refresh looks its token up first and replaces it later, so two refreshes that overlap may both
trade the same token in. Nothing else lets a token be used twice: once it has been replaced, no
request finds it any more.

* `never_back`: a token that has left its slot does not come back.
* `replaced`: a token that has been looked up is gone once its replacement is on record.
* `overlap_of_refreshed_twice`: refreshes that trade in the same token overlap.
* `not_singleUse`: two of them may indeed overlap and both succeed.
-/

namespace SessionAuth

namespace Concurrent

open Service

variable {faults : Bool} {w₀ w w' : World}

/-! ## Signing -/

theorem nodup_of_run (hrun : Run faults w w') (h : w'.system.issued.Nodup) :
    w.system.issued.Nodup :=
  h.sublist (run_issued hrun).sublist

theorem not_nodup_of_signed_twice {i j : Nat} {user user' : UserId} {kind kind' : TokenKind}
    {extra extra' : Claims} {token : String} {w₁ w₂ w₃ w₄ : World}
    (hfirst : Exchanges faults i ⟨.signToken user kind extra, .ok token⟩ w₁ w₂)
    (hbetween : Run faults w₂ w₃)
    (hsecond : Exchanges faults j ⟨.signToken user' kind' extra', .ok token⟩ w₃ w₄) :
    ¬ w₄.system.issued.Nodup := by
  have hissued := System.issued_of_serve_sign (hfirst.answers.serve (by simp [Exchange.Failed]))
  have hissued' := System.issued_of_serve_sign (hsecond.answers.serve (by simp [Exchange.Failed]))
  have hmem : token ∈ w₃.system.issued := by
    refine (run_issued hbetween).mem ?_
    rw [hissued]
    exact List.mem_cons_self
  rw [hissued', List.nodup_cons]
  exact fun h => h.1 hmem

/-- **Only one request has signed a token**, as long as tokens are distinct. -/
theorem signed_once (hfresh : w₀.Fresh) (hrun : Run faults w₀ w)
    (hdistinct : w.system.issued.Nodup) {i j : Nat} {t u : Thread}
    (ht : w.threads[i]? = some t) (hu : w.threads[j]? = some u) {user user' : UserId}
    {kind kind' : TokenKind} {extra extra' : Claims} {token : String}
    (hsign : ⟨.signToken user kind extra, .ok token⟩ ∈ t.past)
    (hsign' : ⟨.signToken user' kind' extra', .ok token⟩ ∈ u.past) : i = j := by
  by_contra hij
  rcases exists_moments hfresh hrun hij ht hu hsign hsign' with h | h
  · obtain ⟨w₁, w₂, w₃, w₄, -, hfirst, hbetween, hsecond, hlast⟩ := h
    exact not_nodup_of_signed_twice hfirst hbetween hsecond (nodup_of_run hlast hdistinct)
  · obtain ⟨w₁, w₂, w₃, w₄, -, hfirst, hbetween, hsecond, hlast⟩ := h
    exact not_nodup_of_signed_twice hfirst hbetween hsecond (nodup_of_run hlast hdistinct)

/-! ## Saving -/

/-- The request has put a token on record that it has signed itself. -/
structure Thread.Saved (t : Thread) (slot : Slot) (token : String) : Prop where
  signed : ∃ extra, ⟨.signToken slot.user slot.kind extra, .ok token⟩ ∈ t.past
  saved : ∃ x ∈ t.past, x.call.saves? = some ⟨slot.user, slot.kind, token⟩

theorem Thread.Saved.grows {t t' : Thread} {slot : Slot} {token : String}
    (h : t.Saved slot token) (hgrows : t.Grows t') : t'.Saved slot token := by
  obtain ⟨⟨extra, hsign⟩, x, hx, hsaves⟩ := h
  exact ⟨⟨extra, hgrows.past.subset hsign⟩, x, hgrows.past.subset hx, hsaves⟩

theorem saved_of_holds (hfresh : w₀.Fresh) (hrun : Run faults w₀ w) {slot : Slot} {token : String}
    (h : w.system.sessions.holds? slot = some token) :
    ∃ (k : Nat) (t : Thread), w.threads[k]? = some t ∧ t.Saved slot token := by
  rcases exists_save hrun h with hfirst | ⟨k, x, w₁, w₂, hrun₁, hexchange, hrun₂, hsaves⟩
  · rw [hfresh.sessions] at hfirst
    exact absurd hfirst (by simp [SessionStore.holds?_empty])
  · obtain ⟨t₁, ht₁, hgenerated, -⟩ := hexchange.saves hfresh hrun₁ hsaves
    obtain ⟨t₂, ht₂, hx⟩ := hexchange.mem_past
    have hgrows₁ := grows_of_run (.single hexchange.step) ht₁ ht₂
    have hsaved : t₂.Saved slot token := ⟨(hgenerated.grows hgrows₁).signed, x, hx, hsaves⟩
    obtain ⟨t, ht, hgrows₂⟩ := run_grows hrun₂ ht₂
    exact ⟨k, t, ht, hsaved.grows hgrows₂⟩

/-- **A token that has left its slot does not come back**: it would take a request that saves it
once more. -/
theorem never_back (hfresh : w₀.Fresh) (hrun : Run faults w₀ w) (hrun' : Run faults w w')
    (hdistinct : w'.system.issued.Nodup) {slot : Slot} {token : String} {k : Nat} {t : Thread}
    (ht : w.threads[k]? = some t) (hsaved : t.Saved slot token)
    (hgone : w.system.sessions.holds? slot ≠ some token) :
    w'.system.sessions.holds? slot ≠ some token := by
  intro hback
  rcases exists_save hrun' hback with hholds | ⟨j, x, w₁, w₂, hrun₁, hexchange, hrun₂, hsaves⟩
  · exact hgone hholds
  · obtain ⟨u, hu, hgenerated, hunsaved⟩ := hexchange.saves hfresh (hrun.trans hrun₁) hsaves
    obtain ⟨t₁, ht₁, hgrows⟩ := run_grows hrun₁ ht
    have hdistinct₁ := nodup_of_run (hrun₂.head hexchange.step) hdistinct
    obtain ⟨⟨extra, hsign⟩, y, hy, hsaved⟩ := hsaved.grows hgrows
    obtain ⟨extra', hsign'⟩ := hgenerated.signed
    obtain rfl := signed_once hfresh (hrun.trans hrun₁) hdistinct₁ ht₁ hu hsign hsign'
    obtain rfl := Option.some.inj (ht₁.symm.trans hu)
    exact hunsaved y hy _ hsaved rfl

/-! ## Reading and replacing -/

/-- A request looks tokens up before it signs any. -/
theorem Exchanges.not_signed (hfresh : w₀.Fresh) (hrun : Run faults w₀ w) {i : Nat} {slot : Slot}
    {answer : (Call.getSession slot).Answer}
    (h : Exchanges faults i ⟨.getSession slot, answer⟩ w w') {t : Thread}
    (ht : w.threads[i]? = some t) : ∀ x ∈ t.past, x.call.signs = false := by
  obtain ⟨u, hu, hsafe⟩ := h.safe hfresh hrun
  obtain rfl := Option.some.inj (hu.symm.trans ht)
  exact hsafe

theorem Thread.Lawful.noneSaved {t : Thread} (h : t.Lawful)
    (hnone : ∀ x ∈ t.past, x.call.signs = false) : Request.NoneSaved t.past := by
  intro x hx
  obtain ⟨c, a⟩ := x
  cases c with
  | saveSession session ttl =>
    obtain ⟨before, after, hpast⟩ := List.append_of_mem hx
    obtain ⟨-, ⟨extra, hsign⟩, -⟩ := h.safe _ _ _ hpast
    have hmem : ⟨.signToken session.user session.kind extra, .ok session.token⟩ ∈ t.past := by
      rw [hpast]
      exact List.mem_append_left _ hsign
    exact absurd (hnone _ hmem) (by simp [Call.signs])
  | _ => rfl

/-- **A token that has been looked up is gone once its replacement is on record.** -/
theorem replaced (hfresh : w₀.Fresh) (hrun : Run faults w₀ w)
    (hdistinct : w.system.issued.Nodup) {i : Nat} {t : Thread} (ht : w.threads[i]? = some t)
    {slot : Slot} {session : Session} {token : String} {ttl : Duration}
    (hread : ⟨.getSession slot, .ok (some session)⟩ ∈ t.past)
    (hsave : ⟨.saveSession ⟨slot.user, slot.kind, token⟩ ttl, .ok ()⟩ ∈ t.past) :
    w.system.sessions.holds? slot ≠ some session.token := by
  obtain ⟨w₁, w₂, hrun₁, hexchange, hrun₂⟩ := exists_moment hfresh hrun ht hsave
  obtain ⟨v, hv, hgenerated, -⟩ := hexchange.saves hfresh hrun₁ rfl
  obtain ⟨extra, hsign⟩ := hgenerated.signed
  have hgrows := grows_of_run (hrun₂.head hexchange.step) hv ht
  -- The token was looked up first: a request that has signed tokens does not look any up.
  have hread₁ : ⟨.getSession slot, .ok (some session)⟩ ∈ v.past := by
    rcases exchanged_since (hrun₂.head hexchange.step) ht hread with
      ⟨v', hv', hearlier⟩ | ⟨w₃, w₄, hrun₃, hlookup, -⟩
    · obtain rfl := Option.some.inj (hv'.symm.trans hv)
      exact hearlier
    · obtain ⟨u, hu, hgrows₃⟩ := run_grows hrun₃ hv
      have hunsigned := hlookup.not_signed hfresh (hrun₁.trans hrun₃) hu
      exact absurd (hunsigned _ (hgrows₃.past.subset hsign)) (by simp [Call.signs])
  -- When it was looked up, some request had saved it.
  obtain ⟨w₃, w₄, hrun₃, hlookup, hrun₄⟩ := exists_moment hfresh hrun₁ hv hread₁
  obtain ⟨k, u, hu, hsaved⟩ :=
    saved_of_holds hfresh hrun₃ (SessionStore.holds?_of_live? hlookup.live?)
  have hsteps : Run faults w₃ w₂ := (hrun₄.head hlookup.step).tail hexchange.step
  obtain ⟨u₂, hu₂, hgrows₂⟩ := run_grows hsteps hu
  -- It is not the replacement, which had not been signed by then.
  have hne : token ≠ session.token := by
    rintro rfl
    obtain ⟨u', hu', hgrows'⟩ := run_grows (hsteps.trans hrun₂) hu
    obtain ⟨extra', hsign'⟩ := hsaved.signed
    obtain rfl := signed_once hfresh hrun hdistinct hu' ht (hgrows'.past.subset hsign')
      (hgrows.past.subset hsign)
    exact absurd (hlookup.not_signed hfresh hrun₃ hu _ hsign') (by simp [Call.signs])
  have hgone : w₂.system.sessions.holds? slot ≠ some session.token := by
    intro hholds
    have hreplaced : w₂.system.sessions.holds? slot = some token :=
      hexchange.holds?_of_sets ⟨rfl, rfl⟩
    exact hne (Option.some.inj (hreplaced.symm.trans hholds))
  exact never_back hfresh (hrun₁.tail hexchange.step) hrun₂ hdistinct hu₂ (hsaved.grows hgrows₂)
    hgone

/-! ## Two refreshes of the same token -/

/-- Two requests have both found the presented token on record, and neither has put a refresh token
in its place yet. -/
def World.BothPresented (w : World) (i j : Nat) (raw raw' : String) : Prop :=
  ∃ t u id, w.threads[i]? = some t ∧ w.threads[j]? = some u ∧
    Request.HasPresented raw t.past id ∧ Request.HasPresented raw' u.past id ∧
    Request.Unsaved .refresh t.past ∧ Request.Unsaved .refresh u.past

/-- The request that comes second finds the token only if the first one has not replaced it. -/
theorem bothPresented_of_order (hfresh : w₀.Fresh) (hdistinct : w.system.issued.Nodup)
    {i j : Nat} (hij : i ≠ j) {t : Thread} (ht : w.threads[i]? = some t) {raw raw' : String}
    {id : UserId} {pair : TokenPair}
    (hsaves : Request.OnlySaves t.past id pair) {session session' : Session}
    (htoken : session.token = bareToken raw) (htoken' : session'.token = bareToken raw')
    (hraw : bareToken raw = bareToken raw') {w₁ w₂ w₃ w₄ : World} (hrun₁ : Run faults w₀ w₁)
    (hfirst : Exchanges faults i ⟨.getSession ⟨id, .refresh⟩, .ok (some session)⟩ w₁ w₂)
    (hrun₂ : Run faults w₂ w₃)
    (hsecond : Exchanges faults j ⟨.getSession ⟨id, .refresh⟩, .ok (some session')⟩ w₃ w₄)
    (hrun₄ : Run faults w₄ w) : w₄.BothPresented i j raw raw' := by
  have hrun₃ : Run faults w₀ w₃ := (hrun₁.tail hfirst.step).trans hrun₂
  obtain ⟨t₂, ht₂, hread₂⟩ := hfirst.mem_past
  obtain ⟨t₃, ht₃, hgrows₃⟩ := run_grows hrun₂ ht₂
  have hread₃ := hgrows₃.past.subset hread₂
  have hgrows := grows_of_run (hrun₄.head hsecond.step) ht₃ ht
  obtain ⟨u₄, hu₄, hread₄⟩ := hsecond.mem_past
  refine ⟨t₃, u₄, id, (hsecond.threads_ne hij.symm).trans ht₃, hu₄, ⟨session, htoken, hread₃⟩,
    ⟨session', htoken', hread₄⟩, ?_, ?_⟩
  · intro x hx saved hsaved hkind
    obtain ⟨hsession, ttl, rfl⟩ := hsaves x (hgrows.past.subset hx) saved hsaved
    rw [hkind] at hsession
    subst hsession
    have hdistinct₃ := nodup_of_run (hrun₄.head hsecond.step) hdistinct
    refine replaced hfresh hrun₃ hdistinct₃ ht₃ hread₃ hx ?_
    rw [SessionStore.holds?_of_live? hsecond.live?, htoken', htoken, hraw]
  · have hlawful := lawful_of_run hfresh (hrun₃.tail hsecond.step) hu₄
    refine (hlawful.noneSaved fun x hx => ?_).unsaved .refresh
    obtain ⟨u₃, hu₃, hpast⟩ := hsecond.past_eq hu₄
    rw [hpast] at hx
    rcases List.mem_append.mp hx with hx | hx
    · exact hsecond.not_signed hfresh hrun₃ hu₃ x hx
    · rw [List.mem_singleton.mp hx]
      rfl

/-- **Refreshes that trade in the same token overlap**: at some moment both have found it on
record, and neither has put its own refresh token in its place. -/
theorem overlap_of_refreshed_twice (hfresh : w₀.Fresh) (hrun : Run faults w₀ w)
    (hdistinct : w.system.issued.Nodup) {i j : Nat} (hij : i ≠ j) {raw raw' : String}
    (hraw : bareToken raw = bareToken raw') {past past' : List Exchange} {pair pair' : TokenPair}
    (hi : w.threads[i]? = some ⟨.refresh raw, past, .done (.ok pair)⟩)
    (hj : w.threads[j]? = some ⟨.refresh raw', past', .done (.ok pair')⟩) :
    ∃ w₁, Run faults w₀ w₁ ∧ Run faults w₁ w ∧ w₁.BothPresented i j raw raw' := by
  obtain ⟨id, session, htoken, hread, hsaves⟩ := read_of_refresh hfresh hrun hi
  obtain ⟨id', session', htoken', hread', hsaves'⟩ := read_of_refresh hfresh hrun hj
  obtain ⟨expires, hgenuine⟩ := genuine_of_read hfresh hrun hi hread
  obtain ⟨expires', hgenuine'⟩ := genuine_of_read hfresh hrun hj hread'
  rw [htoken, hraw, ← htoken'] at hgenuine
  obtain rfl : id = id' := (hgenuine.unique hgenuine').1
  rcases exists_moments hfresh hrun hij hi hj hread hread' with h | h
  · obtain ⟨w₁, w₂, w₃, w₄, hrun₁, hfirst, hrun₂, hsecond, hrun₄⟩ := h
    have hboth := bothPresented_of_order hfresh hdistinct hij hi hsaves htoken htoken' hraw hrun₁
      hfirst hrun₂ hsecond hrun₄
    exact ⟨w₄, ((hrun₁.tail hfirst.step).trans hrun₂).tail hsecond.step, hrun₄, hboth⟩
  · obtain ⟨w₁, w₂, w₃, w₄, hrun₁, hfirst, hrun₂, hsecond, hrun₄⟩ := h
    obtain ⟨u, t, id', hu, ht, hpresented', hpresented, hunsaved', hunsaved⟩ :=
      bothPresented_of_order hfresh hdistinct hij.symm hj hsaves' htoken' htoken hraw.symm
        hrun₁ hfirst hrun₂ hsecond hrun₄
    exact ⟨w₄, ((hrun₁.tail hfirst.step).trans hrun₂).tail hsecond.step, hrun₄, t, u, id', ht, hu,
      hpresented, hpresented', hunsaved, hunsaved'⟩

end Concurrent

/-! ## Two refreshes that overlap -/

namespace System

/-- The tokens signed so far carry identifiers that were drawn one after another. -/
structure DrawsIds (s : System) : Prop where
  issued : s.issued.map s.provider.tokenId? =
    (List.range s.draws).reverse.map fun n => some (.string (Uuid.text (s.random n)))

theorem DrawsIds.grant {s : System} (hids : s.DrawsIds) (h : s.Steady) (user : UserId)
    (kind : TokenKind) {extra : Claims} (hextra : TokenProvider.Supplement extra) :
    (s.grant user kind extra).2.DrawsIds := by
  have hid : s.provider.tokenId? (s.provider.issue s.now.seconds (Uuid.text (s.random s.draws))
      user kind extra) = some (.string (Uuid.text (s.random s.draws))) :=
    TokenProvider.tokenId?_issue h.minInt64_le (Int.le_of_lt h.lt_maxInt64) hextra
  constructor
  change _ = (List.range (s.draws + 1)).reverse.map fun n =>
    some (Json.string (Uuid.text (s.random n)))
  rw [List.range_succ, List.reverse_append, List.map_append, ← hids.issued,
    List.reverse_singleton, List.map_singleton, ← hid]
  rfl

theorem DrawsIds.openSession {s : System} (hids : s.DrawsIds) (h : s.Steady) (user : User) :
    (s.openSession user).2.DrawsIds := by
  have haccess := hids.grant h user.id .access (Service.supplement_sessionClaims user)
  have hclocks := sameClocks_grant s user.id .access (Service.sessionClaims user)
  exact haccess.grant (hclocks.steady h) user.id .refresh TokenProvider.supplement_nil

theorem DrawsIds.nodup {s : System} (hids : s.DrawsIds)
    (h : ((List.range s.draws).map fun n => Uuid.text (s.random n)).Nodup) : s.issued.Nodup := by
  have hjson : Function.Injective fun id => some (Json.string id) := fun id id' h =>
    Json.string.inj (Option.some.inj h)
  have hmap : ((List.range s.draws).map fun n =>
      some (Json.string (Uuid.text (s.random n)))).Nodup := by
    have hall := h.map hjson
    rwa [List.map_map] at hall
  refine List.Nodup.of_map s.provider.tokenId? ?_
  rw [hids.issued, List.map_reverse]
  exact List.nodup_reverse.mpr hmap

end System

namespace Sample

open Concurrent Service

/-- The system after the first and after the second of two refreshes. -/
def refreshed : System := (loggedIn.openSession alice).2

@[inherit_doc refreshed] def refreshedTwice : System := (refreshed.openSession alice).2

theorem sameClocks_refreshed : System.SameClocks loggedIn refreshed :=
  System.sameClocks_openSession loggedIn alice

/-- The six tokens are different, as their identifiers are. -/
theorem nodup_refreshedTwice : refreshedTwice.issued.Nodup := by
  have hfirst : loggedIn.DrawsIds := System.DrawsIds.openSession ⟨rfl⟩ steady_system alice
  have hsecond := hfirst.openSession steady_loggedIn alice
  have hthird := hsecond.openSession (sameClocks_refreshed.steady steady_loggedIn) alice
  refine hthird.nodup ?_
  change ((List.range 6).map fun n => Uuid.text (system.random n)).Nodup
  decide

/-- Two refreshes of the same token: both look it up before either replaces it. -/
theorem run_twoRefreshes : ∃ login past past' pair₁ pair₂,
    Concurrent.Run false ⟨system, []⟩ ⟨refreshedTwice, [login,
      ⟨.refresh pair.refresh, past, .done (.ok pair₁)⟩,
      ⟨.refresh pair.refresh, past', .done (.ok pair₂)⟩]⟩ := by
  let waiting (past : List Exchange) : Thread :=
    ⟨.refresh pair.refresh, past, ExceptT.run (refreshSubject alice.id >>= issueSession)⟩
  obtain ⟨past, hlogin⟩ := run_login false
  obtain ⟨claims, haccepts⟩ := accepts_pair .refresh
  let login : Thread := ⟨.login "alice" "secret123", past, .done (.ok ⟨alice.view, pair⟩)⟩
  obtain ⟨past₁, hfirst⟩ := run_checkRefresh [login] haccepts
  obtain ⟨past₂, hsecond⟩ := run_checkRefresh [login, waiting past₁] haccepts
  have h₁ : [login, waiting past₁, waiting past₂][1]? = some (waiting past₁) := rfl
  obtain ⟨past₃, hthird⟩ := run_renewal steady_loggedIn room_loggedIn findById_alice h₁
  let done : Thread := ⟨.refresh pair.refresh, past₃, .done (.ok (loggedIn.openSession alice).1)⟩
  have h₂ : [login, done, waiting past₂][2]? = some (waiting past₂) := rfl
  obtain ⟨past₄, hfourth⟩ := run_renewal (sameClocks_refreshed.steady steady_loggedIn)
    (sameClocks_refreshed.room room_loggedIn) findById_alice h₂
  have hrun := (((hlogin.trans hfirst).trans hsecond).trans hthird).trans hfourth
  exact ⟨login, past₃, past₄, _, _, hrun⟩

end Sample

namespace Concurrent

open Service

theorem overlap_of_twoRefreshes : ∃ w w₁,
    (∃ past pair, w.threads[1]? = some ⟨.refresh Sample.pair.refresh, past, .done (.ok pair)⟩) ∧
    (∃ past pair, w.threads[2]? = some ⟨.refresh Sample.pair.refresh, past, .done (.ok pair)⟩) ∧
    Run false ⟨Sample.system, []⟩ w₁ ∧ Run false w₁ w ∧
    w₁.BothPresented 1 2 Sample.pair.refresh Sample.pair.refresh := by
  obtain ⟨login, past, past', pair, pair', hrun⟩ := Sample.run_twoRefreshes
  obtain ⟨w₁, hbefore, hafter, hboth⟩ := overlap_of_refreshed_twice Sample.fresh hrun
    Sample.nodup_refreshedTwice (i := 1) (j := 2) (by decide) rfl rfl rfl
  exact ⟨_, w₁, ⟨past, pair, rfl⟩, ⟨past', pair', rfl⟩, hbefore, hafter, hboth⟩

/-- No two refreshes that present the same token both succeed. -/
def SingleUse : Prop :=
  ∀ (w₀ w : World), w₀.Fresh → Run false w₀ w → w.system.issued.Nodup →
    ∀ (i j : Nat) raw raw' past past' pair pair', i ≠ j → bareToken raw = bareToken raw' →
      w.threads[i]? = some ⟨.refresh raw, past, .done (.ok pair)⟩ →
      w.threads[j]? ≠ some ⟨.refresh raw', past', .done (.ok pair')⟩

/-- **Two refreshes may trade in the same token**, even though nothing fails. -/
theorem not_singleUse : ¬ SingleUse := by
  intro h
  obtain ⟨login, past, past', pair, pair', hrun⟩ := Sample.run_twoRefreshes
  exact h _ _ Sample.fresh hrun Sample.nodup_refreshedTwice 1 2 _ _ past past' pair pair'
    (by decide) rfl rfl rfl

end Concurrent

end SessionAuth
