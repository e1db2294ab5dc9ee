import SessionAuth.Proofs.Concurrent.Provenance
import SessionAuth.Proofs.Service.History
import SessionAuth.Proofs.Service.Record

/-!
# Requests side by side on one clock

Everybody reads the same clock, and time passes for everyone alike. Then a token that has been
signed and weighed is put on record for just as long as it is good, and it is passed over only if it
has expired by then.

* `EvenStep`, `EvenRun`: what may happen on one clock.
* `weighed_at`: how much time a token is found to have left.
* `recorded_of_unexpired`: a token that is still good has been put on record.
* `onRecord_of_save`: a token that is put on record stays there until it expires.
-/

namespace SessionAuth

namespace Concurrent

open Service

variable {faults : Bool} {w₀ w w' : World}

/-! ## One clock -/

/-- What may happen next while everybody reads the same clock. -/
inductive EvenStep (faults : Bool) : World → World → Prop
  | start (s : System) (threads : List Thread) (r : Request) :
      EvenStep faults ⟨s, threads⟩ ⟨s, threads ++ [Thread.start r]⟩
  | exchange {i : Nat} {x : Exchange} {w w' : World} (h : Exchanges faults i x w w') :
      EvenStep faults w w'
  | elapse (s : System) (threads : List Thread) (nanos : Nat)
      (calendar : (s.elapse nanos).now.inCalendar = true) :
      EvenStep faults ⟨s, threads⟩ ⟨s.elapse nanos, threads⟩

/-- Anything that may happen on one clock from one world to another. -/
abbrev EvenRun (faults : Bool) : World → World → Prop := Relation.ReflTransGen (EvenStep faults)

theorem EvenStep.step (h : EvenStep faults w w') : Step faults w w' := by
  cases h with
  | start s threads r => exact .start s threads r
  | exchange h => exact .exchange h
  | elapse s threads nanos calendar =>
    exact .pass ⟨rfl, Nat.le_add_right _ _, calendar⟩

theorem run_of_even (h : EvenRun faults w w') : Run faults w w' :=
  Relation.ReflTransGen.mono (fun _ _ => EvenStep.step) _ _ h

theorem evenStep_system (h : EvenStep faults w w') : System.SameClocks w.system w'.system ∨
    ∃ nanos, (w.system.elapse nanos).now.inCalendar = true ∧
      w'.system = w.system.elapse nanos := by
  cases h with
  | start s threads r => exact Or.inl (System.SameClocks.refl s)
  | elapse s threads nanos calendar => exact Or.inr ⟨nanos, calendar, rfl⟩
  | exchange h =>
    rcases h.answers.cases with he | ⟨a, hserve⟩
    · exact Or.inl (he ▸ System.SameClocks.refl _)
    · exact Or.inl (System.serve_sameClocks hserve)

theorem steady_of_even (h : EvenRun faults w w') (hs : w.system.Steady) : w'.system.Steady := by
  induction h with
  | refl => exact hs
  | tail _ hstep ih =>
    rcases evenStep_system hstep with hclocks | ⟨nanos, hcalendar, he⟩
    · exact hclocks.steady ih
    · rw [he]
      exact ih.elapse hcalendar

theorem seconds_le_of_even (h : EvenRun faults w w') :
    w.system.now.seconds ≤ w'.system.now.seconds := by
  induction h with
  | refl => exact Int.le_refl _
  | tail _ hstep ih =>
    rcases evenStep_system hstep with hclocks | ⟨nanos, -, he⟩
    · rw [hclocks.now]
      exact ih
    · apply Int.le_trans ih
      rw [he]
      exact Int.le_add_of_nonneg_right (Int.natCast_nonneg _)

/-! ## Tokens on one clock -/

/-- A request that has come in since then has got all its answers since then. -/
theorem moment_of_even (heven : EvenRun faults w w') {i : Nat} {t : Thread}
    (hnew : w.threads[i]? = none) (ht : w'.threads[i]? = some t) {before after : List Exchange}
    {x : Exchange} (hpast : t.past = before ++ x :: after) :
    ∃ w₁ w₂, EvenRun faults w w₁ ∧ Exchanges faults i x w₁ w₂ ∧ EvenRun faults w₁ w' ∧
      ∃ u, w₁.threads[i]? = some u ∧ u.past = before := by
  rcases moment_of_run EvenStep.step heven ht hpast with
    ⟨u, hu, -⟩ | ⟨w₁, w₂, hrun₁, hstep, hexchange, hrun₂, hbefore⟩
  · exact absurd (hnew.symm.trans hu) (by simp)
  · exact ⟨w₁, w₂, hrun₁, hexchange, hrun₂.head hstep, hbefore⟩

/-- **How much time a token is found to have left**: just what there is at that moment. -/
theorem weighed_at (hfresh : w₀.Fresh) (hrun : Run faults w₀ w) (hs : w.system.Steady)
    (heven : EvenRun faults w w') {i : Nat} {t : Thread} (hnew : w.threads[i]? = none)
    (ht : w'.threads[i]? = some t) {session : Session} {left : Option Nat}
    {earlier : List Exchange} (hearlier : earlier <+: t.past) (h : Weighed session left earlier) :
    ∃ expires now, w'.system.provider.Genuine session.token session.user session.kind expires ∧
      now ≤ w'.system.now.seconds ∧
      left = if now < expires then some (expires - now).toNat else none := by
  obtain ⟨before, extra, claims, now, rfl, hleft⟩ := h
  obtain ⟨more, hmore⟩ := hearlier
  let sign : Exchange := ⟨.signToken session.user session.kind extra, .ok session.token⟩
  let verify : Exchange := ⟨.verifyToken session.token, .ok claims⟩
  let clock : Exchange := ⟨.readClock, now⟩
  have hpast : t.past = (before ++ [sign, verify]) ++ clock :: more := by
    rw [← hmore]
    simp [sign, verify, clock]
  -- The clock was read after the token had been signed and found to be good.
  obtain ⟨w₁, w₂, heven₁, hclock, heven₂, u, hu, hupast⟩ := moment_of_even heven hnew ht hpast
  have hs₁ := steady_of_even heven₁ hs
  have hnow : w₁.system.now = now := by
    have hserve := hclock.answers.serve (by simp [clock, Exchange.Failed])
    rw [← hs₁.serviceTime]
    exact (Prod.mk.inj (Option.some.inj hserve)).1
  have hsigned : u.past = before ++ sign :: [verify] := hupast
  obtain ⟨w₃, w₄, heven₃, hsign, heven₄, -⟩ := moment_of_even heven₁ hnew hu hsigned
  have hextra : TokenProvider.Supplement extra := by
    have hlawful := lawful_of_run hfresh (hrun.trans (run_of_even heven₁)) hu
    exact (hlawful.safe _ _ _ hsigned).1
  have hgenuine : w₃.system.provider.Genuine session.token session.user session.kind
      (w₃.system.expiry session.kind) :=
    System.genuine_of_serve_sign (hsign.answers.serve (by simp [sign, Exchange.Failed]))
      (steady_of_even heven₃ hs).inCalendar hextra
  have hprovider : ∀ {w₅}, EvenRun faults w w₅ → w₅.system.provider = w₃.system.provider :=
    fun h => (run_provider (run_of_even h)).trans (run_provider (run_of_even heven₃)).symm
  have hnames : claims.Names session.user session.kind (w₃.system.expiry session.kind) := by
    have hverified : u.past = (before ++ [sign]) ++ verify :: [] := by simp [hupast]
    obtain ⟨w₅, w₆, heven₅, hverify, -⟩ := moment_of_even heven₁ hnew hu hverified
    have hserve := hverify.answers.serve (by simp [verify, Exchange.Failed])
    have hok : w₅.system.provider.verify w₅.system.now.seconds session.token = .ok claims :=
      mapError_eq_ok_iff.mp (Prod.mk.inj (Option.some.inj hserve)).1
    rw [← hprovider heven₅] at hgenuine
    exact hgenuine.names_of_verify hok
  refine ⟨w₃.system.expiry session.kind, now.seconds, hprovider heven ▸ hgenuine, ?_, ?_⟩
  · exact hnow ▸ seconds_le_of_even heven₂
  · have hle : w₃.system.expiry session.kind ≤ now.seconds + maxInt64 := by
      have hbound := System.expiry_le w₃.system session.kind
      have hlater := seconds_le_of_even heven₄
      rw [hnow] at hlater
      omega
    rw [← hleft, Claims.remaining?, hnames.expiry]
    change (if _ then _ else _) = _
    by_cases hlt : now.seconds < w₃.system.expiry session.kind
    · rw [if_pos hlt, if_pos (by omega)]
    · rw [if_neg hlt, if_neg (by omega)]

/-- **A token that is still good has been put on record.** -/
theorem recorded_of_unexpired (hfresh : w₀.Fresh) (hrun : Run faults w₀ w)
    (hs : w.system.Steady) (heven : EvenRun faults w w') {i : Nat} {t : Thread}
    (hnew : w.threads[i]? = none) (ht : w'.threads[i]? = some t) {session : Session}
    (hstored : Stored session t.past) (hunexpired : Unexpired w'.system session.token) :
    Recorded session t.past := by
  rcases hstored with ⟨earlier, hearlier, hweighed⟩ | hrecorded
  · obtain ⟨expires, now, hgenuine, hle, hleft⟩ :=
      weighed_at hfresh hrun hs heven hnew ht hearlier hweighed
    have hlt := (unexpired_iff hgenuine).mp hunexpired
    rw [if_pos (by omega)] at hleft
    exact absurd hleft (by simp)
  · exact hrecorded

/-- **A token that is put on record stays there until it expires**, if nobody touches the slot. -/
theorem onRecord_of_save (hfresh : w₀.Fresh) (hrun : Run faults w₀ w) (hs : w.system.Steady)
    (heven : EvenRun faults w w') {i : Nat} (hnew : w.threads[i]? = none) {w'' : World}
    {session : Session} {ttl : Duration}
    (h : Exchanges faults i ⟨.saveSession session ttl, .ok ()⟩ w' w'') :
    ∃ expires, w''.system.OnRecord session.slot session.token expires := by
  have hserve := h.answers.serve (by simp [Exchange.Failed])
  obtain ⟨t, ht, n, hweighed, rfl⟩ : ∃ t, w'.threads[i]? = some t ∧
      ∃ n, Weighed session (some n) t.past ∧ ttl = .ofSeconds n := by
    cases h with
    | mk thread answers =>
      have hrun' := hrun.trans (run_of_even heven)
      have hfollows := follows_of_run Request.along_measured hfresh hrun' thread
      exact ⟨_, thread, hfollows.along.1⟩
  obtain ⟨expires, now, hgenuine, hle, hleft⟩ :=
    weighed_at hfresh hrun hs heven hnew ht (List.prefix_refl _) hweighed
  have hlt : now < expires := by
    by_contra hnot
    rw [if_neg hnot] at hleft
    exact absurd hleft (by simp)
  rw [if_pos hlt] at hleft
  obtain rfl := Option.some.inj hleft
  obtain ⟨sessions, hsave, hsystem⟩ := System.serve_save hserve
  have hlifetime : lifetime (.ofSeconds (expires - now).toNat) =
      .ofSeconds (expires - now).toNat := lifetime_ofSeconds (by omega)
  refine ⟨expires, ?_, w'.system.uptime + (expires - now).toNat * Instant.perSecond, ?_, ?_⟩
  · rw [hsystem]
    exact hgenuine
  · rw [hsystem]
    simp only [Instant.toNanos, Instant.perSecond]
    omega
  · intro time _
    have hlive := SessionStore.live?_save hsave time session.slot
    rw [if_pos rfl, hlifetime] at hlive
    rw [hsystem]
    exact hlive

end Concurrent

end SessionAuth
