import Mathlib.Data.Rat.Floor
import Mathlib.Tactic.Linarith
import SessionAuth.Proofs.Service.Sample
import SessionAuth.Service.Account

/-!
# The lifetime that a profile reports

A profile says when the claims of its caller expire and how many whole seconds are left. Times are
compared here as rational numbers of seconds, apart from the nanoseconds in which they are counted.

* `Instant.time`: an instant as a rational number; `Instant.max_secondsUntil` gives what is left
  until another one.
* `Claims.Timeless`: the claims state no time that the calendar covers.
* `Profile.Tells`: what a profile says about the expiry of claims.
* `profile_tells`: the profile of an account is returned, and this is what it says.
-/

namespace SessionAuth

/-! ## Instants as rational numbers -/

namespace Instant

/-- The seconds since the start of 1970, with their fraction. -/
def time (t : Instant) : ℚ := t.seconds + (t.nanos : ℚ) / (perSecond : ℕ)

theorem perSecond_pos : (0 : ℚ) < (perSecond : ℕ) := by
  norm_num [perSecond]

theorem time_eq (t : Instant) : t.time = (t.toNanos : ℚ) / (perSecond : ℕ) := by
  have hne := perSecond_pos.ne'
  rw [time, toNanos, Int.cast_add, Int.cast_mul, add_div, Int.cast_natCast, Int.cast_natCast,
    mul_div_cancel_right₀ _ hne]

theorem time_sub (t u : Instant) :
    u.time - t.time = ((u.toNanos - t.toNanos : ℤ) : ℚ) / (perSecond : ℕ) := by
  rw [time_eq, time_eq, ← sub_div, Int.cast_sub]

/-- **What is left is counted in whole seconds, rounded down**, and nothing is left of a time that
has passed. -/
theorem max_secondsUntil (t u : Instant) : max (t.secondsUntil u) 0 = max 0 ⌊u.time - t.time⌋ := by
  rw [time_sub, Rat.floor_intCast_div_natCast, secondsUntil]
  generalize u.toNanos - t.toNanos = d
  rcases le_total 0 d with hd | hd
  · rw [Int.tdiv_eq_ediv_of_nonneg hd, max_comm]
  · -- Rounding goes towards zero, but nothing above zero comes of a time that has passed.
    have htdiv : d.tdiv perSecond ≤ 0 := by
      have hneg : (-d).tdiv perSecond = -d / perSecond :=
        Int.tdiv_eq_ediv_of_nonneg (by omega)
      rw [Int.neg_tdiv] at hneg
      simp only [perSecond] at hneg ⊢
      omega
    have hdiv : d / perSecond ≤ 0 := by
      simp only [perSecond]
      omega
    rw [max_eq_right htdiv, max_eq_left hdiv]

theorem seconds_le_time (t : Instant) : (t.seconds : ℚ) ≤ t.time :=
  le_add_of_nonneg_right (div_nonneg (Nat.cast_nonneg _) perSecond_pos.le)

theorem time_lt {t : Instant} (h : t.nanos < perSecond) : t.time < t.seconds + 1 := by
  rw [time]
  exact add_lt_add_right ((div_lt_one perSecond_pos).mpr (Nat.cast_lt.mpr h)) _

theorem time_bounds {t : Instant} (h : t.inCalendar = true) (hnanos : t.nanos < perSecond) :
    -8334601228800 ≤ t.time ∧ t.time ≤ 8210266876800 := by
  obtain ⟨hmin, hmax⟩ := seconds_of_inCalendar h
  have hmin' : (-8334601228800 : ℚ) ≤ t.seconds := by exact_mod_cast hmin
  have hmax' : (t.seconds : ℚ) ≤ 8210266876799 := by exact_mod_cast hmax
  have hstart := t.seconds_le_time
  have hend := time_lt hnanos
  constructor <;> linarith

/-- The calendar covers less than `2 * 10^13` seconds. -/
theorem abs_time_sub_le {t u : Instant} (ht : t.inCalendar = true) (hu : u.inCalendar = true)
    (htn : t.nanos < perSecond) (hun : u.nanos < perSecond) :
    |u.time - t.time| ≤ 20000000000000 := by
  obtain ⟨htmin, htmax⟩ := time_bounds ht htn
  obtain ⟨humin, humax⟩ := time_bounds hu hun
  exact abs_le.mpr ⟨by linarith, by linarith⟩

end Instant

/-! ## Claims without a time -/

namespace Claims

/-- The claims state no time at which they expire, or none that can be read, or none that the
calendar covers. -/
inductive Timeless (claims : Claims) : Prop
  | missing (h : claims.get? expiryKey = none)
  | unreadable {value : Json} (h : claims.get? expiryKey = some value)
      (hvalue : timeOf? value = none)
  | outside {value : Json} {seconds : Int} (h : claims.get? expiryKey = some value)
      (hvalue : timeOf? value = some seconds)
      (hseconds : (Instant.mk seconds 0).inCalendar = false)

/-- The instant is the one that the claims state, and the calendar covers it. -/
structure ExpireAt (claims : Claims) (t : Instant) : Prop where
  stated : ∃ value, claims.get? expiryKey = some value ∧ timeOf? value = some t.seconds
  whole : t.nanos = 0
  inCalendar : t.inCalendar = true

variable {claims : Claims} {t : Instant}

theorem ofUnix?_eq (seconds : Int) : Instant.ofUnix? seconds =
    if (Instant.mk seconds 0).inCalendar then some ⟨seconds, 0⟩ else none := by
  simp only [Instant.ofUnix?, Instant.inCalendar, Bool.and_eq_true, decide_eq_true_eq]

theorem timeless_or_expireAt (claims : Claims) :
    claims.Timeless ∧ claims.expiry?.bind Instant.ofUnix? = none ∨
      ∃ t, claims.ExpireAt t ∧ claims.expiry?.bind Instant.ofUnix? = some t := by
  rw [expiry?]
  cases hget : claims.get? expiryKey with
  | none => exact Or.inl ⟨.missing hget, rfl⟩
  | some value =>
    rw [Option.bind_some]
    cases hvalue : timeOf? value with
    | none => exact Or.inl ⟨.unreadable hget hvalue, rfl⟩
    | some seconds =>
      rw [Option.bind_some, ofUnix?_eq]
      cases hcalendar : (Instant.mk seconds 0).inCalendar with
      | false => exact Or.inl ⟨.outside hget hvalue hcalendar, rfl⟩
      | true => exact Or.inr ⟨⟨seconds, 0⟩, ⟨⟨value, hget, hvalue⟩, rfl, hcalendar⟩, rfl⟩

theorem ExpireAt.not_timeless (h : claims.ExpireAt t) : ¬ claims.Timeless := by
  obtain ⟨⟨value, hget, hvalue⟩, hwhole, hcalendar⟩ := h
  intro htimeless
  cases htimeless with
  | missing hnone => exact absurd (hget.symm.trans hnone) (by simp)
  | unreadable hget' hnone =>
    obtain rfl := Option.some.inj (hget.symm.trans hget')
    exact absurd (hvalue.symm.trans hnone) (by simp)
  | outside hget' hvalue' houtside =>
    obtain rfl := Option.some.inj (hget.symm.trans hget')
    obtain rfl := Option.some.inj (hvalue.symm.trans hvalue')
    rw [← hwhole] at houtside
    exact absurd (hcalendar.symm.trans houtside) (by simp)

theorem ExpireAt.expiry?_eq (h : claims.ExpireAt t) : claims.expiry? = some t.seconds := by
  obtain ⟨value, hget, hvalue⟩ := h.stated
  rw [expiry?, hget, Option.bind_some, hvalue]

theorem ExpireAt.time_eq (h : claims.ExpireAt t) : t.time = t.seconds := by
  rw [Instant.time, h.whole, Nat.cast_zero, zero_div, add_zero]

end Claims

/-! ## Profiles -/

/-- The seconds that a profile reports as left between an instant and the time at which claims
expire. -/
structure Claims.Left (claims : Claims) (now t : Instant) (left : Int) : Prop where
  floor : left = max 0 ⌊t.time - now.time⌋
  notOverstated : now.time ≤ t.time → now.time + left ≤ t.time
  /-- A token with these claims would be put on record for as long at least. -/
  bounded : left ≤ (claims.remaining? now.seconds).getD 0
  /-- A signed number of 64 bits can count the milliseconds between the two instants. -/
  measurable : |t.time - now.time| * 1000 ≤ maxInt64

/-- What a profile says at an instant about the expiry of claims: both parts are missing if the
claims state no time of the calendar, and otherwise they are that time and the seconds that are
left. -/
structure Profile.Tells (profile : Profile) (claims : Claims) (now : Instant) : Prop where
  expiresAt_none : profile.expiresAt = none ↔ claims.Timeless
  expiresIn_none : profile.expiresIn = none ↔ claims.Timeless
  stated : ∀ t, profile.expiresAt = some t → claims.ExpireAt t
  left : ∀ t left, profile.expiresAt = some t → profile.expiresIn = some left →
    claims.Left now t left

namespace Service

/-- Within the calendar no difference of times is too large for a lifetime. -/
theorem remaining?_of_expireAt {claims : Claims} {now t : Instant} (h : claims.ExpireAt t)
    (hnow : now.inCalendar = true) : claims.remaining? now.seconds =
      if now.seconds < t.seconds then some (t.seconds - now.seconds).toNat else none := by
  obtain ⟨hnowMin, hnowMax⟩ := Instant.seconds_of_inCalendar hnow
  obtain ⟨htMin, htMax⟩ := Instant.seconds_of_inCalendar h.inCalendar
  rw [Claims.remaining?, h.expiry?_eq]
  by_cases hlt : now.seconds < t.seconds
  · rw [if_pos hlt]
    exact if_pos ⟨by omega, by unfold maxInt64; omega⟩
  · rw [if_neg hlt]
    exact if_neg fun hleft => by omega

theorem left_of_expireAt {claims : Claims} {now t : Instant} (h : claims.ExpireAt t)
    (hnow : now.inCalendar = true) (hnanos : now.nanos < Instant.perSecond) :
    claims.Left now t (max (now.secondsUntil t) 0) := by
  have hfloor := Instant.max_secondsUntil now t
  refine ⟨hfloor, fun hle => ?_, ?_, ?_⟩
  · have hnonneg : 0 ≤ ⌊t.time - now.time⌋ := Int.floor_nonneg.mpr (sub_nonneg.mpr hle)
    have hbelow : (⌊t.time - now.time⌋ : ℚ) ≤ t.time - now.time := Int.floor_le _
    rw [hfloor, max_eq_right hnonneg]
    linarith
  · have hwhole : ⌊t.time - now.time⌋ ≤ t.seconds - now.seconds := by
      have hsub : t.time - now.time ≤ ((t.seconds - now.seconds : ℤ) : ℚ) := by
        rw [h.time_eq, Int.cast_sub]
        exact sub_le_sub_left now.seconds_le_time _
      exact_mod_cast (Int.floor_le _).trans hsub
    rw [hfloor, remaining?_of_expireAt h hnow]
    split
    · rw [Option.getD_some]
      omega
    · rw [Option.getD_none]
      omega
  · have htn : t.nanos < Instant.perSecond := by
      rw [h.whole]
      decide
    have habs := Instant.abs_time_sub_le hnow h.inCalendar hnanos htn
    have hmax : ((maxInt64 : ℤ) : ℚ) = 9223372036854775807 := by norm_num [maxInt64]
    rw [hmax]
    linarith

section Tells

variable {claims : Claims} {now : Instant} {user : UserView} {roles : List String}

theorem tells_of_timeless (h : claims.Timeless) :
    Profile.Tells ⟨user, roles, none, none⟩ claims now where
  expiresAt_none := ⟨fun _ => h, fun _ => rfl⟩
  expiresIn_none := ⟨fun _ => h, fun _ => rfl⟩
  stated := fun _ ht => absurd ht (by simp)
  left := fun _ _ ht => absurd ht (by simp)

theorem tells_of_expireAt {t : Instant} (h : claims.ExpireAt t) (hnow : now.inCalendar = true)
    (hnanos : now.nanos < Instant.perSecond) :
    Profile.Tells ⟨user, roles, some t, some (max (now.secondsUntil t) 0)⟩ claims now where
  expiresAt_none := ⟨fun hnone => absurd hnone (by simp), fun hnone => absurd hnone h.not_timeless⟩
  expiresIn_none := ⟨fun hnone => absurd hnone (by simp), fun hnone => absurd hnone h.not_timeless⟩
  stated := by
    rintro t' ht
    obtain rfl := Option.some.inj ht
    exact h
  left := by
    rintro t' left ht hleft
    obtain rfl := Option.some.inj ht
    obtain rfl := Option.some.inj hleft
    exact left_of_expireAt h hnow hnanos

end Tells

open Operation in
theorem settle_profile {s : System} {caller : Caller} {user : User}
    (hfind : s.users.findById caller.id = some user) :
    (profile caller).settle s = some (.ok ⟨user.view, caller.roles,
      caller.claims.expiry?.bind Instant.ofUnix?, (caller.claims.expiry?.bind Instant.ofUnix?).map
        fun t => max (s.serviceTime.secondsUntil t) 0⟩, s) := by
  have hserve : s.serve (.findById caller.id) = some (.ok (some user), s) := by
    rw [System.serve, hfind]
  have haccount : (ownAccount caller.id).settle s = some (.ok user, s) := by
    rw [ownAccount, settle_bind_ok (settle_ask hserve), settle_bind_ok (settle_ofDomain _ _)]
    rfl
  have hclock : s.serve .readClock = some (s.serviceTime, s) := rfl
  rw [profile, settle_bind_ok haccount]
  cases caller.claims.expiry?.bind Instant.ofUnix? with
  | none => rfl
  | some t =>
    dsimp only
    rw [settle_bind_ok (settle_ask hclock)]
    rfl

/-- **The lifetime that a profile reports is exact.** The profile of an account is returned,
whatever the claims of the caller state, and nothing is changed. -/
theorem profile_tells (s : System) (caller : Caller) (user : User)
    (hfind : s.users.findById caller.id = some user) (hcalendar : s.serviceTime.inCalendar = true)
    (hnanos : s.serviceTime.nanos < Instant.perSecond) :
    ∃ told calls, (profile caller).run Plan.none s = ⟨.returned (.ok told), calls, s⟩ ∧
      told.user = user.view ∧ told.roles = caller.roles ∧
      told.Tells caller.claims s.serviceTime := by
  obtain ⟨calls, hrun⟩ := Operation.exists_run_of_settle (settle_profile hfind)
  refine ⟨_, calls, hrun, rfl, rfl, ?_⟩
  rcases caller.claims.timeless_or_expireAt with ⟨htimeless, hnone⟩ | ⟨t, hexpire, hsome⟩
  · rw [hnone]
    exact tells_of_timeless htimeless
  · rw [hsome]
    exact tells_of_expireAt hexpire hcalendar hnanos

/-- A caller whose claims spell the last second of the calendar as a padded text. -/
def lastCaller : Caller := ⟨Sample.alice.id, [("exp", .string " 8210266876799 ")]⟩

/-- The small system a nanosecond before a full second. -/
def beforeFullSecond : System := { Sample.system with now := ⟨1700000000, 999999999⟩ }

theorem profile_tells_lastCaller :
    (beforeFullSecond.users.findById lastCaller.id = some Sample.alice ∧
      beforeFullSecond.serviceTime.inCalendar = true ∧
      beforeFullSecond.serviceTime.nanos < Instant.perSecond) ∧
    ∃ told calls, (profile lastCaller).run Plan.none beforeFullSecond =
        ⟨.returned (.ok told), calls, beforeFullSecond⟩ ∧
      told.user = Sample.alice.view ∧ told.roles = lastCaller.roles ∧
      told.Tells lastCaller.claims beforeFullSecond.serviceTime := by
  have hfind : beforeFullSecond.users.findById lastCaller.id = some Sample.alice :=
    Sample.findById_alice
  have hcalendar : beforeFullSecond.serviceTime.inCalendar = true := by decide
  have hnanos : beforeFullSecond.serviceTime.nanos < Instant.perSecond := by decide
  exact ⟨⟨hfind, hcalendar, hnanos⟩,
    profile_tells beforeFullSecond lastCaller Sample.alice hfind hcalendar hnanos⟩

end Service

end SessionAuth
