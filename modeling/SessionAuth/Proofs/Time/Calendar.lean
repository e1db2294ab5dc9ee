import SessionAuth.Time.Instant

/-!
# Days and dates

Every day has a date that exists, and the day of this date is the day again. A span of 400 years is
cut into centuries, spans of four years and years, each of which has a last one that may be longer
or shorter, and every day has one place in it.

* `Date.Place`: the place of a day within 400 years.
* `Date.ofDays_eq`: the date of a day by its place.
* `Date.toDays_ofDays`, `Date.valid_ofDays`: the main statements.
* `Date.year_ofDays_bounds`: which years the days of the calendar are in.
-/

namespace SessionAuth.Date

/-! ## Places within 400 years -/

/-- The place of a day within 400 years that start with a March: so many centuries, so many spans of
four years, so many years and so many days are over. A year has a day more if it is the last one of
its four years and these are not the last ones of a century but of the last one. -/
structure Place (day k q j s : Int) : Prop where
  day_eq : day = 36524 * k + 1461 * q + 365 * j + s
  centuries : 0 ≤ k ∧ k ≤ 3
  fours : 0 ≤ q ∧ q ≤ 24
  years : 0 ≤ j ∧ j ≤ 3
  days : 0 ≤ s ∧ s ≤ 365
  leap : s = 365 → j = 3 ∧ (q < 24 ∨ k = 3)

variable {day k q j s : Int}

theorem exists_place (hlow : 0 ≤ day) (hhigh : day < 146097) : ∃ k q j s, Place day k q j s := by
  obtain ⟨k, hk⟩ : ∃ k, 0 ≤ k ∧ k ≤ 3 ∧ 36524 * k ≤ day ∧ (day < 36524 * (k + 1) ∨ k = 3) := by
    by_cases h : day < 3 * 36524
    · exact ⟨day / 36524, by omega⟩
    · exact ⟨3, by omega⟩
  obtain ⟨q, r, hq⟩ : ∃ q r, day - 36524 * k = 1461 * q + r ∧ 0 ≤ q ∧ q ≤ 24 ∧ 0 ≤ r ∧ r ≤ 1460 ∧
      (r = 1460 → q < 24 ∨ k = 3) :=
    ⟨(day - 36524 * k) / 1461, (day - 36524 * k) % 1461, by omega⟩
  obtain ⟨j, hj⟩ : ∃ j, 0 ≤ j ∧ j ≤ 3 ∧ 365 * j ≤ r ∧ (r < 365 * (j + 1) ∨ j = 3) := by
    by_cases h : r < 3 * 365
    · exact ⟨r / 365, by omega⟩
    · exact ⟨3, by omega⟩
  exact ⟨k, q, j, r - 365 * j, by omega, by omega, by omega, by omega, by omega, by omega⟩

namespace Place

/-- The year of a place: the corrections of the formula are those of the longer years. -/
theorem year_eq (h : Place day k q j s) :
    (day - day / 1460 + day / 36524 - day / 146096) / 365 = 100 * k + 4 * q + j := by
  obtain ⟨hday, hk, hq, hj, hs, hleap⟩ := h
  have hcentury : day / 36524 - day / 146096 = k := by
    by_cases hlast : day = 146096
    · omega
    · have hzero : day / 146096 = 0 := by omega
      have hquotient : day / 36524 = k := by omega
      omega
  have hfour : day / 1460 = 25 * k + q + (24 * k + q + 365 * j + s) / 1460 := by omega
  omega

theorem dayOfYear_eq (h : Place day k q j s) {year : Int} (hyear : year = 100 * k + 4 * q + j) :
    day - (365 * year + year / 4 - year / 100) = s := by
  obtain ⟨hday, hk, hq, hj, hs, hleap⟩ := h
  have hfour : year / 4 = 25 * k + q := by omega
  have hcentury : year / 100 = k := by omega
  omega

end Place

/-! ## Dates of days -/

/-- The date of a place in a span of 400 years. -/
def ofPlace (era k q j s : Int) : Date :=
  let month := (5 * s + 2) / 153
  let day := s - (153 * month + 2) / 5 + 1
  let year := 100 * k + 4 * q + j + era * 400
  if month < 10 then ⟨year, (month + 3).toNat, day.toNat⟩
  else ⟨year + 1, (month - 9).toNat, day.toNat⟩

theorem exists_ofPlace (n : Int) : ∃ era k q j s, Place (n + epoch - era * eraLength) k q j s ∧
    ofDays n = ofPlace era k q j s := by
  have hlow := Int.emod_nonneg (n + epoch) (show eraLength ≠ 0 by decide)
  have hhigh := Int.emod_lt_of_pos (n + epoch) (show 0 < eraLength by decide)
  have hday : n + epoch - (n + epoch) / eraLength * eraLength = (n + epoch) % eraLength := by
    rw [Int.emod_def, Int.mul_comm]
  obtain ⟨k, q, j, s, hplace⟩ := exists_place hlow hhigh
  refine ⟨(n + epoch) / eraLength, k, q, j, s, hday ▸ hplace, ?_⟩
  unfold ofDays
  dsimp only
  rw [hplace.year_eq, hplace.dayOfYear_eq rfl]
  rfl

/-- The months from March on, and the day of the month. -/
theorem month_bounds (hs : 0 ≤ s ∧ s ≤ 365) :
    0 ≤ (5 * s + 2) / 153 ∧ (5 * s + 2) / 153 ≤ 11 ∧
      0 ≤ s - (153 * ((5 * s + 2) / 153) + 2) / 5 := by
  omega

theorem toDays_ofPlace (h : Place day k q j s) (era : Int) :
    (ofPlace era k q j s).toDays = era * eraLength + day - epoch := by
  obtain ⟨hday, hk, hq, hj, hs, hleap⟩ := h
  have hmonth := month_bounds hs
  have hera : (100 * k + 4 * q + j + era * 400) / 400 = era := by omega
  have hyear : (100 * k + 4 * q + j + era * 400) % 400 = 100 * k + 4 * q + j := by omega
  have hlonger : (100 * k + 4 * q + j) / 4 = 25 * k + q := by omega
  have hshorter : (100 * k + 4 * q + j) / 100 = k := by omega
  unfold ofPlace toDays
  generalize (5 * s + 2) / 153 = m at hmonth ⊢
  dsimp only
  by_cases hm : m < 10
  · have hlate : ¬ (m + 3).toNat ≤ 2 := by omega
    simp only [if_pos hm, if_neg hlate]
    rw [hera, hyear, hlonger, hshorter]
    omega
  · have hearly : (m - 9).toNat ≤ 2 := by omega
    simp only [if_neg hm, if_pos hearly, Int.add_sub_cancel]
    rw [hera, hyear, hlonger, hshorter]
    omega

/-- The year after the last day of a longer year is a leap year. -/
theorem isLeap_of_place (h : Place day k q j 365) (era : Int) :
    isLeap (100 * k + 4 * q + j + era * 400 + 1) = true := by
  obtain ⟨-, hk, hq, hj, -, hleap⟩ := h
  obtain ⟨rfl, hlast⟩ := hleap rfl
  rw [isLeap, Bool.and_eq_true, Bool.or_eq_true, beq_iff_eq, bne_iff_ne, beq_iff_eq]
  omega

theorem valid_ofPlace (h : Place day k q j s) (era : Int) :
    (ofPlace era k q j s).valid = true := by
  have hmonth := month_bounds h.days
  have hdays := h.days
  -- The last month is the one whose length depends on the year.
  by_cases hlast : (5 * s + 2) / 153 = 11
  · have hlength : (s - (153 * 11 + 2) / 5 + 1).toNat ≤
        monthLength (100 * k + 4 * q + j + era * 400 + 1) 2 := by
      rw [monthLength, if_pos rfl]
      by_cases hs : s = 365
      · subst hs
        rw [isLeap_of_place h era]
        decide
      · split <;> omega
    have hpos : 1 ≤ (s - (153 * 11 + 2) / 5 + 1).toNat := by omega
    have hdate : ofPlace era k q j s = ⟨100 * k + 4 * q + j + era * 400 + 1, 2,
        (s - (153 * 11 + 2) / 5 + 1).toNat⟩ := by
      unfold ofPlace
      rw [hlast]
      rfl
    rw [hdate]
    simp only [valid, Bool.and_eq_true, decide_eq_true_eq]
    exact ⟨⟨⟨by decide, by decide⟩, hpos⟩, hlength⟩
  · generalize hm : (5 * s + 2) / 153 = m at hmonth hlast
    have hcases : m = 0 ∨ m = 1 ∨ m = 2 ∨ m = 3 ∨ m = 4 ∨ m = 5 ∨ m = 6 ∨ m = 7 ∨ m = 8 ∨ m = 9 ∨
        m = 10 := by omega
    unfold ofPlace
    rw [hm]
    rcases hcases with rfl | rfl | rfl | rfl | rfl | rfl | rfl | rfl | rfl | rfl | rfl
    all_goals
      simp [valid, monthLength]
      omega

/-- **The day of the date of a day** is the day. -/
theorem toDays_ofDays (n : Int) : (ofDays n).toDays = n := by
  obtain ⟨era, k, q, j, s, hplace, hdate⟩ := exists_ofPlace n
  rw [hdate, toDays_ofPlace hplace]
  omega

/-- **The date of a day exists.** -/
theorem valid_ofDays (n : Int) : (ofDays n).valid = true := by
  obtain ⟨era, k, q, j, s, hplace, hdate⟩ := exists_ofPlace n
  rw [hdate]
  exact valid_ofPlace hplace era

/-! ## Years -/

/-- The days of the calendar are in the years of the calendar. -/
theorem year_ofDays_bounds {n : Int} (hlow : (Date.mk Instant.minYear 1 1).toDays ≤ n)
    (hhigh : n < (Date.mk (Instant.maxYear + 1) 1 1).toDays) :
    Instant.minYear ≤ (ofDays n).year ∧ (ofDays n).year ≤ Instant.maxYear := by
  have hfirst : (Date.mk Instant.minYear 1 1).toDays = -96465292 := by decide
  have hlast : (Date.mk (Instant.maxYear + 1) 1 1).toDays = 95026237 := by decide
  rw [hfirst] at hlow
  rw [hlast] at hhigh
  obtain ⟨era, k, q, j, s, ⟨hday, hk, hq, hj, hs, hleap⟩, hdate⟩ := exists_ofPlace n
  rw [hdate]
  unfold ofPlace Instant.minYear Instant.maxYear
  unfold epoch eraLength at hday
  dsimp only
  have hera : -656 ≤ era ∧ era ≤ 655 := by omega
  have hcenturies : k = 0 ∨ k = 1 ∨ k = 2 ∨ k = 3 := by omega
  split <;> dsimp only
  · have hmonth : s ≤ 305 := by omega
    rcases hcenturies with rfl | rfl | rfl | rfl <;> omega
  · have hmonth : 306 ≤ s := by omega
    rcases hcenturies with rfl | rfl | rfl | rfl <;> omega

end SessionAuth.Date
