import SessionAuth.Binary64.Scaled
import SessionAuth.Proofs.Binary64.Nearest

/-!
# What rounding loses

A result that is rounded is at least half of what it was before, as long as that was a whole number
of smallest units. A number that is read in steps is rounded up to three times, so an eighth of it
is left at least.

* `div_le_of_roundUnits`: one rounding.
* `le_of_ofScientific`: a significand, scaled up by a power of ten.
* `magnitude_of_ofScientific_zero`: of zero nothing but zero is made.
-/

namespace SessionAuth.Binary64

variable {x y : Binary64} {units den : Nat} {negative : Bool}

theorem div_le_roundDiv (num den : Nat) : num / den ≤ roundDiv num den := by
  unfold roundDiv
  dsimp only
  split <;> omega

/-- The shift for a quotient takes away no more than half of it. -/
theorem le_of_shiftFor (q : Nat) : q ≤ 2 * (q / 2 ^ shiftFor q * 2 ^ shiftFor q) := by
  unfold shiftFor
  split
  · simp
    omega
  · rename_i hlarge
    have hq : 0 < q := by unfold minSignificand at hlarge; omega
    have hlow : 2 ^ q.log2 ≤ q := Nat.log2_self_le hq.ne'
    have hpow : 2 ^ (q.log2 - 52) ≤ q :=
      le_trans (Nat.pow_le_pow_right (by decide) (Nat.sub_le _ _)) hlow
    have hquot : 1 ≤ q / 2 ^ (q.log2 - 52) := Nat.div_pos hpow (Nat.two_pow_pos _)
    have hone : 2 ^ (q.log2 - 52) ≤ q / 2 ^ (q.log2 - 52) * 2 ^ (q.log2 - 52) :=
      Nat.le_mul_of_pos_left _ hquot
    have hmod := Nat.mod_lt q (Nat.two_pow_pos (q.log2 - 52))
    have hsplit := Nat.div_add_mod' q (2 ^ (q.log2 - 52))
    omega

/-- A rounded number has the rounded quotient for its bits, also when that has one bit too many. -/
theorem magnitude_of_roundUnits (h : roundUnits negative units den = some x) :
    x.magnitude = roundDiv units (den * 2 ^ shiftFor (units / den)) *
      2 ^ shiftFor (units / den) := by
  unfold roundUnits at h
  dsimp only at h
  rw [Nat.shiftLeft_eq] at h
  generalize shiftFor (units / den) = shift at h ⊢
  generalize roundDiv units (den * 2 ^ shift) = m at h ⊢
  split at h <;> rename_i hm <;> split at h
  · obtain rfl := Option.some.inj h
    rw [magnitude_eq, hm, Nat.pow_succ]
    ring
  · cases h
  · obtain rfl := Option.some.inj h
    exact magnitude_eq _
  · cases h

theorem div_le_of_roundUnits (h : roundUnits negative units den = some x) :
    units / den ≤ 2 * x.magnitude := by
  rw [magnitude_of_roundUnits h]
  generalize hshift : shiftFor (units / den) = shift
  have hloss : units / den ≤ 2 * (units / den / 2 ^ shift * 2 ^ shift) := by
    rw [← hshift]
    exact le_of_shiftFor _
  have hround : units / den / 2 ^ shift ≤ roundDiv units (den * 2 ^ shift) := by
    rw [Nat.div_div_eq_div_mul]
    exact div_le_roundDiv _ _
  exact hloss.trans (Nat.mul_le_mul_left 2 (Nat.mul_le_mul_right _ hround))

/-! ## Steps of reading a number -/

theorem le_of_ofNat {n : Nat} (h : ofNat n = some x) : n * one ≤ 2 * x.magnitude := by
  have hround := div_le_of_roundUnits h
  rwa [Nat.div_one] at hround

theorem isSome_roundUnits (h : (units / den).log2 ≤ maxShift + 51) :
    (roundUnits negative units den).isSome = true := by
  have hshift : shiftFor (units / den) + 1 ≤ maxShift := by
    unfold shiftFor maxShift at *
    split <;> omega
  unfold roundUnits
  dsimp only
  split
  · rfl
  · rw [if_pos (Nat.le_of_succ_le hshift)]
    rfl

theorem isSome_ofNat_powerOfTen {k : Nat} (h : k ≤ maxPower) :
    (ofNat (Nat.pow 10 k)).isSome = true := by
  rcases Nat.lt_or_eq_of_le h with hlt | rfl
  · refine isSome_roundUnits ?_
    have hlargest : (Nat.pow 10 (maxPower - 1) * one).log2 ≤ maxShift + 51 := by decide +kernel
    have hpow : ∀ m, k ≤ m → Nat.pow 10 k * one ≤ Nat.pow 10 m * one := fun m hm =>
      Nat.mul_le_mul_right one (Nat.pow_le_pow_right (by decide) hm)
    have hle := hpow _ (Nat.le_sub_one_of_lt hlt)
    have hk : Nat.pow 10 k * one ≠ 0 := (Nat.mul_pos (Nat.pow_pos (by decide)) one_pos).ne'
    rw [Nat.div_one]
    refine le_trans ((Nat.le_log2 ?_).mpr ((Nat.log2_self_le hk).trans hle)) hlargest
    exact (Nat.lt_of_lt_of_le (Nat.pos_of_ne_zero hk) hle).ne'
  · -- The largest of them is close to the largest number there is.
    decide +kernel

theorem le_powerOfTen {k : Nat} (h : k ≤ maxPower) :
    10 ^ k * one ≤ 2 * (powerOfTen k).magnitude := by
  obtain ⟨y, hy⟩ := Option.isSome_iff_exists.mp (isSome_ofNat_powerOfTen h)
  rw [powerOfTen, hy, Option.getD_some]
  exact le_of_ofNat hy

theorem le_of_mul {a b : Nat} (hx : a * one ≤ 2 * x.magnitude) (hy : b * one ≤ 2 * y.magnitude)
    {z : Binary64} (h : x.mul y = some z) : a * b * one ≤ 8 * z.magnitude := by
  obtain ⟨quarter, hquarter⟩ : ∃ quarter, one = 4 * quarter := ⟨one / 4, by decide +kernel⟩
  have hproduct : 4 * (a * b * quarter * one) ≤ 4 * (x.magnitude * y.magnitude) := by
    calc 4 * (a * b * quarter * one) = a * (4 * quarter) * (b * one) := by ring
      _ = a * one * (b * one) := by rw [← hquarter]
      _ ≤ 2 * x.magnitude * (2 * y.magnitude) := Nat.mul_le_mul hx hy
      _ = 4 * (x.magnitude * y.magnitude) := by ring
  have hquot : a * b * quarter ≤ x.magnitude * y.magnitude / one :=
    (Nat.le_div_iff_mul_le one_pos).mpr (Nat.le_of_mul_le_mul_left hproduct (by decide))
  have hround := hquot.trans (div_le_of_roundUnits h)
  calc a * b * one = 4 * (a * b * quarter) := by rw [hquarter]; ring
    _ ≤ 4 * (2 * z.magnitude) := Nat.mul_le_mul_left 4 hround
    _ = 8 * z.magnitude := by ring

theorem le_of_ofScientific {n k : Nat} (h : ofScientific n (.ofNat k) = some x) :
    n * 10 ^ k * one ≤ 8 * x.magnitude := by
  obtain ⟨y, hy, hscaled⟩ := Option.bind_eq_some_iff.mp h
  have hnat := le_of_ofNat hy
  change y.mulTen k = some x at hscaled
  unfold mulTen at hscaled
  split at hscaled
  · rename_i hzero
    rw [magnitude_eq_zero_iff.mpr hzero, Nat.mul_zero, Nat.le_zero, Nat.mul_eq_zero] at hnat
    rw [hnat.resolve_right one_pos.ne']
    simp
  split at hscaled
  · rename_i hk
    exact le_of_mul hnat (le_powerOfTen hk) hscaled
  · cases hscaled

/-! ## Zero -/

theorem magnitude_roundUnits_zero (h : roundUnits negative 0 den = some x) : x.magnitude = 0 := by
  rw [magnitude_of_roundUnits h]
  simp [roundDiv]

theorem magnitude_divPower_zero (h : x.magnitude = 0) (k : Nat) :
    (x.divPower k).magnitude = 0 := by
  unfold divPower
  cases hdiv : x.div (powerOfTen k) with
  | none => exact h
  | some y =>
    rw [div, h, Nat.zero_mul] at hdiv
    exact magnitude_roundUnits_zero hdiv

theorem magnitude_divTen_zero (h : x.magnitude = 0) (k : Nat) : (x.divTen k).magnitude = 0 := by
  unfold divTen
  split
  · exact magnitude_divPower_zero h k
  split
  · exact magnitude_divPower_zero (magnitude_divPower_zero h _) _
  · rfl

theorem magnitude_of_ofScientific_zero {exponent : Int} (h : ofScientific 0 exponent = some x) :
    x.magnitude = 0 := by
  unfold ofScientific at h
  obtain ⟨y, hy, hscaled⟩ := Option.bind_eq_some_iff.mp h
  have hzero : y.magnitude = 0 := by
    rw [ofNat, round, Nat.zero_mul] at hy
    exact magnitude_roundUnits_zero hy
  cases exponent with
  | ofNat k =>
    change y.mulTen k = some x at hscaled
    rw [mulTen, if_pos (magnitude_eq_zero_iff.mp hzero)] at hscaled
    exact Option.some.inj hscaled ▸ hzero
  | negSucc k =>
    obtain rfl := Option.some.inj hscaled
    exact magnitude_divTen_zero hzero _

end SessionAuth.Binary64
