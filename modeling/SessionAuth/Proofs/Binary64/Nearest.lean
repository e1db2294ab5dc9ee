import Mathlib.Algebra.Order.Field.Rat
import Mathlib.Data.Rat.Cast.Order
import Mathlib.Tactic.Linarith
import Mathlib.Tactic.Positivity
import Mathlib.Tactic.Ring
import SessionAuth.Binary64.Basic

/-!
# Nearest numbers

A finite binary64 number stands for a rational number. Up to `2^53` every whole number is one, so
that it is its own nearest number; from there on only every second one is, and a whole number
between two of them has two nearest numbers.

* `Binary64.value`: the rational number.
* `Binary64.Nearest`: there is no binary64 number that is closer.
* `exists_normal_value`: the whole numbers up to `2^53` are binary64 numbers.
* `Nearest.value_eq`: the number that is nearest to a whole number up to `2^53` is that number.
* `Nearest.value_le`: the number that is nearest to a greater one is not smaller than `2^53`.
* `nearest_tie`: `2^53` is nearest to `2^53 + 1`.
-/

namespace SessionAuth.Binary64

variable {x : Binary64} {n : Nat}

/-- The smallest positive number is `2` to the power of this, negated. -/
def unitExponent : Nat := 1074

theorem one_eq : one = 2 ^ unitExponent := Nat.one_shiftLeft unitExponent

theorem one_pos : 0 < one := by
  rw [one_eq]
  exact Nat.two_pow_pos unitExponent

theorem magnitude_eq (x : Binary64) : x.magnitude = x.significand * 2 ^ x.shift :=
  Nat.shiftLeft_eq _ _

theorem magnitude_eq_zero_iff : x.magnitude = 0 ↔ x.significand = 0 := by
  have hpow : 2 ^ x.shift ≠ 0 := (Nat.two_pow_pos x.shift).ne'
  rw [magnitude_eq, Nat.mul_eq_zero]
  exact or_iff_left hpow

/-- The rational number that a binary64 number stands for. -/
def value (x : Binary64) : ℚ :=
  if x.negative then -(x.magnitude / one : ℚ) else x.magnitude / one

theorem value_nonpos_of_negative (h : x.negative = true) : x.value ≤ 0 := by
  rw [value, if_pos h, neg_nonpos]
  positivity

theorem value_of_not_negative (h : x.negative = false) : x.value = x.magnitude / one :=
  if_neg (Bool.eq_false_iff.mp h)

theorem value_eq_zero (h : x.magnitude = 0) : x.value = 0 := by
  simp [value, h]

/-- No binary64 number is closer to the rational number. -/
def Nearest (x : Binary64) (q : ℚ) : Prop :=
  x.Normal ∧ ∀ y : Binary64, y.Normal → |x.value - q| ≤ |y.value - q|

/-! ## Whole numbers -/

theorem value_eq_natCast (hsign : x.negative = false) (h : x.magnitude = n * one) :
    x.value = n := by
  have hone : (one : ℚ) ≠ 0 := Nat.cast_ne_zero.mpr one_pos.ne'
  rw [value_of_not_negative hsign, h, Nat.cast_mul]
  exact mul_div_cancel_right₀ _ hone

theorem value_eq_natCast_iff : x.value = n ↔
    x.magnitude = n * one ∧ (x.negative = false ∨ x.significand = 0) := by
  refine ⟨fun h => ?_, fun ⟨hmagnitude, hsign⟩ => ?_⟩
  · have hone : (0 : ℚ) < one := Nat.cast_pos.mpr one_pos
    cases hsign : x.negative with
    | false =>
      rw [value_of_not_negative hsign, div_eq_iff hone.ne'] at h
      exact ⟨by exact_mod_cast h, Or.inl rfl⟩
    | true =>
      -- A negative number is a natural one only if it is zero.
      have hzero : x.value = 0 := by
        refine le_antisymm (value_nonpos_of_negative hsign) ?_
        rw [h]
        exact Nat.cast_nonneg n
      have hn : n = 0 := by exact_mod_cast h.symm.trans hzero
      rw [value, if_pos hsign, neg_eq_zero, div_eq_zero_iff, or_iff_left hone.ne'] at hzero
      have hmagnitude : x.magnitude = 0 := by exact_mod_cast hzero
      exact ⟨by rw [hmagnitude, hn, Nat.zero_mul], Or.inr (magnitude_eq_zero_iff.mp hmagnitude)⟩
  · rcases hsign with hsign | hzero
    · exact value_eq_natCast hsign hmagnitude
    · have hmagnitude_zero := magnitude_eq_zero_iff.mpr hzero
      have hn : n = 0 := by
        rw [hmagnitude_zero, eq_comm, Nat.mul_eq_zero] at hmagnitude
        exact hmagnitude.resolve_right one_pos.ne'
      rw [value_eq_zero hmagnitude_zero, hn, Nat.cast_zero]

/-- A whole number below `2^53` is a binary64 number: its bits are moved up until the first one
stands where a significand has to have it. -/
theorem exists_normal_value (h : n < 2 * minSignificand) :
    ∃ y : Binary64, y.Normal ∧ y.value = n := by
  by_cases hn : n = 0
  · subst hn
    exact ⟨zero false, by decide, value_eq_zero rfl⟩
  · have hlog : n.log2 < 53 := (Nat.log2_lt hn).mpr h
    have hlow : 2 ^ n.log2 ≤ n := Nat.log2_self_le hn
    have hhigh : n < 2 ^ (n.log2 + 1) := Nat.lt_log2_self
    refine ⟨⟨false, n * 2 ^ (52 - n.log2), 1022 + n.log2⟩, ⟨?_, ?_, Or.inl ?_⟩,
      value_eq_natCast rfl ?_⟩
    · have hpow : 2 ^ (n.log2 + 1) * 2 ^ (52 - n.log2) = 2 * minSignificand := by
        rw [← Nat.pow_add, show n.log2 + 1 + (52 - n.log2) = 53 by omega]
        rfl
      rw [← hpow]
      exact Nat.mul_lt_mul_of_pos_right hhigh (Nat.two_pow_pos _)
    · change 1022 + n.log2 ≤ 2045
      omega
    · have hpow : 2 ^ n.log2 * 2 ^ (52 - n.log2) = minSignificand := by
        rw [← Nat.pow_add, show n.log2 + (52 - n.log2) = 52 by omega]
        rfl
      rw [← hpow]
      exact Nat.mul_le_mul_right _ hlow
    · have hshift : 52 - n.log2 + (1022 + n.log2) = unitExponent := by
        unfold unitExponent
        omega
      rw [magnitude_eq, Nat.mul_assoc, ← Nat.pow_add, hshift, one_eq]

/-- The number `2^53`. -/
def limit : Binary64 := ⟨false, minSignificand, 1075⟩

/-- The number `2^53 + 2`, which comes after `2^53`. -/
def afterLimit : Binary64 := ⟨false, minSignificand + 1, 1075⟩

theorem normal_limit : limit.Normal := by decide

theorem normal_afterLimit : afterLimit.Normal := by decide

theorem value_limit : limit.value = (2 * minSignificand : Nat) :=
  value_eq_natCast rfl (by decide +kernel)

theorem value_afterLimit : afterLimit.value = (2 * minSignificand + 2 : Nat) :=
  value_eq_natCast rfl (by decide +kernel)

/-! ## Nearest numbers to whole numbers -/

theorem nearest_value (h : x.Normal) : x.Nearest x.value := by
  refine ⟨h, fun y _ => ?_⟩
  rw [sub_self, abs_zero]
  exact abs_nonneg _

theorem Nearest.value_eq (h : x.Nearest n) (hn : n ≤ 2 * minSignificand) : x.value = n := by
  have hexact : ∃ y : Binary64, y.Normal ∧ y.value = n := by
    rcases Nat.lt_or_eq_of_le hn with hlt | rfl
    · exact exists_normal_value hlt
    · exact ⟨limit, normal_limit, value_limit⟩
  obtain ⟨y, hy, hvalue⟩ := hexact
  have hdist := h.2 y hy
  rw [hvalue, sub_self, abs_zero] at hdist
  exact sub_eq_zero.mp (abs_nonpos_iff.mp hdist)

/-- What is nearest to a number is not below a binary64 number that the number is not below. -/
theorem Nearest.value_le {y : Binary64} {q : ℚ} (h : x.Nearest q) (hy : y.Normal)
    (hle : y.value ≤ q) : y.value ≤ x.value := by
  have hdist := h.2 y hy
  rw [abs_sub_comm, abs_sub_comm y.value, abs_of_nonneg (sub_nonneg.mpr hle)] at hdist
  have hself := le_abs_self (q - x.value)
  linarith

/-! ## Two nearest numbers -/

theorem magnitude_le_or_le (hx : x.Normal) :
    x.magnitude ≤ 2 * minSignificand * one ∨ (2 * minSignificand + 2) * one ≤ x.magnitude := by
  rw [magnitude_eq, one_eq]
  rcases le_or_gt x.shift unitExponent with hshift | hshift
  · exact Or.inl (Nat.mul_le_mul hx.1.le (Nat.pow_le_pow_right (by decide) hshift))
  · -- Beyond this shift all numbers are even, and `2^53` is one of them.
    obtain ⟨k, hk⟩ := Nat.exists_eq_add_of_lt hshift
    have hsplit : x.significand * 2 ^ x.shift =
        2 * (x.significand * 2 ^ k) * 2 ^ unitExponent := by
      rw [hk, Nat.pow_succ, Nat.pow_add]
      ring
    rw [hsplit]
    rcases le_or_gt (x.significand * 2 ^ k) minSignificand with hle | hlt
    · exact Or.inl (Nat.mul_le_mul_right _ (by omega))
    · exact Or.inr (Nat.mul_le_mul_right _ (by omega))

/-- There is no number between `2^53` and `2^53 + 2`. -/
theorem value_le_or_le (hx : x.Normal) :
    x.value ≤ (2 * minSignificand : Nat) ∨ (2 * minSignificand + 2 : Nat) ≤ x.value := by
  have hone : (0 : ℚ) < one := Nat.cast_pos.mpr one_pos
  cases hsign : x.negative with
  | true => exact Or.inl ((value_nonpos_of_negative hsign).trans (Nat.cast_nonneg _))
  | false =>
    rw [value_of_not_negative hsign, div_le_iff₀ hone, le_div_iff₀ hone]
    exact_mod_cast magnitude_le_or_le hx

/-- The number `2^53` is as near to `2^53 + 1` as any. -/
theorem nearest_tie : limit.Nearest (2 * minSignificand + 1 : Nat) := by
  refine ⟨normal_limit, fun y hy => ?_⟩
  rw [value_limit]
  push_cast
  rcases value_le_or_le hy with hle | hle
  · push_cast at hle
    rw [abs_sub_comm, abs_sub_comm y.value]
    refine le_trans ?_ (le_abs_self _)
    rw [add_sub_cancel_left, abs_one]
    linarith
  · push_cast at hle
    refine le_trans ?_ (le_abs_self _)
    rw [abs_sub_comm, add_sub_cancel_left, abs_one]
    linarith

end SessionAuth.Binary64
