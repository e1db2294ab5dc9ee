import Mathlib.Data.Rat.Floor
import SessionAuth.Proofs.Binary64.Nearest
import SessionAuth.Proofs.Json.Integers
import SessionAuth.Proofs.Text.Decimal
import SessionAuth.Proofs.Token.Opening

/-!
# How long claims last

Whether a token is still good is asked in two ways. The check of a token compares its time of expiry
with the clock, and the store of sessions asks for the seconds that are left. Both read the same
claim, which may be an integer, a number with a fraction or a text.

* `Binary64.towardZero`: a rational number without its fraction; `Binary64.truncate_eq` says that
  truncation leaves this of a binary64 number.
* `Claims.States`: a claim states a time; `Claims.timeOf?_eq_some_iff` says that just these times
  are read.
* `Claims.remaining?_eq_some_iff`: the seconds that are left.
* `TokenProvider.expiry_checks_agree`: there are some left just when the check passes.
-/

namespace SessionAuth

/-! ## Fractions dropped -/

namespace Binary64

variable {x : Binary64} {n : Nat}

/-- A rational number without its fraction. -/
def towardZero (q : ℚ) : ℤ := if 0 ≤ q then ⌊q⌋ else ⌈q⌉

theorem towardZero_of_nonpos {q : ℚ} (h : q ≤ 0) : towardZero q = ⌈q⌉ := by
  rw [towardZero]
  split
  · rename_i h0
    rw [le_antisymm h h0, Int.floor_zero, Int.ceil_zero]
  · rfl

theorem floor_magnitude (x : Binary64) : ⌊(x.magnitude / one : ℚ)⌋ = x.wholePart := by
  rw [Rat.floor_natCast_div_natCast, wholePart, Int.natCast_ediv]

/-- **Truncation leaves a number without its fraction.** -/
theorem truncate_eq (x : Binary64) : x.truncate = towardZero x.value := by
  cases hsign : x.negative with
  | false =>
    have hpos : (0 : ℚ) ≤ x.magnitude / one := by positivity
    rw [value_of_not_negative hsign, towardZero, if_pos hpos, floor_magnitude, truncate,
      if_neg (Bool.eq_false_iff.mp hsign)]
  | true =>
    rw [towardZero_of_nonpos (value_nonpos_of_negative hsign), value, if_pos hsign, Int.ceil_neg,
      floor_magnitude, truncate, if_pos hsign]

theorem abs_value (x : Binary64) : |x.value| = x.magnitude / one := by
  have hpos : (0 : ℚ) ≤ x.magnitude / one := by positivity
  rw [value]
  split
  · rw [abs_neg, abs_of_nonneg hpos]
  · exact abs_of_nonneg hpos

theorem magnitude_lt_iff : x.magnitude < n * one ↔ |x.value| < n := by
  have hone : (0 : ℚ) < one := Nat.cast_pos.mpr one_pos
  rw [abs_value, div_lt_iff₀ hone]
  exact_mod_cast Iff.rfl

theorem truncate_lt (h : x.magnitude < n * one) : x.truncate < n := by
  have hwhole : x.wholePart < n := Nat.div_lt_of_lt_mul (Nat.mul_comm n one ▸ h)
  rw [truncate]
  split <;> omega

end Binary64

/-! ## Times -/

namespace Claims

variable {claims : Claims} {now time : Int} {value : Json} {n : Int}

/-- The claim states a time, in seconds since the start of 1970: as an integer of 64 bits, as a text
that spells one, or as a number closer to zero than `2^53`, of which the fraction is dropped. -/
inductive States : Json → Int → Prop
  | integer {n : Int} (hmin : minInt64 ≤ n) (hmax : n ≤ maxInt64) : States (.number (.int n)) n
  | fraction {x : Binary64} {n : Int} (small : |x.value| < 2 ^ 53)
      (whole : n = Binary64.towardZero x.value) : States (.number (.float x)) n
  | text {s : String} {n : Int} (spelt : Text.Spells s n) (hmin : minInt64 ≤ n)
      (hmax : n ≤ maxInt64) : States (.string s) n

theorem timeOf?_int_iff {m : Int} (hmin : minInt64 ≤ m) :
    timeOf? (.number (.int m)) = some n ↔ States (.number (.int m)) n := by
  rw [timeOf?]
  split
  · rename_i hmax
    constructor
    · intro h
      obtain rfl := Option.some.inj h
      exact .integer hmin hmax
    · intro h
      cases h with
      | integer => rfl
  · rename_i hlarge
    refine iff_of_false (by simp) fun h => ?_
    cases h with
    | integer _ hmax => exact hlarge hmax

theorem timeOf?_float_iff {x : Binary64} :
    timeOf? (.number (.float x)) = some n ↔ States (.number (.float x)) n := by
  have hsmall : x.magnitude < exactLimit * Binary64.one ↔ |x.value| < 2 ^ 53 := by
    have hlimit : (exactLimit : ℚ) = 2 ^ 53 := by norm_num [exactLimit]
    rw [Binary64.magnitude_lt_iff, hlimit]
  rw [timeOf?]
  split
  · rename_i hmagnitude
    rw [Option.some.injEq, Binary64.truncate_eq]
    constructor
    · exact fun h => .fraction (hsmall.mp hmagnitude) h.symm
    · intro h
      cases h with
      | fraction _ hwhole => exact hwhole.symm
  · rename_i hmagnitude
    refine iff_of_false (by simp) fun h => ?_
    cases h with
    | fraction hvalue _ => exact hmagnitude (hsmall.mpr hvalue)

theorem timeOf?_string_iff {s : String} :
    timeOf? (.string s) = some n ↔ States (.string s) n := by
  rw [timeOf?, Text.readInt?_eq_some_iff, ← Text.spells_iff]
  constructor
  · rintro ⟨hspelt, hmin, hmax⟩
    exact .text hspelt hmin hmax
  · intro h
    cases h with
    | text hspelt hmin hmax => exact ⟨hspelt, hmin, hmax⟩

/-- **The times that are read are those that are stated.** -/
theorem timeOf?_eq_some_iff (h : value.Sized) : timeOf? value = some n ↔ States value n := by
  have hother : timeOf? value = none → (∀ n, ¬ States value n) →
      (timeOf? value = some n ↔ States value n) := by
    intro hnone hstates
    rw [hnone]
    exact iff_of_false (by simp) (hstates n)
  cases value with
  | number number =>
    cases number with
    | int m => exact timeOf?_int_iff (h m rfl).1
    | float x => exact timeOf?_float_iff
  | string s => exact timeOf?_string_iff
  | null | bool _ | array _ | object _ =>
    refine hother rfl fun n hn => ?_
    cases hn

theorem le_of_timeOf? (h : timeOf? value = some time) : time ≤ maxInt64 := by
  cases value with
  | number number =>
    cases number with
    | int m =>
      rw [timeOf?] at h
      split at h
      · obtain rfl := Option.some.inj h
        assumption
      · cases h
    | float x =>
      rw [timeOf?] at h
      split at h
      · rename_i hsmall
        obtain rfl := Option.some.inj h
        exact le_trans (Binary64.truncate_lt hsmall).le (by decide)
      · cases h
  | string s => exact (Text.readInt?_eq_some_iff.mp h).2.2
  | null | bool _ | array _ | object _ => cases h

/-! ## What is left -/

/-- **The seconds that are left** are those up to the time that is stated, if there are any. -/
theorem remaining?_eq_some_iff (h0 : 0 ≤ now) {d : Nat} : claims.remaining? now = some d ↔
    ∃ value time, Json.Fields.get? claims "exp" = some value ∧ timeOf? value = some time ∧
      (d : Int) = time - now ∧ 0 < d := by
  constructor
  · intro h
    obtain ⟨time, hexpiry, h⟩ := Option.bind_eq_some_iff.mp h
    obtain ⟨value, hvalue, htime⟩ := Option.bind_eq_some_iff.mp hexpiry
    dsimp only at h
    split at h
    · rename_i hleft
      obtain rfl := Option.some.inj h
      exact ⟨value, time, hvalue, htime, by omega, by omega⟩
    · cases h
  · rintro ⟨value, time, hvalue, htime, hd, hpos⟩
    have hmax := le_of_timeOf? htime
    have hexpiry : claims.expiry? = some time :=
      Option.bind_eq_some_iff.mpr ⟨value, hvalue, htime⟩
    refine Option.bind_eq_some_iff.mpr ⟨time, hexpiry, ?_⟩
    dsimp only
    rw [if_pos ⟨by omega, by omega⟩]
    exact congrArg some (by omega)

/-- There are seconds left just when the time that is stated is still to come. -/
theorem exists_remaining?_iff (h0 : 0 ≤ now) :
    (∃ d, claims.remaining? now = some d) ↔ claims.isCurrent now = true := by
  simp only [remaining?_eq_some_iff h0, isCurrent_iff_expireAfter, ExpireAfter]
  constructor
  · rintro ⟨d, value, time, hvalue, htime, hd, hpos⟩
    exact ⟨value, time, hvalue, htime, by omega⟩
  · rintro ⟨value, time, hvalue, htime, hlt⟩
    exact ⟨(time - now).toNat, value, time, hvalue, htime, by omega, by omega⟩

end Claims

/-- No claim of a token is an integer beyond 64 bits. -/
theorem Token.sized_of_open? {key : List UInt8} {token : String} {claims : Claims}
    (h : open? key token = some claims) : ∀ m ∈ claims, m.2.Sized := by
  obtain ⟨⟨t, ht⟩, -⟩ := open?_eq_some_iff.mp h
  exact Json.sized_of_parse?_object (Json.parse?_eq_some_iff.mpr ht.claims)

namespace TokenProvider

variable {p : TokenProvider} {now : Int} {token : String} {claims : SessionAuth.Claims}

theorem verify_of_open? (h : Token.open? p.key token = some claims) :
    p.verify now token = if claims.isCurrent now then .ok claims else .error .invalidToken := by
  rw [verify, h]

/-- **The two questions have one answer.** At any time from 1970 on, seconds are left for claims
just when the check of their expiry passes, and they are those up to the time of expiry. So a token
that opens is accepted if there are seconds left for its claims, and refused if not. The time of
expiry is what the claim states: no integer, text or number stands for another one, and all else
states none. This is so for all values that texts spell, the claims of a token among them, as
their integers have 64 bits. -/
theorem expiry_checks_agree (p : TokenProvider) (h0 : 0 ≤ now) :
    (∀ claims : SessionAuth.Claims,
      ((∃ d, claims.remaining? now = some d) ↔ claims.isCurrent now = true) ∧
      ∀ d : Nat, claims.remaining? now = some d ↔
        ∃ value time, Json.Fields.get? claims "exp" = some value ∧
          Claims.timeOf? value = some time ∧ (d : Int) = time - now ∧ 0 < d) ∧
    (∀ token claims, Token.open? p.key token = some claims →
      (p.verify now token = .ok claims ↔ ∃ d, claims.remaining? now = some d) ∧
      (p.verify now token = .error .invalidToken ↔ claims.remaining? now = none) ∧
      ∀ m ∈ claims, m.2.Sized) ∧
    (∀ value : Json, value.Sized →
      ∀ n, Claims.timeOf? value = some n ↔ Claims.States value n) ∧
    ∀ text value, Json.parse? text = some value → value.Sized := by
  refine ⟨fun claims => ⟨Claims.exists_remaining?_iff h0, fun d =>
    Claims.remaining?_eq_some_iff h0⟩, fun token claims hopen => ?_,
    fun value hvalue n => Claims.timeOf?_eq_some_iff hvalue,
    fun text value => Json.sized_of_parse?⟩
  have hverify : p.verify now token =
      if claims.isCurrent now then .ok claims else .error .invalidToken := verify_of_open? hopen
  have hiff : (∃ d, claims.remaining? now = some d) ↔ claims.isCurrent now = true :=
    Claims.exists_remaining?_iff h0
  refine ⟨?_, ?_, Token.sized_of_open? hopen⟩
  · rw [hiff, hverify]
    split
    · rename_i hcurrent
      exact iff_of_true rfl hcurrent
    · rename_i hcurrent
      exact iff_of_false (by simp) hcurrent
  · rw [← Option.not_isSome_iff_eq_none, Option.isSome_iff_exists, hiff, hverify]
    split
    · rename_i hcurrent
      exact iff_of_false (by simp) (not_not_intro hcurrent)
    · rename_i hcurrent
      exact iff_of_true rfl hcurrent

/-- Six seconds are left for the claims, and their token is accepted. -/
theorem remaining_specimen : 0 ≤ (4 : Int) ∧
    (Specimen.claims (.string "1")).remaining? 4 = some 6 ∧
    Specimen.provider.verify 4 (Specimen.token (.string "1")) =
      .ok (Specimen.claims (.string "1")) ∧
    Claims.timeOf? (.string " +012 ") = some 12 := by
  have haccepted : Specimen.provider.verify 0 (Specimen.token (.string "1")) =
      .ok (Specimen.claims (.string "1")) := accepts_iff.mpr
    ⟨Specimen.wellSigned_token (.string "1"), Specimen.admissible_claims rfl,
      Specimen.expireAfter_claims _⟩
  obtain ⟨hopen, -⟩ := verify_eq_ok_iff.mp haccepted
  have hnow : 0 ≤ (4 : Int) := by decide
  obtain ⟨hleft, hchecks, htimes, -⟩ := expiry_checks_agree Specimen.provider hnow
  have hsix := ((hleft (Specimen.claims (.string "1"))).2 6).mpr
    ⟨.int 10, 10, rfl, rfl, by decide, by decide⟩
  have hdigits : Text.isDigits ['0', '1', '2'] = true := by decide
  have htext : Claims.States (.string " +012 ") 12 :=
    .text (Text.spells_iff.mpr (.positive hdigits)) (by decide) (by decide)
  exact ⟨hnow, hsix, (hchecks _ _ hopen).1.mpr ⟨6, hsix⟩,
    (htimes (.string " +012 ") (fun n hn => by cases hn) 12).mpr htext⟩

end TokenProvider

end SessionAuth
