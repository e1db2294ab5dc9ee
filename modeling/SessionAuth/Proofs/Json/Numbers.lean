import Mathlib.Algebra.Order.Field.Power
import Mathlib.Data.List.TakeWhile
import SessionAuth.Proofs.Binary64.Bounds
import SessionAuth.Proofs.Bind
import SessionAuth.Proofs.Json.RoundTrip

/-!
# Numbers as they are written

A number is written with digits, a fraction and a power of ten, and so it has an exact value, which
no bits limit. A number whose value lies far outside of the whole numbers that a binary64 number can
tell apart is never read as one of these, however it is written.

* `NumberText.exact`: the exact value of a number as it is written.
* `NumberText.Written`: the characters write the number.
* `parse_of_written`: what a text comes to that is a number.
* `NumberText.value_nonpos`, `NumberText.lt_value`: what a number is read as when it is not
  positive, and when 64 bits do not hold it.
-/

namespace SessionAuth.Json

open Text (digitsValue)

/-! ## Digits that fit -/

/-- Digits are taken into a significand and the rest is left over: what has been taken is at most
all there is, and half of it at least. -/
structure Absorbs (start : Nat) (cs : List Char) (significand left : Nat) : Prop where
  lower : significand * 10 ^ left ≤ digitsValue start cs
  upper : digitsValue start cs ≤ 2 * (significand * 10 ^ left)
  fits : start ≤ maxNat64 → significand ≤ maxNat64
  left_le : left ≤ cs.length

theorem absorbs {cs : List Char} (hcs : ∀ c ∈ cs, c.isDigit = true) (start : Nat) :
    Absorbs start cs (absorb start cs).1 (absorb start cs).2 := by
  induction cs generalizing start with
  | nil => exact ⟨by simp [absorb, digitsValue], by simp [absorb, digitsValue]; omega, id, le_rfl⟩
  | cons c rest ih =>
    have hrest := ih fun d hd => hcs d (List.mem_cons_of_mem c hd)
    rw [absorb]
    split
    · rename_i hnext
      obtain ⟨hlower, hupper, hfits, hleft⟩ := hrest (10 * start + Text.digitValue c)
      exact ⟨hlower, hupper, fun _ => hfits hnext, hleft.trans (Nat.le_succ _)⟩
    · rename_i hnext
      -- The significand has many bits by now, so what is left over is less than its last one.
      have hdigit := Text.digitValue_lt (hcs c List.mem_cons_self)
      have hpos : 0 < start := by
        unfold maxNat64 at hnext
        omega
      have hlt := Text.digitsValue_lt hcs
      rw [List.length_cons] at hlt
      have hone : 10 ^ (rest.length + 1) ≤ start * 10 ^ (rest.length + 1) :=
        Nat.le_mul_of_pos_left _ hpos
      have hvalue : digitsValue start (c :: rest) =
          start * 10 ^ (rest.length + 1) + digitsValue 0 (c :: rest) := by
        rw [Text.digitsValue_eq, List.length_cons, Nat.mul_comm]
      refine ⟨?_, ?_, id, le_rfl⟩ <;> dsimp only <;> omega

theorem Absorbs.eq_zero {start significand left : Nat} {cs : List Char}
    (h : Absorbs start cs significand left) (hzero : digitsValue start cs = 0) :
    significand = 0 := by
  have hlower := h.lower
  rw [hzero, Nat.le_zero, Nat.mul_eq_zero] at hlower
  exact hlower.resolve_right (Nat.pow_pos (by decide)).ne'

/-! ## Numbers -/

namespace NumberText

variable {t : NumberText} {x : Binary64} {cs : List Char}

/-- All digits of the number, as if no point were between them. -/
def digits (t : NumberText) : Nat := digitsValue 0 (t.whole ++ t.fraction)

/-- The power of ten by which the digits are scaled. -/
def scale (t : NumberText) : ℤ := t.exponent.getD 0 - t.fraction.length

/-- The exact value of a number as it is written. -/
def exact (t : NumberText) : ℚ :=
  if t.negative then -(t.digits * 10 ^ t.scale) else t.digits * 10 ^ t.scale

/-- The number is written without a fraction and without an exponent. -/
def Plain (t : NumberText) : Prop := t.fraction = [] ∧ t.exponent = none

/-- The characters write the power of ten: nothing, or a letter, perhaps a sign, and digits. -/
inductive WritesExponent : Option Int → List Char → Prop
  | none : WritesExponent none []
  | unsigned {letter : Char} {ds : List Char} (hletter : letter = 'e' ∨ letter = 'E')
      (hds : Text.isDigits ds = true) :
      WritesExponent (some (digitsValue 0 ds : Int)) (letter :: ds)
  | positive {letter : Char} {ds : List Char} (hletter : letter = 'e' ∨ letter = 'E')
      (hds : Text.isDigits ds = true) :
      WritesExponent (some (digitsValue 0 ds : Int)) (letter :: '+' :: ds)
  | negative {letter : Char} {ds : List Char} (hletter : letter = 'e' ∨ letter = 'E')
      (hds : Text.isDigits ds = true) :
      WritesExponent (some (-(digitsValue 0 ds : Int))) (letter :: '-' :: ds)

/-- The characters write the fraction: nothing, or a point and digits. -/
inductive WritesFraction : List Char → List Char → Prop
  | none : WritesFraction [] []
  | some {ds : List Char} (hds : Text.isDigits ds = true) : WritesFraction ds ('.' :: ds)

/-- The characters write the number: a minus sign if it is negative, digits of which the first one
is no zero unless it is the only one, then the fraction and the power of ten. -/
structure Written (t : NumberText) (cs : List Char) : Prop where
  whole : Text.isDigits t.whole = true
  canonical : t.whole.head? = some '0' → t.whole = ['0']
  parts : ∃ fraction exponent, WritesFraction t.fraction fraction ∧
    WritesExponent t.exponent exponent ∧
    cs = (if t.negative then ['-'] else []) ++ (t.whole ++ (fraction ++ exponent))

theorem exact_nonpos_of_negative (h : t.negative = true) : t.exact ≤ 0 := by
  rw [exact, if_pos h, neg_nonpos]
  positivity

theorem exact_of_not_negative (h : t.negative = false) : t.exact = t.digits * 10 ^ t.scale :=
  if_neg (Bool.eq_false_iff.mp h)

/-! ### What the reader makes of a number -/

/-- What the digits of a number come to before they are scaled: a significand of 64 bits and a
power of ten, and what has been dropped is three quarters of the number at most. -/
structure Digested (t : NumberText) (significand : Nat) (exponent : ℤ) : Prop where
  fits : significand ≤ maxNat64
  upper : t.digits * (10 : ℚ) ^ t.scale ≤ 4 * (significand * 10 ^ exponent)
  zero : t.digits = 0 → significand = 0

theorem digits_eq (t : NumberText) :
    t.digits = 10 ^ t.fraction.length * digitsValue 0 t.whole + digitsValue 0 t.fraction := by
  rw [digits, Text.digitsValue_append, Text.digitsValue_eq]

section Digested

variable {significand middle dropped left : Nat} {exponent : ℤ}

theorem digested (hw : Absorbs 0 t.whole middle dropped)
    (hf : Absorbs middle t.fraction significand left) :
    t.Digested significand (dropped + left + t.scale) := by
  have hten : ∀ n : Nat, 0 < 10 ^ n := fun n => Nat.pow_pos (by decide)
  have hdigits := t.digits_eq
  have hmiddle := Text.digitsValue_eq middle t.fraction
  refine ⟨hf.fits (hw.fits (by decide)), ?_, fun hzero => ?_⟩
  · have hupper : t.digits ≤ 4 * (significand * 10 ^ (dropped + left)) := by
      calc t.digits ≤ 10 ^ t.fraction.length * (2 * (middle * 10 ^ dropped)) +
            2 * 10 ^ dropped * digitsValue 0 t.fraction := by
            rw [hdigits]
            refine Nat.add_le_add (Nat.mul_le_mul_left _ hw.upper) ?_
            exact Nat.le_mul_of_pos_left _ (Nat.mul_pos (by decide) (hten dropped))
        _ = 2 * 10 ^ dropped * digitsValue middle t.fraction := by rw [hmiddle]; ring
        _ ≤ 2 * 10 ^ dropped * (2 * (significand * 10 ^ left)) := Nat.mul_le_mul_left _ hf.upper
        _ = 4 * (significand * 10 ^ (dropped + left)) := by rw [Nat.pow_add]; ring
    have hcast : (t.digits : ℚ) ≤ 4 * (significand * 10 ^ (dropped + left)) := by
      exact_mod_cast hupper
    calc t.digits * (10 : ℚ) ^ t.scale ≤ 4 * (significand * 10 ^ (dropped + left)) *
          (10 : ℚ) ^ t.scale := by gcongr
      _ = 4 * (significand * (10 : ℚ) ^ (dropped + left + t.scale : ℤ)) := by
        rw [zpow_add₀ (by norm_num) _ t.scale, ← Nat.cast_add, zpow_natCast]
        ring
  · -- Without digits there is nothing to take, neither before the point nor behind it.
    rw [hzero, eq_comm, Nat.add_eq_zero_iff, Nat.mul_eq_zero] at hdigits
    have hmiddle_zero := hw.eq_zero (hdigits.1.resolve_left (hten _).ne')
    refine hf.eq_zero ?_
    rw [hmiddle, hmiddle_zero, hdigits.2, Nat.mul_zero]

theorem exists_digested (hwhole : ∀ c ∈ t.whole, c.isDigit = true)
    (hfraction : ∀ c ∈ t.fraction, c.isDigit = true) (h : t.float? = some x) :
    ∃ significand exponent y, t.Digested significand exponent ∧
      Binary64.ofScientific significand exponent = some y ∧
      x = { y with negative := t.negative } := by
  unfold float? at h
  have hw := absorbs hwhole 0
  generalize absorb 0 t.whole = w at h hw
  obtain ⟨middle, dropped⟩ := w
  dsimp only at h hw
  have hf := absorbs hfraction middle
  generalize absorb middle t.fraction = f at h hf
  obtain ⟨significand, left⟩ := f
  obtain ⟨y, hy, rfl⟩ := Option.map_eq_some_iff.mp h
  refine ⟨significand, _, y, digested hw hf, ?_, rfl⟩
  have hleft := hf.left_le
  have hexponent : (dropped : ℤ) - (t.fraction.length - left : Nat) + t.exponent.getD 0 =
      dropped + left + t.scale := by
    dsimp only at hleft
    unfold scale
    omega
  rw [← hexponent]
  exact hy

theorem value_nonpos (hwhole : ∀ c ∈ t.whole, c.isDigit = true)
    (hfraction : ∀ c ∈ t.fraction, c.isDigit = true) (h : t.float? = some x)
    (hexact : t.exact ≤ 0) : x.value ≤ 0 := by
  obtain ⟨significand, exponent, y, hdigested, hy, rfl⟩ := exists_digested hwhole hfraction h
  cases hsign : t.negative with
  | true => exact Binary64.value_nonpos_of_negative rfl
  | false =>
    rw [exact_of_not_negative hsign] at hexact
    have hscale : (0 : ℚ) < 10 ^ t.scale := by positivity
    have hdigits : t.digits = 0 := by
      have hle := nonpos_of_mul_nonpos_left hexact hscale
      exact Nat.le_zero.mp (by exact_mod_cast hle)
    rw [hdigested.zero hdigits] at hy
    have hmagnitude := Binary64.magnitude_of_ofScientific_zero hy
    have hunsigned : Binary64.magnitude ⟨false, y.significand, y.shift⟩ = 0 := hmagnitude
    exact (Binary64.value_eq_zero hunsigned).le

/-- The power of ten does not make a number of more than 64 bits smaller. -/
theorem Digested.exponent_nonneg (hdigested : t.Digested significand exponent)
    (hlarge : (maxNat64 : ℚ) < t.digits * 10 ^ t.scale) : 0 ≤ exponent := by
  by_contra hneg
  have hpow : (10 : ℚ) ^ exponent ≤ 10 ^ (-1 : ℤ) :=
    zpow_le_zpow_right₀ (by norm_num) (by omega)
  have hfits : (significand : ℚ) ≤ maxNat64 := by exact_mod_cast hdigested.fits
  have hupper := hdigested.upper
  have hproduct : (significand : ℚ) * 10 ^ exponent ≤ maxNat64 * 10 ^ (-1 : ℤ) :=
    mul_le_mul hfits hpow (by positivity) (by positivity)
  have hmax : (0 : ℚ) < maxNat64 := by unfold maxNat64; norm_num
  norm_num at hproduct
  linarith

theorem lt_value (hwhole : ∀ c ∈ t.whole, c.isDigit = true)
    (hfraction : ∀ c ∈ t.fraction, c.isDigit = true) (h : t.float? = some x)
    (hexact : (maxNat64 : ℚ) < t.exact) : (maxNat64 : ℚ) < 32 * x.value := by
  obtain ⟨significand, exponent, y, hdigested, hy, rfl⟩ := exists_digested hwhole hfraction h
  have hmax : (0 : ℚ) ≤ maxNat64 := Nat.cast_nonneg _
  have hsign : t.negative = false := by
    by_contra hnegative
    have := exact_nonpos_of_negative (Bool.not_eq_false _ ▸ hnegative)
    linarith
  rw [exact_of_not_negative hsign] at hexact
  obtain ⟨k, rfl⟩ := Int.eq_ofNat_of_zero_le (hdigested.exponent_nonneg hexact)
  have hupper := hdigested.upper
  rw [zpow_natCast] at hupper
  have hvalue : (significand * 10 ^ k : ℚ) ≤
      8 * Binary64.value { y with negative := t.negative } := by
    have hone : (0 : ℚ) < Binary64.one := Nat.cast_pos.mpr Binary64.one_pos
    have hle := Binary64.le_of_ofScientific hy
    rw [Binary64.value_of_not_negative hsign, ← mul_div_assoc, le_div_iff₀ hone]
    exact_mod_cast hle
  linarith

end Digested

/-! ### Reading the text of a number -/

/-- What follows a number does not go on with it. -/
def Halts (rest : List Char) : Prop :=
  ∀ c ∈ rest.head?, c.isDigit = false ∧ c ≠ '.' ∧ c ≠ 'e' ∧ c ≠ 'E'

theorem halts_nil : Halts [] := fun _ hc => absurd hc (Option.not_mem_none _)

theorem Halts.not_digit {rest : List Char} (h : Halts rest) :
    ∀ c ∈ rest.head?, c.isDigit = false :=
  fun c hc => (h c hc).1

theorem readPower_of_readSign {ds rest : List Char} {negative : Bool}
    (hsign : readSign cs = (negative, ds ++ rest)) (hds : Text.isDigits ds = true)
    (hr : Halts rest) :
    readPower cs =
      .ok (some (if negative then -(digitsValue 0 ds : Int) else digitsValue 0 ds), rest) := by
  obtain ⟨hne, hdigits⟩ := Text.isDigits_iff.mp hds
  rw [readPower, hsign]
  dsimp only
  rw [spanDigits_append hdigits hr.not_digit]
  simp [hne]

theorem readSign_of_isDigits {ds : List Char} (h : Text.isDigits ds = true) (rest : List Char) :
    readSign (ds ++ rest) = (false, ds ++ rest) := by
  obtain ⟨hne, hdigits⟩ := Text.isDigits_iff.mp h
  cases ds with
  | nil => simp at hne
  | cons c ds =>
    rw [List.cons_append]
    unfold readSign
    split
    · rename_i heq
      have hc := hdigits c List.mem_cons_self
      rw [(List.cons.inj heq).1] at hc
      exact absurd hc (by decide)
    · rename_i heq
      have hc := hdigits c List.mem_cons_self
      rw [(List.cons.inj heq).1] at hc
      exact absurd hc (by decide)
    · rfl

theorem readExponent_cons {letter : Char} (h : letter = 'e' ∨ letter = 'E') (rest : List Char) :
    readExponent (letter :: rest) = readPower rest := by
  rcases h with rfl | rfl <;> rfl

namespace WritesExponent

variable {exponent : Option Int} {rest : List Char}

/-- The number in front of a power of ten does not go on with it, and nor does what follows. -/
theorem not_digit (h : WritesExponent exponent cs) (hr : Halts rest) :
    ∀ c ∈ (cs ++ rest).head?, c.isDigit = false ∧ c ≠ '.' := by
  intro c hc
  cases h with
  | none => exact ⟨(hr c hc).1, (hr c hc).2.1⟩
  | unsigned hletter | positive hletter | negative hletter =>
    obtain rfl := Option.some.inj hc
    rcases hletter with rfl | rfl <;> decide

theorem read (h : WritesExponent exponent cs) (hr : Halts rest) :
    readExponent (cs ++ rest) = .ok (exponent, rest) := by
  cases h with
  | none =>
    rw [List.nil_append]
    unfold readExponent
    split
    · exact absurd rfl (hr 'e' rfl).2.2.1
    · exact absurd rfl (hr 'E' rfl).2.2.2
    · rfl
  | unsigned hletter hds =>
    rw [List.cons_append, readExponent_cons hletter,
      readPower_of_readSign (readSign_of_isDigits hds rest) hds hr]
    rfl
  | @positive _ ds hletter hds =>
    have hsign : readSign ('+' :: (ds ++ rest)) = (false, ds ++ rest) := rfl
    rw [List.cons_append, List.cons_append, readExponent_cons hletter,
      readPower_of_readSign hsign hds hr]
    rfl
  | @negative _ ds hletter hds =>
    have hsign : readSign ('-' :: (ds ++ rest)) = (true, ds ++ rest) := rfl
    rw [List.cons_append, List.cons_append, readExponent_cons hletter,
      readPower_of_readSign hsign hds hr]
    rfl

end WritesExponent

namespace WritesFraction

variable {fraction written rest : List Char}

theorem digits (h : WritesFraction fraction written) : ∀ c ∈ fraction, c.isDigit = true := by
  cases h with
  | none => simp
  | some hds => exact (Text.isDigits_iff.mp hds).2

theorem not_digit (h : WritesFraction fraction written)
    (hr : ∀ c ∈ rest.head?, c.isDigit = false ∧ c ≠ '.') :
    ∀ c ∈ (written ++ rest).head?, c.isDigit = false := by
  intro c hc
  cases h with
  | none => exact (hr c hc).1
  | some hds =>
    obtain rfl := Option.some.inj hc
    decide

theorem read (h : WritesFraction fraction written)
    (hr : ∀ c ∈ rest.head?, c.isDigit = false ∧ c ≠ '.') :
    readFraction (written ++ rest) = .ok (fraction, rest) := by
  cases h with
  | none =>
    rw [List.nil_append]
    unfold readFraction
    split
    · exact absurd rfl (hr '.' rfl).2
    · rfl
  | some hds =>
    obtain ⟨hne, hdigits⟩ := Text.isDigits_iff.mp hds
    rw [List.cons_append, readFraction, spanDigits_append hdigits fun c hc => (hr c hc).1]
    simp [hne]

end WritesFraction

/-- A number is read as it is written. -/
theorem Written.read {rest : List Char} (h : t.Written cs) (hr : Halts rest) :
    readNumberText (cs ++ rest) = .ok (t, rest) := by
  obtain ⟨fraction, exponent, hfraction, hexponent, rfl⟩ := h.parts
  obtain ⟨hne, hwhole⟩ := Text.isDigits_iff.mp h.whole
  have hzero : (t.whole.head? == some '0' && decide (1 < t.whole.length)) = false := by
    by_cases hhead : t.whole.head? = some '0'
    · rw [h.canonical hhead]
      rfl
    · simp [hhead]
  have hread : ∀ negative, readUnsigned negative (t.whole ++ (fraction ++ (exponent ++ rest))) =
      .ok (⟨negative, t.whole, t.fraction, t.exponent⟩, rest) := by
    intro negative
    have hafter := hexponent.not_digit hr
    simp only [readUnsigned, spanDigits_append hwhole (hfraction.not_digit hafter), hne,
      hzero, Bool.or_self, Bool.false_eq_true, if_false, bind, Except.bind,
      hfraction.read hafter, hexponent.read hr, pure, Except.pure]
  simp only [List.append_assoc]
  cases hsign : t.negative with
  | true =>
    rw [if_pos rfl, List.cons_append, List.nil_append, readNumberText, hread, ← hsign]
  | false =>
    rw [if_neg Bool.false_ne_true, List.nil_append]
    unfold readNumberText
    split
    · rename_i tail heq
      have hminus : '-' ∈ t.whole := by
        cases hdigits : t.whole with
        | nil => simp [hdigits] at hne
        | cons c ds =>
          rw [hdigits, List.cons_append] at heq
          rw [(List.cons.inj heq).1]
          exact List.mem_cons_self
      exact absurd (hwhole '-' hminus) (by decide)
    · rw [hread, ← hsign]

theorem spanDigits_eq (cs : List Char) : (spanDigits cs).1 ++ (spanDigits cs).2 = cs := by
  rw [spanDigits, List.span_eq_takeWhile_dropWhile]
  exact List.takeWhile_append_dropWhile

theorem isDigits_spanDigits (h : ¬ (spanDigits cs).1.isEmpty = true) :
    Text.isDigits (spanDigits cs).1 = true := by
  refine Text.isDigits_iff.mpr ⟨Bool.eq_false_iff.mpr h, fun c hc => ?_⟩
  rw [spanDigits, List.span_eq_takeWhile_dropWhile] at hc
  exact List.mem_takeWhile_imp hc

theorem writesFraction_of_readFraction {fraction rest : List Char}
    (h : readFraction cs = .ok (fraction, rest)) :
    ∃ written, WritesFraction fraction written ∧ cs = written ++ rest := by
  unfold readFraction at h
  split at h
  · dsimp only at h
    split at h
    · cases h
    · rename_i hne
      obtain ⟨rfl, rfl⟩ := Prod.mk.inj (Except.ok.inj h)
      exact ⟨_, .some (isDigits_spanDigits hne), by rw [List.cons_append, spanDigits_eq]⟩
  · obtain ⟨rfl, rfl⟩ := Prod.mk.inj (Except.ok.inj h)
    exact ⟨[], .none, rfl⟩

/-- What is read behind the letter of a power of ten: digits, and perhaps a sign before them. -/
theorem of_readPower {exponent : Option Int} {rest : List Char}
    (h : readPower cs = .ok (exponent, rest)) : ∃ ds, Text.isDigits ds = true ∧
      (cs = ds ++ rest ∧ exponent = some (digitsValue 0 ds : Int) ∨
        cs = '+' :: (ds ++ rest) ∧ exponent = some (digitsValue 0 ds : Int) ∨
        cs = '-' :: (ds ++ rest) ∧ exponent = some (-(digitsValue 0 ds : Int))) := by
  rw [readPower] at h
  dsimp only at h
  split at h
  · cases h
  · rename_i hne
    obtain ⟨rfl, rfl⟩ := Prod.mk.inj (Except.ok.inj h)
    refine ⟨_, isDigits_spanDigits hne, ?_⟩
    rw [spanDigits_eq]
    unfold readSign
    split
    · exact Or.inr (Or.inr ⟨rfl, rfl⟩)
    · exact Or.inr (Or.inl ⟨rfl, rfl⟩)
    · exact Or.inl ⟨rfl, rfl⟩

theorem writesExponent_of_readExponent {exponent : Option Int} {rest : List Char}
    (h : readExponent cs = .ok (exponent, rest)) :
    ∃ written, WritesExponent exponent written ∧ cs = written ++ rest := by
  have hpower : ∀ {letter : Char} {ds : List Char}, letter = 'e' ∨ letter = 'E' →
      readPower ds = .ok (exponent, rest) →
        ∃ written, WritesExponent exponent written ∧ letter :: ds = written ++ rest := by
    intro letter ds hletter hread
    obtain ⟨digits, hdigits, ⟨rfl, rfl⟩ | ⟨rfl, rfl⟩ | ⟨rfl, rfl⟩⟩ := of_readPower hread
    · exact ⟨_, .unsigned hletter hdigits, rfl⟩
    · exact ⟨_, .positive hletter hdigits, rfl⟩
    · exact ⟨_, .negative hletter hdigits, rfl⟩
  unfold readExponent at h
  split at h
  · exact hpower (Or.inl rfl) h
  · exact hpower (Or.inr rfl) h
  · obtain ⟨rfl, rfl⟩ := Prod.mk.inj (Except.ok.inj h)
    exact ⟨[], .none, rfl⟩

/-- The parts of a number behind its sign. -/
theorem of_readUnsigned {negative : Bool} {rest : List Char}
    (h : readUnsigned negative cs = .ok (t, rest)) :
    t.negative = negative ∧ Text.isDigits t.whole = true ∧
      (t.whole.head? = some '0' → t.whole = ['0']) ∧
      ∃ fraction exponent, WritesFraction t.fraction fraction ∧
        WritesExponent t.exponent exponent ∧
        cs = t.whole ++ (fraction ++ (exponent ++ rest)) := by
  rw [readUnsigned] at h
  dsimp only at h
  split at h
  · cases h
  · rename_i hshape
    obtain ⟨⟨fraction, afterFraction⟩, hfraction, h⟩ := ok_of_bind h
    obtain ⟨⟨exponent, afterExponent⟩, hexponent, h⟩ := ok_of_bind h
    obtain ⟨rfl, rfl⟩ := Prod.mk.inj (Except.ok.inj h)
    obtain ⟨hne, hzero⟩ := not_or.mp (mt (Bool.or_eq_true ..).mpr hshape)
    obtain ⟨f, hf, hafter⟩ := writesFraction_of_readFraction hfraction
    obtain ⟨e, he, hrest⟩ := writesExponent_of_readExponent hexponent
    refine ⟨rfl, isDigits_spanDigits hne, fun hhead => ?_, f, e, hf, he, ?_⟩
    · -- A zero in front is the only digit.
      dsimp only at hhead hzero ⊢
      cases hwhole : (spanDigits cs).1 with
      | nil => simp [hwhole] at hhead
      | cons c ds =>
        rw [hwhole] at hhead hzero
        obtain rfl := Option.some.inj hhead
        cases ds with
        | nil => rfl
        | cons d ds => simp at hzero
    · dsimp only at hafter hrest ⊢
      rw [← hrest, ← hafter, spanDigits_eq]

/-- **What is read as a number is written so.** -/
theorem written_of_readNumberText {rest : List Char} (h : readNumberText cs = .ok (t, rest)) :
    ∃ written, t.Written written ∧ cs = written ++ rest := by
  unfold readNumberText at h
  split at h
  · obtain ⟨hsign, hwhole, hcanonical, f, e, hf, he, rfl⟩ := of_readUnsigned h
    refine ⟨_, ⟨hwhole, hcanonical, f, e, hf, he, rfl⟩, ?_⟩
    simp [hsign]
  · obtain ⟨hsign, hwhole, hcanonical, f, e, hf, he, rfl⟩ := of_readUnsigned h
    refine ⟨_, ⟨hwhole, hcanonical, f, e, hf, he, rfl⟩, ?_⟩
    simp [hsign]

theorem Written.fraction_digits (h : t.Written cs) : ∀ c ∈ t.fraction, c.isDigit = true := by
  obtain ⟨_, _, hfraction, -⟩ := h.parts
  exact hfraction.digits

theorem Written.whole_digits (h : t.Written cs) : ∀ c ∈ t.whole, c.isDigit = true :=
  (Text.isDigits_iff.mp h.whole).2

theorem Written.startsNumber (h : t.Written cs) :
    ∃ c rest, cs = c :: rest ∧ startsNumber c = true := by
  obtain ⟨fraction, exponent, -, -, rfl⟩ := h.parts
  cases hsign : t.negative with
  | true => exact ⟨'-', _, rfl, by decide⟩
  | false =>
    obtain ⟨hne, hdigits⟩ := Text.isDigits_iff.mp h.whole
    cases hwhole : t.whole with
    | nil => simp [hwhole] at hne
    | cons c ds =>
      have hc : c.isDigit = true := hdigits c (by simp [hwhole])
      exact ⟨c, _, rfl, by simp [Json.startsNumber, hc]⟩

/-! ### What a number comes to -/

/-- A number without fraction and exponent is the integer of its digits. -/
theorem exact_of_plain (h : t.Plain) : t.exact = t.integer := by
  obtain ⟨hfraction, hexponent⟩ := h
  unfold exact integer digits scale
  rw [hfraction, hexponent]
  cases t.negative <;> simp

theorem value?_of_plain (h : t.Plain) {n : ℤ} (hexact : t.exact = n) (hpos : 1 ≤ n)
    (hmax : n ≤ maxNat64) : t.value? = some (.int n) := by
  have hinteger : t.integer = n := by
    rw [exact_of_plain h] at hexact
    exact_mod_cast hexact
  have hmin : minInt64 ≤ n := le_trans (by decide) hpos
  have hne : (n == 0) = false := by
    rw [beq_eq_false_iff_ne]
    omega
  simp [value?, isInteger, h.1, h.2, hinteger, hmin, hmax, hne]

/-- An integer that has been read is the exact value of the text. -/
theorem exact_of_value?_int {n : ℤ} (h : t.value? = some (.int n)) : t.exact = n := by
  unfold value? at h
  split at h
  · rename_i hinteger
    simp only [isInteger, Bool.and_eq_true, List.isEmpty_iff, Option.isNone_iff_eq_none]
      at hinteger
    cases h
    exact exact_of_plain ⟨hinteger.1.1.1.1, hinteger.1.1.1.2⟩
  · obtain ⟨x, -, hx⟩ := Option.map_eq_some_iff.mp h
    cases hx

theorem float?_of_value? (h : t.value? = some (.float x)) : t.float? = some x := by
  unfold value? at h
  split at h
  · cases h
  · obtain ⟨y, hy, hx⟩ := Option.map_eq_some_iff.mp h
    cases hx
    exact hy

end NumberText

/-- **What a text comes to that is a number.** -/
theorem parse_of_written {t : NumberText} {text : String} (h : t.Written text.toList) :
    parse text = match t.value? with
      | some n => .ok (.number n)
      | none => .error .malformed := by
  obtain ⟨c, rest, hcs, hstarts⟩ := h.startsNumber
  have hread : readNumber text.toList = match t.value? with
      | some n => .ok (n, [])
      | none => .error .malformed := by
    have htext := h.read NumberText.halts_nil
    rw [List.append_nil] at htext
    cases hnumber : t.value? <;>
      simp only [readNumber, htext, bind, Except.bind, hnumber]
  have hvalue : readValue maxDepth text.toList =
      (readNumber text.toList).map fun p => (.number p.1, p.2) := by
    rw [hcs]
    exact readValueWith_startsNumber hstarts rest _
  rw [parse, decode, hvalue, hread]
  cases t.value? <;> rfl

end SessionAuth.Json
