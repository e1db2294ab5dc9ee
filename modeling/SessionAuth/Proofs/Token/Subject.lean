import SessionAuth.Proofs.Json.Numbers
import SessionAuth.Token.Claims

/-!
# The user whom a claim spells

A claim may spell a user id as a decimal text, as a plain integer, or as a number with a fraction
or an exponent, which is read as a binary64 number. Whichever it is, the claim names the user whose
id it spells, or nobody, with one exception: `2^53 + 1` has two nearest binary64 numbers, and `2^53`
is one of them.

* `Form`, `Spells`: the ways to spell an integer as the value of a claim.
* `exactNat?_eq_some_iff`: which binary64 numbers are taken for whole numbers.
* `error_of_outside`: numbers that are no ids are refused, however they are spelt.
* `Judges`: what the value of a claim comes to.
* `judges_of_spells`: the main statement.
-/

namespace SessionAuth.Claims

open Json (NumberText parse)

/-! ## Spellings -/

/-- How a number is spelt. -/
inductive Form where
  /-- As a decimal text, perhaps with a plus sign, zeros in front and white space around it. -/
  | quoted
  /-- As a number without fraction and exponent. -/
  | plain
  /-- As a number with a fraction or an exponent. -/
  | scaled
deriving DecidableEq, Repr

/-- The value spells the integer: as a string, or as the parser reads the text of a number whose
exact value is the integer. -/
inductive Spells (m : ℤ) : Form → Json → Prop
  | quoted {s : String} (h : Text.Spells s m) : Spells m .quoted (.string s)
  | plain {t : NumberText} {text : String} {value : Json} (written : t.Written text.toList)
      (plain : t.Plain) (exact : t.exact = m) (parsed : parse text = .ok value) :
      Spells m .plain value
  | scaled {t : NumberText} {text : String} {value : Json} (written : t.Written text.toList)
      (notPlain : ¬ t.Plain) (exact : t.exact = m) (parsed : parse text = .ok value) :
      Spells m .scaled value

/-- The value is the binary64 number that is nearest to the integer, or one of the two that are. -/
def IsNearest (m : ℤ) (value : Json) : Prop :=
  ∃ x : Binary64, value = .number (.float x) ∧ x.Nearest m

/-! ## Numbers in claims -/

theorem exactLimit_eq : exactLimit = 2 * Binary64.minSignificand := by decide

/-- **Which binary64 numbers are taken for whole numbers**: those that are one, up to `2^53`. -/
theorem exactNat?_eq_some_iff {x : Binary64} {n : Nat} :
    exactNat? x = some n ↔ x.value = n ∧ n ≤ exactLimit := by
  have hcondition : (x.isWhole && (!x.negative || x.significand == 0) &&
      decide (x.wholePart ≤ exactLimit)) = true ↔
      x.magnitude % Binary64.one = 0 ∧ (x.negative = false ∨ x.significand = 0) ∧
        x.wholePart ≤ exactLimit := by
    simp [Binary64.isWhole, and_assoc]
  rw [Binary64.value_eq_natCast_iff]
  unfold exactNat?
  rw [Option.ite_none_right_eq_some, hcondition, Option.some.injEq]
  constructor
  · rintro ⟨⟨hmod, hsign, hlimit⟩, rfl⟩
    exact ⟨⟨(Nat.div_mul_cancel (Nat.dvd_of_mod_eq_zero hmod)).symm, hsign⟩, hlimit⟩
  · rintro ⟨⟨hmagnitude, hsign⟩, hlimit⟩
    have hwhole : x.wholePart = n := by
      rw [Binary64.wholePart, hmagnitude, Nat.mul_div_cancel _ Binary64.one_pos]
    rw [hwhole, hmagnitude, Nat.mul_mod_left]
    exact ⟨⟨rfl, hsign, hlimit⟩, rfl⟩

section Judged

variable {value : Json} {id : UserId} {m : ℤ} {form : Form}

theorem userIdOf_eq_ok_iff : userIdOf value = .ok id ↔ natOf? value = some id.val := by
  unfold userIdOf
  cases hnat : natOf? value with
  | none => simp
  | some n =>
    cases hid : UserId.ofNat? n with
    | none =>
      have hne : n ≠ id.val := by
        rintro rfl
        rw [UserId.ofNat?_eq_some_iff.mpr rfl] at hid
        cases hid
      simp [hid, hne]
    | some other =>
      obtain rfl := UserId.ofNat?_eq_some_iff.mp hid
      simp [hid, UserId.ext_iff]

theorem userIdOf_eq_error (h : ∀ id, userIdOf value ≠ .ok id) :
    userIdOf value = .error .invalidSubject := by
  unfold userIdOf at h ⊢
  split
  · rename_i id hid
    rw [hid] at h
    exact absurd rfl (h id)
  · rfl

/-! ## What the forms come to -/

theorem natOf?_of_quoted {s : String} (h : Text.Spells s m) :
    (∃ n : Nat, natOf? (.string s) = some n ∧ n = m ∧ n ≤ maxNat64) ∨
      natOf? (.string s) = none ∧ (m ≤ 0 ∨ maxNat64 < m) :=
  Text.readNat?_of_signed h.signed_trim maxNat64

/-- A number is read as the integer that it spells, or as a binary64 number. -/
theorem number_of_parsed {t : NumberText} {text : String} (written : t.Written text.toList)
    (exact : t.exact = m) (parsed : parse text = .ok value) :
    value = .int m ∨ ∃ x, value = .number (.float x) ∧ t.value? = some (.float x) := by
  rw [Json.parse_of_written written] at parsed
  cases hvalue : t.value? with
  | none =>
    rw [hvalue] at parsed
    cases parsed
  | some number =>
    rw [hvalue] at parsed
    obtain rfl := Except.ok.inj parsed
    cases number with
    | int n =>
      have hn := (NumberText.exact_of_value?_int hvalue).symm.trans exact
      obtain rfl : n = m := by exact_mod_cast hn
      exact Or.inl rfl
    | float x => exact Or.inr ⟨x, rfl, rfl⟩

theorem natOf?_int_eq_some_iff {n : Nat} : natOf? (.int m) = some n ↔ m = n := by
  change (if m < 0 then none else some m.toNat) = some n ↔ m = n
  split
  · simp
    omega
  · rw [Option.some.injEq]
    omega

/-- A number outside of the ids is never read as one of them, whatever rounding does to it. -/
theorem not_ok_of_float {t : NumberText} {cs : List Char} {x : Binary64} (written : t.Written cs)
    (exact : t.exact = m) (hvalue : t.value? = some (.float x)) (hm : m ≤ 0 ∨ maxNat64 < m) :
    ∀ id : UserId, natOf? (.number (.float x)) ≠ some id.val := by
  intro id hread
  obtain ⟨hid, hlimit⟩ := exactNat?_eq_some_iff.mp hread
  have hpos : (0 : ℚ) < id.val := Nat.cast_pos.mpr id.pos
  have hfloat := NumberText.float?_of_value? hvalue
  rcases hm with hm | hm
  · have hnonpos := NumberText.value_nonpos written.whole_digits written.fraction_digits hfloat
      (by rw [exact]; exact_mod_cast hm)
    linarith
  · have hlarge := NumberText.lt_value written.whole_digits written.fraction_digits hfloat
      (by rw [exact]; exact_mod_cast hm)
    have hsmall : 32 * (id.val : ℚ) ≤ maxNat64 := by
      have hbound : 32 * exactLimit ≤ maxNat64 := by decide
      exact_mod_cast (Nat.mul_le_mul_left 32 hlimit).trans hbound
    rw [hid] at hlarge
    linarith

theorem not_ok_of_number {t : NumberText} {text : String} (written : t.Written text.toList)
    (exact : t.exact = m) (parsed : parse text = .ok value) (hm : m ≤ 0 ∨ maxNat64 < m) :
    ∀ id : UserId, natOf? value ≠ some id.val := by
  rcases number_of_parsed written exact parsed with rfl | ⟨x, rfl, hvalue⟩
  · intro id hread
    have hid := natOf?_int_eq_some_iff.mp hread
    have hpos := id.pos
    have hmax := id.le_max
    omega
  · exact not_ok_of_float written exact hvalue hm

/-- **Numbers that are no ids are refused**, however they are spelt. -/
theorem error_of_outside (h : Spells m form value) (hm : m ≤ 0 ∨ maxNat64 < m) :
    userIdOf value = .error .invalidSubject := by
  refine userIdOf_eq_error fun id hid => ?_
  rw [userIdOf_eq_ok_iff] at hid
  cases h with
  | quoted hs =>
    rcases natOf?_of_quoted hs with ⟨n, hn, rfl, hmax⟩ | ⟨hnone, -⟩
    · obtain rfl := Option.some.inj (hn.symm.trans hid)
      have hpos := id.pos
      omega
    · rw [hnone] at hid
      cases hid
  | plain written _ exact parsed => exact not_ok_of_number written exact parsed hm id hid
  | scaled written _ exact parsed => exact not_ok_of_number written exact parsed hm id hid

/-- The binary64 number that is nearest to an integer names this integer, if it names anybody,
or the integer is `2^53 + 1`. -/
theorem eq_of_nearest {x : Binary64} {n : Nat} (hm : 0 < m) (hnearest : x.Nearest m)
    (h : exactNat? x = some n) : (n : ℤ) = m ∨ m = exactLimit + 1 ∧ n = exactLimit := by
  obtain ⟨k, rfl⟩ := Int.eq_ofNat_of_zero_le hm.le
  obtain ⟨hvalue, hlimit⟩ := exactNat?_eq_some_iff.mp h
  rw [exactLimit_eq] at hlimit ⊢
  have hcast : x.Nearest (k : ℚ) := by exact_mod_cast hnearest
  have hatLeast : ∀ l : Binary64, l.Normal → ∀ j : Nat, l.value = j → j ≤ k → j ≤ n := by
    intro l hl j hj hle
    have hbound := hcast.value_le hl (by rw [hj]; exact_mod_cast hle)
    rw [hj, hvalue] at hbound
    exact_mod_cast hbound
  rcases Nat.lt_trichotomy k (2 * Binary64.minSignificand + 1) with hlt | rfl | hgt
  · have hk := hcast.value_eq (Nat.le_of_lt_succ hlt)
    rw [hvalue] at hk
    exact Or.inl (by exact_mod_cast hk)
  · have hn := hatLeast _ Binary64.normal_limit _ Binary64.value_limit (Nat.le_succ _)
    exact Or.inr ⟨by push_cast; rfl, le_antisymm hlimit hn⟩
  · have hn := hatLeast _ Binary64.normal_afterLimit _ Binary64.value_afterLimit hgt
    omega

/-- The claims carry the value where a user id is looked for: under the key for user ids, or as the
subject if there is nothing under that key. -/
def Carries (claims : Claims) (value : Json) : Prop :=
  claims.get? userIdKey = some value ∨
    claims.get? userIdKey = none ∧ claims.get? subjectKey = some value

/-- What the value of a claim comes to, alone and as part of any claims that carry it. -/
def Judges (value : Json) (result : Except AuthError UserId) : Prop :=
  userIdOf value = result ∧ ∀ claims : Claims, claims.Carries value → claims.subject = result

theorem judges_iff {result : Except AuthError UserId} :
    Judges value result ↔ userIdOf value = result := by
  refine ⟨And.left, fun h => ⟨h, fun claims hcarries => ?_⟩⟩
  rw [subject]
  rcases hcarries with huser | ⟨hnone, hsubject⟩
  · rw [huser, Option.some_or]
    exact h
  · rw [hnone, hsubject, Option.none_or]
    exact h

theorem judges_ok_iff : Judges value (.ok id) ↔ natOf? value = some id.val :=
  judges_iff.trans userIdOf_eq_ok_iff

theorem named_of_spells (h : Spells m form value) (hnearest : form = .scaled → IsNearest m value)
    (hread : natOf? value = some id.val) :
    (id.val : ℤ) = m ∨ form = .scaled ∧ m = exactLimit + 1 ∧ id.val = exactLimit := by
  have hinside : 0 < m ∧ m ≤ maxNat64 := by
    by_contra houtside
    have herror := error_of_outside h (by omega)
    rw [userIdOf_eq_ok_iff.mpr hread] at herror
    cases herror
  cases h with
  | quoted hs =>
    rcases natOf?_of_quoted hs with ⟨n, hn, rfl, -⟩ | ⟨hnone, -⟩
    · obtain rfl := Option.some.inj (hn.symm.trans hread)
      exact Or.inl rfl
    · rw [hnone] at hread
      cases hread
  | plain written plain exact parsed =>
    rcases number_of_parsed written exact parsed with rfl | ⟨x, rfl, hvalue⟩
    · exact Or.inl (natOf?_int_eq_some_iff.mp hread).symm
    · -- An integer of 64 bits is not read as a binary64 number.
      rw [NumberText.value?_of_plain plain exact hinside.1 hinside.2] at hvalue
      cases hvalue
  | scaled =>
    obtain ⟨x, rfl, hx⟩ := hnearest rfl
    rcases eq_of_nearest hinside.1 hx hread with heq | hlimit
    · exact Or.inl heq
    · exact Or.inr ⟨rfl, hlimit⟩

theorem read_of_quoted {s : String} (h : Text.Spells s id.val) :
    natOf? (.string s) = some id.val := by
  have hpos := id.pos
  have hmax := id.le_max
  rcases natOf?_of_quoted h with ⟨n, hn, heq, -⟩ | ⟨-, houtside⟩
  · obtain rfl : n = id.val := by exact_mod_cast heq
    exact hn
  · omega

theorem read_of_plain {t : NumberText} {text : String} (written : t.Written text.toList)
    (plain : t.Plain) (exact : t.exact = (id.val : ℤ)) :
    parse text = .ok (.int id.val) ∧ natOf? (.int id.val) = some id.val := by
  have hpos := id.pos
  have hmax := id.le_max
  refine ⟨?_, natOf?_int_eq_some_iff.mpr rfl⟩
  rw [Json.parse_of_written written,
    NumberText.value?_of_plain plain exact (by omega) (by omega)]
  rfl

theorem read_of_nearest (h : IsNearest id.val value) (hlimit : id.val ≤ exactLimit) :
    natOf? value = some id.val := by
  obtain ⟨x, rfl, hx⟩ := h
  have hcast : x.Nearest (id.val : ℚ) := by exact_mod_cast hx
  exact exactNat?_eq_some_iff.mpr ⟨hcast.value_eq (exactLimit_eq ▸ hlimit), hlimit⟩

/-- **A claim names the user whom it spells, or nobody.** Take any integer and any spelling of it,
where a number with a fraction or an exponent has been read as a nearest binary64 number. Then the
claim is refused, or it names the user whose id the integer is; only `2^53 + 1` with a fraction or
an exponent may be taken for `2^53`. What is no id is refused, however it is read. An id is
accepted as a text and as a plain integer, and up to `2^53` also as a binary64 number. -/
theorem judges_of_spells (m : ℤ) :
    (∀ form value, Spells m form value → (form = .scaled → IsNearest m value) →
      Judges value (.error .invalidSubject) ∨ ∃ id : UserId, Judges value (.ok id) ∧
        ((id.val : ℤ) = m ∨ form = .scaled ∧ m = exactLimit + 1 ∧ id.val = exactLimit)) ∧
    (m ≤ 0 ∨ maxNat64 < m → ∀ form value, Spells m form value →
      Judges value (.error .invalidSubject)) ∧
    (1 ≤ m → m ≤ maxNat64 → ∃ id : UserId, (id.val : ℤ) = m ∧
      (∀ s, Text.Spells s m → Judges (.string s) (.ok id)) ∧
      (∀ (t : NumberText) text, t.Written text.toList → t.Plain → t.exact = m →
        ∃ value, parse text = .ok value ∧ Judges value (.ok id)) ∧
      ∀ value, m ≤ exactLimit → IsNearest m value → Judges value (.ok id)) := by
  refine ⟨fun form value h hnearest => ?_, fun hm form value h => ?_, fun hpos hmax => ?_⟩
  · by_cases hok : ∃ id, userIdOf value = .ok id
    · obtain ⟨id, hid⟩ := hok
      refine Or.inr ⟨id, judges_iff.mpr hid, ?_⟩
      exact named_of_spells h hnearest (userIdOf_eq_ok_iff.mp hid)
    · exact Or.inl (judges_iff.mpr (userIdOf_eq_error fun id hid => hok ⟨id, hid⟩))
  · exact judges_iff.mpr (error_of_outside h hm)
  · obtain ⟨n, rfl⟩ := Int.eq_ofNat_of_zero_le (Int.le_of_lt hpos)
    obtain ⟨id, rfl⟩ : ∃ id : UserId, id.val = n :=
      ⟨⟨n, by omega, by omega⟩, rfl⟩
    refine ⟨id, rfl, fun s hs => judges_ok_iff.mpr (read_of_quoted hs), ?_, ?_⟩
    · intro t text written plain exact
      obtain ⟨hparse, hread⟩ := read_of_plain written plain exact
      exact ⟨_, hparse, judges_ok_iff.mpr hread⟩
    · intro value hlimit hnearest
      exact judges_ok_iff.mpr (read_of_nearest hnearest (by exact_mod_cast hlimit))

end Judged

/-! ## Three spellings of an id -/

/-- The text `42`. -/
def fortyTwo : NumberText := ⟨false, ['4', '2'], [], none⟩

theorem written_fortyTwo : fortyTwo.Written "42".toList where
  whole := by decide
  canonical := by decide
  parts := ⟨[], [], .none, .none, by decide⟩

theorem exact_fortyTwo : fortyTwo.exact = (42 : ℤ) := by
  have hdigits : fortyTwo.digits = 42 := by decide
  have hscale : fortyTwo.scale = 0 := rfl
  rw [NumberText.exact_of_not_negative rfl, hdigits, hscale]
  norm_num

/-- The text `42.0`. -/
def fortyTwoPoint : NumberText := ⟨false, ['4', '2'], ['0'], none⟩

theorem written_fortyTwoPoint : fortyTwoPoint.Written "42.0".toList where
  whole := by decide
  canonical := by decide
  parts := ⟨['.', '0'], [], .some (by decide), .none, by decide⟩

theorem exact_fortyTwoPoint : fortyTwoPoint.exact = (42 : ℤ) := by
  have hdigits : fortyTwoPoint.digits = 420 := by decide
  have hscale : fortyTwoPoint.scale = -1 := rfl
  rw [NumberText.exact_of_not_negative rfl, hdigits, hscale]
  norm_num

/-- The binary64 number `42`. -/
def floatFortyTwo : Binary64 := ⟨false, 42 * 2 ^ 47, 1027⟩

theorem isNearest_fortyTwo : IsNearest 42 (.number (.float floatFortyTwo)) := by
  have hvalue : floatFortyTwo.value = (42 : Nat) :=
    Binary64.value_eq_natCast rfl (by decide +kernel)
  have hnearest := Binary64.nearest_value (x := floatFortyTwo) (by decide)
  rw [hvalue] at hnearest
  exact ⟨_, rfl, by exact_mod_cast hnearest⟩

theorem parse_fortyTwoPoint : parse "42.0" = .ok (.number (.float floatFortyTwo)) := by
  have hvalue : fortyTwoPoint.value? = some (.float floatFortyTwo) := by decide +kernel
  rw [Json.parse_of_written written_fortyTwoPoint, hvalue]

theorem spells_fortyTwoPoint : Spells 42 .scaled (.number (.float floatFortyTwo)) :=
  .scaled written_fortyTwoPoint (by simp [NumberText.Plain, fortyTwoPoint]) exact_fortyTwoPoint
    parse_fortyTwoPoint

theorem spells_fortyTwo : Text.Spells " +0042\n" 42 := by
  have hsigned : Text.Signed "+0042".toList 42 :=
    Text.Signed.positive (by decide : Text.isDigits ['0', '0', '4', '2'] = true)
  have hspace : Text.isBlank ' ' = true := by decide
  have hline : Text.isBlank '\n' = true := by decide
  exact ⟨[' '], _, ['\n'], rfl, hsigned, by simpa using hspace, by simpa using hline⟩

theorem spells_minusFive : Text.Spells "-5" (-5) := by
  have hsigned : Text.Signed "-5".toList (-5) :=
    Text.Signed.negative (by decide : Text.isDigits ['5'] = true)
  exact ⟨[], _, [], rfl, hsigned, by simp, by simp⟩

/-- Three spellings name the same user, and a negative number names nobody. -/
theorem judges_fortyTwo :
    (∃ id : UserId, (id.val : ℤ) = 42 ∧ Judges (.string " +0042\n") (.ok id) ∧
      (∃ value, parse "42" = .ok value ∧ Judges value (.ok id)) ∧
      ∃ value, parse "42.0" = .ok value ∧ Judges value (.ok id) ∧
        ∀ id', Judges value (.ok id') → (id'.val : ℤ) = 42) ∧
    Judges (.string "-5") (.error .invalidSubject) := by
  obtain ⟨hnamed, -, haccepted⟩ := judges_of_spells 42
  obtain ⟨-, hrefused, -⟩ := judges_of_spells (-5)
  obtain ⟨id, hid, hquoted, hplain, hscaled⟩ := haccepted (by decide) (by decide)
  refine ⟨⟨id, hid, hquoted _ spells_fortyTwo, ?_, _, parse_fortyTwoPoint, ?_, ?_⟩, ?_⟩
  · exact hplain _ _ written_fortyTwo ⟨rfl, rfl⟩ exact_fortyTwo
  · exact hscaled _ (by decide) isNearest_fortyTwo
  · intro id' hjudges
    rcases hnamed _ _ spells_fortyTwoPoint fun _ => isNearest_fortyTwo with herror | hok
    · cases (judges_iff.mp herror).symm.trans (judges_iff.mp hjudges)
    · obtain ⟨other, hother, hval | ⟨-, hlimit, -⟩⟩ := hok
      · obtain rfl : other = id' :=
          Except.ok.inj ((judges_iff.mp hother).symm.trans (judges_iff.mp hjudges))
        exact hval
      · exact absurd hlimit (by decide)
  · exact hrefused (Or.inl (by decide)) _ _ (.quoted spells_minusFive)

/-! ## The number after the limit -/

/-- The rule as it is meant: a claim names the user whose id it spells, or nobody. -/
def NamesAsSpelt : Prop :=
  ∀ m form value, Spells m form value → (form = .scaled → IsNearest m value) →
    ∀ id : UserId, Judges value (.ok id) → (id.val : ℤ) = m

/-- The text `9007199254740993e0`, which is `2^53 + 1`. -/
def afterLimit : NumberText := ⟨false, "9007199254740993".toList, [], some 0⟩

theorem written_afterLimit : afterLimit.Written "9007199254740993e0".toList where
  whole := by decide
  canonical := by decide
  parts := by
    refine ⟨[], ['e', '0'], .none, ?_, by decide⟩
    exact .unsigned (Or.inl rfl) (by decide : Text.isDigits ['0'] = true)

theorem exact_afterLimit : afterLimit.exact = ((exactLimit + 1 : ℕ) : ℤ) := by
  have hdigits : afterLimit.digits = exactLimit + 1 := by decide
  have hscale : afterLimit.scale = 0 := rfl
  rw [NumberText.exact_of_not_negative rfl, hdigits, hscale]
  simp

/-- The id `2^53` is named by the spelling of the next one. -/
theorem not_namesAsSpelt : ¬ NamesAsSpelt := by
  intro hnames
  have hvalue : afterLimit.value? = some (.float Binary64.limit) := by decide +kernel
  have hparse : parse "9007199254740993e0" = .ok (.number (.float Binary64.limit)) := by
    rw [Json.parse_of_written written_afterLimit, hvalue]
  have hnearest : IsNearest ((exactLimit + 1 : ℕ) : ℤ) (.number (.float Binary64.limit)) := by
    refine ⟨_, rfl, ?_⟩
    rw [exactLimit_eq]
    exact_mod_cast Binary64.nearest_tie
  have hspells := Spells.scaled written_afterLimit (by simp [NumberText.Plain, afterLimit])
    exact_afterLimit hparse
  have hjudges : Judges (.number (.float Binary64.limit))
      (.ok ⟨exactLimit, by decide, by decide⟩) :=
    judges_ok_iff.mpr (exactNat?_eq_some_iff.mpr ⟨Binary64.value_limit, le_rfl⟩)
  have hsame := hnames _ _ _ hspells (fun _ => hnearest) _ hjudges
  exact absurd hsame (by decide)

end SessionAuth.Claims
