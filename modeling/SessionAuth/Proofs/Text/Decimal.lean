import Mathlib.Algebra.Group.Nat.Defs
import SessionAuth.Proofs.Text.Trim
import SessionAuth.Text.Digits

/-!
# Decimal texts read back

The canonical spelling of a number is read as that number, and two numbers never share one.

* `digitsValue_toDigits`: the digits of a number have its value.
* `digitsValue_append`, `digitsValue_eq`, `digitsValue_lt`: the value of digits in two parts.
* `readNat?_trim_natText`: a spelling is read back, trimmed or not.
* `natText_injective`: the spelling determines the number.
* `digitsValue_padded`, `length_padded`: the digits of a number with zeros in front.
* `Unsigned`, `Signed`: other spellings, with a sign or zeros in front; `readNat?_eq_some_iff` and
  `readInt?_eq_some_iff` say that reading finds just these, within its bounds.
* `Spells`: spellings with white space around them; `spells_iff` trims it away, and
  `readNat?_of_signed` is what reading makes of them.
-/

namespace SessionAuth.Text

theorem isDigit_of_mem_toDigits {n : Nat} {c : Char} (h : c ∈ Nat.toDigits 10 n) :
    c.isDigit = true :=
  Nat.isDigit_of_mem_toDigits (by decide) (by decide) h

theorem digitsValue_toDigits (n : Nat) : digitsValue 0 (Nat.toDigits 10 n) = n :=
  Nat.ofDigitChars_ten_toDigits

theorem digitsValue_append (acc : Nat) (as bs : List Char) :
    digitsValue acc (as ++ bs) = digitsValue (digitsValue acc as) bs :=
  Nat.ofDigitChars_append acc

theorem digitsValue_eq (acc : Nat) (cs : List Char) :
    digitsValue acc cs = 10 ^ cs.length * acc + digitsValue 0 cs :=
  Nat.ofDigitChars_eq_ofDigitChars_zero

theorem toNat_of_isDigit {c : Char} (h : c.isDigit = true) : 48 ≤ c.toNat ∧ c.toNat ≤ 57 := by
  simpa [Char.isDigit, UInt32.le_iff_toNat_le] using h

theorem toNat_of_isAlphanum {c : Char} (h : c.isAlphanum = true) :
    48 ≤ c.toNat ∧ c.toNat ≤ 122 := by
  rcases Bool.or_eq_true_iff.mp h with hletter | hdigit
  · rcases Bool.or_eq_true_iff.mp hletter with hupper | hlower
    · obtain ⟨hlow, hhigh⟩ := of_decide_eq_true hupper
      have hlow : 65 ≤ c.toNat := UInt32.le_iff_toNat_le.mp hlow
      have hhigh : c.toNat ≤ 90 := UInt32.le_iff_toNat_le.mp hhigh
      omega
    · obtain ⟨hlow, hhigh⟩ := Bool.and_eq_true_iff.mp hlower
      have hlow : 97 ≤ c.toNat := UInt32.le_iff_toNat_le.mp (of_decide_eq_true hlow)
      have hhigh : c.toNat ≤ 122 := UInt32.le_iff_toNat_le.mp (of_decide_eq_true hhigh)
      omega
  · have hbounds := toNat_of_isDigit hdigit
    omega

theorem digitValue_lt {c : Char} (h : c.isDigit = true) : digitValue c < 10 := by
  have hc := toNat_of_isDigit h
  have hzero : '0'.toNat = 48 := rfl
  unfold digitValue
  omega

theorem digitsValue_lt {cs : List Char} (h : ∀ c ∈ cs, c.isDigit = true) :
    digitsValue 0 cs < 10 ^ cs.length := by
  induction cs with
  | nil => decide
  | cons c cs ih =>
    have hc := digitValue_lt (h c List.mem_cons_self)
    have hcs := ih fun d hd => h d (List.mem_cons_of_mem c hd)
    have hcons : digitsValue 0 (c :: cs) = digitsValue (digitValue c) cs := by
      simp [digitsValue]
    calc digitsValue 0 (c :: cs) = 10 ^ cs.length * digitValue c + digitsValue 0 cs := by
          rw [hcons, digitsValue_eq]
      _ < 10 ^ cs.length * digitValue c + 10 ^ cs.length := Nat.add_lt_add_left hcs _
      _ = 10 ^ cs.length * (digitValue c + 1) := (Nat.mul_succ _ _).symm
      _ ≤ 10 ^ cs.length * 10 := Nat.mul_le_mul_left _ hc
      _ = 10 ^ (c :: cs).length := by rw [List.length_cons, Nat.pow_succ]

@[simp] theorem natText_toList (n : Nat) : (natText n).toList = Nat.toDigits 10 n := by
  simp [natText]

theorem natText_injective {m n : Nat} (h : natText m = natText n) : m = n := by
  have hd : Nat.toDigits 10 m = Nat.toDigits 10 n := by
    rw [← natText_toList, h, natText_toList]
  rw [← digitsValue_toDigits m, hd, digitsValue_toDigits]

theorem isDigits_iff {ds : List Char} :
    isDigits ds = true ↔ ds.isEmpty = false ∧ ∀ c ∈ ds, c.isDigit = true := by
  rw [isDigits, Bool.and_eq_true, Bool.not_eq_true', List.all_eq_true]

theorem mem_isDigit_of_isDigits {ds : List Char} (h : isDigits ds = true) :
    ∀ c ∈ ds, c.isDigit = true :=
  (isDigits_iff.mp h).2

theorem isDigits_toDigits (n : Nat) : isDigits (Nat.toDigits 10 n) = true := by
  refine isDigits_iff.mpr ⟨?_, fun c hc => isDigit_of_mem_toDigits hc⟩
  exact List.isEmpty_eq_false_iff.mpr Nat.toDigits_ne_nil

theorem not_plus_of_isDigit {c : Char} (h : c.isDigit = true) : c ≠ '+' := by
  rintro rfl
  revert h
  decide

theorem not_blank_of_visible {c : Char} (hlow : 33 ≤ c.toNat) (hhigh : c.toNat ≤ 126) :
    isBlank c = false := by
  rw [isBlank, Bool.eq_false_iff, ne_eq, CharSet.contains_iff]
  rintro ⟨r, hr, h1, h2⟩
  simp only [blankSet, List.mem_cons, List.not_mem_nil, or_false] at hr
  rcases hr with rfl | rfl | rfl | rfl | rfl | rfl | rfl | rfl | rfl | rfl <;>
    simp only at h1 h2 <;> omega

theorem not_blank_of_isDigit {c : Char} (h : c.isDigit = true) : isBlank c = false := by
  have hc := toNat_of_isDigit h
  exact not_blank_of_visible (by omega) (by omega)

/-- Digits end before the first character that is none. -/
theorem takeWhile_isDigit_append {ds rest : List Char} (hd : ∀ c ∈ ds, c.isDigit = true)
    (hr : ∀ c ∈ rest.head?, c.isDigit = false) : (ds ++ rest).takeWhile Char.isDigit = ds := by
  have hrest : rest.takeWhile Char.isDigit = [] := by
    cases rest with
    | nil => rfl
    | cons c r => simp [hr c rfl]
  rw [List.takeWhile_append_of_pos hd, hrest, List.append_nil]

theorem dropPlus_of_isDigits {ds : List Char} (h : isDigits ds = true) : dropPlus ds = ds := by
  cases ds with
  | nil => rfl
  | cons c cs =>
    have hc := not_plus_of_isDigit (mem_isDigit_of_isDigits h c List.mem_cons_self)
    simp [dropPlus, hc]

/-- A number in its canonical spelling is read back. -/
theorem readNat?_natText {n max : Nat} (h : n ≤ max) : readNat? max (natText n) = some n := by
  rw [readNat?, natText_toList, dropPlus_of_isDigits (isDigits_toDigits n), readDigits?,
    if_pos (isDigits_toDigits n), digitsValue_toDigits, Option.filter_some,
    if_pos (by simpa using h)]

theorem trim_natText (n : Nat) : trim (natText n) = natText n := by
  have hblank : ∀ c ∈ Nat.toDigits 10 n, isBlank c = false := fun c hc =>
    not_blank_of_isDigit (isDigit_of_mem_toDigits hc)
  rw [trim, natText_toList, trimChars_eq_self, natText]
  · exact fun c hc => hblank c (List.mem_of_mem_head? hc)
  · exact fun c hc => hblank c (List.mem_of_getLast? hc)

theorem readNat?_trim_natText {n max : Nat} (h : n ≤ max) :
    readNat? max (trim (natText n)) = some n := by
  rw [trim_natText, readNat?_natText h]

/-! ## Digits with zeros in front -/

theorem padded_toList (width n : Nat) : (padded width n).toList =
    List.replicate (width - (Nat.toDigits 10 n).length) '0' ++ Nat.toDigits 10 n := by
  simp [padded]

theorem isDigits_padded (width n : Nat) : isDigits (padded width n).toList = true := by
  rw [padded_toList]
  refine isDigits_iff.mpr ⟨?_, fun c hc => ?_⟩
  · exact List.isEmpty_eq_false_iff.mpr
      (List.append_ne_nil_of_right_ne_nil _ Nat.toDigits_ne_nil)
  · rcases List.mem_append.mp hc with hc | hc
    · rw [List.eq_of_mem_replicate hc]
      decide
    · exact isDigit_of_mem_toDigits hc

theorem digitsValue_padded (width n : Nat) : digitsValue 0 (padded width n).toList = n := by
  have hzeros : ∀ k, digitsValue 0 (List.replicate k '0') = 0 := fun k => by
    have hvalue : digitsValue 0 (List.replicate k '0') = 10 ^ k * 0 :=
      Nat.ofDigitChars_replicate_zero
    rwa [Nat.mul_zero] at hvalue
  rw [padded_toList, digitsValue_append, hzeros, digitsValue_toDigits]

theorem length_padded {width n : Nat} (hwidth : 0 < width) (h : n < 10 ^ width) :
    (padded width n).toList.length = width := by
  have hlength := (Nat.length_toDigits_le_iff (by decide) hwidth).mpr h
  rw [padded_toList, List.length_append, List.length_replicate]
  omega

/-! ## Spellings with signs, zeros and white space -/

/-- The characters spell a natural number: digits, and perhaps a plus sign in front of them. -/
inductive Unsigned : List Char → Nat → Prop
  | bare {ds : List Char} (h : isDigits ds = true) : Unsigned ds (digitsValue 0 ds)
  | plus {ds : List Char} (h : isDigits ds = true) : Unsigned ('+' :: ds) (digitsValue 0 ds)

theorem readDigits?_eq_some_iff {cs : List Char} {n : Nat} :
    readDigits? cs = some n ↔ isDigits cs = true ∧ digitsValue 0 cs = n := by
  rw [readDigits?]
  split
  · rename_i hdigits
    rw [Option.some.injEq]
    exact ⟨fun h => ⟨hdigits, h⟩, And.right⟩
  · rename_i hdigits
    exact ⟨fun h => absurd h (by simp), fun h => absurd h.1 hdigits⟩

theorem readDigits?_dropPlus_iff {cs : List Char} {n : Nat} :
    readDigits? (dropPlus cs) = some n ↔ Unsigned cs n := by
  constructor
  · intro h
    obtain ⟨hdigits, rfl⟩ := readDigits?_eq_some_iff.mp h
    unfold dropPlus at hdigits ⊢
    split at hdigits
    · exact .plus hdigits
    · exact .bare hdigits
  · intro h
    cases h with
    | bare hds =>
      rw [dropPlus_of_isDigits hds]
      exact readDigits?_eq_some_iff.mpr ⟨hds, rfl⟩
    | plus hds => exact readDigits?_eq_some_iff.mpr ⟨hds, rfl⟩

/-- **Reading finds just the natural numbers that are spelt**, up to its bound. -/
theorem readNat?_eq_some_iff {s : String} {max n : Nat} :
    readNat? max s = some n ↔ Unsigned s.toList n ∧ n ≤ max := by
  rw [readNat?, Option.filter_eq_some_iff, readDigits?_dropPlus_iff, decide_eq_true_iff]

/-- The characters spell an integer: digits, and perhaps a sign in front of them. -/
inductive Signed : List Char → Int → Prop
  | unsigned {ds : List Char} (h : isDigits ds = true) : Signed ds (digitsValue 0 ds)
  | positive {ds : List Char} (h : isDigits ds = true) : Signed ('+' :: ds) (digitsValue 0 ds)
  | negative {ds : List Char} (h : isDigits ds = true) : Signed ('-' :: ds) (-(digitsValue 0 ds))

theorem Unsigned.signed {cs : List Char} {n : Nat} (h : Unsigned cs n) : Signed cs n := by
  cases h with
  | bare hds => exact .unsigned hds
  | plus hds => exact .positive hds

theorem not_isDigits_minus (cs : List Char) : ¬ isDigits ('-' :: cs) = true := by
  intro h
  exact absurd (mem_isDigit_of_isDigits h '-' List.mem_cons_self) (by decide)

theorem cast_readDigits?_iff {cs : List Char} {n : Int} :
    (do let m ← readDigits? cs; pure (m : Int)) = some n ↔
      isDigits cs = true ∧ (digitsValue 0 cs : Int) = n := by
  rw [readDigits?]
  split
  · rename_i hdigits
    exact Option.some_inj.trans ⟨fun h => ⟨hdigits, h⟩, And.right⟩
  · rename_i hdigits
    exact ⟨fun h => absurd h (by simp), fun h => absurd h.1 hdigits⟩

/-- **Reading finds just the integers that are spelt**, between its bounds. -/
theorem readInt?_eq_some_iff {s : String} {min max n : Int} :
    readInt? min max s = some n ↔ Signed s.toList n ∧ min ≤ n ∧ n ≤ max := by
  rw [readInt?, Option.filter_eq_some_iff, Bool.and_eq_true, decide_eq_true_iff,
    decide_eq_true_iff]
  refine and_congr_left fun _ => ?_
  split
  · rename_i r hminus
    rw [hminus, Option.map_eq_some_iff]
    constructor
    · rintro ⟨m, hm, rfl⟩
      obtain ⟨hdigits, rfl⟩ := cast_readDigits?_iff.mp hm
      exact .negative hdigits
    · intro h
      cases h with
      | unsigned hds => exact absurd hds (not_isDigits_minus r)
      | negative hds => exact ⟨_, cast_readDigits?_iff.mpr ⟨hds, rfl⟩, rfl⟩
  · rename_i hminus
    rw [Option.map_eq_some_iff]
    constructor
    · rintro ⟨m, hm, rfl⟩
      obtain ⟨hdigits, rfl⟩ := cast_readDigits?_iff.mp hm
      exact (readDigits?_dropPlus_iff.mp (readDigits?_eq_some_iff.mpr ⟨hdigits, rfl⟩)).signed
    · generalize s.toList = cs at hminus
      intro h
      cases h with
      | unsigned hds =>
        rw [dropPlus_of_isDigits hds]
        exact ⟨_, cast_readDigits?_iff.mpr ⟨hds, rfl⟩, rfl⟩
      | positive hds => exact ⟨_, cast_readDigits?_iff.mpr ⟨hds, rfl⟩, rfl⟩
      | negative hds => exact absurd rfl (hminus _)

/-- The text spells an integer, and there may be white space around it. -/
def Spells (s : String) (n : Int) : Prop :=
  ∃ before body after, s.toList = before ++ (body ++ after) ∧ Signed body n ∧
    (∀ c ∈ before, isBlank c = true) ∧ ∀ c ∈ after, isBlank c = true

theorem Signed.not_blank {body : List Char} {n : Int} (h : Signed body n) :
    ∀ c ∈ body, isBlank c = false := by
  have hdigits : ∀ {ds : List Char}, isDigits ds = true → ∀ c ∈ ds, isBlank c = false :=
    fun hds c hc => not_blank_of_isDigit (mem_isDigit_of_isDigits hds c hc)
  cases h with
  | unsigned hds => exact hdigits hds
  | positive hds | negative hds =>
    intro c hc
    rcases List.mem_cons.mp hc with rfl | hc
    · exact not_blank_of_visible (by decide) (by decide)
    · exact hdigits hds c hc

theorem Spells.signed_trim {s : String} {n : Int} (h : Spells s n) :
    Signed (trim s).toList n := by
  obtain ⟨before, body, after, hs, hbody, hbefore, hafter⟩ := h
  have htrim : trimChars (before ++ (body ++ after)) = body :=
    trimChars_around hbefore (fun c hc => hbody.not_blank c (List.mem_of_mem_head? hc))
      (fun c hc => hbody.not_blank c (List.mem_of_getLast? hc)) hafter
  rw [trim_toList, hs, htrim]
  exact hbody

/-- **A text spells an integer just when it does so without the white space around it.** -/
theorem spells_iff {s : String} {n : Int} : Spells s n ↔ Signed (trim s).toList n := by
  refine ⟨Spells.signed_trim, fun h => ?_⟩
  obtain ⟨before, after, hs, hbefore, hafter⟩ := exists_trimChars s.toList
  rw [trim_toList] at h
  exact ⟨before, _, after, hs, h, hbefore, hafter⟩

/-- A spelling is read as what it spells, or it is not read, and then the number is too large or
not positive. -/
theorem readNat?_of_signed {s : String} {n : Int} (h : Signed s.toList n) (max : Nat) :
    (∃ k : Nat, readNat? max s = some k ∧ k = n ∧ k ≤ max) ∨
      readNat? max s = none ∧ (n ≤ 0 ∨ max < n) := by
  have hread : ∀ {ds : List Char}, isDigits ds = true → dropPlus s.toList = ds →
      (∃ k : Nat, readNat? max s = some k ∧ (k : Int) = digitsValue 0 ds ∧ k ≤ max) ∨
        readNat? max s = none ∧ ((digitsValue 0 ds : Int) ≤ 0 ∨ max < (digitsValue 0 ds : Int)) := by
    intro ds hds hdrop
    rw [readNat?, hdrop, readDigits?, if_pos hds, Option.filter_some]
    by_cases hmax : digitsValue 0 ds ≤ max
    · exact Or.inl ⟨_, if_pos (decide_eq_true hmax), rfl, hmax⟩
    · refine Or.inr ⟨if_neg (by simpa using hmax), Or.inr ?_⟩
      omega
  generalize hs : s.toList = cs at h
  cases h with
  | unsigned hds => exact hread hds (by rw [hs, dropPlus_of_isDigits hds])
  | positive hds => exact hread hds (by rw [hs]; rfl)
  | @negative ds hds =>
    refine Or.inr ⟨?_, Or.inl (by omega)⟩
    rw [readNat?, hs, show dropPlus ('-' :: ds) = '-' :: ds from rfl, readDigits?,
      if_neg (not_isDigits_minus ds)]
    rfl

end SessionAuth.Text
