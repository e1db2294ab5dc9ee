import Mathlib.Data.List.TakeDrop
import SessionAuth.Json.Parser
import SessionAuth.Json.Printer
import SessionAuth.Proofs.Text.Decimal

/-!
# Strings and numbers read back

A string between its quotes is read back whatever its characters are. An integer of 64 bits is
read back when what follows it cannot go on with a number.

* `readQuoted_quote`: strings.
* `Number.ReadsBack`, `readsBack_int`: numbers.
-/

namespace SessionAuth.Json

/-! ## Strings -/

theorem hexValue?_hexDigit : ∀ n < 16, Text.hexValue? (Text.hexDigit n) = some n := by decide

theorem hexFour?_escape {n : Nat} (h : n < 256) :
    hexFour? '0' '0' (Text.hexDigit (n / 16)) (Text.hexDigit (n % 16)) = some n := by
  have h0 : Text.hexValue? '0' = some 0 := by decide
  simp only [hexFour?, h0, hexValue?_hexDigit _ (show n / 16 < 16 by omega),
    hexValue?_hexDigit _ (show n % 16 < 16 by omega), Option.bind_eq_bind, Option.bind_some,
    Option.pure_def, Option.some.injEq]
  omega

theorem readQuotedFrom_escapeChar (acc : List Char) (c : Char) (rest : List Char) :
    readQuotedFrom acc (escapeChar c ++ rest) = readQuotedFrom (c :: acc) rest := by
  unfold escapeChar
  split
  · subst_vars; simp [readQuotedFrom, shortEscape?]
  split
  · subst_vars; simp [readQuotedFrom, shortEscape?]
  split
  · subst_vars; simp [readQuotedFrom, shortEscape?]
  split
  · subst_vars; simp [readQuotedFrom, shortEscape?]
  split
  · subst_vars; simp [readQuotedFrom, shortEscape?]
  split
  · subst_vars; simp [readQuotedFrom, shortEscape?]
  split
  · subst_vars; simp [readQuotedFrom, shortEscape?]
  split
  · -- a control character, in four digits
    rename_i h
    have hlow : isLowSurrogate c.toNat = false := by simp [isLowSurrogate]; omega
    have hhigh : isHighSurrogate c.toNat = false := by simp [isHighSurrogate]; omega
    simp only [List.cons_append, List.nil_append]
    rw [readQuotedFrom]
    simp only [hexFour?_escape (show c.toNat < 256 by omega), hlow, hhigh, Bool.false_eq_true,
      if_false, Char.ofNat_toNat]
  · -- a character that stands for itself
    rename_i hq hb _ _ _ _ _ h
    have hlt : ¬ c.toNat < 0x20 := h
    simp only [List.cons_append, List.nil_append]
    rw [readQuotedFrom.eq_def]
    split <;> grind

theorem readQuotedFrom_escape (acc cs rest : List Char) :
    readQuotedFrom acc (escape cs ++ '"' :: rest) = .ok (acc.reverse ++ cs, rest) := by
  induction cs generalizing acc with
  | nil => simp [escape, readQuotedFrom]
  | cons c cs ih =>
    have hsplit : escape (c :: cs) ++ '"' :: rest = escapeChar c ++ (escape cs ++ '"' :: rest) := by
      simp [escape]
    rw [hsplit, readQuotedFrom_escapeChar, ih]
    simp

/-- A string is read back, after its opening quote. -/
theorem readQuoted_quote (s : String) (rest : List Char) :
    readQuoted (escape s.toList ++ '"' :: rest) = .ok (s, rest) := by
  rw [readQuoted, readQuotedFrom_escape]
  simp [bind, Except.bind, pure, Except.pure]

/-! ## Numbers -/

/-- What may come after a value in a text: nothing, a comma, or the end of a container. -/
def Follows (rest : List Char) : Prop := ∀ c ∈ rest.head?, c = ',' ∨ c = ']' ∨ c = '}'

theorem follows_nil : Follows [] := by simp [Follows]

theorem follows_comma (rest : List Char) : Follows (',' :: rest) := by simp [Follows]

theorem follows_bracket (rest : List Char) : Follows (']' :: rest) := by simp [Follows]

theorem follows_brace (rest : List Char) : Follows ('}' :: rest) := by simp [Follows]

/-- A number whose text, which starts as numbers do, is read back. -/
structure Number.ReadsBack (n : Number) : Prop where
  starts : ∃ c cs, renderNumber n = c :: cs ∧ startsNumber c = true
  reads : ∀ rest, Follows rest → readNumber (renderNumber n ++ rest) = .ok (n, rest)

theorem Follows.not_digit {rest : List Char} (h : Follows rest) :
    ∀ c ∈ rest.head?, c.isDigit = false := by
  intro c hc
  rcases h c hc with rfl | rfl | rfl <;> decide

theorem spanDigits_append {ds rest : List Char} (hd : ∀ c ∈ ds, c.isDigit = true)
    (hr : ∀ c ∈ rest.head?, c.isDigit = false) : spanDigits (ds ++ rest) = (ds, rest) := by
  have hdrop : (ds ++ rest).dropWhile Char.isDigit = rest := by
    have hwhole := List.takeWhile_append_dropWhile (p := Char.isDigit) (l := ds ++ rest)
    rw [Text.takeWhile_isDigit_append hd hr] at hwhole
    exact List.append_cancel_left hwhole
  rw [spanDigits, List.span_eq_takeWhile_dropWhile, Text.takeWhile_isDigit_append hd hr, hdrop]

theorem readFraction_follows {rest : List Char} (hr : Follows rest) :
    readFraction rest = .ok ([], rest) := by
  unfold readFraction
  split
  · rcases hr '.' rfl with h | h | h <;> exact absurd h (by decide)
  · rfl

theorem readExponent_follows {rest : List Char} (hr : Follows rest) :
    readExponent rest = .ok (none, rest) := by
  unfold readExponent
  split
  · rcases hr 'e' rfl with h | h | h <;> exact absurd h (by decide)
  · rcases hr 'E' rfl with h | h | h <;> exact absurd h (by decide)
  · rfl

theorem toDigits_head_zero {n : Nat} {cs : List Char} (h : Nat.toDigits 10 n = '0' :: cs) :
    cs = [] := by
  induction n using Nat.strongRecOn generalizing cs with
  | ind n ih =>
    by_cases hn : n < 10
    · rw [Nat.toDigits_of_lt_base hn] at h
      simp only [List.cons.injEq] at h
      exact h.2.symm
    · rw [Nat.toDigits_of_base_le (by decide) (by omega)] at h
      cases hd : Nat.toDigits 10 (n / 10) with
      | nil => exact absurd hd Nat.toDigits_ne_nil
      | cons c ds =>
        rw [hd, List.cons_append, List.cons.injEq] at h
        obtain ⟨rfl, -⟩ := h
        -- the shorter text would be that of zero
        obtain rfl := ih (n / 10) (by omega) hd
        have hz : n / 10 = 0 := by
          rw [← Text.digitsValue_toDigits (n / 10), hd]
          decide
        omega

theorem readUnsigned_toDigits (negative : Bool) (n : Nat) {rest : List Char}
    (hr : Follows rest) :
    readUnsigned negative (Nat.toDigits 10 n ++ rest) =
      .ok (⟨negative, Nat.toDigits 10 n, [], none⟩, rest) := by
  have hne : (Nat.toDigits 10 n).isEmpty = false :=
    List.isEmpty_eq_false_iff.mpr Nat.toDigits_ne_nil
  have hzero : ((Nat.toDigits 10 n).head? == some '0' && decide (1 < (Nat.toDigits 10 n).length))
      = false := by
    cases hd : Nat.toDigits 10 n with
    | nil => rfl
    | cons c cs =>
      by_cases hc : c = '0'
      · subst hc
        simp [toDigits_head_zero hd]
      · simp [hc]
  simp only [readUnsigned, spanDigits_append (fun c => Text.isDigit_of_mem_toDigits)
    hr.not_digit, hne,
    hzero, Bool.or_self, Bool.false_eq_true, if_false, readFraction_follows hr, bind, Except.bind,
    readExponent_follows hr, pure, Except.pure]

theorem readNumberText_natural (n : Nat) {rest : List Char} (hr : Follows rest) :
    readNumberText (Nat.toDigits 10 n ++ rest) =
      .ok (⟨false, Nat.toDigits 10 n, [], none⟩, rest) := by
  unfold readNumberText
  split
  · rename_i r h
    cases hd : Nat.toDigits 10 n with
    | nil => exact absurd hd Nat.toDigits_ne_nil
    | cons c cs =>
      rw [hd, List.cons_append, List.cons.injEq] at h
      have hdigit := Text.isDigit_of_mem_toDigits (n := n) (c := c) (by simp [hd])
      rw [h.1] at hdigit
      exact absurd hdigit (by decide)
  · exact readUnsigned_toDigits false n hr

/-- An integer of 64 bits, signed or unsigned, is read back. -/
theorem readsBack_int {n : Int} (hmin : minInt64 ≤ n) (hmax : n ≤ maxNat64) :
    (Number.int n).ReadsBack := by
  by_cases hn : n < 0
  · -- a minus sign and the digits of the absolute value
    have htext : renderNumber (.int n) = '-' :: Nat.toDigits 10 n.natAbs := by
      simp [renderNumber, Text.intText, hn, String.toList_append]
    refine ⟨⟨_, _, htext, by decide⟩, fun rest hr => ?_⟩
    have hval : NumberText.value? ⟨true, Nat.toDigits 10 n.natAbs, [], none⟩ = some (.int n) := by
      have hi : NumberText.integer ⟨true, Nat.toDigits 10 n.natAbs, [], none⟩ = n := by
        simp only [NumberText.integer, Text.digitsValue_toDigits, if_true]
        omega
      have hne : (n == 0) = false := by simp; omega
      simp [NumberText.value?, NumberText.isInteger, hi, hmin, hmax, hne]
    rw [htext, List.cons_append, readNumber, readNumberText, readUnsigned_toDigits true _ hr]
    simp only [bind, Except.bind, hval]
  · have htext : renderNumber (.int n) = Nat.toDigits 10 n.natAbs := by
      simp [renderNumber, Text.intText, hn]
    refine ⟨?_, fun rest hr => ?_⟩
    · cases hd : Nat.toDigits 10 n.natAbs with
      | nil => exact absurd hd Nat.toDigits_ne_nil
      | cons c cs =>
        have hdigit := Text.isDigit_of_mem_toDigits (n := n.natAbs) (c := c) (by simp [hd])
        exact ⟨c, cs, htext.trans hd, by simp [startsNumber, hdigit]⟩
    · have hval : NumberText.value? ⟨false, Nat.toDigits 10 n.natAbs, [], none⟩
          = some (.int n) := by
        have hi : NumberText.integer ⟨false, Nat.toDigits 10 n.natAbs, [], none⟩ = n := by
          simp only [NumberText.integer, Text.digitsValue_toDigits, Bool.false_eq_true, if_false]
          omega
        simp [NumberText.value?, NumberText.isInteger, hi, hmin, hmax]
      rw [htext, readNumber, readNumberText_natural _ hr]
      simp only [bind, Except.bind, hval]

end SessionAuth.Json
