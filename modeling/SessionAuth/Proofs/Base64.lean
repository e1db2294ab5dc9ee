import SessionAuth.Base64

/-!
# Base64 read back

* `decode?_encode`: bytes in Base64 are read back, in every alphabet whose characters are.
* `encode_of_decode?`, `decode?_urlSafe_iff`: nothing else is read, so bytes have one text only.
* `exists_digit_of_mem_encode`, `length_encode`: the characters of a text, and how many there are.
* `encode_urlSafe_char`: a text of the alphabet of tokens holds letters, digits, `-` and `_` only.
-/

namespace SessionAuth.Base64

/-- Every character of the alphabet reads back as its six bits. -/
def Alphabet.Faithful (a : Alphabet) : Prop := ∀ n < 64, a.value? (a.digit n) = some n

theorem faithful_urlSafe : urlSafe.Faithful := Alphabet.value?_digit_urlSafe

theorem faithful_standard : standard.Faithful := Alphabet.value?_digit_standard

theorem ofNat_eq_of_toNat {n : Nat} {b : UInt8} (h : n = b.toNat) : UInt8.ofNat n = b := by
  subst h
  simp

theorem decode?_encode {a : Alphabet} (ha : a.Faithful) (bytes : List UInt8) :
    decode? a (encode a bytes) = some bytes := by
  fun_induction encode a bytes with
  | case1 x y z rest n ih =>
    have hx := x.toNat_lt
    have hy := y.toNat_lt
    have hz := z.toNat_lt
    simp only [decode?, ha _ (show n / 262144 < 64 by omega),
      ha _ (show n / 4096 % 64 < 64 by omega), ha _ (show n / 64 % 64 < 64 by omega),
      ha _ (show n % 64 < 64 by omega), ih, Option.bind_eq_bind, Option.bind_some, Option.pure_def,
      Option.some.injEq, List.cons.injEq, and_true]
    refine ⟨ofNat_eq_of_toNat ?_, ofNat_eq_of_toNat ?_, ofNat_eq_of_toNat ?_⟩ <;> omega
  | case2 x y n =>
    have hx := x.toNat_lt
    have hy := y.toNat_lt
    simp only [decode?, ha _ (show n / 1024 < 64 by omega), ha _ (show n / 16 % 64 < 64 by omega),
      ha _ (show n % 16 * 4 < 64 by omega), Option.bind_eq_bind, Option.bind_some]
    rw [if_pos (by omega)]
    simp only [Option.some.injEq, List.cons.injEq, and_true]
    refine ⟨ofNat_eq_of_toNat ?_, ofNat_eq_of_toNat ?_⟩ <;> omega
  | case3 x =>
    have hx := x.toNat_lt
    simp only [decode?, ha _ (show x.toNat / 4 < 64 by omega),
      ha _ (show x.toNat % 4 * 16 < 64 by omega), Option.bind_eq_bind, Option.bind_some]
    rw [if_pos (by omega)]
    simp only [Option.some.injEq, List.cons.injEq, and_true]
    exact ofNat_eq_of_toNat (by omega)
  | case4 => rfl

/-! ## One text for all bytes -/

/-- Every character that is read is the one that its six bits are written as. -/
def Alphabet.Strict (a : Alphabet) : Prop :=
  ∀ c n, a.value? c = some n → n < 64 ∧ a.digit n = c

theorem strict_urlSafe : urlSafe.Strict := by
  intro c n h
  have hofNat : ∀ k, k = c.toNat → Char.ofNat k = c := by
    rintro k rfl
    exact Char.ofNat_toNat c
  simp only [Alphabet.value?, Char.le_def, UInt32.le_iff_toNat_le] at h
  split at h
  · rename_i hc
    obtain ⟨hlow, hhigh⟩ : 65 ≤ c.toNat ∧ c.toNat ≤ 90 := hc
    obtain rfl : c.toNat - 65 = n := Option.some.inj h
    exact ⟨by omega, by rw [Alphabet.digit, if_pos (by omega)]; exact hofNat _ (by simp; omega)⟩
  split at h
  · rename_i hc
    obtain ⟨hlow, hhigh⟩ : 97 ≤ c.toNat ∧ c.toNat ≤ 122 := hc
    obtain rfl : c.toNat - 97 + 26 = n := Option.some.inj h
    refine ⟨by omega, ?_⟩
    rw [Alphabet.digit, if_neg (by omega), if_pos (by omega)]
    exact hofNat _ (by simp; omega)
  split at h
  · rename_i hc
    obtain ⟨hlow, hhigh⟩ : 48 ≤ c.toNat ∧ c.toNat ≤ 57 := hc
    obtain rfl : c.toNat - 48 + 52 = n := Option.some.inj h
    refine ⟨by omega, ?_⟩
    rw [Alphabet.digit, if_neg (by omega), if_neg (by omega), if_pos (by omega)]
    exact hofNat _ (by simp; omega)
  split at h
  · rename_i hc
    obtain rfl : 62 = n := Option.some.inj h
    exact ⟨by decide, hc.symm⟩
  split at h
  · rename_i hc
    obtain rfl : 63 = n := Option.some.inj h
    exact ⟨by decide, hc.symm⟩
  · cases h

/-- **A text that is read is the text of what it is read as.** -/
theorem encode_of_decode? {a : Alphabet} (ha : a.Strict) {cs : List Char} {bytes : List UInt8}
    (h : decode? a cs = some bytes) : encode a bytes = cs := by
  fun_induction decode? a cs generalizing bytes with
  | case1 w x y z rest ih =>
    simp only [Option.bind_eq_bind, Option.bind_eq_some_iff, Option.pure_def,
      Option.some.injEq] at h
    obtain ⟨i, hi, j, hj, k, hk, l, hl, tail, htail, rfl⟩ := h
    obtain ⟨hi, rfl⟩ := ha w i hi
    obtain ⟨hj, rfl⟩ := ha x j hj
    obtain ⟨hk, rfl⟩ := ha y k hk
    obtain ⟨hl, rfl⟩ := ha z l hl
    simp only [encode, UInt8.toNat_ofNat', ih htail, List.cons.injEq, and_true]
    refine ⟨congrArg _ ?_, congrArg _ ?_, congrArg _ ?_, congrArg _ ?_⟩ <;> omega
  | case2 x y z =>
    simp only [Option.bind_eq_bind, Option.bind_eq_some_iff] at h
    obtain ⟨i, hi, j, hj, k, hk, h⟩ := h
    obtain ⟨hi, rfl⟩ := ha x i hi
    obtain ⟨hj, rfl⟩ := ha y j hj
    obtain ⟨hk, rfl⟩ := ha z k hk
    split at h
    · obtain rfl := Option.some.inj h
      simp only [encode, UInt8.toNat_ofNat', List.cons.injEq, and_true]
      refine ⟨congrArg _ ?_, congrArg _ ?_, congrArg _ ?_⟩ <;> omega
    · cases h
  | case3 x y =>
    simp only [Option.bind_eq_bind, Option.bind_eq_some_iff] at h
    obtain ⟨i, hi, j, hj, h⟩ := h
    obtain ⟨hi, rfl⟩ := ha x i hi
    obtain ⟨hj, rfl⟩ := ha y j hj
    split at h
    · obtain rfl := Option.some.inj h
      simp only [encode, UInt8.toNat_ofNat', List.cons.injEq, and_true]
      exact ⟨congrArg _ (by omega), congrArg _ (by omega)⟩
    · cases h
  | case4 => cases h
  | case5 => rw [← Option.some.inj h, encode]

theorem decode?_urlSafe_iff {cs : List Char} {bytes : List UInt8} :
    decode? urlSafe cs = some bytes ↔ cs = encode urlSafe bytes :=
  ⟨fun h => (encode_of_decode? strict_urlSafe h).symm,
    fun h => h ▸ decode?_encode faithful_urlSafe bytes⟩

/-! ## The characters of a text -/

theorem exists_digit_of_mem_encode {a : Alphabet} {bytes : List UInt8} {c : Char}
    (h : c ∈ encode a bytes) : ∃ n < 64, c = a.digit n := by
  fun_induction encode a bytes with
  | case1 x y z rest n ih =>
    have hx := x.toNat_lt
    have hy := y.toNat_lt
    have hz := z.toNat_lt
    simp only [List.mem_cons] at h
    rcases h with rfl | rfl | rfl | rfl | h
    · exact ⟨n / 262144, by omega, rfl⟩
    · exact ⟨n / 4096 % 64, by omega, rfl⟩
    · exact ⟨n / 64 % 64, by omega, rfl⟩
    · exact ⟨n % 64, by omega, rfl⟩
    · exact ih h
  | case2 x y n =>
    have hx := x.toNat_lt
    have hy := y.toNat_lt
    simp only [List.mem_cons, List.not_mem_nil, or_false] at h
    rcases h with rfl | rfl | rfl
    · exact ⟨n / 1024, by omega, rfl⟩
    · exact ⟨n / 16 % 64, by omega, rfl⟩
    · exact ⟨n % 16 * 4, by omega, rfl⟩
  | case3 x =>
    have hx := x.toNat_lt
    simp only [List.mem_cons, List.not_mem_nil, or_false] at h
    rcases h with rfl | rfl
    · exact ⟨x.toNat / 4, by omega, rfl⟩
    · exact ⟨x.toNat % 4 * 16, by omega, rfl⟩
  | case4 => exact absurd h List.not_mem_nil

/-- Whether a character may stand in a segment of a token. -/
def isTokenChar (c : Char) : Bool := c.isAlphanum || c == '-' || c == '_'

theorem isTokenChar_digit : ∀ n < 64, isTokenChar (urlSafe.digit n) = true := by
  decide +kernel

theorem encode_urlSafe_char (bytes : List UInt8) :
    ∀ c ∈ encode urlSafe bytes, isTokenChar c = true := by
  intro c hc
  obtain ⟨n, hn, rfl⟩ := exists_digit_of_mem_encode hc
  exact isTokenChar_digit n hn

/-- Three bytes take four characters, and what is left over takes one more than it has bytes. -/
theorem length_encode (a : Alphabet) (bytes : List UInt8) :
    (encode a bytes).length = (4 * bytes.length + 2) / 3 := by
  fun_induction encode a bytes with
  | case1 x y z rest n ih =>
    simp only [List.length_cons, ih]
    omega
  | case2 | case3 | case4 => simp

end SessionAuth.Base64
