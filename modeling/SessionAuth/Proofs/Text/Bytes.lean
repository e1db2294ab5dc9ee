import Mathlib.Tactic.SplitIfs
import SessionAuth.Hash.Words

/-!
# Texts by bytes

A text is cut at a byte offset only where a character ends, and the two sides of such a cut make up
the text.

* `Text.upTo?`, `Text.behind?`: the two sides of a byte offset, if it lies between characters.
* `Text.utf8ByteSize_of_ascii`: a text of ASCII has one byte for each character.
* `Text.length_le_utf8ByteSize`, `Text.two_le_utf8Size_iff`, `Text.three_le_utf8Size_iff`: every
  character has one byte, and which of them have more.
* `Hash.ofUtf8?_eq_some_iff`: the bytes of a text; `Hash.isSome_ofUtf8?_cons`: a character of ASCII
  in front of them does not matter.
-/

namespace SessionAuth.Text

/-- The text up to a byte offset, which may lie neither inside a character nor beyond the end. -/
def upTo? (s : String) (offset : Nat) : Option String :=
  if h : String.Pos.Raw.IsValid s ⟨offset⟩ then some (s.sliceTo ⟨⟨offset⟩, h⟩).copy else none

/-- The text from a byte offset on, which may lie neither inside a character nor beyond the end. -/
def behind? (s : String) (offset : Nat) : Option String :=
  if h : String.Pos.Raw.IsValid s ⟨offset⟩ then some (s.sliceFrom ⟨⟨offset⟩, h⟩).copy else none

theorem isValid_append (a b : String) : String.Pos.Raw.IsValid (a ++ b) ⟨a.utf8ByteSize⟩ :=
  String.Pos.Raw.isValid_iff_exists_append.mpr ⟨a, b, rfl, rfl⟩

theorem splits_append (a b : String) :
    (⟨⟨a.utf8ByteSize⟩, isValid_append a b⟩ : (a ++ b).Pos).Splits a b := ⟨rfl, rfl⟩

theorem upTo?_append (a b : String) : upTo? (a ++ b) a.utf8ByteSize = some a := by
  rw [upTo?, dif_pos (isValid_append a b), (splits_append a b).copy_sliceTo_eq]

theorem behind?_append (a b : String) : behind? (a ++ b) a.utf8ByteSize = some b := by
  rw [behind?, dif_pos (isValid_append a b), (splits_append a b).copy_sliceFrom_eq]

theorem exists_of_upTo? {s a : String} {offset : Nat} (h : upTo? s offset = some a) :
    ∃ b, s = a ++ b ∧ a.utf8ByteSize = offset := by
  by_cases hvalid : String.Pos.Raw.IsValid s ⟨offset⟩
  · obtain ⟨a', b, rfl, hoffset⟩ := String.Pos.Raw.isValid_iff_exists_append.mp hvalid
    obtain rfl : offset = a'.utf8ByteSize := congrArg String.Pos.Raw.byteIdx hoffset
    obtain rfl : a' = a := Option.some.inj ((upTo?_append a' b).symm.trans h)
    exact ⟨b, rfl, rfl⟩
  · rw [upTo?, dif_neg hvalid] at h
    cases h

theorem utf8ByteSize_cons (c : Char) (cs : List Char) :
    (String.ofList (c :: cs)).utf8ByteSize = c.utf8Size + (String.ofList cs).utf8ByteSize := by
  rw [String.ofList_cons, String.utf8ByteSize_append, String.utf8ByteSize_singleton]

/-- A text of ASCII has one byte for each character. -/
theorem utf8ByteSize_of_ascii {cs : List Char} (h : ∀ c ∈ cs, c.toNat ≤ 127) :
    (String.ofList cs).utf8ByteSize = cs.length := by
  induction cs with
  | nil => rfl
  | cons c cs ih =>
    have hsize : c.utf8Size = 1 :=
      Char.utf8Size_eq_one_iff.mpr (UInt32.le_iff_toNat_le.mpr (h c List.mem_cons_self))
    rw [utf8ByteSize_cons, hsize, ih fun d hd => h d (List.mem_cons_of_mem c hd),
      List.length_cons, Nat.add_comm]

theorem length_le_utf8ByteSize (cs : List Char) :
    cs.length ≤ (String.ofList cs).utf8ByteSize := by
  induction cs with
  | nil => exact Nat.zero_le _
  | cons c cs ih =>
    have hsize := c.utf8Size_pos
    rw [utf8ByteSize_cons, List.length_cons]
    omega

theorem two_le_utf8Size_iff {c : Char} : 2 ≤ c.utf8Size ↔ 0x80 ≤ c.toNat := by
  have hpos := c.utf8Size_pos
  have hone : c.utf8Size = 1 ↔ c.toNat ≤ 127 :=
    Char.utf8Size_eq_one_iff.trans UInt32.le_iff_toNat_le
  omega

theorem three_le_utf8Size_iff {c : Char} : 3 ≤ c.utf8Size ↔ 0x800 ≤ c.toNat := by
  have htwo := two_le_utf8Size_iff (c := c)
  have hexact : c.utf8Size = 2 ↔ 127 < c.toNat ∧ c.toNat ≤ 2047 := by
    rw [Char.utf8Size_eq_two_iff, UInt32.lt_iff_toNat_lt, UInt32.le_iff_toNat_le]
    rfl
  omega

end SessionAuth.Text

namespace SessionAuth.Hash

theorem ofUtf8?_utf8 (s : String) : ofUtf8? (utf8 s) = some s := by
  simp only [ofUtf8?, utf8, String.fromUTF8?, String.toUTF8_eq_toByteArray, Array.toArray_toList]
  rw [dif_pos s.isValidUTF8]
  rfl

theorem ofUtf8?_eq_some_iff {bytes : List UInt8} {s : String} :
    ofUtf8? bytes = some s ↔ bytes = utf8 s := by
  constructor
  · intro h
    unfold ofUtf8? String.fromUTF8? at h
    split at h
    · obtain rfl := Option.some.inj h
      simp [utf8, String.fromUTF8, String.toUTF8_eq_toByteArray]
    · cases h
  · rintro rfl
    exact ofUtf8?_utf8 s

theorem utf8_ofList (cs : List Char) :
    utf8 (String.ofList cs) = cs.flatMap String.utf8EncodeChar := by
  simp [utf8, List.utf8Encode]

theorem utf8EncodeChar_of_ascii {c : Char} (h : c.toNat ≤ 0x7f) :
    String.utf8EncodeChar c = [UInt8.ofNat c.toNat] := if_pos h

/-- A character whose first byte is one of ASCII has no other bytes. -/
theorem utf8EncodeChar_of_head {c : Char} {b : UInt8} {bytes : List UInt8} (hb : b.toNat ≤ 0x7f)
    (h : String.utf8EncodeChar c = b :: bytes) : bytes = [] := by
  unfold String.utf8EncodeChar at h
  dsimp only at h
  split_ifs at h
  · exact (List.cons.inj h).2.symm
  all_goals
    obtain ⟨rfl, -⟩ := List.cons.inj h
    rw [UInt8.toNat_ofNat'] at hb
    omega

/-- The character of the number of a byte. -/
theorem toNat_ofNat_byte (b : UInt8) : (Char.ofNat b.toNat).toNat = b.toNat := by
  have hlt := b.toNat_lt
  have hvalid : b.toNat.isValidChar := Or.inl (by omega)
  rw [Char.ofNat, dif_pos hvalid]
  rfl

/-- A character of ASCII in front does not matter. -/
theorem isSome_ofUtf8?_cons {b : UInt8} (hb : b.toNat ≤ 0x7f) (bytes : List UInt8) :
    (ofUtf8? (b :: bytes)).isSome = (ofUtf8? bytes).isSome := by
  rw [Bool.eq_iff_iff]
  simp only [Option.isSome_iff_exists, ofUtf8?_eq_some_iff]
  constructor
  · rintro ⟨s, hs⟩
    rw [← String.ofList_toList (s := s), utf8_ofList] at hs
    cases hcs : s.toList with
    | nil => simp [hcs] at hs
    | cons c cs =>
      rw [hcs, List.flatMap_cons] at hs
      cases hc : String.utf8EncodeChar c with
      | nil =>
        have hlength := String.length_utf8EncodeChar c
        rw [hc, List.length_nil] at hlength
        exact absurd hlength.symm (Nat.ne_of_gt c.utf8Size_pos)
      | cons b' bytes' =>
        rw [hc, List.cons_append] at hs
        obtain ⟨rfl, htail⟩ := List.cons.inj hs
        rw [utf8EncodeChar_of_head hb hc, List.nil_append] at htail
        exact ⟨String.ofList cs, by rw [htail, utf8_ofList]⟩
  · rintro ⟨s, rfl⟩
    refine ⟨String.ofList (Char.ofNat b.toNat :: s.toList), ?_⟩
    have hnat := toNat_ofNat_byte b
    rw [utf8_ofList, List.flatMap_cons, ← utf8_ofList, String.ofList_toList,
      utf8EncodeChar_of_ascii (by omega), hnat, UInt8.ofNat_toNat]
    rfl

end SessionAuth.Hash
