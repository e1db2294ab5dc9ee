import SessionAuth.Proofs.Text.Bytes
import SessionAuth.Proofs.User.Row

/-!
# Which texts spell a username

A username has three characters at least, says the error that turns a shorter one down, but it is
the bytes that are counted. So a text of one or two characters passes as well if they take three
bytes or more.

* `Username.Proper`: the rule in characters, as the errors state it.
* `Username.Dense`: the shorter texts that pass.
* `Username.three_le_utf8ByteSize_iff`: bytes against characters.
* `Username.exists_ofText_iff`: the texts that spell a username.
* `Username.not_spelledInCharacters`: they are not just those that keep to the rule in characters.
-/

namespace SessionAuth.Username

/-- The rule as the errors state it: three characters at least, and no white space. -/
structure Proper (cs : List Char) : Prop where
  long : 3 ≤ cs.length
  noBlank : ∀ c ∈ cs, Text.isBlank c = false

/-- One or two characters that take three bytes or more, and no white space: one from `U+0800` on,
or two that are not both ASCII. -/
inductive Dense : List Char → Prop
  | one {c : Char} (wide : 0x800 ≤ c.toNat) (noBlank : ∀ x ∈ [c], Text.isBlank x = false) :
      Dense [c]
  | two {c d : Char} (wide : 0x80 ≤ c.toNat ∨ 0x80 ≤ d.toNat)
      (noBlank : ∀ x ∈ [c, d], Text.isBlank x = false) : Dense [c, d]

variable {cs : List Char} {text : String} {name : Username}

theorem Dense.noBlank (h : Dense cs) : ∀ c ∈ cs, Text.isBlank c = false := by
  cases h with
  | one _ hblank => exact hblank
  | two _ hblank => exact hblank

/-- **Three bytes are three characters, or fewer ones that are dense.** -/
theorem three_le_utf8ByteSize_iff (hblank : ∀ c ∈ cs, Text.isBlank c = false) :
    3 ≤ (String.ofList cs).utf8ByteSize ↔ Proper cs ∨ Dense cs := by
  constructor
  · intro hbytes
    by_cases hlong : 3 ≤ cs.length
    · exact Or.inl ⟨hlong, hblank⟩
    · right
      -- Each character has one byte, so the bytes that are missing come from a wide one.
      match cs, hlong with
      | [], _ => exact absurd hbytes (by decide)
      | [c], _ =>
        rw [Text.utf8ByteSize_cons] at hbytes
        exact .one (Text.three_le_utf8Size_iff.mp hbytes) hblank
      | [c, d], _ =>
        refine .two ?_ hblank
        rw [Text.utf8ByteSize_cons, Text.utf8ByteSize_cons] at hbytes
        have hnone : (String.ofList []).utf8ByteSize = 0 := rfl
        rw [← Text.two_le_utf8Size_iff, ← Text.two_le_utf8Size_iff]
        omega
      | c :: d :: e :: rest, hlong =>
        simp only [List.length_cons] at hlong
        omega
  · rintro (hproper | hdense)
    · exact Nat.le_trans hproper.long (Text.length_le_utf8ByteSize cs)
    · cases hdense with
      | @one c hwide =>
        have hsize := Text.three_le_utf8Size_iff.mpr hwide
        rw [Text.utf8ByteSize_cons]
        omega
      | @two c d hwide =>
        have hc := c.utf8Size_pos
        have hd := d.utf8Size_pos
        rw [Text.utf8ByteSize_cons, Text.utf8ByteSize_cons]
        rw [← Text.two_le_utf8Size_iff, ← Text.two_le_utf8Size_iff] at hwide
        omega

/-- A text spells a username if it has three bytes when trimmed, and no white space. -/
theorem exists_ofText_iff_bytes :
    (∃ name, ofText text = .ok name) ↔
      3 ≤ (Text.trim text).utf8ByteSize ∧
        ∀ c ∈ (Text.trim text).toList, Text.isBlank c = false := by
  constructor
  · rintro ⟨name, h⟩
    have hlong := name.long
    have hnone := name.noBlank
    rw [text_of_ofText h] at hlong hnone
    exact ⟨hlong, fun c hc => Bool.eq_false_iff.mpr (List.any_eq_false.mp hnone c hc)⟩
  · rintro ⟨hlong, hblank⟩
    have hnone : (Text.trim text).toList.any Text.isBlank = false :=
      List.any_eq_false.mpr fun c hc => Bool.eq_false_iff.mp (hblank c hc)
    have hread := ofText_text ⟨Text.trim text, hlong, hnone⟩
    rw [ofText_congr (Text.trim_trim text)] at hread
    exact ⟨_, hread⟩

/-- **The texts that spell a username**: trimmed, they keep to the rule in characters or are
dense. -/
theorem exists_ofText_iff :
    (∃ name, ofText text = .ok name) ↔
      Proper (Text.trimChars text.toList) ∨ Dense (Text.trimChars text.toList) := by
  rw [exists_ofText_iff_bytes, Text.trim_toList]
  constructor
  · rintro ⟨hlong, hblank⟩
    exact (three_le_utf8ByteSize_iff hblank).mp hlong
  · intro h
    have hblank : ∀ c ∈ Text.trimChars text.toList, Text.isBlank c = false :=
      h.elim Proper.noBlank Dense.noBlank
    exact ⟨(three_le_utf8ByteSize_iff hblank).mpr h, hblank⟩

/-- The rule as the errors state it: the texts that spell a username are those with three
characters when trimmed and no white space, and the username is the trimmed text. -/
def SpelledInCharacters : Prop :=
  ∀ text, ((∃ name, ofText text = .ok name) ↔ Proper (Text.trimChars text.toList)) ∧
    ∀ name, ofText text = .ok name → name.text = Text.trim text

/-- **The rule is not kept**: a text of two characters passes if one of them takes two bytes. -/
theorem not_spelledInCharacters : ¬ SpelledInCharacters := by
  intro h
  have htrim : Text.trimChars "é1".toList = ['é', '1'] := by decide
  have hblank : ∀ c ∈ ['é', '1'], Text.isBlank c = false := by
    intro c hc
    simp only [List.mem_cons, List.not_mem_nil, or_false] at hc
    rcases hc with rfl | rfl
    · decide
    · decide
  have hspelt : ∃ name, ofText "é1" = .ok name := by
    rw [exists_ofText_iff, htrim]
    exact Or.inr (.two (Or.inl (by decide)) hblank)
  have hproper := (h "é1").1.mp hspelt
  rw [htrim] at hproper
  exact absurd hproper.long (by decide)

end SessionAuth.Username
