import SessionAuth.Proofs.Text.Decimal
import SessionAuth.Proofs.Token.RoundTrip
import SessionAuth.Token.Signed

/-!
# Signed tokens as they are presented

* `bareToken_of_blankless`: a text without white space is presented as it stands.
* `bareToken_sign`: so is a signed token.
* `visible_of_mem_sign`: a signed token is made of visible characters.
-/

namespace SessionAuth

/-- A character that is not its own small letter is a capital letter of ASCII. -/
theorem capital_of_toLower {c d : Char} (h : c.toLower = d) :
    c = d ∨ 65 ≤ c.toNat ∧ c.toNat ≤ 90 ∧ d.toNat = c.toNat + 32 := by
  delta Char.toLower at h
  split at h
  · rename_i hupper
    have hlow : 65 ≤ c.toNat := UInt32.le_iff_toNat_le.mp hupper.1
    have hhigh : c.toNat ≤ 90 := UInt32.le_iff_toNat_le.mp hupper.2
    have hval : (c.val + ('a'.val - 'A'.val)).toNat = d.toNat := congrArg Char.toNat h
    have hoffset : ('a'.val - 'A'.val).toNat = 32 := rfl
    rw [UInt32.toNat_add, hoffset] at hval
    have hcode : c.val.toNat = c.toNat := rfl
    exact Or.inr ⟨hlow, hhigh, by omega⟩
  · exact Or.inl h

/-- A text begins with the word if a part in front of it is the word in some case of letters. -/
theorem hasBearerWord_iff {cs : List Char} :
    hasBearerWord cs = true ↔ ∃ word rest, cs = word ++ rest ∧ word.map Char.toLower = bearerWord := by
  rw [hasBearerWord, beq_iff_eq]
  constructor
  · exact fun h => ⟨_, _, (List.take_append_drop bearerWord.length cs).symm, h⟩
  · rintro ⟨word, rest, rfl, hword⟩
    have hlength : bearerWord.length = word.length := by rw [← hword, List.length_map]
    rw [hlength, List.take_left, hword]

theorem hasBearerWord_of_blankless {cs : List Char} (h : ∀ c ∈ cs, Text.isBlank c = false) :
    hasBearerWord cs = false := by
  rw [Bool.eq_false_iff]
  intro hhas
  obtain ⟨word, rest, rfl, hword⟩ := hasBearerWord_iff.mp hhas
  have hblank : ' ' ∈ word.map Char.toLower := by
    rw [hword]
    decide
  obtain ⟨c, hc, hlower⟩ := List.mem_map.mp hblank
  have hnot := h c (List.mem_append_left _ hc)
  rcases capital_of_toLower hlower with rfl | ⟨hlow, -, hnat⟩
  · exact absurd hnot (by decide)
  · have hspace : c.toNat + 32 = 32 := hnat.symm
    omega

theorem bareToken_of_blankless {token : String} (h : ∀ c ∈ token.toList, Text.isBlank c = false) :
    bareToken token = token := by
  have htrim : Text.trimChars token.toList = token.toList :=
    Text.trimChars_eq_self (fun c hc => h c (List.mem_of_mem_head? hc))
      (fun c hc => h c (List.mem_of_getLast? hc))
  simp only [bareToken, bareChars, htrim, hasBearerWord_of_blankless h, Bool.false_eq_true,
    if_false, String.ofList_toList]

namespace Token

theorem visible_of_isTokenChar {c : Char} (h : Base64.isTokenChar c = true) :
    33 ≤ c.toNat ∧ c.toNat ≤ 126 := by
  simp only [Base64.isTokenChar, Bool.or_eq_true, beq_iff_eq] at h
  rcases h with (halphanum | rfl) | rfl
  · have hbounds := Text.toNat_of_isAlphanum halphanum
    omega
  · decide
  · decide

/-- The characters of a signed token are visible characters of ASCII. -/
theorem visible_of_mem_sign {key : List UInt8} {claims : Claims} {c : Char}
    (h : c ∈ (sign key claims).toList) : 33 ≤ c.toNat ∧ c.toNat ≤ 126 := by
  have hdot : 33 ≤ '.'.toNat ∧ '.'.toNat ≤ 126 := by decide
  simp only [sign, message, signature, String.toList_ofList, List.mem_append, List.mem_cons] at h
  rcases h with (h | rfl | h) | rfl | h
  · exact visible_of_isTokenChar (segment_char h)
  · exact hdot
  · exact visible_of_isTokenChar (segment_char h)
  · exact hdot
  · exact visible_of_isTokenChar (segment_char h)

/-- **A signed token is presented as it stands.** -/
theorem bareToken_sign (key : List UInt8) (claims : Claims) :
    bareToken (sign key claims) = sign key claims :=
  bareToken_of_blankless fun _ h =>
    Text.not_blank_of_visible (visible_of_mem_sign h).1 (visible_of_mem_sign h).2

end Token

end SessionAuth
