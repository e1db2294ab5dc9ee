import SessionAuth.Proofs.Text.Bytes
import SessionAuth.Proofs.Token.Bearer
import SessionAuth.Service.Auth

/-!
# Ways to present a token

A token is recognised whatever stands around it as long as this is white space and the word, and
nothing but these is ever taken away. The word is looked for by bytes: neither the look nor the cut
behind it goes through a character.

* `tokenByOffset?`: the token found by byte offsets; `tokenByOffset?_eq` says that it always is.
* `Bare`, `Presents`: a token that stands alone, and the texts that present it.
* `bareToken_of_presents`: the token of such a text.
* `presented_alike`: operations do not tell these texts apart.
-/

namespace SessionAuth

/-! ## The token by byte offsets -/

theorem Text.toLower_toList (s : String) : s.toLower.toList = s.toList.map Char.toLower :=
  String.toList_map

/-- The word in some case of letters, with its blank, is as long in bytes as in characters. -/
theorem utf8ByteSize_word {word : List Char} (h : word.map Char.toLower = bearerWord) :
    (String.ofList word).utf8ByteSize = bearerWord.length := by
  have hascii : ∀ c ∈ word, c.toNat ≤ 127 := by
    intro c hc
    have hlower : c.toLower ∈ bearerWord := h ▸ List.mem_map_of_mem hc
    have hword : bearerWord.all (·.toNat ≤ 127) = true := by decide
    rcases capital_of_toLower (c := c) rfl with hself | ⟨-, hcapital, -⟩
    · exact hself ▸ of_decide_eq_true (List.all_eq_true.mp hword _ hlower)
    · omega
  rw [Text.utf8ByteSize_of_ascii hascii, ← h, List.length_map]

/-- The token of a presented text, found by byte offsets: what stands before the offset at which
the word would end is compared with the word, and what comes behind the word is cut off there.
There is no token if that cut goes through a character. -/
def tokenByOffset? (raw : String) : Option String :=
  let s := Text.trim raw
  match Text.upTo? s bearerWord.length with
  | some word =>
    if word.toLower = String.ofList bearerWord then
      (Text.behind? s bearerWord.length).map Text.trim
    else some s
  | none => some s

/-- **No cut goes through a character**, and the token is the one between the cuts. -/
theorem tokenByOffset?_eq (raw : String) : tokenByOffset? raw = some (bareToken raw) := by
  rw [tokenByOffset?, bareToken, bareChars, ← Text.trim_toList]
  generalize Text.trim raw = s
  by_cases hhas : hasBearerWord s.toList = true
  · obtain ⟨word, rest, hs, hword⟩ := hasBearerWord_iff.mp hhas
    have hsize := utf8ByteSize_word hword
    have happend : s = String.ofList word ++ String.ofList rest := by
      rw [← String.ofList_append, ← hs, String.ofList_toList]
    have hlower : (String.ofList word).toLower = String.ofList bearerWord := by
      rw [← String.toList_inj, Text.toLower_toList, String.toList_ofList, String.toList_ofList,
        hword]
    have hdrop : s.toList.drop bearerWord.length = rest := by
      rw [hs, ← hword, List.length_map, List.drop_left]
    have hup : Text.upTo? s bearerWord.length = some (String.ofList word) := by
      rw [happend, ← hsize, Text.upTo?_append]
    have hbehind : Text.behind? s bearerWord.length = some (String.ofList rest) := by
      rw [happend, ← hsize, Text.behind?_append]
    simp only [hup, hbehind, hlower, hhas, hdrop, if_true, Option.map_some, Text.trim,
      String.toList_ofList]
  · simp only [hhas, Bool.false_eq_true, if_false, String.ofList_toList]
    cases hup : Text.upTo? s bearerWord.length with
    | none => rfl
    | some word =>
      obtain ⟨rest, rfl, -⟩ := Text.exists_of_upTo? hup
      refine if_neg fun hlower => hhas ?_
      refine hasBearerWord_iff.mpr ⟨word.toList, rest.toList, String.toList_append, ?_⟩
      rw [← Text.toLower_toList, hlower, String.toList_ofList]

/-- The token is a piece of the presented text. -/
theorem exists_bareToken (raw : String) :
    ∃ before after, raw = before ++ bareToken raw ++ after := by
  have hpiece : ∃ before after, raw.toList = before ++ (bareChars raw.toList ++ after) := by
    obtain ⟨before, after, hraw, -⟩ := Text.exists_trimChars raw.toList
    rw [bareChars]
    split
    · rename_i hhas
      obtain ⟨word, rest, htrim, hword⟩ := hasBearerWord_iff.mp hhas
      obtain ⟨blanks, end', hrest, -⟩ := Text.exists_trimChars rest
      refine ⟨before ++ (word ++ blanks), end' ++ after, ?_⟩
      have hdrop : (Text.trimChars raw.toList).drop bearerWord.length = rest := by
        rw [htrim, ← hword, List.length_map, List.drop_left]
      rw [hdrop]
      calc raw.toList = before ++ (word ++ rest ++ after) := htrim ▸ hraw
        _ = before ++ (word ++ (blanks ++ (Text.trimChars rest ++ end')) ++ after) := by
          rw [← hrest]
        _ = _ := by simp only [List.append_assoc]
    · exact ⟨before, after, hraw⟩
  obtain ⟨before, after, hraw⟩ := hpiece
  refine ⟨String.ofList before, String.ofList after, ?_⟩
  rw [bareToken, ← String.ofList_append, ← String.ofList_append, List.append_assoc, ← hraw,
    String.ofList_toList]

theorem bareChars_ends (cs : List Char) :
    (∀ c, (bareChars cs).head? = some c → Text.isBlank c = false) ∧
      ∀ c, (bareChars cs).getLast? = some c → Text.isBlank c = false := by
  rw [bareChars]
  split
  · exact ⟨Text.head?_trimChars _, Text.getLast?_trimChars _⟩
  · exact ⟨Text.head?_trimChars _, Text.getLast?_trimChars _⟩

/-! ## Presented tokens -/

/-- A token that stands alone: it is not empty, it has no white space at its ends, and the word
does not stand in front of it, in any case of letters. -/
structure Bare (token : String) : Prop where
  nonempty : token ≠ ""
  head : ∀ c, token.toList.head? = some c → Text.isBlank c = false
  last : ∀ c, token.toList.getLast? = some c → Text.isBlank c = false
  wordless : ∀ word rest : String, token = word ++ rest → word.toLower ≠ "bearer "

/-- The texts that present a token: with white space around it, and with the word in any case of
letters and a blank in front. -/
inductive Presents (token : String) : String → Prop
  | alone {before after : String} (hbefore : Text.isBlankText before = true)
      (hafter : Text.isBlankText after = true) : Presents token (before ++ token ++ after)
  | behindWord {before word between after : String} (hbefore : Text.isBlankText before = true)
      (hword : word.toLower = "bearer") (hbetween : Text.isBlankText between = true)
      (hafter : Text.isBlankText after = true) :
      Presents token (before ++ word ++ " " ++ between ++ token ++ after)

section Presents

variable {token raw : String}

/-- The search for the word finds it just in the texts in front of which it stands. -/
theorem hasBearerWord_eq_false_iff : hasBearerWord token.toList = false ↔
    ∀ word rest : String, token = word ++ rest → word.toLower ≠ "bearer " := by
  rw [Bool.eq_false_iff]
  constructor
  · rintro h word rest rfl hword
    refine h (hasBearerWord_iff.mpr ⟨word.toList, rest.toList, String.toList_append, ?_⟩)
    rw [← Text.toLower_toList, hword]
    rfl
  · intro h hhas
    obtain ⟨word, rest, htoken, hword⟩ := hasBearerWord_iff.mp hhas
    refine h (String.ofList word) (String.ofList rest) ?_ ?_
    · rw [← String.ofList_append, ← htoken, String.ofList_toList]
    · rw [← String.toList_inj, Text.toLower_toList, String.toList_ofList, hword]
      rfl

theorem Bare.trimChars_around (h : Bare token) {before after : String}
    (hbefore : Text.isBlankText before = true) (hafter : Text.isBlankText after = true) :
    Text.trimChars (before.toList ++ (token.toList ++ after.toList)) = token.toList :=
  Text.trimChars_around (List.all_eq_true.mp hbefore) h.head h.last (List.all_eq_true.mp hafter)

/-- The first letter of the word is no white space, in either case. -/
theorem not_blank_of_word {word : String} (h : word.toLower = "bearer") :
    ∃ c cs, word.toList = c :: cs ∧ Text.isBlank c = false := by
  have hmap : word.toList.map Char.toLower = "bearer".toList := by
    rw [← Text.toLower_toList, h]
  cases hword : word.toList with
  | nil =>
    rw [hword] at hmap
    exact absurd hmap (by decide)
  | cons c cs =>
    refine ⟨c, cs, rfl, ?_⟩
    rw [hword, List.map_cons] at hmap
    have hlower : c.toLower = 'b' := (List.cons.inj hmap).1
    rcases capital_of_toLower hlower with rfl | ⟨hlow, hhigh, -⟩
    · decide
    · exact Text.not_blank_of_visible (by omega) (by omega)

/-- **The token of a text that presents it.** -/
theorem bareToken_of_presents (h : Bare token) (hraw : Presents token raw) :
    bareToken raw = token := by
  suffices hchars : bareChars raw.toList = token.toList by
    rw [bareToken, hchars, String.ofList_toList]
  cases hraw with
  | @alone before after hbefore hafter =>
    rw [bareChars, String.toList_append, String.toList_append, List.append_assoc,
      h.trimChars_around hbefore hafter]
    have hhas := hasBearerWord_eq_false_iff.mpr h.wordless
    exact if_neg (Bool.eq_false_iff.mp hhas)
  | @behindWord before word between after hbefore hword hbetween hafter =>
    obtain ⟨c, cs, hcons, hblank⟩ := not_blank_of_word hword
    have hne : token.toList ≠ [] := fun he => h.nonempty (String.toList_eq_nil_iff.mp he)
    have hlower : (word.toList ++ [' ']).map Char.toLower = bearerWord := by
      rw [List.map_append, ← Text.toLower_toList, hword]
      rfl
    -- Neither the first letter of the word nor the end of the token is trimmed away.
    have htrim : Text.trimChars (before ++ word ++ " " ++ between ++ token ++ after).toList =
        (word.toList ++ [' ']) ++ (between.toList ++ token.toList) := by
      have hbody : (before ++ word ++ " " ++ between ++ token ++ after).toList =
          before.toList ++ (((word.toList ++ [' ']) ++ (between.toList ++ token.toList)) ++
            after.toList) := by
        simp
      rw [hbody]
      refine Text.trimChars_around (List.all_eq_true.mp hbefore) (fun d hd => ?_)
        (fun d hd => h.last d ?_) (List.all_eq_true.mp hafter)
      · rw [hcons] at hd
        exact Option.some.inj hd ▸ hblank
      · rw [← List.append_assoc, List.getLast?_append_of_ne_nil _ hne] at hd
        exact hd
    have hhas : hasBearerWord ((word.toList ++ [' ']) ++ (between.toList ++ token.toList)) = true :=
      hasBearerWord_iff.mpr ⟨_, _, rfl, hlower⟩
    have hdrop : ((word.toList ++ [' ']) ++ (between.toList ++ token.toList)).drop
        bearerWord.length = between.toList ++ token.toList := by
      rw [← hlower, List.length_map, List.drop_left]
    have hrest : Text.trimChars (between.toList ++ token.toList) = token.toList := by
      have haround := h.trimChars_around hbetween (show Text.isBlankText "" = true from rfl)
      rwa [String.toList_empty, List.append_nil] at haround
    rw [bareChars, htrim, if_pos hhas, hdrop, hrest]

end Presents

/-- **All ways to present a token are alike**: the token is found, and neither a validation nor a
refresh tells them from the token alone. Whatever text is presented, the token in it is a piece of
the text without white space at its ends, and no cut goes through a character. -/
theorem presented_alike :
    (∀ token raw, Bare token → Presents token raw →
      bareToken raw = token ∧ Service.validate raw = Service.validate token ∧
        Service.refresh raw = Service.refresh token) ∧
    ∀ raw, tokenByOffset? raw = some (bareToken raw) ∧
      (∃ before after, raw = before ++ bareToken raw ++ after) ∧
      (∀ c, (bareToken raw).toList.head? = some c → Text.isBlank c = false) ∧
      ∀ c, (bareToken raw).toList.getLast? = some c → Text.isBlank c = false := by
  constructor
  · intro token raw hbare hraw
    have hraw' := bareToken_of_presents hbare hraw
    have htoken : bareToken token = token := by
      have halone : Presents token ("" ++ token ++ "") := .alone rfl rfl
      rw [String.empty_append, String.append_empty] at halone
      exact bareToken_of_presents hbare halone
    refine ⟨hraw', ?_, ?_⟩
    · rw [Service.validate, Service.validate, hraw', htoken]
    · rw [Service.refresh, Service.refresh, Service.checkRefresh, Service.checkRefresh, hraw',
        htoken]
  · intro raw
    rw [bareToken, String.toList_ofList]
    exact ⟨tokenByOffset?_eq raw, exists_bareToken raw, bareChars_ends raw.toList⟩

/-- A token behind a word in mixed case, white space of several kinds around both, and a text in
which a character stands across the offset at which the word would end. -/
theorem presented_specimen :
    (Bare "é.b.c" ∧
      Presents "é.b.c" ("\u00a0" ++ "BeArEr" ++ " " ++ "\u2003" ++ "é.b.c" ++ "\n")) ∧
    (bareToken ("\u00a0" ++ "BeArEr" ++ " " ++ "\u2003" ++ "é.b.c" ++ "\n") = "é.b.c" ∧
      Service.validate ("\u00a0" ++ "BeArEr" ++ " " ++ "\u2003" ++ "é.b.c" ++ "\n") =
        Service.validate "é.b.c") ∧
    tokenByOffset? "Bearerééé" = some "Bearerééé" := by
  have hbare : Bare "é.b.c" := by
    refine ⟨by decide, ?_, ?_, hasBearerWord_eq_false_iff.mp (by decide)⟩
    · rintro c ⟨⟩
      decide
    · rintro c ⟨⟩
      decide
  have hword : "BeArEr".toLower = "bearer" := by
    rw [← String.toList_inj, Text.toLower_toList]
    decide
  have hpresents : Presents "é.b.c"
      ("\u00a0" ++ "BeArEr" ++ " " ++ "\u2003" ++ "é.b.c" ++ "\n") :=
    .behindWord (by decide) hword (by decide) (by decide)
  obtain ⟨htoken, hvalidate, -⟩ := presented_alike.1 _ _ hbare hpresents
  refine ⟨⟨hbare, hpresents⟩, ⟨htoken, hvalidate⟩, ?_⟩
  rw [(presented_alike.2 "Bearerééé").1]
  decide

end SessionAuth
