import SessionAuth.Proofs.Json.Members

/-!
# Integers of 64 bits

A number of JSON text is an integer only if 64 bits hold it, signed or unsigned. So no value that is
read is an integer beyond that, and none of the members of an object is.

* `Sized`: a value that is no integer beyond 64 bits; `sized_of_readValueWith` says that all are
  that are read.
* `readMembers_keeps`, `readObject_keeps`: what every member keeps holds at the end.
* `sized_of_parse?`, `sized_of_parse?_object`: what a text spells, and its members.
-/

namespace SessionAuth.Json

/-- If the value is an integer, then 64 bits hold it, signed or unsigned. -/
def Sized (value : Json) : Prop :=
  ∀ n, value = .number (.int n) → minInt64 ≤ n ∧ n ≤ maxNat64

theorem sized_of_readNumber {cs rest : List Char} {number : Number}
    (h : readNumber cs = .ok (number, rest)) : (Json.number number).Sized := by
  rintro n hn
  obtain rfl := Json.number.inj hn
  obtain ⟨⟨t, after⟩, -, h⟩ := ok_of_bind h
  dsimp only at h
  split at h
  · rename_i m hvalue
    obtain ⟨rfl, -⟩ := Prod.mk.inj (Except.ok.inj h)
    rw [NumberText.value?] at hvalue
    split at hvalue
    · rename_i hinteger
      obtain rfl := Number.int.inj (Option.some.inj hvalue)
      simp only [NumberText.isInteger, Bool.and_eq_true, decide_eq_true_eq] at hinteger
      exact ⟨hinteger.1.1.2, hinteger.1.2⟩
    · obtain ⟨x, -, hx⟩ := Option.map_eq_some_iff.mp hvalue
      cases hx
  · cases h

/-- **No value that is read is an integer beyond 64 bits.** -/
theorem sized_of_readValueWith {child : Option (Reader Json)} {cs rest : List Char} {value : Json}
    (h : readValueWith child cs = .ok (value, rest)) : value.Sized := by
  unfold readValueWith at h
  split at h
  case h_5 | h_6 =>
    split at h
    · cases h
    · obtain ⟨a, -, ha⟩ := ok_of_bind h
      cases ha
      exact fun n hn => by cases hn
  case h_7 =>
    split at h
    · obtain ⟨⟨number, after⟩, hnumber, ha⟩ := ok_of_bind h
      cases ha
      exact sized_of_readNumber hnumber
    · cases h
  case h_8 => cases h
  all_goals
    obtain ⟨a, -, ha⟩ := ok_of_bind h
    cases ha
    exact fun n hn => by cases hn

theorem sized_of_readValue {depth : Nat} {cs rest : List Char} {value : Json}
    (h : readValue depth cs = .ok (value, rest)) : value.Sized := by
  cases depth with
  | zero => exact sized_of_readValueWith h
  | succ depth => exact sized_of_readValueWith h

/-! ## Members -/

section Keeps

variable {σ : Type} {P : σ → Prop} {key : Reader String} {member : σ → String → Reader σ}

theorem readMembers_keeps
    (hmember : ∀ s k cs s' rest, P s → member s k cs = .ok (s', rest) → P s') {fuel : Nat}
    {s s' : σ} {cs rest : List Char} (hs : P s)
    (h : readMembers key member fuel s cs = .ok (s', rest)) : P s' := by
  induction fuel generalizing s cs with
  | zero => cases h
  | succ fuel ih =>
    obtain ⟨afterQuote, -, h⟩ := ok_of_bind h
    obtain ⟨⟨k, afterKey⟩, -, h⟩ := ok_of_bind h
    obtain ⟨⟨next, afterMember⟩, hnext, h⟩ := ok_of_bind h
    have hkept := hmember _ _ _ _ _ hs hnext
    dsimp only at h
    split at h
    · exact ih hkept h
    · obtain ⟨rfl, -⟩ := Prod.mk.inj (Except.ok.inj h)
      exact hkept
    · cases h

/-- **What the first state has and every member keeps, the last state has.** -/
theorem readObject_keeps
    (hmember : ∀ s k cs s' rest, P s → member s k cs = .ok (s', rest) → P s')
    {s s' : σ} {cs rest : List Char} (hs : P s)
    (h : readObject key member s cs = .ok (s', rest)) : P s' := by
  simp only [readObject] at h
  split at h
  · obtain ⟨rfl, -⟩ := Prod.mk.inj (Except.ok.inj h)
    exact hs
  · exact readMembers_keeps hmember hs h

end Keeps

theorem sized_of_readEntries {depth : Nat} {cs rest : List Char} {entries : List (String × Json)}
    (h : readEntries depth cs = .ok (entries, rest)) : ∀ m ∈ entries, m.2.Sized := by
  obtain ⟨ds, hbrace⟩ := brace_of_readEntriesWith h
  simp only [readEntries, readEntriesWith, hbrace] at h
  obtain ⟨⟨last, after⟩, hread, h⟩ := ok_of_bind h
  cases h
  have hkept : ∀ m ∈ last, m.2.Sized := by
    refine readObject_keeps (P := fun entries => ∀ m ∈ entries, m.2.Sized) ?_ ?_ hread
    · intro entries k cs entries' rest hentries hmember
      obtain ⟨afterColon, -, hmember⟩ := ok_of_bind hmember
      obtain ⟨⟨value, afterValue⟩, hvalue, hmember⟩ := ok_of_bind hmember
      cases hmember
      intro m hm
      rcases List.mem_cons.mp hm with rfl | hm
      · exact sized_of_readValue hvalue
      · exact hentries m hm
    · exact fun m hm => absurd hm List.not_mem_nil
  exact fun m hm => hkept m (List.mem_reverse.mp hm)

/-- **No value that a text spells is an integer beyond 64 bits.** -/
theorem sized_of_parse? {text : String} {value : Json} (h : parse? text = some value) :
    value.Sized := by
  obtain ⟨rest, hread, -⟩ := decode_eq_ok_iff.mp (toOption_eq_some_iff.mp h)
  exact sized_of_readValue hread

/-- **No member of an object that a text spells is one, either.** -/
theorem sized_of_parse?_object {text : String} {fields : Fields}
    (h : parse? text = some (.object fields)) : ∀ m ∈ fields, m.2.Sized := by
  obtain ⟨entries, hentries, rfl⟩ := parse?_eq_object_iff.mp h
  obtain ⟨rest, hread, -⟩ := decode_eq_ok_iff.mp (toOption_eq_some_iff.mp hentries)
  exact fun m hm => sized_of_readEntries hread m (Fields.mem_ofList hm)

end SessionAuth.Json
