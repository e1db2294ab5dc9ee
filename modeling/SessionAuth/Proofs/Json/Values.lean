import SessionAuth.Proofs.Json.Members
import SessionAuth.Proofs.Json.Spans

/-!
# Values and their texts

The reader of values takes the texts that the grammar has for them, no more and no less.

* `takes_readValue`: values with a limit on the containers.
* `Spells`, `parse?_eq_some_iff`: whole texts.
-/

namespace SessionAuth.Json

/-! ## Values with children -/

/-- The reader of children takes what may stand one level below. -/
def TakesBelow : Option (Reader Json) → (depth : Nat) → Prop
  | none, 0 => True
  | some child, depth + 1 => Takes child (Writes depth)
  | _, _ => False

theorem TakesBelow.exists_depth {child : Reader Json} {depth : Nat}
    (h : TakesBelow (some child) depth) : ∃ d, depth = d + 1 ∧ Takes child (Writes d) := by
  cases depth with
  | zero => exact h.elim
  | succ depth => exact ⟨depth, rfl, h⟩

theorem TakesBelow.exists_child {child : Option (Reader Json)} {depth : Nat}
    (h : TakesBelow child (depth + 1)) : ∃ r, child = some r ∧ Takes r (Writes depth) := by
  cases child with
  | none => exact h.elim
  | some r => exact ⟨r, rfl, h⟩

theorem takes_itemReader {α : Type} {child : Reader α} {G : List Char → α → Prop}
    (h : Takes child G) (items : List α) :
    Takes (itemReader child items) fun v items' => ∃ a, G v a ∧ items' = a :: items :=
  h.map (· :: items)

/-- A member of an object and what is read of it. -/
def MemberOf {α : Type} (G : List Char → α → Prop) (m : String × List Char) (a : String × α) :
    Prop :=
  m.1 = a.1 ∧ G m.2 a.2

/-- A reader of members that puts each of them into what it has. -/
theorem takesMember_fold {α σ : Type} {child : Reader α} {G : List Char → α → Prop}
    (h : Takes child G) (f : σ → String × α → σ) :
    TakesMember (fun s key cs => do
      let (a, rest) ← child (← readColon cs)
      return (f s (key, a), rest)) fun s m s' => ∃ a, MemberOf G m a ∧ s' = f s a := by
  intro s key
  refine takes_colon ((h.map fun a => f s (key, a)).of_iff fun v s' => ?_)
  constructor
  · rintro ⟨a, ha, rfl⟩
    exact ⟨(key, a), ⟨rfl, ha⟩, rfl⟩
  · rintro ⟨⟨key', a⟩, ⟨rfl, ha⟩, rfl⟩
    exact ⟨a, ha, rfl⟩

theorem isArray_starts {values : List (List Char)} {v : List Char} (h : IsArray values v) :
    ∃ body, v = '[' :: body := by
  obtain ⟨body, -, rfl⟩ := h
  exact ⟨_, rfl⟩

theorem readArray_itemReader_iff {α : Type} {child : Reader α} {G : List Char → α → Prop}
    (h : Takes child G) (hstarts : ∀ {v a}, G v a → Starts v) {items : List α}
    {cs rest : List Char} :
    readArray (itemReader child) [] cs = .ok (items.reverse, rest) ↔
      ∃ values v, IsArray values v ∧ List.Forall₂ G values items ∧ '[' :: cs = v ++ rest := by
  rw [readArray_eq_ok_iff (takes_itemReader h) fun ⟨_, ha, _⟩ => hstarts ha]
  simp only [steps_foldl_iff (f := fun items a => a :: items)]
  constructor
  · rintro ⟨values, v, harray, ⟨as, has, heq⟩, hcs⟩
    obtain rfl : items = as := by simpa using heq
    exact ⟨values, v, harray, has, hcs⟩
  · rintro ⟨values, v, harray, has, hcs⟩
    exact ⟨values, v, harray, ⟨items, has, by simp⟩, hcs⟩

/-- What `readObject` makes of the members, when it puts each of them into what it has. -/
theorem readObject_fold_iff {α σ : Type} {child : Reader α} {G : List Char → α → Prop}
    (h : Takes child G) (f : σ → String × α → σ) {s s' : σ} {cs rest : List Char} :
    readObject readQuoted (fun s key cs => do
        let (a, rest) ← child (← readColon cs)
        return (f s (key, a), rest)) s cs = .ok (s', rest) ↔
      ∃ members entries v, IsObject SpellsKey members v ∧
        List.Forall₂ (MemberOf G) members entries ∧ s' = entries.foldl f s ∧
        '{' :: cs = v ++ rest := by
  rw [readObject_eq_ok_iff readQuoted_eq_ok_iff (takesMember_fold h f)]
  simp only [steps_foldl_iff]
  constructor
  · rintro ⟨members, v, hobject, ⟨entries, hentries, rfl⟩, hcs⟩
    exact ⟨members, entries, v, hobject, hentries, rfl, hcs⟩
  · rintro ⟨members, entries, v, hobject, hentries, rfl, hcs⟩
    exact ⟨members, v, hobject, ⟨entries, hentries, rfl⟩, hcs⟩

theorem readNumber_eq_ok_iff {cs rest : List Char} {n : Number} :
    readNumber cs = .ok (n, rest) ↔
      ∃ t, readNumberText cs = .ok (t, rest) ∧ t.value? = some n := by
  constructor
  · intro h
    obtain ⟨⟨t, after⟩, ht, hvalue⟩ := ok_of_bind h
    dsimp only at hvalue
    split at hvalue
    · rename_i m hm
      obtain ⟨rfl, rfl⟩ := Prod.mk.inj (Except.ok.inj hvalue)
      exact ⟨t, ht, hm⟩
    · cases hvalue
  · rintro ⟨t, ht, hn⟩
    simp only [readNumber, ht, bind, Except.bind, hn]

theorem memberOf_iff {G : List Char → Json → Prop} {members : List (String × List Char)}
    {entries : List (String × Json)} :
    List.Forall₂ (MemberOf G) members entries ↔
      members.map Prod.fst = entries.map Prod.fst ∧
        ∀ p ∈ members.zip entries, G p.1.2 p.2.2 := by
  induction members generalizing entries with
  | nil => cases entries <;> simp
  | cons m members ih =>
    cases entries with
    | nil => simp
    | cons a entries =>
      simp only [List.forall₂_cons, ih, MemberOf, List.map_cons, List.cons.injEq,
        List.zip_cons_cons, List.forall_mem_cons]
      tauto

theorem sound_readValueWith {child : Option (Reader Json)} {depth : Nat}
    (h : TakesBelow child depth) {cs rest : List Char} {x : Json}
    (hread : readValueWith child cs = .ok (x, rest)) :
    ∃ v, Writes depth v x ∧ skipBlank cs = v ++ rest := by
  unfold readValueWith at hread
  split at hread
  · rename_i after hskip
    obtain ⟨_, hword, hpure⟩ := ok_of_bind hread
    obtain ⟨rfl, rfl⟩ := Prod.mk.inj (Except.ok.inj hpure)
    exact ⟨_, .null, by rw [hskip, expectWord_eq_ok_iff.mp hword]; rfl⟩
  · rename_i after hskip
    obtain ⟨_, hword, hpure⟩ := ok_of_bind hread
    obtain ⟨rfl, rfl⟩ := Prod.mk.inj (Except.ok.inj hpure)
    exact ⟨_, .true, by rw [hskip, expectWord_eq_ok_iff.mp hword]; rfl⟩
  · rename_i after hskip
    obtain ⟨_, hword, hpure⟩ := ok_of_bind hread
    obtain ⟨rfl, rfl⟩ := Prod.mk.inj (Except.ok.inj hpure)
    exact ⟨_, .false, by rw [hskip, expectWord_eq_ok_iff.mp hword]; rfl⟩
  · rename_i after hskip
    obtain ⟨⟨s, _⟩, hquoted, hpure⟩ := ok_of_bind hread
    obtain ⟨rfl, rfl⟩ := Prod.mk.inj (Except.ok.inj hpure)
    obtain ⟨k, hk, rfl⟩ := readQuoted_eq_ok_iff.mp hquoted
    have hwrites : Writes depth (inQuotes k) (.string (String.ofList s.toList)) := .string hk
    rw [String.ofList_toList] at hwrites
    exact ⟨_, hwrites, by simp [hskip, inQuotes]⟩
  · rename_i after hskip
    split at hread
    · cases hread
    · rename_i child
      obtain ⟨depth, rfl, hchild⟩ := h.exists_depth
      obtain ⟨⟨items, _⟩, harray, hpure⟩ := ok_of_bind hread
      obtain ⟨rfl, rfl⟩ := Prod.mk.inj (Except.ok.inj hpure)
      rw [← List.reverse_reverse items] at harray
      obtain ⟨values, v, hv, hitems, hcs⟩ :=
        (readArray_itemReader_iff hchild fun hw => hw.passes.starts).mp harray
      obtain ⟨hlen, hzip⟩ := List.forall₂_iff_zip.mp hitems
      exact ⟨v, .array hv hlen fun p hp => hzip hp, hskip.trans hcs⟩
  · rename_i after hskip
    split at hread
    · cases hread
    · rename_i child
      obtain ⟨depth, rfl, hchild⟩ := h.exists_depth
      obtain ⟨⟨fields, _⟩, hobject, hpure⟩ := ok_of_bind hread
      obtain ⟨rfl, rfl⟩ := Prod.mk.inj (Except.ok.inj hpure)
      obtain ⟨members, entries, v, hv, hentries, rfl, hcs⟩ :=
        (readObject_fold_iff hchild fun fields m => Fields.insert m.1 m.2 fields).mp hobject
      obtain ⟨hkeys, hzip⟩ := memberOf_iff.mp hentries
      exact ⟨v, .object hv hkeys hzip, hskip.trans hcs⟩
  · rename_i c after _ _ _ _ _ _ hskip
    split at hread
    · obtain ⟨⟨n, _⟩, hnumber, hpure⟩ := ok_of_bind hread
      obtain ⟨rfl, rfl⟩ := Prod.mk.inj (Except.ok.inj hpure)
      obtain ⟨t, ht, hn⟩ := readNumber_eq_ok_iff.mp hnumber
      obtain ⟨v, hv, hcs⟩ := NumberText.written_of_readNumberText ht
      exact ⟨v, .number hv hn, hskip.trans hcs⟩
    · cases hread
  · cases hread

theorem complete_readValueWith {child : Option (Reader Json)} {depth : Nat}
    (h : TakesBelow child depth) {v rest : List Char} {x : Json} (hv : Writes depth v x)
    (hrest : Ends rest) : readValueWith child (v ++ rest) = .ok (x, rest) := by
  cases hv with
  | null | true | false => rfl
  | number ht hn =>
    obtain ⟨c, ds, rfl, hc⟩ := ht.startsNumber
    have hread := readNumber_eq_ok_iff.mpr ⟨_, ht.read hrest.halts, hn⟩
    rw [List.cons_append] at hread ⊢
    rw [readValueWith_startsNumber hc, hread]
    rfl
  | @string _ k s hk =>
    have hread : readQuoted (k ++ '"' :: rest) = .ok (String.ofList s, rest) :=
      readQuoted_eq_ok_iff.mpr ⟨k, by rwa [SpellsKey, String.toList_ofList], rfl⟩
    have hcs : inQuotes k ++ rest = '"' :: (k ++ '"' :: rest) := by simp [inQuotes]
    rw [hcs, readValueWith, skipBlank_cons (by decide)]
    simp only [hread, bind, Except.bind, pure, Except.pure]
  | @array depth values items _ hv hlen hitems =>
    obtain ⟨child, rfl, hchild⟩ := h.exists_child
    obtain ⟨body, rfl⟩ := isArray_starts hv
    have hread : readArray (itemReader child) [] (body ++ rest) = .ok (items.reverse, rest) :=
      (readArray_itemReader_iff hchild fun hw => hw.passes.starts).mpr
        ⟨values, _, hv, List.forall₂_iff_zip.mpr ⟨hlen, fun hp => hitems _ hp⟩, rfl⟩
    rw [List.cons_append, readValueWith_array, hread]
    simp [Except.map]
  | @object depth members entries _ hv hkeys hentries =>
    obtain ⟨child, rfl, hchild⟩ := h.exists_child
    obtain ⟨pieces, body, hpieces, hlist, rfl⟩ := hv
    have hread : readObject readQuoted (memberReader child) [] ((body ++ ['}']) ++ rest) =
        .ok (Fields.ofList entries, rest) :=
      (readObject_fold_iff hchild fun fields m => Fields.insert m.1 m.2 fields).mpr
        ⟨members, entries, _, ⟨pieces, body, hpieces, hlist, rfl⟩,
          memberOf_iff.mpr ⟨hkeys, hentries⟩, rfl, rfl⟩
    rw [List.cons_append, readValueWith_object, hread]
    rfl

theorem takes_readValueWith {child : Option (Reader Json)} {depth : Nat}
    (h : TakesBelow child depth) : Takes (readValueWith child) (Writes depth) := by
  constructor
  · intro cs x rest hread
    obtain ⟨b, hb, hcs⟩ := exists_skipBlank cs
    obtain ⟨v, hv, hskip⟩ := sound_readValueWith h hread
    exact ⟨b, v, hb, hv, hskip ▸ hcs⟩
  · intro b v x rest hb hv hrest
    have hskip : readValueWith child (b ++ (v ++ rest)) = readValueWith child (v ++ rest) := by
      simp only [readValueWith, hv.passes.starts.skipBlank_eq hb,
        skipBlank_starts hv.passes.starts]
    rw [hskip]
    exact complete_readValueWith h hv hrest

/-- **A value is read from the texts that write it**, and so every text writes one value at
most. -/
theorem takes_readValue (depth : Nat) : Takes (readValue depth) (Writes depth) := by
  induction depth with
  | zero =>
    have hbelow : TakesBelow none 0 := trivial
    exact takes_readValueWith hbelow
  | succ depth ih =>
    have hbelow : TakesBelow (some (readValue depth)) (depth + 1) := ih
    exact takes_readValueWith hbelow

/-! ## Whole texts -/

theorem ends_nil : Ends [] := fun _ hc => absurd hc (Option.not_mem_none _)

theorem ends_blanks {b : List Char} (hb : Blanks b) : Ends b := by
  have hends := hb.ends ends_nil
  rwa [List.append_nil] at hends

theorem skipBlank_eq_nil_iff {cs : List Char} : skipBlank cs = [] ↔ Blanks cs := by
  rw [skipBlank, List.dropWhile_eq_nil_iff]
  rfl

/-- A whole text that is read, from what its reader takes. -/
theorem Takes.decode_iff {α : Type} {reader : Reader α} {G : List Char → α → Prop}
    (h : Takes reader G) {text : String} {a : α} :
    decode reader text = .ok a ↔
      ∃ b v b', Blanks b ∧ G v a ∧ Blanks b' ∧ text.toList = b ++ (v ++ b') := by
  rw [decode_eq_ok_iff]
  constructor
  · rintro ⟨rest, hread, hrest⟩
    obtain ⟨b, v, hb, hv, hcs⟩ := h.sound hread
    exact ⟨b, v, rest, hb, hv, skipBlank_eq_nil_iff.mp hrest, hcs⟩
  · rintro ⟨b, v, b', hb, hv, hb', hcs⟩
    refine ⟨b', ?_, skipBlank_eq_nil_iff.mpr hb'⟩
    rw [hcs]
    exact h.complete hb hv (ends_blanks hb')

/-- The text writes the value, with white space around it and at most 127 containers around any
part of it. -/
def Spells (text : String) (x : Json) : Prop :=
  ∃ b v b', Blanks b ∧ Writes maxDepth v x ∧ Blanks b' ∧ text.toList = b ++ (v ++ b')

/-- **A text is parsed to the value that it spells.** -/
theorem parse?_eq_some_iff {text : String} {x : Json} :
    parse? text = some x ↔ Spells text x := by
  rw [parse?, toOption_eq_some_iff]
  exact (takes_readValue maxDepth).decode_iff

end SessionAuth.Json
