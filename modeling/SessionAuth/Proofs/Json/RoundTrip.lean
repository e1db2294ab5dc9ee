import Mathlib.Data.List.Forall2
import SessionAuth.Json.Parts
import SessionAuth.Proofs.Json.Fields
import SessionAuth.Proofs.Json.Scalars

/-!
# Values read back

A value that is printed and read again is the same value, provided that its numbers are read
back, the members of its objects stand in ascending order, and its containers nest no deeper than
the reader goes.

* `Printable`: these conditions on a value.
* `Reads`: what a reader makes of a value that is printed; `readArray_render`, `readObject_render`:
  arrays and objects, from what is made of their items and members.
* `readValue_render`: the reader of values undoes the printer of values.
* `parse_print`: a whole text.
* `entries?_print`: the members of an object one by one.
-/

namespace SessionAuth.Json

/-- Values with at most `depth` containers around any part of them whose numbers are read back and
whose members stand in ascending order. -/
inductive Printable : (depth : Nat) → Json → Prop where
  | null {depth : Nat} : Printable depth .null
  | bool {depth : Nat} (b : Bool) : Printable depth (.bool b)
  | number {depth : Nat} {n : Number} (h : n.ReadsBack) : Printable depth (.number n)
  | string {depth : Nat} (s : String) : Printable depth (.string s)
  | array {depth : Nat} {items : List Json} (h : ∀ v ∈ items, Printable depth v) :
      Printable (depth + 1) (.array items)
  | object {depth : Nat} {fields : Fields} (hs : Fields.Sorted fields)
      (h : ∀ m ∈ fields, Printable depth m.2) : Printable (depth + 1) (.object fields)

/-- A value that is printed and followed by something that ends it is read by a reader, and comes
to something. -/
def Reads {α : Type} (reader : Reader α) (v : Json) (a : α) : Prop :=
  ∀ rest, Follows rest → reader (render v ++ rest) = .ok (a, rest)

/-! ## What a text starts with -/

theorem expectWord_append (word rest : List Char) : expectWord word (word ++ rest) = .ok rest := by
  induction word with
  | nil => rfl
  | cons c word ih => simp [expectWord, expect, bind, Except.bind, ih]

theorem skipBlank_cons {c : Char} (h : isBlank c = false) (cs : List Char) :
    skipBlank (c :: cs) = c :: cs := by
  simp [skipBlank, h]

theorem startsNumber_cases {c : Char} (h : startsNumber c = true) :
    isBlank c = false ∧ c ≠ 'n' ∧ c ≠ 't' ∧ c ≠ 'f' ∧ c ≠ '"' ∧ c ≠ '[' ∧ c ≠ '{' ∧ c ≠ ']' := by
  refine ⟨?_, ?_, ?_, ?_, ?_, ?_, ?_, ?_⟩
  · by_contra hb
    simp only [isBlank, Bool.not_eq_false, Bool.or_eq_true, beq_iff_eq] at hb
    rcases hb with ((rfl | rfl) | rfl) | rfl <;> exact absurd h (by decide)
  all_goals
    rintro rfl
    exact absurd h (by decide)

/-- The text of a value starts with a character that is neither white space nor the end of an
array. -/
theorem render_starts {depth : Nat} {v : Json} (h : Printable depth v) :
    ∃ c cs, render v = c :: cs ∧ isBlank c = false ∧ c ≠ ']' := by
  cases h with
  | null => exact ⟨_, _, by rw [render], by decide, by decide⟩
  | bool b => cases b <;> exact ⟨_, _, by rw [render], by decide, by decide⟩
  | number h =>
    obtain ⟨c, cs, hc, hs⟩ := h.starts
    have hcases := startsNumber_cases hs
    exact ⟨c, cs, by rw [render, hc], hcases.1, hcases.2.2.2.2.2.2.2⟩
  | string s => exact ⟨'"', escape s.toList ++ ['"'], by rw [render, quote], by decide, by decide⟩
  | array h => exact ⟨_, _, by rw [render], by decide, by decide⟩
  | object hs h => exact ⟨_, _, by rw [render], by decide, by decide⟩

theorem renderItems_cons {v : Json} {items : List Json} (h : items ≠ []) :
    renderItems (v :: items) = render v ++ ',' :: renderItems items := by
  cases items with
  | nil => exact absurd rfl h
  | cons w ws => rw [renderItems]; simp

theorem renderFields_cons {k : String} {v : Json} {fields : Fields} (h : fields ≠ []) :
    renderFields ((k, v) :: fields) =
      quote k.toList ++ ':' :: (render v ++ ',' :: renderFields fields) := by
  cases fields with
  | nil => exact absurd rfl h
  | cons w ws => rw [renderFields]; simp

/-! ## Arrays -/

section Arrays

variable {α : Type} {child : Reader α}

/-- The reader of one item of an array, as `readValueWith` and `readList` use it. -/
def itemReader (child : Reader α) (items : List α) : Reader (List α) := fun cs => do
  let (a, cs) ← child cs
  return (a :: items, cs)

theorem itemReader_render {v : Json} {a : α} (h : Reads child v a) (items : List α)
    {rest : List Char} (hr : Follows rest) :
    itemReader child items (render v ++ rest) = .ok (a :: items, rest) := by
  rw [itemReader, h rest hr]
  rfl

theorem length_items_le {depth : Nat} {items : List Json} (h : ∀ v ∈ items, Printable depth v) :
    items.length ≤ (renderItems items).length := by
  induction items with
  | nil => simp [renderItems]
  | cons v items ih =>
    obtain ⟨c, cs, hc, -⟩ := render_starts (h v List.mem_cons_self)
    have ih' := ih fun w hw => h w (List.mem_cons_of_mem _ hw)
    by_cases hi : items = []
    · subst hi
      simp [renderItems, hc]
    · rw [renderItems_cons hi, hc]
      simp only [List.length_cons, List.length_append]
      omega

theorem readElements_render {vs : List Json} {as : List α} {v : Json} {a : α}
    (hv : Reads child v a) (h : List.Forall₂ (Reads child) vs as) (acc : List α) {fuel : Nat}
    (hfuel : vs.length < fuel) (rest : List Char) :
    readElements (itemReader child) fuel acc (renderItems (v :: vs) ++ ']' :: rest) =
      .ok (as.reverse ++ a :: acc, rest) := by
  induction h generalizing v a acc fuel with
  | nil =>
    obtain ⟨fuel, rfl⟩ : ∃ n, fuel = n + 1 :=
      ⟨fuel - 1, by simp only [List.length_nil] at hfuel; omega⟩
    have hitem := itemReader_render hv acc (follows_bracket rest)
    rw [renderItems, readElements, hitem]
    simp [bind, Except.bind, skipBlank, isBlank]
  | @cons w b vs as hw htail ih =>
    obtain ⟨fuel, rfl⟩ : ∃ n, fuel = n + 1 :=
      ⟨fuel - 1, by simp only [List.length_cons] at hfuel; omega⟩
    have hitem := itemReader_render hv acc
      (follows_comma (renderItems (w :: vs) ++ ']' :: rest))
    rw [renderItems_cons (List.cons_ne_nil _ _), List.append_assoc, List.cons_append, readElements,
      hitem]
    simp only [bind, Except.bind, skipBlank_cons (show isBlank ',' = false by decide)]
    rw [ih hw (a :: acc) (by simp only [List.length_cons] at hfuel; omega)]
    simp

theorem readArray_render {depth : Nat} {vs : List Json} {as : List α}
    (hp : ∀ v ∈ vs, Printable depth v) (h : List.Forall₂ (Reads child) vs as)
    (rest : List Char) :
    readArray (itemReader child) [] (renderItems vs ++ ']' :: rest) = .ok (as.reverse, rest) := by
  cases h with
  | nil => simp [renderItems, readArray, skipBlank, isBlank]
  | @cons v a vs as hv htail =>
    obtain ⟨c, cs, hc, hblank, hne⟩ := render_starts (hp v List.mem_cons_self)
    have hlen := length_items_le hp
    have hstart : ∃ ds, renderItems (v :: vs) ++ ']' :: rest = c :: ds := by
      by_cases hi : vs = []
      · subst hi
        exact ⟨cs ++ ']' :: rest, by rw [renderItems, hc, List.cons_append]⟩
      · refine ⟨cs ++ ',' :: renderItems vs ++ ']' :: rest, ?_⟩
        rw [renderItems_cons hi, hc, List.cons_append, List.cons_append]
    obtain ⟨ds, hds⟩ := hstart
    have hfuel : vs.length < (c :: ds).length := by
      rw [← hds, List.length_append]
      simp only [List.length_cons] at hlen ⊢
      omega
    have hread := readElements_render hv htail [] hfuel rest
    rw [hds] at hread ⊢
    rw [readArray, skipBlank_cons hblank]
    split
    · rename_i heq
      exact absurd (List.cons.inj heq).1 hne
    · rw [hread]
      simp

end Arrays

/-! ## Objects -/

/-- A step of reading an object that keeps the state `state` in front of a member and has
`next` behind it. -/
def MemberTaken {σ : Type} (member : σ → String → Reader σ) (m : String × Json) (state next : σ) :
    Prop :=
  ∀ rest, Follows rest → member state m.1 (':' :: (render m.2 ++ rest)) = .ok (next, rest)

/-- The steps of reading the members of an object, each with the state that the one before it has
left. -/
inductive Reaches {σ : Type} (member : σ → String → Reader σ) : Fields → σ → σ → Prop
  | nil (s : σ) : Reaches member [] s s
  | cons {m : String × Json} {fields : Fields} {s mid s' : σ} (taken : MemberTaken member m s mid)
      (rest : Reaches member fields mid s') : Reaches member (m :: fields) s s'

/-- Steps that do not depend on the state are those of a fold. -/
theorem reaches_foldl {σ : Type} {member : σ → String → Reader σ} {step : σ → String × Json → σ}
    {fields : Fields} (h : ∀ e ∈ fields, ∀ s, MemberTaken member e s (step s e)) (s : σ) :
    Reaches member fields s (fields.foldl step s) := by
  induction fields generalizing s with
  | nil => exact .nil s
  | cons m fields ih =>
    refine .cons (h m List.mem_cons_self s) (ih ?_ (step s m))
    exact fun e he => h e (List.mem_cons_of_mem m he)

theorem length_fields_le (fields : Fields) : fields.length ≤ (renderFields fields).length := by
  induction fields with
  | nil => simp
  | cons m fields ih =>
    obtain ⟨k, v⟩ := m
    by_cases hf : fields = []
    · subst hf
      simp [renderFields, quote]
    · rw [renderFields_cons hf]
      simp only [List.length_append, List.length_cons, quote]
      omega

theorem expect_quote (k : String) (rest : List Char) :
    expect '"' (skipBlank (quote k.toList ++ rest)) = .ok (escape k.toList ++ '"' :: rest) := by
  simp [quote, skipBlank, isBlank, expect]

theorem readMembers_render {σ : Type} {member : σ → String → Reader σ} {fields : Fields}
    {m : String × Json} {s s' : σ} (h : Reaches member (m :: fields) s s') {fuel : Nat}
    (hfuel : fields.length < fuel) (rest : List Char) :
    readMembers readQuoted member fuel s (renderFields (m :: fields) ++ '}' :: rest) =
      .ok (s', rest) := by
  induction fields generalizing m s fuel with
  | nil =>
    obtain ⟨k, v⟩ := m
    obtain ⟨fuel, rfl⟩ : ∃ n, fuel = n + 1 :=
      ⟨fuel - 1, by simp only [List.length_nil] at hfuel; omega⟩
    obtain _ | ⟨htaken, _ | _⟩ := h
    have hm := htaken _ (follows_brace rest)
    rw [renderFields, List.append_assoc, List.cons_append, readMembers, expect_quote]
    simp only [bind, Except.bind, readQuoted_quote, hm,
      skipBlank_cons (show isBlank '}' = false by decide)]
  | cons e fields ih =>
    obtain ⟨k, v⟩ := m
    obtain ⟨fuel, rfl⟩ : ∃ n, fuel = n + 1 :=
      ⟨fuel - 1, by simp only [List.length_cons] at hfuel; omega⟩
    obtain _ | ⟨htaken, htail⟩ := h
    have hm := htaken _ (follows_comma (renderFields (e :: fields) ++ '}' :: rest))
    rw [renderFields_cons (List.cons_ne_nil _ _), List.append_assoc, List.cons_append,
      List.append_assoc, List.cons_append, readMembers, expect_quote]
    simp only [bind, Except.bind, readQuoted_quote, hm,
      skipBlank_cons (show isBlank ',' = false by decide)]
    exact ih htail (by simp only [List.length_cons] at hfuel; omega)

theorem readObject_render {σ : Type} {member : σ → String → Reader σ} {fields : Fields} {s s' : σ}
    (h : Reaches member fields s s') (rest : List Char) :
    readObject readQuoted member s (renderFields fields ++ '}' :: rest) = .ok (s', rest) := by
  cases fields with
  | nil =>
    obtain _ | _ := h
    simp [renderFields, readObject, skipBlank, isBlank]
  | cons m fields =>
    have hlen := length_fields_le (m :: fields)
    have hstart : ∃ ds, renderFields (m :: fields) ++ '}' :: rest = '"' :: ds := by
      obtain ⟨k, v⟩ := m
      by_cases hf : fields = []
      · subst hf
        exact ⟨_, by rw [renderFields, quote]; rfl⟩
      · exact ⟨_, by rw [renderFields_cons hf, quote]; rfl⟩
    obtain ⟨ds, hds⟩ := hstart
    have hfuel : fields.length < ('"' :: ds).length := by
      rw [← hds, List.length_append]
      simp only [List.length_cons] at hlen ⊢
      omega
    have hread := readMembers_render h hfuel rest
    rw [hds] at hread ⊢
    rw [readObject, skipBlank_cons (show isBlank '"' = false by decide)]
    exact hread

/-! ## Values -/

/-- The reader of one member of an object, as `readValueWith` uses it. -/
def memberReader (child : Reader Json) (fields : Fields) (key : String) : Reader Fields :=
  fun cs => do
    let (v, cs) ← child (← readColon cs)
    return (fields.insert key v, cs)

theorem readColon_cons (cs : List Char) : readColon (':' :: cs) = .ok cs := by
  simp [readColon, skipBlank, isBlank, expect]

theorem memberReader_taken {child : Reader Json} {m : String × Json} (h : Reads child m.2 m.2)
    (fields : Fields) :
    MemberTaken (memberReader child) m fields (fields.insert m.1 m.2) := by
  intro rest hr
  simp only [memberReader, readColon_cons, bind, Except.bind, h rest hr, pure, Except.pure]

theorem readValueWith_array (child : Reader Json) (cs : List Char) :
    readValueWith (some child) ('[' :: cs) =
      (readArray (itemReader child) [] cs).map fun p => (.array p.1.reverse, p.2) := by
  rw [readValueWith, skipBlank_cons (by decide)]
  change (readArray (itemReader child) [] cs >>= _) = _
  cases readArray (itemReader child) [] cs <;> rfl

theorem readValueWith_object (child : Reader Json) (cs : List Char) :
    readValueWith (some child) ('{' :: cs) =
      (readObject readQuoted (memberReader child) [] cs).map fun p => (.object p.1, p.2) := by
  rw [readValueWith, skipBlank_cons (by decide)]
  change (readObject readQuoted (memberReader child) [] cs >>= _) = _
  cases readObject readQuoted (memberReader child) [] cs <;> rfl

/-- A text that starts as numbers do is read as a number. -/
theorem readValueWith_startsNumber {c : Char} (h : startsNumber c = true) (cs : List Char)
    (child : Option (Reader Json)) :
    readValueWith child (c :: cs) = (readNumber (c :: cs)).map fun p => (.number p.1, p.2) := by
  obtain ⟨hb, hn, ht, hf, hq, ha, ho, -⟩ := startsNumber_cases h
  rw [readValueWith, skipBlank_cons hb]
  split
  all_goals first
    | rename_i heq; exact absurd (List.cons.inj heq).1 (by assumption)
    | skip
  · rename_i heq
    obtain ⟨rfl, rfl⟩ := List.cons.inj heq
    rw [if_pos h]
    cases readNumber (_ :: _) <;> rfl
  · rename_i heq
    cases heq

theorem readValueWith_number {n : Number} (h : n.ReadsBack) (child : Option (Reader Json)) :
    Reads (readValueWith child) (.number n) (.number n) := by
  intro rest hr
  obtain ⟨c, cs, hc, hs⟩ := h.starts
  have hread := h.reads rest hr
  rw [hc, List.cons_append] at hread
  rw [render, hc, List.cons_append, readValueWith_startsNumber hs, hread]
  rfl

theorem readValue_render {depth : Nat} {v : Json} (h : Printable depth v) :
    Reads (readValue depth) v v := by
  induction h with
  | @null depth =>
    intro rest _
    have hw := expectWord_append ['u', 'l', 'l'] rest
    cases depth <;> simp only [readValue, render, List.cons_append, List.nil_append, readValueWith,
      skipBlank_cons (show isBlank 'n' = false by decide)] at hw ⊢ <;> rw [hw] <;> rfl
  | @bool depth b =>
    intro rest _
    cases b with
    | true =>
      have hw := expectWord_append ['r', 'u', 'e'] rest
      cases depth <;> simp only [readValue, render, List.cons_append, List.nil_append,
        readValueWith, skipBlank_cons (show isBlank 't' = false by decide)] at hw ⊢ <;>
        rw [hw] <;> rfl
    | false =>
      have hw := expectWord_append ['a', 'l', 's', 'e'] rest
      cases depth <;> simp only [readValue, render, List.cons_append, List.nil_append,
        readValueWith, skipBlank_cons (show isBlank 'f' = false by decide)] at hw ⊢ <;>
        rw [hw] <;> rfl
  | @number depth n h => cases depth <;> exact readValueWith_number h _
  | @string depth s =>
    intro rest _
    have hq := readQuoted_quote s rest
    cases depth <;> simp only [readValue, render, quote, List.cons_append, List.append_assoc,
      List.nil_append, readValueWith, skipBlank_cons (show isBlank '"' = false by decide), hq,
      bind, Except.bind, pure, Except.pure]
  | @array depth items hp ih =>
    intro rest _
    have hitems : List.Forall₂ (Reads (readValue depth)) items items :=
      List.forall₂_same.mpr ih
    rw [readValue, render, List.cons_append, List.append_assoc, List.singleton_append,
      readValueWith_array, readArray_render hp hitems]
    simp [Except.map]
  | @object depth fields hs hp ih =>
    intro rest _
    have hmember : ∀ e ∈ fields, ∀ s, MemberTaken (memberReader (readValue depth)) e s
        (Fields.insert e.1 e.2 s) := fun e he s => memberReader_taken (ih e he) s
    rw [readValue, render, List.cons_append, List.append_assoc, List.singleton_append,
      readValueWith_object, readObject_render (reaches_foldl hmember [])]
    exact congrArg (fun f => Except.ok (Json.object f, rest)) (Fields.ofList_of_sorted hs)

theorem decode_of_reads {α : Type} {reader : Reader α} {cs : List Char} {a : α}
    (h : reader cs = .ok (a, [])) : decode reader (String.ofList cs) = .ok a := by
  simp [decode, h, bind, Except.bind, skipBlank]

/-- A whole text is read as the value that it is printed from. -/
theorem decode_print {α : Type} {reader : Reader α} {v : Json} {a : α} (h : Reads reader v a) :
    decode reader v.print = .ok a := by
  have hread := h [] follows_nil
  rw [List.append_nil] at hread
  exact decode_of_reads hread

/-- A value that is printed is read back. -/
theorem parse_print {v : Json} (h : Printable maxDepth v) : parse v.print = .ok v :=
  decode_print (readValue_render h)

/-! ## The members one by one -/

/-- The reader of one member of an object, as `readEntriesWith` uses it. -/
def entryReader (child : Reader Json) (entries : List (String × Json)) (key : String) :
    Reader (List (String × Json)) := fun cs => do
  let (v, cs) ← child (← readColon cs)
  return ((key, v) :: entries, cs)

theorem entryReader_taken {child : Reader Json} {m : String × Json} (h : Reads child m.2 m.2)
    (entries : List (String × Json)) :
    MemberTaken (entryReader child) m entries (m :: entries) := by
  intro rest hr
  simp only [entryReader, readColon_cons, bind, Except.bind, h rest hr, pure, Except.pure]

theorem readEntriesWith_object (child : Reader Json) (cs : List Char) :
    readEntriesWith child ('{' :: cs) =
      (readObject readQuoted (entryReader child) [] cs).map fun p => (p.1.reverse, p.2) := by
  rw [readEntriesWith, skipBlank_cons (by decide)]
  change (readObject readQuoted (entryReader child) [] cs >>= _) = _
  cases readObject readQuoted (entryReader child) [] cs <;> rfl

theorem foldl_cons_eq (fields entries : List (String × Json)) :
    fields.foldl (fun acc m => m :: acc) entries = fields.reverse ++ entries := by
  induction fields generalizing entries with
  | nil => rfl
  | cons m fields ih => simp [ih]

/-- The members of an object that is printed are read back in their order. -/
theorem entries?_print {fields : Fields} (h : Printable maxDepth (.object fields)) :
    entries? (Json.object fields).print = some fields := by
  have hmember : ∀ e ∈ fields, ∀ s,
      MemberTaken (entryReader (readValue (maxDepth - 1))) e s (e :: s) := by
    intro e he s
    cases h with
    | object _ hp => exact entryReader_taken (readValue_render (hp e he)) s
  have hread : readEntries (maxDepth - 1) (render (.object fields)) = .ok (fields, []) := by
    rw [readEntries, render, readEntriesWith_object,
      readObject_render (reaches_foldl hmember []), foldl_cons_eq]
    simp [Except.map]
  rw [entries?, print, decode_of_reads hread]
  rfl

end SessionAuth.Json
