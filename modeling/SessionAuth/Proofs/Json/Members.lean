import Mathlib.Data.List.Nodup
import SessionAuth.Proofs.Bind
import SessionAuth.Proofs.Json.RoundTrip

/-!
# Members one by one and the value they make

The members of an object that are read one by one are those of the value that is read at once: a
text spells an object exactly when its members can be read, and the object keeps the last value of
each key.

* `readMembers_map`, `readObject_map`: two ways of reading members that go in step.
* `parse?_eq_object_iff`: the main statement.
* `Fields.get?_ofList_of_single`: a key that is written once has the value that is written.
* `Fields.get?_merge`, `Fields.ext_of_sorted`: writing members key by key, and what fixes them.
-/

namespace SessionAuth.Json

/-! ## Readers in step -/

section InStep

variable {σ τ : Type} {f : σ → τ} {key : Reader String} {member : σ → String → Reader σ}
  {member' : τ → String → Reader τ}

/-- What a reader gives, with a function on its state. -/
def mapRead (f : σ → τ) (r : Except Fault (σ × List Char)) : Except Fault (τ × List Char) :=
  r.map fun p => (f p.1, p.2)

theorem readMembers_map (h : ∀ s k cs, member' (f s) k cs = mapRead f (member s k cs))
    (fuel : Nat) (s : σ) (cs : List Char) :
    readMembers key member' fuel (f s) cs = mapRead f (readMembers key member fuel s cs) := by
  induction fuel generalizing s cs with
  | zero => rfl
  | succ fuel ih =>
    cases he : expect '"' (skipBlank cs) with
    | error e => simp only [readMembers, he, bind, Except.bind, mapRead, Except.map]
    | ok afterQuote =>
      cases hk : key afterQuote with
      | error e => simp only [readMembers, he, hk, bind, Except.bind, mapRead, Except.map]
      | ok p =>
        obtain ⟨k, afterKey⟩ := p
        cases hm : member s k afterKey with
        | error e =>
          simp only [readMembers, he, hk, h, hm, bind, Except.bind, mapRead, Except.map]
        | ok q =>
          obtain ⟨next, rest⟩ := q
          have hstep : member' (f s) k afterKey = .ok (f next, rest) := by
            rw [h, hm]
            rfl
          simp only [readMembers, he, hk, hm, hstep, bind, Except.bind]
          split
          · exact ih next _
          · rfl
          · rfl

theorem readObject_map (h : ∀ s k cs, member' (f s) k cs = mapRead f (member s k cs)) (s : σ)
    (cs : List Char) :
    readObject key member' (f s) cs = mapRead f (readObject key member s cs) := by
  simp only [readObject]
  split
  · rfl
  · exact readMembers_map h _ s _

end InStep

/-! ## Members and objects -/

/-- The members that have been read, the last one first, as the members of an object. -/
def collected (entries : List (String × Json)) : Fields := Fields.ofList entries.reverse

theorem collected_cons (k : String) (v : Json) (entries : List (String × Json)) :
    collected ((k, v) :: entries) = (collected entries).insert k v := by
  simp [collected, Fields.ofList, Fields.merge, List.foldl_append]

theorem memberReader_collected (child : Reader Json) (entries : List (String × Json)) (k : String)
    (cs : List Char) :
    memberReader child (collected entries) k cs =
      mapRead collected (entryReader child entries k cs) := by
  simp only [memberReader, entryReader, bind, Except.bind]
  cases readColon cs with
  | error e => rfl
  | ok cs =>
    simp only
    cases child cs with
    | error e => rfl
    | ok p => simp [mapRead, Except.map, pure, Except.pure, collected_cons]

/-- An object that is read at once is made of the members that are read one by one. -/
theorem readValueWith_object_eq (child : Reader Json) (cs : List Char) :
    readValueWith (some child) ('{' :: cs) =
      (readEntriesWith child ('{' :: cs)).map fun p => (.object (Fields.ofList p.1), p.2) := by
  have hread : readObject readQuoted (memberReader child) [] cs =
      mapRead collected (readObject readQuoted (entryReader child) [] cs) :=
    readObject_map (memberReader_collected child) [] cs
  rw [readValueWith_object, readEntriesWith_object, hread]
  cases readObject readQuoted (entryReader child) [] cs <;> rfl

/-! ## What an object starts with -/

theorem refuseWith_ne_ok {α : Type} (quoted : Reader String) (cs : List Char)
    (p : α × List Char) : refuseWith quoted cs ≠ .ok p := by
  intro h
  unfold refuseWith at h
  split at h
  · cases h
  · cases h
  · obtain ⟨a, -, ha⟩ := ok_of_bind h
    cases ha
  · obtain ⟨a, -, ha⟩ := ok_of_bind h
    cases ha

theorem brace_of_readValueWith {child : Option (Reader Json)} {cs rest : List Char} {c : Fields}
    (h : readValueWith child cs = .ok (.object c, rest)) : ∃ ds, skipBlank cs = '{' :: ds := by
  unfold readValueWith at h
  split at h
  case h_6 ds hskip => exact ⟨ds, hskip⟩
  case h_5 =>
    split at h
    · cases h
    · obtain ⟨a, -, ha⟩ := ok_of_bind h
      cases ha
  case h_7 =>
    split at h
    · obtain ⟨a, -, ha⟩ := ok_of_bind h
      cases ha
    · cases h
  case h_8 => cases h
  all_goals
    obtain ⟨a, -, ha⟩ := ok_of_bind h
    cases ha

theorem brace_of_readEntriesWith {child : Reader Json} {cs rest : List Char}
    {entries : List (String × Json)} (h : readEntriesWith child cs = .ok (entries, rest)) :
    ∃ ds, skipBlank cs = '{' :: ds := by
  unfold readEntriesWith at h
  split at h
  · exact ⟨_, by assumption⟩
  · exact absurd h (refuseWith_ne_ok _ _ _)

/-! ## Whole texts -/

theorem readValueWith_eq_object_iff {child : Reader Json} {cs rest : List Char} {c : Fields} :
    readValueWith (some child) cs = .ok (.object c, rest) ↔
      ∃ entries, readEntriesWith child cs = .ok (entries, rest) ∧ Fields.ofList entries = c := by
  by_cases hbrace : ∃ ds, skipBlank cs = '{' :: ds
  · obtain ⟨ds, hds⟩ := hbrace
    have hds' : skipBlank ('{' :: ds) = '{' :: ds := skipBlank_cons (by decide) ds
    have hvalue : readValueWith (some child) cs = readValueWith (some child) ('{' :: ds) := by
      simp only [readValueWith, hds, hds']
    have hentries : readEntriesWith child cs = readEntriesWith child ('{' :: ds) := by
      simp only [readEntriesWith, hds, hds']
    rw [hvalue, hentries, readValueWith_object_eq]
    cases readEntriesWith child ('{' :: ds) with
    | error e => simp [Except.map]
    | ok p =>
      obtain ⟨entries, tail⟩ := p
      simp [Except.map, and_comm, and_assoc]
  · constructor
    · intro h
      exact absurd (brace_of_readValueWith h) hbrace
    · rintro ⟨entries, h, -⟩
      exact absurd (brace_of_readEntriesWith h) hbrace

theorem decode_eq_ok_iff {α : Type} {reader : Reader α} {text : String} {a : α} :
    decode reader text = .ok a ↔
      ∃ rest, reader text.toList = .ok (a, rest) ∧ skipBlank rest = [] := by
  constructor
  · intro h
    obtain ⟨⟨b, rest⟩, hread, hend⟩ := ok_of_bind h
    simp only at hend
    split at hend
    · rename_i hrest
      obtain rfl := Except.ok.inj hend
      exact ⟨rest, hread, List.isEmpty_iff.mp hrest⟩
    · cases hend
  · rintro ⟨rest, hread, hrest⟩
    simp only [decode, hread, hrest, bind, Except.bind, List.isEmpty_nil, if_true]

theorem toOption_eq_some_iff {ε α : Type} {x : Except ε α} {a : α} :
    x.toOption = some a ↔ x = .ok a := by
  cases x <;> simp [Except.toOption]

/-- **A text spells an object when its members can be read**, and of a key that repeats the object
keeps the last value. -/
theorem parse?_eq_object_iff {text : String} {c : Fields} :
    parse? text = some (.object c) ↔
      ∃ entries, entries? text = some entries ∧ Fields.ofList entries = c := by
  have hdepth : readValue maxDepth = readValueWith (some (readValue (maxDepth - 1))) := rfl
  simp only [parse?, parse, entries?, toOption_eq_some_iff, decode_eq_ok_iff, hdepth,
    readValueWith_eq_object_iff, readEntries]
  constructor
  · rintro ⟨rest, ⟨entries, hread, hc⟩, hrest⟩
    exact ⟨entries, ⟨rest, hread, hrest⟩, hc⟩
  · rintro ⟨entries, ⟨rest, hread, hrest⟩, hc⟩
    exact ⟨rest, ⟨entries, hread, hc⟩, hrest⟩

/-! ## Keys that are written once -/

/-- How often a key is written. -/
theorem count_keys {α : Type} (members : List (String × α)) (key : String) :
    (members.map Prod.fst).count key = (members.filter (·.1 == key)).length := by
  rw [List.count_eq_length_filter, List.filter_map, List.length_map]
  rfl

namespace Fields

theorem mem_of_get? {fields : Fields} {key : String} {value : Json}
    (h : fields.get? key = some value) : (key, value) ∈ fields := by
  obtain ⟨k, l, hkl⟩ := List.lookup_eq_some_iff.mp h
  rw [hkl.1]
  simp

/-- Of a key that is written once, the value is the one that is written. -/
theorem get?_ofList_of_single {entries : List (String × Json)} {key : String} {value : Json}
    (hsingle : (entries.filter (·.1 == key)).length ≤ 1) (h : (key, value) ∈ entries) :
    (ofList entries).get? key = some value := by
  obtain ⟨before, after, rfl⟩ := List.append_of_mem h
  have hafter : ∀ m ∈ after, key ≠ m.1 := by
    rintro m hm rfl
    have hmem : m ∈ after.filter (·.1 == m.1) := List.mem_filter.mpr ⟨hm, by simp⟩
    have hpos := List.length_pos_of_mem hmem
    simp only [List.filter_append, List.filter_cons, beq_self_eq_true, if_true, List.length_append,
      List.length_cons] at hsingle
    omega
  have hsplit : ofList (before ++ (key, value) :: after) =
      ((ofList before).insert key value).merge after := by
    simp only [ofList, merge, List.foldl_append, List.foldl_cons]
  rw [hsplit, get?_merge_of_notMem hafter, get?_insert_self]

theorem get?_iff_mem_of_sorted {fields : Fields} (h : Sorted fields) {key : String}
    {value : Json} : fields.get? key = some value ↔ (key, value) ∈ fields := by
  refine ⟨mem_of_get?, fun hmem => ?_⟩
  have hget := get?_ofList (nodup_keys h) hmem
  rwa [ofList_of_sorted h] at hget

/-- Members in order are the same when all keys have the same values. -/
theorem ext_of_sorted {fields other : Fields} (h : Sorted fields) (h' : Sorted other)
    (hget : ∀ key, fields.get? key = other.get? key) : fields = other := by
  have hmem : ∀ m, m ∈ fields ↔ m ∈ other := by
    rintro ⟨k, v⟩
    rw [← get?_iff_mem_of_sorted h, ← get?_iff_mem_of_sorted h', hget]
  have hperm : fields.Perm other :=
    (List.perm_ext_iff_of_nodup (nodup_keys h).of_map (nodup_keys h').of_map).mpr hmem
  have hpair : ∀ {l : Fields}, Sorted l → l.Pairwise fun a b => a.1 < b.1 :=
    List.pairwise_map.mp
  exact hperm.eq_of_pairwise (fun a b _ _ hab hba => absurd hab (String.lt_asymm hba))
    (hpair h) (hpair h')

end Fields

end SessionAuth.Json
