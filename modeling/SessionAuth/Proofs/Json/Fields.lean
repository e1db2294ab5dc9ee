import SessionAuth.Json.Value

/-!
# Members in ascending order

Writing members keeps their keys in ascending order, and members that are in order already are
left as they are when they are written one by one.

* `sorted_insert`, `sorted_merge`, `sorted_ofList`: what is written is in order.
* `get?_merge_of_notMem`, `get?_merge_of_mem`: which values the keys have afterwards.
* `ofList_of_sorted`: members in order are written as they stand.
-/

namespace SessionAuth.Json.Fields

theorem lt_of_not_lt_of_ne {a b : String} (hlt : ¬ a < b) (hne : a ≠ b) : b < a := by
  rcases Decidable.em (b < a) with h | h
  · exact h
  · exact absurd (String.le_antisymm (String.not_lt.mp h) (String.not_lt.mp hlt)) hne

theorem mem_insert {key : String} {value : Json} {fields : Fields} {m : String × Json}
    (h : m ∈ fields.insert key value) : m = (key, value) ∨ m ∈ fields := by
  induction fields with
  | nil => simpa [insert] using h
  | cons member rest ih =>
    obtain ⟨k, v⟩ := member
    simp only [insert] at h
    split at h
    · rcases List.mem_cons.mp h with h | h
      · exact Or.inl h
      · exact Or.inr (List.mem_cons_of_mem _ h)
    · split at h
      · exact List.mem_cons.mp h
      · rcases List.mem_cons.mp h with h | h
        · exact Or.inr (h ▸ List.mem_cons_self)
        · rcases ih h with h | h
          · exact Or.inl h
          · exact Or.inr (List.mem_cons_of_mem _ h)

theorem sorted_nil : Sorted [] := List.Pairwise.nil

theorem sorted_cons {k : String} {v : Json} {rest : Fields} :
    Sorted ((k, v) :: rest) ↔ (∀ m ∈ rest, k < m.1) ∧ Sorted rest := by
  simp only [Sorted, List.map_cons, List.pairwise_cons, List.mem_map, forall_exists_index, and_imp,
    forall_apply_eq_imp_iff₂]

theorem sorted_pair {key key' : String} {value value' : Json} (h : key < key') :
    Sorted [(key, value), (key', value')] :=
  List.pairwise_pair.mpr h

theorem sorted_insert {key : String} {value : Json} {fields : Fields} (h : Sorted fields) :
    Sorted (fields.insert key value) := by
  induction fields with
  | nil => exact sorted_cons.mpr ⟨by simp, sorted_nil⟩
  | cons member rest ih =>
    obtain ⟨k, v⟩ := member
    obtain ⟨hk, hrest⟩ := sorted_cons.mp h
    simp only [insert]
    split
    · rename_i heq
      exact sorted_cons.mpr ⟨heq ▸ hk, hrest⟩
    · split
      · rename_i hlt
        refine sorted_cons.mpr ⟨fun m hm => ?_, h⟩
        rcases List.mem_cons.mp hm with rfl | hm
        · exact hlt
        · exact String.lt_trans hlt (hk m hm)
      · rename_i hne hlt
        refine sorted_cons.mpr ⟨fun m hm => ?_, ih hrest⟩
        rcases mem_insert hm with rfl | hm
        · exact lt_of_not_lt_of_ne hlt hne
        · exact hk m hm

theorem sorted_merge {fields extra : Fields} (h : Sorted fields) : Sorted (fields.merge extra) := by
  induction extra generalizing fields with
  | nil => exact h
  | cons member rest ih => exact ih (sorted_insert h)

theorem sorted_ofList (members : List (String × Json)) : Sorted (ofList members) :=
  sorted_merge sorted_nil

theorem mem_merge {fields extra : Fields} {m : String × Json} (h : m ∈ fields.merge extra) :
    m ∈ fields ∨ m ∈ extra := by
  induction extra generalizing fields with
  | nil => exact Or.inl h
  | cons member rest ih =>
    rcases ih h with h | h
    · rcases mem_insert h with h | h
      · exact Or.inr (h ▸ List.mem_cons_self)
      · exact Or.inl h
    · exact Or.inr (List.mem_cons_of_mem _ h)

theorem mem_ofList {members : List (String × Json)} {m : String × Json} (h : m ∈ ofList members) :
    m ∈ members := by
  rcases mem_merge h with h | h
  · exact absurd h List.not_mem_nil
  · exact h

theorem get?_merge_of_notMem {fields extra : Fields} {key : String}
    (h : ∀ m ∈ extra, key ≠ m.1) : (fields.merge extra).get? key = fields.get? key := by
  induction extra generalizing fields with
  | nil => rfl
  | cons member rest ih =>
    have hfirst := get?_insert_of_ne fields member.2 (h member List.mem_cons_self)
    exact (ih fun m hm => h m (List.mem_cons_of_mem _ hm)).trans hfirst

theorem get?_merge_of_mem {fields extra : Fields} {key : String} {value : Json}
    (hnodup : (extra.map Prod.fst).Nodup) (h : (key, value) ∈ extra) :
    (fields.merge extra).get? key = some value := by
  induction extra generalizing fields with
  | nil => exact absurd h List.not_mem_nil
  | cons member rest ih =>
    obtain ⟨hne, hrest⟩ := List.nodup_cons.mp hnodup
    rcases List.mem_cons.mp h with rfl | h
    · have hlast : ∀ m ∈ rest, key ≠ m.1 := fun m hm he =>
        hne (List.mem_map.mpr ⟨m, hm, he.symm⟩)
      exact (get?_merge_of_notMem hlast).trans (get?_insert_self fields key value)
    · exact ih hrest h

theorem get?_ofList {members : List (String × Json)} {key : String} {value : Json}
    (hnodup : (members.map Prod.fst).Nodup) (h : (key, value) ∈ members) :
    (ofList members).get? key = some value :=
  get?_merge_of_mem hnodup h

/-! ## Members in order already -/

theorem insert_of_forall_lt {key : String} {value : Json} {fields : Fields}
    (h : ∀ m ∈ fields, m.1 < key) : fields.insert key value = fields ++ [(key, value)] := by
  induction fields with
  | nil => rfl
  | cons member rest ih =>
    obtain ⟨k, v⟩ := member
    have hk : k < key := h (k, v) List.mem_cons_self
    have hne : key ≠ k := fun he => String.lt_irrefl k (he ▸ hk)
    rw [insert, if_neg hne, if_neg (String.lt_asymm hk),
      ih (fun m hm => h m (List.mem_cons_of_mem _ hm)), List.cons_append]

theorem merge_of_sorted {fields extra : Fields} (h : Sorted extra)
    (hlt : ∀ m ∈ fields, ∀ e ∈ extra, m.1 < e.1) : fields.merge extra = fields ++ extra := by
  induction extra generalizing fields with
  | nil => simp [merge]
  | cons member rest ih =>
    obtain ⟨k, v⟩ := member
    obtain ⟨hk, hrest⟩ := sorted_cons.mp h
    have hinsert : fields.insert k v = fields ++ [(k, v)] :=
      insert_of_forall_lt fun m hm => hlt m hm (k, v) List.mem_cons_self
    have hmerge : fields.merge ((k, v) :: rest) = (fields.insert k v).merge rest := rfl
    rw [hmerge, hinsert, ih hrest, List.append_assoc, List.singleton_append]
    intro m hm e he
    rcases List.mem_append.mp hm with hm | hm
    · exact hlt m hm e (List.mem_cons_of_mem _ he)
    · rw [List.mem_singleton.mp hm]
      exact hk e he

/-- Members in ascending order are written as they stand. -/
theorem ofList_of_sorted {fields : Fields} (h : Sorted fields) : ofList fields = fields := by
  rw [ofList, merge_of_sorted h (fun m hm => absurd hm List.not_mem_nil), List.nil_append]

theorem nodup_keys {fields : Fields} (h : Sorted fields) : (fields.map Prod.fst).Nodup :=
  h.imp fun hlt => String.ne_of_lt hlt

end SessionAuth.Json.Fields
