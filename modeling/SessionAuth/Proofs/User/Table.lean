import SessionAuth.User.Table

/-!
# Accounts that look-ups see

* `HasLive`: an account under an id that is not deleted; `hasLive_iff` ties it to the look-up.
* `hasLive_insert`, `hasLive_updatePassword`, `hasLive_softDelete`: the accounts afterwards.
* `Deleted`: an account that is deleted; `deleted_softDelete` and `Deleted.insert`,
  `Deleted.update` say that it is one after its deletion and for ever after.
-/

namespace SessionAuth

@[simp] theorem User.setPassword_id (u : User) (hash : PasswordHash) (at' : Instant) :
    (u.setPassword hash at').id = u.id := rfl

@[simp] theorem User.markDeleted_id (u : User) (at' : Instant) : (u.markDeleted at').id = u.id :=
  rfl

namespace UserTable

/-! ## Look-ups -/

theorem mem_live {t : UserTable} {u : User} : u ∈ t.live ↔ u ∈ t.rows ∧ u.isDeleted = false := by
  simp [live]

theorem findById_spec {t : UserTable} {id : UserId} {u : User} (h : t.findById id = some u) :
    u ∈ t.live ∧ u.id = id :=
  ⟨List.mem_of_find?_eq_some h, by simpa using List.find?_some h⟩

theorem findByUsername_spec {t : UserTable} {name : Username} {u : User}
    (h : t.findByUsername name = some u) : u ∈ t.live ∧ u.username = name :=
  ⟨List.mem_of_find?_eq_some h, by simpa using List.find?_some h⟩

/-- There is an account under an id that is not deleted. -/
def HasLive (t : UserTable) (id : UserId) : Prop := ∃ u ∈ t.live, u.id = id

theorem hasLive_iff {t : UserTable} {id : UserId} :
    t.HasLive id ↔ ∃ u, t.findById id = some u := by
  constructor
  · rintro ⟨u, hu, rfl⟩
    have hsome : (t.findById u.id).isSome = true :=
      List.find?_isSome.mpr ⟨u, hu, by simp⟩
    exact Option.isSome_iff_exists.mp hsome
  · rintro ⟨u, hu⟩
    exact ⟨u, findById_spec hu⟩

/-! ## Changes -/

theorem mem_replace {t : UserTable} {u v : User} :
    v ∈ (t.replace u).rows ↔ (v = u ∧ ∃ w ∈ t.rows, w.id = u.id) ∨ (v ∈ t.rows ∧ v.id ≠ u.id) := by
  simp only [replace, List.mem_map]
  constructor
  · rintro ⟨w, hw, rfl⟩
    by_cases he : w.id = u.id
    · exact Or.inl ⟨if_pos he, w, hw, he⟩
    · rw [if_neg he]
      exact Or.inr ⟨hw, he⟩
  · rintro (⟨rfl, w, hw, he⟩ | ⟨hv, he⟩)
    · exact ⟨w, hw, if_pos he⟩
    · exact ⟨v, hv, if_neg he⟩

theorem update_spec {t t' : UserTable} {id : UserId} {change : User → User} {v : User}
    (h : t.update id change = .ok (v, t')) :
    ∃ u, t.findById id = some u ∧ v = change u ∧ t' = t.replace (change u) := by
  rw [update] at h
  cases hu : t.findById id with
  | none => simp [hu] at h
  | some u =>
    rw [hu] at h
    obtain ⟨rfl, rfl⟩ := Prod.mk.inj (Except.ok.inj h)
    exact ⟨u, rfl, rfl, rfl⟩

/-- What an operation finds is an account under the id, and nothing else changes. -/
theorem hasLive_update {t t' : UserTable} {id : UserId} {change : User → User} {v : User}
    (hid : ∀ u, (change u).id = u.id) (h : t.update id change = .ok (v, t')) (other : UserId) :
    t'.HasLive other ↔ (other = id ∧ v.isDeleted = false) ∨ (other ≠ id ∧ t.HasLive other) := by
  obtain ⟨u, hu, rfl, rfl⟩ := update_spec h
  obtain ⟨hlive, rfl⟩ := findById_spec hu
  simp only [HasLive, mem_live, mem_replace, hid]
  constructor
  · rintro ⟨w, ⟨⟨rfl, -⟩ | ⟨hw, hne⟩, hdel⟩, rfl⟩
    · exact Or.inl ⟨hid u, hdel⟩
    · exact Or.inr ⟨hne, w, ⟨hw, hdel⟩, rfl⟩
  · rintro (⟨rfl, hdel⟩ | ⟨hne, w, ⟨hw, hdel⟩, rfl⟩)
    · exact ⟨change u, ⟨Or.inl ⟨rfl, u, (mem_live.mp hlive).1, rfl⟩, hdel⟩, hid u⟩
    · exact ⟨w, ⟨Or.inr ⟨hw, hne⟩, hdel⟩, rfl⟩

theorem insert_spec {t t' : UserTable} {n : NewUser} {u : User} (h : t.insert n = .ok (u, t')) :
    u.id.val = t.lastId + 1 ∧ t' = t.add u := by
  rw [insert] at h
  split at h
  · exact absurd h (by simp)
  · split at h
    · exact absurd h (by simp)
    · split at h
      · rename_i id hid
        obtain ⟨rfl, rfl⟩ := Prod.mk.inj (Except.ok.inj h)
        exact ⟨UserId.ofNat?_eq_some_iff.mp hid, rfl⟩
      · exact absurd h (by simp)

theorem hasLive_insert {t t' : UserTable} {n : NewUser} {u : User} (h : t.insert n = .ok (u, t'))
    {id : UserId} (hlive : t.HasLive id) : t'.HasLive id := by
  obtain ⟨-, rfl⟩ := insert_spec h
  obtain ⟨v, hv, rfl⟩ := hlive
  obtain ⟨hmem, hdel⟩ := mem_live.mp hv
  exact ⟨v, mem_live.mpr ⟨List.mem_append_left _ hmem, hdel⟩, rfl⟩

theorem hasLive_updatePassword {t t' : UserTable} {id : UserId} {hash : PasswordHash}
    {at' : Instant} {v : User} (h : t.updatePassword id hash at' = .ok (v, t')) (other : UserId) :
    t'.HasLive other ↔ t.HasLive other := by
  rw [hasLive_update (fun u => u.setPassword_id hash at') h]
  obtain ⟨u, hu, rfl, -⟩ := update_spec h
  obtain ⟨hlive, rfl⟩ := findById_spec hu
  have hdel : (u.setPassword hash at').isDeleted = false := (mem_live.mp hlive).2
  constructor
  · rintro (⟨rfl, -⟩ | ⟨-, hother⟩)
    · exact ⟨u, hlive, rfl⟩
    · exact hother
  · intro hother
    by_cases he : other = u.id
    · exact Or.inl ⟨he, hdel⟩
    · exact Or.inr ⟨he, hother⟩

theorem hasLive_softDelete {t t' : UserTable} {id : UserId} {at' : Instant} {v : User}
    (h : t.softDelete id at' = .ok (v, t')) (other : UserId) :
    t'.HasLive other ↔ other ≠ id ∧ t.HasLive other := by
  rw [hasLive_update (fun u => u.markDeleted_id at') h]
  obtain ⟨u, -, rfl, -⟩ := update_spec h
  have hdel : (u.markDeleted at').isDeleted = true := rfl
  simp [hdel]

/-! ## Deleted for good -/

/-- There is an account under an id, and it is deleted. -/
structure Deleted (t : UserTable) (id : UserId) : Prop where
  exists_row : ∃ u ∈ t.rows, u.id = id
  isDeleted : ∀ u ∈ t.rows, u.id = id → u.isDeleted = true

theorem Deleted.not_hasLive {t : UserTable} {id : UserId} (h : t.Deleted id) : ¬ t.HasLive id := by
  rintro ⟨u, hu, rfl⟩
  obtain ⟨hmem, hdel⟩ := mem_live.mp hu
  rw [h.isDeleted u hmem rfl] at hdel
  exact absurd hdel (by decide)

theorem deleted_softDelete {t t' : UserTable} {id : UserId} {at' : Instant} {v : User}
    (h : t.softDelete id at' = .ok (v, t')) : t'.Deleted id := by
  obtain ⟨u, hu, rfl, rfl⟩ := update_spec h
  obtain ⟨hlive, rfl⟩ := findById_spec hu
  refine ⟨⟨_, mem_replace.mpr (Or.inl ⟨rfl, u, (mem_live.mp hlive).1, rfl⟩), rfl⟩, ?_⟩
  intro w hw hid
  rcases mem_replace.mp hw with ⟨rfl, -⟩ | ⟨-, hne⟩
  · rfl
  · exact absurd hid hne

/-- What changes an account changes no deleted one, as it does not find any. -/
theorem Deleted.update {t t' : UserTable} {id other : UserId} {change : User → User} {v : User}
    (h : t.Deleted id) (hid : ∀ u, (change u).id = u.id)
    (hupdate : t.update other change = .ok (v, t')) : t'.Deleted id := by
  obtain ⟨u, hu, rfl, rfl⟩ := update_spec hupdate
  obtain ⟨hlive, rfl⟩ := findById_spec hu
  have hne : id ≠ u.id := by
    rintro rfl
    exact h.not_hasLive ⟨u, hlive, rfl⟩
  obtain ⟨w, hw, rfl⟩ := h.exists_row
  refine ⟨⟨w, mem_replace.mpr (Or.inr ⟨hw, by rwa [hid]⟩), rfl⟩, ?_⟩
  intro x hx hxid
  rcases mem_replace.mp hx with ⟨rfl, -⟩ | ⟨hx, -⟩
  · exact absurd (hxid.symm.trans (hid u)) hne
  · exact h.isDeleted x hx hxid

theorem le_foldl_max (rows : List User) (n : Nat) :
    n ≤ rows.foldl (fun n u => max n u.id.val) n ∧
      ∀ u ∈ rows, u.id.val ≤ rows.foldl (fun n u => max n u.id.val) n := by
  induction rows generalizing n with
  | nil => exact ⟨Nat.le_refl n, fun u hu => absurd hu List.not_mem_nil⟩
  | cons w rows ih =>
    obtain ⟨hle, hrows⟩ := ih (max n w.id.val)
    refine ⟨Nat.le_trans (Nat.le_max_left _ _) hle, fun u hu => ?_⟩
    rcases List.mem_cons.mp hu with rfl | hu
    · exact Nat.le_trans (Nat.le_max_right _ _) hle
    · exact hrows u hu

theorem val_le_lastId {t : UserTable} {u : User} (h : u ∈ t.rows) : u.id.val ≤ t.lastId :=
  (le_foldl_max t.rows 0).2 u h

/-- A new account never has the id of a deleted one. -/
theorem Deleted.insert {t t' : UserTable} {id : UserId} {n : NewUser} {u : User}
    (h : t.Deleted id) (hinsert : t.insert n = .ok (u, t')) : t'.Deleted id := by
  obtain ⟨hlast, rfl⟩ := insert_spec hinsert
  obtain ⟨w, hw, rfl⟩ := h.exists_row
  refine ⟨⟨w, List.mem_append_left _ hw, rfl⟩, ?_⟩
  intro x hx hxid
  rcases List.mem_append.mp hx with hx | hx
  · exact h.isDeleted x hx hxid
  · obtain rfl := List.mem_singleton.mp hx
    have hle := val_le_lastId hw
    rw [← hxid] at hle
    omega

end UserTable

end SessionAuth
