import Mathlib.Data.List.Nodup
import SessionAuth.Proofs.User.Table

/-!
# Accounts one by one

Every change of the table is about the account under one id. The rows under all other ids stay as
they are, and what is found under that id is what the change has made of it.

* `Keyed`: no two rows have the same id.
* `rowsOf`: the rows under an id; `findById_eq_find?` reads the look-up off them.
* `rowsOf_insert`, `rowsOf_update`: all other rows stay.
* `findById_insert`, `findById_update`: what is found afterwards.
* `User.Alike`: an account before and after a change of its password.
* `Holds`: an account stands alone under its id and its username; `Holds.insert` and `Holds.update`
  say that no change of another account takes that away, and `Holds.findByUsername` finds it.
-/

namespace SessionAuth

/-- What a change of the password leaves alone. -/
structure User.Alike (u v : User) : Prop where
  id : v.id = u.id
  name : v.name = u.name
  role : v.role = u.role

theorem User.Alike.refl (u : User) : u.Alike u := ⟨rfl, rfl, rfl⟩

theorem User.Alike.trans {u v w : User} (h : u.Alike v) (h' : v.Alike w) : u.Alike w :=
  ⟨h'.id.trans h.id, h'.name.trans h.name, h'.role.trans h.role⟩

theorem User.alike_setPassword (u : User) (hash : PasswordHash) (at' : Instant) :
    u.Alike (u.setPassword hash at') := ⟨rfl, rfl, rfl⟩

namespace UserTable

variable {t t' : UserTable} {id other : UserId} {u v : User} {n : NewUser}

/-! ## The rows under an id -/

/-- No two rows have the same id. -/
def Keyed (t : UserTable) : Prop := (t.rows.map (·.id)).Nodup

/-- The rows under an id, deleted or not. -/
def rowsOf (t : UserTable) (id : UserId) : List User := t.rows.filter (·.id == id)

theorem findById_eq_find? (t : UserTable) (id : UserId) :
    t.findById id = (t.rowsOf id).find? fun u => !u.isDeleted := by
  rw [findById, live, rowsOf, List.find?_filter, List.find?_filter]
  congr 1
  funext u
  exact decide_eq_decide.mpr and_comm

theorem Keyed.eq_of_id (h : t.Keyed) (hu : u ∈ t.rows) (hv : v ∈ t.rows) (hid : u.id = v.id) :
    u = v :=
  List.inj_on_of_nodup_map h hu hv hid

/-- What a look-up by another column finds is found under its id, too. -/
theorem Keyed.findById_of_live (h : t.Keyed) (hu : u ∈ t.live) : t.findById u.id = some u := by
  obtain ⟨v, hv⟩ := hasLive_iff.mp ⟨u, hu, rfl⟩
  obtain ⟨hlive, hid⟩ := findById_spec hv
  rw [hv, h.eq_of_id (mem_live.mp hlive).1 (mem_live.mp hu).1 hid]

/-! ## Changes -/

theorem id_of_insert (h : t.insert n = .ok (u, t')) : ∀ v ∈ t.rows, v.id ≠ u.id := by
  obtain ⟨hlast, -⟩ := insert_spec h
  rintro v hv he
  have hle := val_le_lastId hv
  rw [he] at hle
  omega

theorem Keyed.insert (hkeyed : t.Keyed) (h : t.insert n = .ok (u, t')) : t'.Keyed := by
  have hfresh := id_of_insert h
  obtain ⟨-, rfl⟩ := insert_spec h
  rw [Keyed, add, List.map_append, List.nodup_append]
  refine ⟨hkeyed, List.nodup_singleton _, ?_⟩
  intro a ha b hb
  obtain ⟨v, hv, rfl⟩ := List.mem_map.mp ha
  obtain rfl := List.mem_singleton.mp hb
  exact hfresh v hv

theorem Keyed.update {change : User → User} (hkeyed : t.Keyed)
    (h : t.update id change = .ok (v, t')) : t'.Keyed := by
  obtain ⟨u, -, rfl, rfl⟩ := update_spec h
  have hids : (t.replace (change u)).rows.map (·.id) = t.rows.map (·.id) := by
    rw [replace, List.map_map]
    apply List.map_congr_left
    intro w _
    by_cases hw : w.id = (change u).id
    · simp [hw]
    · simp [hw]
  rw [Keyed, hids]
  exact hkeyed

theorem rowsOf_insert (h : t.insert n = .ok (u, t')) (hne : other ≠ u.id) :
    t'.rowsOf other = t.rowsOf other := by
  obtain ⟨-, rfl⟩ := insert_spec h
  have hid : (u.id == other) = false := beq_false_of_ne hne.symm
  simp [rowsOf, add, hid]

theorem rowsOf_update {change : User → User} (hid : ∀ u, (change u).id = u.id)
    (h : t.update id change = .ok (v, t')) (hne : other ≠ id) :
    t'.rowsOf other = t.rowsOf other := by
  obtain ⟨u, hu, rfl, rfl⟩ := update_spec h
  obtain ⟨-, rfl⟩ := findById_spec hu
  rw [rowsOf, rowsOf, replace, List.filter_map, hid]
  have hsame : List.filter ((fun w : User => w.id == other) ∘
      fun w => if w.id = u.id then change u else w) t.rows =
        List.filter (fun w => w.id == other) t.rows := by
    apply List.filter_congr
    intro w _
    by_cases hw : w.id = u.id
    · simp [hw, hid]
    · simp [hw]
  rw [hsame]
  -- None of the rows that are left is the one that has been replaced.
  have hleft : ∀ w ∈ List.filter (fun w => w.id == other) t.rows,
      (if w.id = u.id then change u else w) = w := by
    intro w hw
    have hother : w.id = other := by simpa using (List.mem_filter.mp hw).2
    exact if_neg (hother ▸ hne)
  exact List.map_congr_left hleft |>.trans (List.map_id _)

theorem findById_insert (h : t.insert n = .ok (u, t')) (hv : t.findById id = some v) :
    t'.findById id = some v := by
  have hne : id ≠ u.id := by
    obtain ⟨hlive, rfl⟩ := findById_spec hv
    exact id_of_insert h v (mem_live.mp hlive).1
  rw [findById_eq_find?, rowsOf_insert h hne, ← findById_eq_find?, hv]

theorem findById_update_of_ne {change : User → User} (hid : ∀ u, (change u).id = u.id)
    (h : t.update id change = .ok (v, t')) (hne : other ≠ id) :
    t'.findById other = t.findById other := by
  rw [findById_eq_find?, rowsOf_update hid h hne, ← findById_eq_find?]

/-- The changed account is found, unless it has been deleted. -/
theorem findById_update {change : User → User} (hid : ∀ u, (change u).id = u.id)
    (h : t.update id change = .ok (v, t')) (hv : v.isDeleted = false) :
    t'.findById id = some v := by
  have hlive : t'.HasLive id := (hasLive_update hid h id).mpr (Or.inl ⟨rfl, hv⟩)
  obtain ⟨w, hw⟩ := hasLive_iff.mp hlive
  obtain ⟨hwlive, hwid⟩ := findById_spec hw
  obtain ⟨u, hu, rfl, rfl⟩ := update_spec h
  obtain ⟨-, rfl⟩ := findById_spec hu
  rcases mem_replace.mp (mem_live.mp hwlive).1 with ⟨rfl, -⟩ | ⟨-, hne⟩
  · exact hw
  · exact absurd (hwid.trans (hid u).symm) hne

/-! ## One account -/

/-- The account is not deleted, it is the only one under its id, and no other one with its username
is not deleted. -/
structure Holds (t : UserTable) (u : User) : Prop where
  live : u.isDeleted = false
  rowsOf : t.rowsOf u.id = [u]
  username : ∀ v ∈ t.live, v.username = u.username → v.id = u.id

theorem Holds.mem_live (h : t.Holds u) : u ∈ t.live := by
  have hmem : u ∈ t.rowsOf u.id := h.rowsOf ▸ List.mem_singleton_self u
  exact UserTable.mem_live.mpr ⟨(List.mem_filter.mp hmem).1, h.live⟩

theorem Holds.eq_of_id (h : t.Holds u) (hv : v ∈ t.rows) (hid : v.id = u.id) : v = u := by
  have hmem : v ∈ t.rowsOf u.id := List.mem_filter.mpr ⟨hv, beq_iff_eq.mpr hid⟩
  rw [h.rowsOf] at hmem
  exact List.mem_singleton.mp hmem

/-- **The account is what a look-up by its username finds.** -/
theorem Holds.findByUsername (h : t.Holds u) : t.findByUsername u.username = some u := by
  have hsome : (t.findByUsername u.username).isSome = true :=
    List.find?_isSome.mpr ⟨u, h.mem_live, beq_self_eq_true _⟩
  obtain ⟨v, hv⟩ := Option.isSome_iff_exists.mp hsome
  obtain ⟨hlive, hname⟩ := findByUsername_spec hv
  rw [hv, h.eq_of_id (UserTable.mem_live.mp hlive).1 (h.username v hlive hname)]

theorem username_of_insert (h : t.insert n = .ok (u, t')) :
    ∀ v ∈ t.live, v.username ≠ n.username := by
  intro v hv he
  have htaken : t.live.any (·.username == n.username) = true :=
    List.any_eq_true.mpr ⟨v, hv, beq_iff_eq.mpr he⟩
  rw [UserTable.insert, if_pos htaken] at h
  exact absurd h (by simp)

theorem withId_of_insert (h : t.insert n = .ok (u, t')) : u = n.withId u.id := by
  rw [UserTable.insert] at h
  split at h
  · exact absurd h (by simp)
  · split at h
    · exact absurd h (by simp)
    · split at h
      · obtain ⟨rfl, -⟩ := Prod.mk.inj (Except.ok.inj h)
        rfl
      · exact absurd h (by simp)

/-- A new account has its id and its username for itself. -/
theorem holds_of_insert (h : t.insert n = .ok (u, t')) : t'.Holds u := by
  have hnew := withId_of_insert h
  have hfresh := id_of_insert h
  have hnames := username_of_insert h
  have hname : u.username = n.username := congrArg User.username hnew
  obtain ⟨-, rfl⟩ := insert_spec h
  refine ⟨congrArg User.isDeleted hnew, ?_, ?_⟩
  · have hnone : t.rows.filter (·.id == u.id) = [] :=
      List.filter_eq_nil_iff.mpr fun v hv => by simpa using hfresh v hv
    rw [UserTable.rowsOf, add, List.filter_append, hnone]
    simp
  · intro v hv he
    obtain ⟨hmem, hdel⟩ := UserTable.mem_live.mp hv
    rcases List.mem_append.mp hmem with hold | hnew
    · exact absurd (he.trans hname) (hnames v (UserTable.mem_live.mpr ⟨hold, hdel⟩))
    · rw [List.mem_singleton.mp hnew]

theorem Holds.insert (h : t.Holds u) (hinsert : t.insert n = .ok (v, t')) : t'.Holds u := by
  have hmem := (UserTable.mem_live.mp h.mem_live).1
  have hne : u.id ≠ v.id := id_of_insert hinsert u hmem
  refine ⟨h.live, (rowsOf_insert hinsert hne).trans h.rowsOf, ?_⟩
  have hnew := withId_of_insert hinsert
  have hfree := username_of_insert hinsert u h.mem_live
  obtain ⟨-, rfl⟩ := insert_spec hinsert
  intro w hw he
  obtain ⟨hwmem, hwdel⟩ := UserTable.mem_live.mp hw
  rcases List.mem_append.mp hwmem with hold | hlast
  · exact h.username w (UserTable.mem_live.mpr ⟨hold, hwdel⟩) he
  · -- The username of the new account was free.
    obtain rfl := List.mem_singleton.mp hlast
    have hname : w.username = n.username := congrArg User.username hnew
    exact absurd (he.symm.trans hname) hfree

/-- A change of another account that leaves usernames alone and brings back no deleted one. -/
theorem Holds.update {change : User → User} (h : t.Holds u) (hid : ∀ w, (change w).id = w.id)
    (hname : ∀ w, (change w).username = w.username)
    (hupdate : t.update id change = .ok (v, t')) (hne : u.id ≠ id) : t'.Holds u := by
  refine ⟨h.live, (rowsOf_update hid hupdate hne).trans h.rowsOf, ?_⟩
  obtain ⟨w, hw, rfl, rfl⟩ := update_spec hupdate
  obtain ⟨hwlive, rfl⟩ := findById_spec hw
  intro x hx he
  obtain ⟨hmem, hdel⟩ := UserTable.mem_live.mp hx
  rcases mem_replace.mp hmem with ⟨rfl, -⟩ | ⟨hold, -⟩
  · rw [hid]
    exact h.username w hwlive ((hname w).symm.trans he)
  · exact h.username x (UserTable.mem_live.mpr ⟨hold, hdel⟩) he

end UserTable

end SessionAuth
