import Mathlib.Data.List.Pairwise
import SessionAuth.Proofs.User.Row

/-!
# A database that keeps the accounts apart

What a database has to do for the accounts: it finds live rows, marks them as deleted, and adds a
row unless one of its two indexes on live rows has the value already. The index that a new row
breaks is named in the fault. How the database does so, and what else it keeps, is left open.

* `Database.Engine`, `Database.Engine.Healthy`: a database, and one that does all this.
* `UserRow.Apart`: two rows that do not share a username or an e-mail address if both are live.
* `Database.Sound`: such rows of which every live one can be read; each query leaves them sound.
* `Adding.result`, `Finding.result`: what the repository makes of the outcomes.
* `Database.ledger`: a database in a list of rows, which does all this.
-/

namespace SessionAuth

namespace UserRow

/-- The row as it is sent, every column with a value but perhaps the last. -/
def raw (row : UserRow) : RawRow :=
  ⟨some row.id, some row.username, some row.name, some row.email, some row.passwordHash,
    some row.role, some row.createdAt, some row.updatedAt, row.deletedAt⟩

theorem toUser_raw (row : UserRow) : row.raw.toUser = row.toUser := rfl

/-- The row of an account that is not deleted. -/
def Live (row : UserRow) : Prop := row.deletedAt = none

instance (row : UserRow) : Decidable row.Live := inferInstanceAs (Decidable (_ = _))

/-- The row holds a new account. A database may keep other dates than it was given. -/
structure Holds (row : UserRow) (n : NewUser) : Prop where
  username : row.username = n.username.text
  name : row.name = n.name
  email : row.email = n.email.text
  passwordHash : row.passwordHash = n.passwordHash.text
  role : row.role = n.role.name
  live : row.Live

/-- What is read from the row of a new account: the account under the id of the row, with the dates
that the row has. -/
theorem Holds.toUser_eq {row : UserRow} {n : NewUser} {id : UserId} (h : row.Holds n)
    (hid : row.id = id.val) (hemail : n.email.Normal) :
    row.toUser =
      .ok { n.withId id with createdAt := row.createdAt, updatedAt := row.updatedAt } := by
  have hlive : row.deletedAt = none := h.live
  rw [toUser, hid, h.username, h.name, h.email, h.passwordHash, h.role, hlive,
    UserId.ofInt_val, Username.ofText_text, hemail, PasswordHash.ofText_text, Role.ofName_name]
  rfl

/-- Every id that a row may have is the id of an account. -/
theorem exists_userId {row : UserRow} (hpos : 0 < row.id) (hle : row.id ≤ maxInt64) :
    ∃ id : UserId, row.id = id.val := by
  unfold maxInt64 at hle
  refine ⟨⟨row.id.toNat, by omega, by unfold maxNat64; omega⟩, ?_⟩
  show row.id = (row.id.toNat : Int)
  omega

/-- A new account is read back from its row, under the id that the row has been given. -/
theorem Holds.toUser {row : UserRow} {n : NewUser} (h : row.Holds n) (hpos : 0 < row.id)
    (hle : row.id ≤ maxInt64) (hemail : n.email.Normal) :
    ∃ u, row.toUser = .ok u ∧ (u.id.val : Int) = row.id ∧ u.username = n.username ∧
      u.name = n.name ∧ u.email = n.email ∧ u.role = n.role := by
  obtain ⟨id, hid⟩ := row.exists_userId hpos hle
  exact ⟨_, h.toUser_eq hid hemail, hid.symm, rfl, rfl, rfl, rfl⟩

/-- The row after the live ones with an id have been marked as deleted. -/
def marked (id : Int) (time : Instant) (row : UserRow) : UserRow :=
  if row.id = id ∧ row.Live then { row with deletedAt := some time, updatedAt := time } else row

section Marked

variable (row : UserRow) (id : Int) (time : Instant)

@[simp] theorem marked_id : (row.marked id time).id = row.id := by
  unfold marked
  split <;> rfl

@[simp] theorem marked_username : (row.marked id time).username = row.username := by
  unfold marked
  split <;> rfl

@[simp] theorem marked_email : (row.marked id time).email = row.email := by
  unfold marked
  split <;> rfl

/-- A row that is live after some have been marked is none of them. -/
theorem marked_of_live (h : (row.marked id time).Live) : row.marked id time = row := by
  unfold marked at h ⊢
  split
  · rename_i hmarked
    rw [if_pos hmarked] at h
    cases h
  · rfl

end Marked

/-- Two live rows differ in their usernames and in their e-mail addresses. -/
def Apart (a b : UserRow) : Prop :=
  a.Live → b.Live → a.username ≠ b.username ∧ a.email ≠ b.email

instance : Std.Symm Apart where
  symm _ _ h hb ha := ⟨(h ha hb).1.symm, (h ha hb).2.symm⟩

end UserRow

namespace Database

open UserRepository (Outcome)

/-- A database: its states, the rows of the table of accounts in each of them, and what may come of
a query. -/
structure Engine where
  State : Type
  rows : State → List UserRow
  Answers : State → Query → Outcome → State → Prop

/-- What may come of adding a new account. Either the row is added under an id of its own and no
live row has its username or e-mail address, or one has, and the fault names the index. -/
inductive Adding (rows : List UserRow) (n : NewUser) : Outcome → List UserRow → Prop
  | added {row : UserRow} {affected : Nat} (holds : row.Holds n) (pos : 0 < row.id)
      (le : row.id ≤ maxInt64) (fresh : ∀ other ∈ rows, other.id ≠ row.id)
      (apart : ∀ other ∈ rows, other.Apart row) :
      Adding rows n (.ok ⟨some row.raw, affected⟩) (rows ++ [row])
  | usernameTaken {other : UserRow} {text : String} {code : Option String} (mem : other ∈ rows)
      (live : other.Live) (same : other.username = n.username.text) :
      Adding rows n (.error (.rejected text code (some "users_username_key"))) rows
  | emailTaken {other : UserRow} {text : String} {code : Option String} (mem : other ∈ rows)
      (live : other.Live) (same : other.email = n.email.text) :
      Adding rows n (.error (.rejected text code (some "users_email_key"))) rows

/-- What may come of looking for a username: a live row with it, or nothing if there is none. -/
inductive Finding (rows : List UserRow) (name : Username) : Outcome → Prop
  | found {row : UserRow} {affected : Nat} (mem : row ∈ rows) (live : row.Live)
      (same : row.username = name.text) : Finding rows name (.ok ⟨some row.raw, affected⟩)
  | absent {affected : Nat} (free : ∀ row ∈ rows, row.Live → row.username ≠ name.text) :
      Finding rows name (.ok ⟨none, affected⟩)

/-- What comes of marking the live rows with an id as deleted. -/
inductive Marking (rows : List UserRow) (id : Int) : Outcome → List UserRow → Prop
  | marked (time : Instant) :
      Marking rows id
        (.ok ⟨none, (rows.filter fun row => decide (row.id = id ∧ row.Live)).length⟩)
        (rows.map (·.marked id time))

/-- A database that does what it is asked to, and enforces both indexes when a row is added. -/
structure Engine.Healthy (db : Engine) : Prop where
  insert : ∀ {s s' : db.State} {n : NewUser} {outcome : Outcome},
    db.Answers s (UserRepository.insert n).query outcome s' →
      Adding (db.rows s) n outcome (db.rows s')
  find : ∀ {s s' : db.State} {name : Username} {outcome : Outcome},
    db.Answers s (UserRepository.findByUsername name).query outcome s' →
      Finding (db.rows s) name outcome ∧ db.rows s' = db.rows s
  softDelete : ∀ {s s' : db.State} {id : UserId} {time : Instant}
    {request : UserRepository.Request Unit} {outcome : Outcome},
    UserRepository.softDelete id time = .ok request → db.Answers s request.query outcome s' →
      Marking (db.rows s) id.val outcome (db.rows s')

/-- Rows of which the live ones differ in username and e-mail address and can all be read. -/
structure Sound (rows : List UserRow) : Prop where
  apart : rows.Pairwise UserRow.Apart
  readable : ∀ row ∈ rows, row.Live → ∃ u, row.toUser = .ok u

/-- Two live rows with one username are one row. -/
theorem Sound.eq_of_username {rows : List UserRow} (h : Sound rows) {a b : UserRow} (ha : a ∈ rows)
    (hb : b ∈ rows) (halive : a.Live) (hblive : b.Live) (hsame : a.username = b.username) :
    a = b := by
  by_contra hne
  exact (h.apart.forall ha hb hne halive hblive).1 hsame

/-- Every row is still there, under the same id and with the same username and e-mail address. -/
def Kept (rows rows' : List UserRow) : Prop :=
  ∀ row ∈ rows, ∃ row' ∈ rows', row'.id = row.id ∧ row'.username = row.username ∧
    row'.email = row.email

theorem Kept.refl (rows : List UserRow) : Kept rows rows := fun row h => ⟨row, h, rfl, rfl, rfl⟩

theorem Kept.trans {rows rows' rows'' : List UserRow} (h : Kept rows rows')
    (h' : Kept rows' rows'') : Kept rows rows'' := by
  intro row hrow
  obtain ⟨row', hrow', hid, husername, hemail⟩ := h row hrow
  obtain ⟨row'', hrow'', hid', husername', hemail'⟩ := h' row' hrow'
  exact ⟨row'', hrow'', hid'.trans hid, husername'.trans husername, hemail'.trans hemail⟩

section Queries

variable {rows rows' : List UserRow} {n : NewUser} {name : Username} {id : Int} {outcome : Outcome}

theorem Adding.kept (h : Adding rows n outcome rows') : Kept rows rows' := by
  cases h with
  | added => exact fun row hrow => ⟨row, List.mem_append_left _ hrow, rfl, rfl, rfl⟩
  | usernameTaken => exact Kept.refl rows
  | emailTaken => exact Kept.refl rows

theorem Adding.sound (h : Adding rows n outcome rows') (hemail : n.email.Normal)
    (hrows : Sound rows) : Sound rows' := by
  cases h with
  | @added row affected holds pos le fresh apart =>
    obtain ⟨u, hu, -⟩ := holds.toUser pos le hemail
    refine ⟨List.pairwise_append.mpr ⟨hrows.apart, List.pairwise_singleton _ _, ?_⟩, ?_⟩
    · intro other hother new hnew
      obtain rfl := List.mem_singleton.mp hnew
      exact apart other hother
    · intro other hother hlive
      rcases List.mem_append.mp hother with hother | hother
      · exact hrows.readable other hother hlive
      · obtain rfl := List.mem_singleton.mp hother
        exact ⟨u, hu⟩
  | usernameTaken => exact hrows
  | emailTaken => exact hrows

theorem Marking.rows_eq (h : Marking rows id outcome rows') :
    ∃ time, rows' = rows.map (·.marked id time) := by
  cases h with
  | marked time => exact ⟨time, rfl⟩

theorem Marking.kept (h : Marking rows id outcome rows') : Kept rows rows' := by
  cases h with
  | marked time =>
    exact fun row hrow => ⟨row.marked id time, List.mem_map_of_mem hrow, by simp, by simp, by simp⟩

theorem Marking.sound (h : Marking rows id outcome rows') (hrows : Sound rows) : Sound rows' := by
  cases h with
  | marked time =>
    refine ⟨List.pairwise_map.mpr (hrows.apart.imp fun {a b} hab ha hb => ?_), ?_⟩
    · have hasame := a.marked_of_live id time ha
      have hbsame := b.marked_of_live id time hb
      rw [hasame] at ha ⊢
      rw [hbsame] at hb ⊢
      exact hab ha hb
    · intro row hrow hlive
      obtain ⟨before, hbefore, rfl⟩ := List.mem_map.mp hrow
      have hsame := before.marked_of_live id time hlive
      rw [hsame] at hlive ⊢
      exact hrows.readable before hbefore hlive

/-- **What the repository makes of adding an account**: the account under its new id, or a conflict
if a live row has its username or its e-mail address. -/
theorem Adding.result (h : Adding rows n outcome rows') (hemail : n.email.Normal) :
    (∃ row u, rows' = rows ++ [row] ∧ row.Holds n ∧ (∀ other ∈ rows, other.id ≠ row.id) ∧
        (∀ other ∈ rows, other.Apart row) ∧ (UserRepository.insert n).result outcome = .ok u ∧
        (u.id.val : Int) = row.id ∧ u.username = n.username ∧ u.name = n.name ∧
        u.email = n.email ∧ u.role = n.role) ∨
      ∃ text other, rows' = rows ∧
        (UserRepository.insert n).result outcome = .error (.conflict text) ∧ other ∈ rows ∧
        other.Live ∧ (other.username = n.username.text ∨ other.email = n.email.text) := by
  cases h with
  | @added row affected holds pos le fresh apart =>
    obtain ⟨u, hu, hsame⟩ := holds.toUser pos le hemail
    exact Or.inl ⟨row, u, rfl, holds, fresh, apart, hu, hsame⟩
  | @usernameTaken other text code mem live same =>
    exact Or.inr ⟨_, other, rfl, rfl, mem, live, Or.inl same⟩
  | @emailTaken other text code mem live same =>
    exact Or.inr ⟨_, other, rfl, rfl, mem, live, Or.inr same⟩

/-- What the repository makes of looking for a username. -/
theorem Finding.result (h : Finding rows name outcome) (hrows : Sound rows) :
    (∃ u row, (UserRepository.findByUsername name).result outcome = .ok (some u) ∧ row ∈ rows ∧
        row.Live ∧ row.username = name.text) ∨
      (UserRepository.findByUsername name).result outcome = .ok none := by
  cases h with
  | @found row affected mem live same =>
    obtain ⟨u, hu⟩ := hrows.readable row mem live
    refine Or.inl ⟨u, row, ?_, mem, live, same⟩
    change (do return some (← row.raw.toUser) : Except DomainError (Option User)) = _
    rw [row.toUser_raw, hu]
    rfl
  | absent => exact Or.inr rfl

end Queries

/-! ## A database in a list -/

namespace Ledger

/-- The index named in a fault. -/
def duplicate (index : String) : Outcome :=
  .error (.rejected "duplicate key value violates unique constraint" (some "23505") (some index))

/-- Adds a row. Nothing comes of it where the row has no number of its own. -/
def add (rows : List UserRow) (row : UserRow) : Option (Outcome × List UserRow) :=
  if ∃ other ∈ rows, other.Live ∧ other.username = row.username then
    some (duplicate "users_username_key", rows)
  else if ∃ other ∈ rows, other.Live ∧ other.email = row.email then
    some (duplicate "users_email_key", rows)
  else if (∀ other ∈ rows, other.id < row.id) ∧ 0 < row.id ∧ row.id ≤ maxInt64 then
    some (.ok ⟨some row.raw, 1⟩, rows ++ [row])
  else none

def find (rows : List UserRow) (username : String) : Outcome :=
  match rows.find? fun row => decide (row.Live ∧ row.username = username) with
  | some row => .ok ⟨some row.raw, 1⟩
  | none => .ok ⟨none, 0⟩

def mark (rows : List UserRow) (id : Int) (time : Instant) : Outcome × List UserRow :=
  (.ok ⟨none, (rows.filter fun row => decide (row.id = id ∧ row.Live)).length⟩,
    rows.map (·.marked id time))

/-- Queries are told apart by what they are sent with. Rows are numbered from 1 on. -/
def exec (rows : List UserRow) : List Param → Option (Outcome × List UserRow)
  | [.text username, .text name, .text email, .text hash, .text role, .instant time] =>
    add rows ⟨rows.length + 1, username, name, email, hash, role, time, time, none⟩
  | [.text username] => some (find rows username, rows)
  | [.int id, .instant time] => some (mark rows id time)
  | _ => none

theorem adding_of_add {rows rows' : List UserRow} {row : UserRow} {n : NewUser} {outcome : Outcome}
    (holds : row.Holds n) (h : add rows row = some (outcome, rows')) :
    Adding rows n outcome rows' := by
  unfold add at h
  split at h
  · rename_i htaken
    obtain ⟨other, hmem, hlive, hsame⟩ := htaken
    cases h
    exact .usernameTaken hmem hlive (hsame.trans holds.username)
  · rename_i husername
    split at h
    · rename_i htaken
      obtain ⟨other, hmem, hlive, hsame⟩ := htaken
      cases h
      exact .emailTaken hmem hlive (hsame.trans holds.email)
    · rename_i hemail
      split at h
      · rename_i hnumber
        cases h
        refine .added holds hnumber.2.1 hnumber.2.2
          (fun other hother => Int.ne_of_lt (hnumber.1 other hother)) ?_
        exact fun other hother hlive _ => ⟨fun hsame => husername ⟨other, hother, hlive, hsame⟩,
          fun hsame => hemail ⟨other, hother, hlive, hsame⟩⟩
      · cases h

theorem finding_find (rows : List UserRow) (name : Username) :
    Finding rows name (find rows name.text) := by
  unfold find
  split
  · rename_i row hfound
    have hmatches := List.find?_some hfound
    rw [decide_eq_true_iff] at hmatches
    exact .found (List.mem_of_find?_eq_some hfound) hmatches.1 hmatches.2
  · rename_i hnone
    refine .absent fun row hrow hlive hsame => ?_
    exact List.find?_eq_none.mp hnone row hrow (decide_eq_true ⟨hlive, hsame⟩)

end Ledger

/-- A database in a list of rows. -/
def ledger : Engine where
  State := List UserRow
  rows := fun rows => rows
  Answers := fun rows query outcome rows' =>
    Ledger.exec rows query.params = some (outcome, rows')

/-- **There is a database that does what it is asked to.** -/
theorem healthy_ledger : ledger.Healthy where
  insert := by
    intro rows rows' n outcome h
    refine Ledger.adding_of_add ?_ h
    exact ⟨rfl, rfl, rfl, rfl, rfl, rfl⟩
  find := by
    intro rows rows' name outcome h
    cases h
    exact ⟨Ledger.finding_find rows name, rfl⟩
  softDelete := by
    intro rows rows' id time request outcome hrequest h
    unfold UserRepository.softDelete UserId.toKey at hrequest
    split at hrequest
    · cases hrequest
      cases h
      exact .marked time
    · cases hrequest

end Database

end SessionAuth
