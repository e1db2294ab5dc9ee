import SessionAuth.Proofs.User.Database

/-!
# New accounts can be loaded again

The texts of a new account are put into a normal form when the account is made, and every row that
is loaded goes through the same rules once more. A text in normal form passes them unchanged, so
there is no account that has been added and cannot be loaded.

* `UserRow.Keeps`: the row that a database keeps for what an insertion binds.
* `UserRow.keeps_insert_iff`: such a row holds the new account.
* `Loaded`: an account that has been loaded is the one that was added.
* `loaded_of_inserted`: the main statement.
-/

namespace SessionAuth

open Database (Param)

/-- The row that a database keeps for the parameters of an insertion. Each text is in its column as
it was bound, and nothing has been deleted; the id and the dates are up to the database. -/
inductive UserRow.Keeps (row : UserRow) : List Param → Prop
  | bound (time : Instant) (live : row.Live) :
      row.Keeps [.text row.username, .text row.name, .text row.email, .text row.passwordHash,
        .text row.role, .instant time]

/-- A row that is kept for what an insertion binds holds the new account. -/
theorem UserRow.keeps_insert_iff {row : UserRow} {n : NewUser} :
    row.Keeps (UserRepository.insert n).query.params ↔ row.Holds n := by
  constructor
  · intro h
    generalize hparams : (UserRepository.insert n).query.params = params at h
    cases h with
    | bound time live =>
      unfold UserRepository.insert at hparams
      simp only [List.cons.injEq, Param.text.injEq] at hparams
      obtain ⟨husername, hname, hemail, hhash, hrole, -⟩ := hparams
      exact ⟨husername.symm, hname.symm, hemail.symm, hhash.symm, hrole.symm, live⟩
  · intro h
    have hbound := UserRow.Keeps.bound n.createdAt h.live
    rwa [h.username, h.name, h.email, h.passwordHash, h.role] at hbound

/-- The account that has been loaded has the id of its row and all that the new account had, and it
is not deleted. -/
structure Loaded (n : NewUser) (row : UserRow) (u : User) : Prop where
  id : (u.id.val : Int) = row.id
  username : u.username = n.username
  name : u.name = n.name
  email : u.email = n.email
  passwordHash : u.passwordHash = n.passwordHash
  role : u.role = n.role
  live : u.isDeleted = false

/-- **What a registration writes can always be read back.** Take any texts that make a username, an
e-mail address and a password hash, any name and any time of creation. The row that a database
keeps for the new account is read as an account with the same texts, both by the query that has
added it and by every later look-up. Username and address are what their own texts make, too. -/
theorem loaded_of_inserted {rawUsername rawEmail rawHash : String} {username : Username}
    {email : Email} {hash : PasswordHash} (husername : Username.ofText rawUsername = .ok username)
    (hemail : Email.ofText rawEmail = .ok email) (hhash : PasswordHash.ofText rawHash = .ok hash)
    (name : String) (createdAt : Instant) {row : UserRow}
    (hrow : row.Keeps
      (UserRepository.insert (.make username name email hash createdAt)).query.params)
    (hpos : 0 < row.id) (hle : row.id ≤ maxInt64) (affected : Nat) :
    (∃ u, row.toUser = .ok u ∧ Loaded (.make username name email hash createdAt) row u ∧
      (UserRepository.insert (.make username name email hash createdAt)).result
        (.ok ⟨some row.raw, affected⟩) = .ok u ∧
      UserRepository.optionalUser (.ok ⟨some row.raw, affected⟩) = .ok (some u)) ∧
    username.text = Text.trim rawUsername ∧ Username.ofText username.text = .ok username ∧
    email.text = Text.lowerCase (Text.trim rawEmail) ∧ Email.ofText email.text = .ok email ∧
    hash.text = rawHash := by
  have hnormal : email.Normal := Email.normal_of_ofText hemail
  obtain ⟨id, hid⟩ := row.exists_userId hpos hle
  have hread := (UserRow.keeps_insert_iff.mp hrow).toUser_eq hid hnormal
  refine ⟨⟨_, hread, ⟨hid.symm, rfl, rfl, rfl, rfl, rfl, rfl⟩, hread, ?_⟩,
    Username.text_of_ofText husername, Username.ofText_text username,
    Email.text_of_ofText hemail, hnormal, PasswordHash.text_of_ofText hhash⟩
  change (do return some (← row.raw.toUser) : Except DomainError (Option User)) = _
  rw [row.toUser_raw, hread]
  rfl

namespace Sample

/-- The row of an account whose texts are in Greek and Turkish, under the largest id. -/
def odysseusRow : UserRow where
  id := maxInt64
  username := "ΟΔΥΣΣΕΥΣ"
  name := "Ὀδυσσεύς"
  email := "οδυσσευς@i\u0307thaki.gr"
  passwordHash := "plain$penelope"
  role := "user"
  createdAt := ⟨-1, 0⟩
  updatedAt := ⟨-1, 0⟩
  deletedAt := none

def odysseusName : Username := ⟨"ΟΔΥΣΣΕΥΣ", by decide, by decide⟩

def odysseusEmail : Email := ⟨"οδυσσευς@i\u0307thaki.gr", by decide⟩

def odysseusHash : PasswordHash := ⟨"plain$penelope", by decide⟩

/-- A sigma at the end of a word and a dotted capital I are lower-cased once and for all. -/
theorem loaded_odysseus :
    Username.ofText " ΟΔΥΣΣΕΥΣ\u3000" = .ok odysseusName ∧
    Email.ofText "\u00a0ΟΔΥΣΣΕΥΣ@İTHAKI.GR " = .ok odysseusEmail ∧
    odysseusRow.Keeps (UserRepository.insert (.make odysseusName " Ὀδυσσεύς" odysseusEmail
      odysseusHash ⟨-1, 5⟩)).query.params ∧
    ∃ u, odysseusRow.toUser = .ok u ∧ u.email = odysseusEmail ∧ u.id.val = maxInt64 := by
  have husername : Username.ofText " ΟΔΥΣΣΕΥΣ\u3000" = .ok odysseusName := by decide +kernel
  have hemail : Email.ofText "\u00a0ΟΔΥΣΣΕΥΣ@İTHAKI.GR " = .ok odysseusEmail := by
    decide +kernel
  have hname : Text.trim " Ὀδυσσεύς" = odysseusRow.name := by decide +kernel
  have hkeeps : odysseusRow.Keeps (UserRepository.insert (.make odysseusName " Ὀδυσσεύς"
      odysseusEmail odysseusHash ⟨-1, 5⟩)).query.params :=
    UserRow.keeps_insert_iff.mpr ⟨rfl, hname.symm, rfl, rfl, rfl, rfl⟩
  obtain ⟨u, hu, hloaded, -⟩ := (loaded_of_inserted husername hemail
    (PasswordHash.ofText_text odysseusHash) " Ὀδυσσεύς" ⟨-1, 5⟩ hkeeps (by decide) (by decide)
    1).1
  exact ⟨husername, hemail, hkeeps, u, hu, hloaded.email, hloaded.id⟩

end Sample

end SessionAuth
