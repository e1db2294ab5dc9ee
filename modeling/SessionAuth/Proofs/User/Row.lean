import SessionAuth.Proofs.Text.LowerCase
import SessionAuth.User.Repository

/-!
# Accounts read back from a database

A row is checked column by column when it is read. What has been checked once passes again: a
username has no white space to trim, and a normal e-mail address stays as it is.

* `Email.Normal`: an address that its own text spells; `Email.normal_of_ofText` says that every
  address made from a text is one.
* `RawRow.Shows`: a row with the columns of an account, save for its dates.
* `RawRow.toUser_of_shows`: the account is read back from it.
-/

namespace SessionAuth

theorem Username.ofText_text (name : Username) : Username.ofText name.text = .ok name := by
  have hblank : ∀ c ∈ name.text.toList, Text.isBlank c = false := by
    intro c hc
    have hnone := List.any_eq_false.mp name.noBlank c hc
    exact Bool.eq_false_iff.mpr hnone
  have htrim : Text.trim name.text = name.text := by
    rw [Text.trim, Text.trimChars_eq_self, String.ofList_toList]
    · exact fun c hc => hblank c (List.mem_of_head? hc)
    · exact fun c hc => hblank c (List.mem_of_getLast? hc)
  have hnonempty : ¬ name.text.isEmpty = true := by
    intro hempty
    have hlong := name.long
    rw [String.isEmpty_iff.mp hempty] at hlong
    exact absurd hlong (by decide)
  simp only [ofText, htrim]
  rw [if_neg hnonempty, dif_pos name.long, dif_pos name.noBlank]

/-- The text of a username is trimmed. -/
theorem Username.text_of_ofText {text : String} {name : Username}
    (h : Username.ofText text = .ok name) : name.text = Text.trim text := by
  simp only [ofText] at h
  split at h
  · exact absurd h (by simp)
  · split at h
    · split at h
      · rw [← Except.ok.inj h]
      · exact absurd h (by simp)
    · exact absurd h (by simp)

/-- Texts that are the same when trimmed spell the same username. -/
theorem Username.ofText_congr {text text' : String} (h : Text.trim text = Text.trim text') :
    Username.ofText text = Username.ofText text' := by
  simp only [ofText, h]

namespace Email

/-- The address is what its own text spells. -/
def Normal (email : Email) : Prop := ofText email.text = .ok email

theorem text_of_ofText {text : String} {email : Email} (h : ofText text = .ok email) :
    email.text = Text.lowerCase (Text.trim text) := by
  simp only [ofText] at h
  split at h
  · rw [← Except.ok.inj h]
  · exact absurd h (by simp)

/-- **An address that has been made from a text is normal.** -/
theorem normal_of_ofText {text : String} {email : Email} (h : ofText text = .ok email) :
    email.Normal := by
  have hnormal : Text.lowerCase (Text.trim email.text) = email.text := by
    rw [text_of_ofText h]
    exact Text.lowerCase_trim_normal text
  simp only [Normal, ofText, hnormal]
  rw [dif_pos email.valid]

end Email

theorem PasswordHash.ofText_text (hash : PasswordHash) : PasswordHash.ofText hash.text = .ok hash := by
  rw [ofText, dif_pos hash.nonempty]

theorem PasswordHash.text_of_ofText {text : String} {hash : PasswordHash}
    (h : PasswordHash.ofText text = .ok hash) : hash.text = text := by
  rw [ofText] at h
  split at h
  · rw [← Except.ok.inj h]
  · exact absurd h (by simp)

theorem Role.ofName_name (role : Role) : Role.ofName role.name = .ok role := by
  rw [ofName, ofName?_name]

theorem UserId.ofInt_val (id : UserId) : UserId.ofInt id.val = .ok id := by
  have hid : ofNat? (id.val : Int).toNat = some id := ofNat?_eq_some_iff.mpr rfl
  rw [ofInt, if_neg (by omega), ofNat, hid]

/-- The row has the columns of an account. A database may keep other dates than it was given. -/
structure RawRow.Shows (raw : RawRow) (u : User) : Prop where
  id : raw.id = some u.id.val
  username : raw.username = some u.username.text
  name : raw.name = some u.name
  email : raw.email = some u.email.text
  passwordHash : raw.passwordHash = some u.passwordHash.text
  role : raw.role = some u.role.name
  createdAt : raw.createdAt.isSome
  updatedAt : raw.updatedAt.isSome

/-- Two accounts that differ in their dates at most. -/
structure User.SameButDates (u v : User) : Prop where
  id : v.id = u.id
  username : v.username = u.username
  name : v.name = u.name
  email : v.email = u.email
  passwordHash : v.passwordHash = u.passwordHash
  role : v.role = u.role

theorem User.SameButDates.refl (u : User) : u.SameButDates u := ⟨rfl, rfl, rfl, rfl, rfl, rfl⟩

/-- **An account with a normal address is read back from its row.** -/
theorem RawRow.toUser_of_shows {raw : RawRow} {u : User} (h : raw.Shows u)
    (hemail : u.email.Normal) : ∃ v, raw.toUser = .ok v ∧ u.SameButDates v := by
  obtain ⟨created, hcreated⟩ := Option.isSome_iff_exists.mp h.createdAt
  obtain ⟨updated, hupdated⟩ := Option.isSome_iff_exists.mp h.updatedAt
  have hrow : raw.toRow = .ok ⟨u.id.val, u.username.text, u.name, u.email.text,
      u.passwordHash.text, u.role.name, created, updated, raw.deletedAt⟩ := by
    rw [toRow, h.id, h.username, h.name, h.email, h.passwordHash, h.role, hcreated, hupdated]
    rfl
  let v : User := ⟨u.id, u.username, u.name, u.email, u.passwordHash, u.role, created, updated,
    raw.deletedAt⟩
  refine ⟨v, ?_, rfl, rfl, rfl, rfl, rfl, rfl⟩
  rw [toUser, hrow]
  change UserRow.toUser _ = _
  rw [UserRow.toUser, UserId.ofInt_val, Username.ofText_text, hemail, PasswordHash.ofText_text,
    Role.ofName_name]
  rfl

/-- A look-up whose row shows an account with a normal address finds the account. -/
theorem UserRepository.optionalUser_of_shows {raw : RawRow} {u : User} (h : raw.Shows u)
    (hemail : u.email.Normal) (affected : Nat) :
    ∃ v, optionalUser (.ok ⟨some raw, affected⟩) = .ok (some v) ∧ u.SameButDates v := by
  obtain ⟨v, hv, hsame⟩ := RawRow.toUser_of_shows h hemail
  refine ⟨v, ?_, hsame⟩
  change (do return some (← raw.toUser) : Except DomainError (Option User)) = _
  rw [hv]
  rfl

end SessionAuth
