import SessionAuth.Password.Hasher
import SessionAuth.Proofs.Hash.Length
import SessionAuth.Proofs.Password.Stored
import SessionAuth.User.Basic

/-!
# Passwords that were hashed are accepted

What is stored for a password is a text, and a check works on nothing but this text. It finds there
the settings and the salt that the password was hashed with, and so it comes to the same digest.

* `Hasher.Records`: a stored hash says how a password was hashed, and to what.
* `Hasher.accepts_iff_of_records`: just the passwords with the same digest belong to it.
* `Hasher.ofText_text_store`, `Hasher.records_store`: what is stored for a password is read back
  and says so.
* `Hasher.check_malformed_iff`: just the texts that are no stored hash are a failure.
* `Hasher.checks_what_it_hashed`: all of this about the hasher.
-/

namespace SessionAuth.Hasher

/-! ## What a stored hash says -/

/-- The stored hash says with which settings and salt a password was hashed, and to what. -/
structure Records (h : StoredHash) (settings : Hash.Argon2.Settings) (salt : List UInt8)
    (password : String) : Prop where
  stated : settings? h settings.params.size = some settings
  salted : h.salt.bind saltBytes? = some salt
  digest : h.digest = some (Hash.argon2 settings (Hash.utf8 password) salt)

theorem accepts_iff_of_records {h : StoredHash} {settings : Hash.Argon2.Settings}
    {salt : List UInt8} {password : String} (hr : Records h settings salt password)
    (hsize : settings.params.size ≤ 64) (other : String) :
    accepts other h = true ↔ fits other = true ∧
      Hash.argon2 settings (Hash.utf8 other) salt =
        Hash.argon2 settings (Hash.utf8 password) salt := by
  have hstated := hr.stated
  rw [← Hash.length_argon2 hsize (Hash.utf8 password) salt] at hstated
  simp only [accepts, hr.salted, hr.digest, hstated, Bool.and_eq_true, beq_iff_eq]

/-! ## What is stored for a password -/

/-- A stored hash with the usual settings. -/
def usual (salt digest : List UInt8) : StoredHash :=
  ⟨"argon2id", some defaultSettings.version.number, storedParams defaultParams,
    some (String.ofList (Base64.encode Base64.standard salt)), some digest⟩

section Usual

variable {salt digest : List UInt8}

theorem wellFormed_usual (hsalt : salt.length = saltLength)
    (hdigest : digest.length = defaultParams.size) : (usual salt digest).WellFormed := by
  have hname : StoredHash.isName "argon2id".toList = true := by decide
  have hparam : ∀ p ∈ storedParams defaultParams, StoredHash.IsParam p := by
    intro p hp
    simp only [storedParams, List.mem_cons, List.not_mem_nil, or_false] at hp
    rcases hp with rfl | rfl | rfl <;> exact StoredHash.isParam_natText (by decide) (by decide)
  have hparams : StoredHash.byteLength
      (StoredHash.paramsText (storedParams defaultParams)) ≤ 127 := by decide
  have hlength : (Base64.encode Base64.standard salt).length = 22 := by
    rw [Base64.length_encode, hsalt, saltLength]
  have hsize : defaultParams.size = 32 := rfl
  rw [saltLength] at hsalt
  rw [hsize] at hdigest
  refine ⟨hname, ?_, hparam, hparams, fun h => absurd h (by simp [usual]), ?_, ?_,
    fun h => absurd h (by simp [usual])⟩
  · rintro v ⟨⟩
    decide
  · rintro s ⟨⟩
    rw [String.toList_ofList]
    exact ⟨StoredHash.isValue_encode (by omega), by omega⟩
  · rintro d ⟨⟩
    exact ⟨by omega, by omega⟩

theorem settings?_usual : settings? (usual salt digest) defaultParams.size =
    some defaultSettings := rfl

theorem saltBytes?_usual (hsalt : salt.length = saltLength) :
    (usual salt digest).salt.bind saltBytes? = some salt := by
  rw [usual, Option.bind_some, saltBytes?, String.toList_ofList,
    Base64.decode?_encode Base64.faithful_standard, Option.filter_some, hsalt]
  rfl

end Usual

section Store

variable {salt : List UInt8} (hsalt : salt.length = saltLength) (password : String)
include hsalt

theorem store_eq : store salt password =
    usual salt (Hash.argon2 defaultSettings (Hash.utf8 password) salt) := by
  rw [store, List.take_of_length_le (Nat.le_of_eq hsalt)]
  rfl

/-- **What is stored for a password is read back as it was stored.** -/
theorem ofText_text_store :
    StoredHash.ofText (store salt password).text = .ok (store salt password) := by
  rw [store_eq hsalt]
  exact StoredHash.ofText_text (wellFormed_usual hsalt (Hash.length_argon2 (by decide) _ _))

theorem records_store : Records (store salt password) defaultSettings salt password := by
  rw [store_eq hsalt]
  exact ⟨settings?_usual, saltBytes?_usual hsalt, rfl⟩

end Store

/-! ## The hasher -/

theorem hash_eq {salt : List UInt8} {password : String} (hfits : fits password = true) :
    argon2.hash salt password = .ok (store salt password).text := if_pos hfits

/-- A text that is no stored hash is a failure for every password, and no other text is. -/
theorem check_malformed_iff (password text : String) :
    (∃ e, argon2.check password text = .error e ∧ e.isInfrastructure = true) ↔
      ∀ h, StoredHash.ofText text ≠ .ok h := by
  have hcheck : argon2.check password text = checkArgon2 password text := rfl
  rw [hcheck, checkArgon2]
  cases htext : StoredHash.ofText text with
  | error fault => exact ⟨fun _ h => by simp, fun _ => ⟨_, rfl, rfl⟩⟩
  | ok h =>
    refine ⟨fun ⟨e, herror, hinfrastructure⟩ => ?_, fun hnone => absurd rfl (hnone h)⟩
    simp only at herror
    split at herror
    · cases herror
    · obtain rfl := Except.error.inj herror
      exact absurd hinfrastructure (by decide)

theorem check_of_ofText {text : String} {h : StoredHash} (htext : StoredHash.ofText text = .ok h)
    (password : String) : argon2.check password text =
      if accepts password h = true then .ok () else .error (.auth .invalidCredentials) := by
  have hcheck : argon2.check password text = checkArgon2 password text := rfl
  rw [hcheck, checkArgon2, htext]

/-- **The hasher accepts what it has hashed.** Every password that is not too long is hashed to a
text that may be stored and that is read back with the settings, the salt and the digest that were
used. The password belongs to this text, as do the passwords with the same digest and no others. A
text that is no stored hash is a failure, whatever the password, and no other text is. -/
theorem checks_what_it_hashed :
    (∀ password salt, fits password = true → salt.length = saltLength →
      ∃ h : StoredHash, argon2.hash salt password = .ok h.text ∧
        (∃ hash, PasswordHash.ofText h.text = .ok hash ∧ hash.text = h.text) ∧
        StoredHash.ofText h.text = .ok h ∧ Records h defaultSettings salt password ∧
        argon2.check password h.text = .ok () ∧
        ∀ other, argon2.check other h.text = if fits other = true ∧
            Hash.argon2 defaultSettings (Hash.utf8 other) salt =
              Hash.argon2 defaultSettings (Hash.utf8 password) salt
          then .ok () else .error (.auth .invalidCredentials)) ∧
    ∀ password text, (∃ e, argon2.check password text = .error e ∧ e.isInfrastructure = true) ↔
      ∀ h, StoredHash.ofText text ≠ .ok h := by
  refine ⟨fun password salt hfits hsalt => ?_, check_malformed_iff⟩
  have htext := ofText_text_store hsalt password
  have hrecords := records_store hsalt password
  have haccepts := accepts_iff_of_records hrecords (by decide)
  have hcheck := check_of_ofText htext
  have hnonempty := StoredHash.ne_empty_of_ofText htext
  refine ⟨store salt password, hash_eq hfits, ⟨⟨_, hnonempty⟩, dif_pos hnonempty, rfl⟩, htext,
    hrecords, ?_, fun other => ?_⟩
  · rw [hcheck, if_pos ((haccepts password).mpr ⟨hfits, rfl⟩)]
  · simp only [hcheck, haccepts]

/-- Bytes whose Base64 has both characters beyond the letters and digits. -/
def markedSalt : List UInt8 :=
  [0xfb, 0xff, 0xbf, 0xfb, 0xff, 0xbf, 0, 0, 0, 0, 0, 0, 0, 0, 0, 0xff]

/-- A password beyond ASCII with a salt of such bytes, and a text that is no stored hash. -/
theorem checks_what_it_hashed_marked :
    (fits "pässwörd1" = true ∧ markedSalt.length = saltLength) ∧
    (∃ h : StoredHash, argon2.hash markedSalt "pässwörd1" = .ok h.text ∧
      StoredHash.ofText h.text = .ok h ∧ argon2.check "pässwörd1" h.text = .ok ()) ∧
    ∃ e, argon2.check "pässwörd1" "not-a-phc-string" = .error e ∧ e.isInfrastructure = true := by
  have hfits : fits "pässwörd1" = true := by decide
  have hsalt : markedSalt.length = saltLength := by decide
  obtain ⟨h, hhash, -, htext, -, hcheck, -⟩ := checks_what_it_hashed.1 _ _ hfits hsalt
  have hmalformed : StoredHash.ofText "not-a-phc-string" = .error .missingField := by decide
  refine ⟨⟨hfits, hsalt⟩, ⟨h, hhash, htext, hcheck⟩, (checks_what_it_hashed.2 _ _).mpr ?_⟩
  intro other hother
  exact absurd (hmalformed.symm.trans hother) (by simp)

end SessionAuth.Hasher
