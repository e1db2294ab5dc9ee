import SessionAuth.Proofs.Json.Record
import SessionAuth.Proofs.Time.Rfc3339
import SessionAuth.Wire.Decode

/-!
# Results read back

Whatever an operation gives as its result is had again from the text that it is sent as: a pair of
tokens, an account, the result of a login with its tokens beside the account, and a profile.

* `Wire.field_taken`: a field of a record.
* `UserView.Sendable`, `Profile.Sendable`: the ids and times that a result can have.
* `reads_tokenPair`, `reads_userView`, `reads_loginResult`, `reads_profile`: the results one by one.
* `decode_toJson`: the main statement.
-/

namespace SessionAuth

open Json (Reads Reaches MemberTaken)

namespace Wire

/-! ## Parts of results -/

theorem reads_id {n : Nat} (h : n ≤ maxNat64) : Reads readId (.int n) n := by
  intro rest hr
  have hmin : minInt64 ≤ n := by
    unfold minInt64
    omega
  have hmax : (n : Int) ≤ maxNat64 := by omega
  have hread := Json.reads_bounded hmin hmax ⟨Int.natCast_nonneg n, hmax⟩ rest hr
  simp only [readId, hread, bind, Except.bind, pure, Except.pure, Int.toNat_natCast]

theorem reads_role (role : Role) : Reads readRole (.string role.name) role :=
  Json.reads_unitName (Role.ofName?_name role)

theorem reads_instant {t : Instant} (h : t.Representable) : Reads readInstant t.toJson t :=
  Json.reads_named h.ofText?_text

/-- A field of a record is read once, and its place is filled. -/
theorem field_taken {σ α : Type} {fields : List (Json.Field σ)} {name : String} {get : σ → Option α}
    {set : α → σ → σ} {reader : Json.Reader α} {s : σ} {v : Json} {a : α}
    (hfind : fields.find? (·.name == name) = some (field name get set reader))
    (hunset : (get s).isSome = false) (h : Reads reader v a) :
    MemberTaken (Json.readMember fields) (name, v) s (set a s) := by
  refine Json.memberTaken_of_find hfind hunset fun rest hr => ?_
  simp only [field, h rest hr, bind, Except.bind, pure, Except.pure]

end Wire

open Wire

/-! ## Results -/

theorem reads_tokenPair (p : TokenPair) : Reads TokenPair.read p.toJson p := by
  have hmembers : Reaches (Json.readMember TokenPair.fields) (tokenFields p) ⟨none, none⟩
      ⟨some p.access, some p.refresh⟩ :=
    .cons (field_taken rfl rfl (Json.reads_text _))
      (.cons (field_taken rfl rfl (Json.reads_text _)) (.nil _))
  exact Json.reads_record hmembers rfl

/-- Accounts as the program has them: an id of 64 bits, and a moment that a clock can show. -/
structure UserView.Sendable (u : UserView) : Prop where
  id : u.id ≤ maxNat64
  createdAt : u.createdAt.Representable

theorem reads_userView {u : UserView} (h : u.Sendable) : Reads UserView.read u.toJson u := by
  have hmembers : Reaches (Json.readMember UserView.fields) [
      ("id", .int u.id), ("username", .string u.username), ("name", .string u.name),
      ("email", .string u.email), ("role", .string u.role.name),
      ("created_at", u.createdAt.toJson)] ⟨none, none, none, none, none, none⟩
      ⟨some u.id, some u.username, some u.name, some u.email, some u.role, some u.createdAt⟩ :=
    .cons (field_taken rfl rfl (reads_id h.id))
      (.cons (field_taken rfl rfl (Json.reads_text _))
      (.cons (field_taken rfl rfl (Json.reads_text _))
      (.cons (field_taken rfl rfl (Json.reads_text _))
      (.cons (field_taken rfl rfl (reads_role _))
      (.cons (field_taken rfl rfl (reads_instant h.createdAt)) (.nil _))))))
  exact Json.reads_record hmembers rfl

/-! ### Logins -/

/-- The account of a login is read as such. -/
theorem LoginResult.user_taken {u : UserView} (h : u.Sendable) (others : List (String × Json)) :
    MemberTaken readMember ("user", u.toJson) ⟨none, others⟩ ⟨some u, others⟩ := by
  intro rest hr
  simp only [readMember, if_true, Option.isSome_none, Bool.false_eq_true, if_false,
    Json.readColon_cons, bind, Except.bind, reads_userView h rest hr, pure, Except.pure]

/-- A text beside the account of a login is kept. -/
theorem LoginResult.text_taken {key : String} (hkey : key ≠ "user") (s : String) (d : Draft) :
    MemberTaken readMember (key, .string s) d
      { d with others := (key, .string s) :: d.others } := by
  intro rest hr
  have hread : Json.readValue (Json.maxDepth - 1) (Json.render (.string s) ++ rest) =
      .ok (.string s, rest) := Json.readValue_render (.string s) rest hr
  simp only [readMember, if_neg hkey, Json.readColon_cons, bind, Except.bind, hread, pure,
    Except.pure]

theorem reads_loginResult {r : LoginResult} (h : r.user.Sendable) :
    Reads LoginResult.read r.toJson r := by
  intro rest _
  have hmembers : Reaches LoginResult.readMember (("user", r.user.toJson) :: tokenFields r.tokens)
      ⟨none, []⟩ ⟨some r.user, (tokenFields r.tokens).reverse⟩ :=
    .cons (LoginResult.user_taken h [])
      (.cons (LoginResult.text_taken (by decide) r.tokens.access _)
      (.cons (LoginResult.text_taken (by decide) r.tokens.refresh _) (.nil _)))
  have hread := Json.readObject_render hmembers rest
  rw [LoginResult.toJson, Json.render, List.cons_append, List.append_assoc, List.singleton_append,
    LoginResult.read, Json.skipBlank_cons (by decide)]
  simp only [hread, bind, Except.bind]
  rfl

/-! ### Profiles -/

/-- Profiles as the program has them: a lifetime is an integer of 64 bits. -/
structure Profile.Sendable (p : Profile) : Prop where
  user : p.user.Sendable
  expiresAt : ∀ t ∈ p.expiresAt, t.Representable
  expiresIn : ∀ n ∈ p.expiresIn, minInt64 ≤ n ∧ n ≤ maxInt64

theorem reads_texts (ss : List String) :
    Reads (Json.readList Json.readText) (.array (ss.map .string)) ss := by
  have hprintable : ∀ v ∈ ss.map Json.string, Json.Printable 0 v := by
    intro v hv
    obtain ⟨s, -, rfl⟩ := List.mem_map.mp hv
    exact .string s
  refine Json.reads_list hprintable (List.forall₂_map_left_iff.mpr ?_)
  exact List.forall₂_same.mpr fun s _ => Json.reads_text s

theorem reads_optionalInstant {t? : Option Instant} (h : ∀ t ∈ t?, t.Representable) :
    Reads (Json.readOptional readInstant) (Json.optional Instant.toJson t?) t? := by
  cases t? with
  | none => exact Json.reads_none readInstant
  | some t => exact Json.reads_some (Json.present_string t.text) (reads_instant (h t rfl))

theorem reads_optionalLong {n? : Option Int} (h : ∀ n ∈ n?, minInt64 ≤ n ∧ n ≤ maxInt64) :
    Reads (Json.readOptional (Json.readBounded minInt64 maxInt64)) (Json.optional Json.int n?)
      n? := by
  cases n? with
  | none => exact Json.reads_none _
  | some n =>
    obtain ⟨hmin, hmax⟩ := h n rfl
    have hmax' : n ≤ maxNat64 := by
      unfold maxInt64 at hmax
      unfold maxNat64
      omega
    exact Json.reads_some (Json.present_int hmin hmax')
      (Json.reads_bounded hmin hmax' ⟨hmin, hmax⟩)

theorem reads_profile {p : Profile} (h : p.Sendable) : Reads Profile.read p.toJson p := by
  have hmembers : Reaches (Json.readMember Profile.fields) [
      ("user", p.user.toJson), ("roles", .array (p.roles.map .string)),
      ("expires_at", Json.optional Instant.toJson p.expiresAt),
      ("expires_in", Json.optional Json.int p.expiresIn)] ⟨none, none, none, none⟩
      ⟨some p.user, some p.roles, some p.expiresAt, some p.expiresIn⟩ :=
    .cons (field_taken rfl rfl (reads_userView h.user))
      (.cons (field_taken rfl rfl (reads_texts _))
      (.cons (field_taken rfl rfl (reads_optionalInstant h.expiresAt))
      (.cons (field_taken rfl rfl (reads_optionalLong h.expiresIn)) (.nil _))))
  exact Json.reads_record hmembers rfl

/-! ### All results -/

/-- **Results are read back.** The text that a result is sent as is read as that result, whatever
texts, roles and times are in it. -/
theorem decode_toJson :
    (∀ p : TokenPair, Json.decode TokenPair.read p.toJson.print = .ok p) ∧
    (∀ u : UserView, u.Sendable → Json.decode UserView.read u.toJson.print = .ok u) ∧
    (∀ r : LoginResult, r.user.Sendable → Json.decode LoginResult.read r.toJson.print = .ok r) ∧
    (∀ p : Profile, p.Sendable → Json.decode Profile.read p.toJson.print = .ok p) :=
  ⟨fun p => Json.decode_print (reads_tokenPair p),
    fun _ h => Json.decode_print (reads_userView h),
    fun _ h => Json.decode_print (reads_loginResult h),
    fun _ h => Json.decode_print (reads_profile h)⟩

namespace Sample

/-- An account with the largest id that was made half a second into a leap second. -/
def leapView : UserView :=
  ⟨maxNat64, "say \"hi\"", "tab\tnul\x00 back\\slash", "ΟΔΥΣΣΕΥΣ😀\u2028", .admin,
    ⟨1483228799, 1500000000⟩⟩

/-- A profile whose times are the last nanosecond of the calendar and the least number. -/
def extremeProfile : Profile :=
  ⟨{ leapView with createdAt := ⟨Instant.minSeconds, 1⟩ }, ["", "\n", "user"],
    some ⟨Instant.maxSeconds, 1999999999⟩, some minInt64⟩

theorem decode_extremeProfile :
    leapView.Sendable ∧ extremeProfile.Sendable ∧
    Json.decode LoginResult.read (LoginResult.toJson ⟨leapView, ⟨"a.b.c", ""⟩⟩).print =
      .ok ⟨leapView, ⟨"a.b.c", ""⟩⟩ ∧
    Json.decode Profile.read extremeProfile.toJson.print = .ok extremeProfile := by
  have hview : leapView.Sendable := ⟨Nat.le_refl _, by decide⟩
  have hprofile : extremeProfile.Sendable := by
    refine ⟨⟨Nat.le_refl _, by decide⟩, ?_, ?_⟩
    · rintro t ⟨⟩
      decide
    · rintro n ⟨⟩
      decide
  obtain ⟨-, -, hlogin, hread⟩ := decode_toJson
  exact ⟨hview, hprofile, hlogin _ hview, hread _ hprofile⟩

end Sample

end SessionAuth
