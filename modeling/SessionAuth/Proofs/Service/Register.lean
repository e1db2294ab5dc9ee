import SessionAuth.Service.Account

/-!
# A registration step by step

A registration whose input is valid makes four calls at most: it looks the username up, hashes the
password, asks for the time and adds the account. Any other makes none.

* `Registration.Valid`: what a registration is checked for, and what its texts spell.
* `run_register_of_valid`, `run_register_cases`: all registrations.
* `Waiting`: how far a registration has come.
* `Flow.AddsNone`: operations that add no account, among them a deletion.
-/

namespace SessionAuth

namespace Service

/-! ## A registration step by step -/

/-- A registration that passes all checks of its input, and what its texts spell. -/
structure Registration.Valid (r : Registration) (username : Username) (email : Email) : Prop where
  username : Username.ofText r.username = .ok username
  email : Email.ofText r.email = .ok email
  name : Text.isBlankText r.name = false
  password : checkNewPassword r.password = .ok ()

section Steps

variable (r : Registration) (username : Username) (email : Email)

/-- What is left of a registration once the account has been added or refused. -/
def afterInsert : Except DomainError User → Flow (Except ServiceError UserView)
  | .ok user => .done (.ok user.view)
  | .error e => .done (.error (.domain e))

/-- What is left of a registration once the time is known. -/
def afterClock (hash : PasswordHash) (now : Instant) : Flow (Except ServiceError UserView) :=
  .call (.insertUser (NewUser.make username r.name email hash now)) afterInsert

/-- What is left of a registration once the password has been hashed. -/
def afterHash : Except ServiceError String → Flow (Except ServiceError UserView)
  | .ok text =>
    match PasswordHash.ofText text with
    | .ok hash => .call .readClock (afterClock r username email hash)
    | .error e => .done (.error (.domain e))
  | .error e => .done (.error e)

theorem afterHash_ok (hash : PasswordHash) :
    afterHash r username email (.ok hash.text) =
      .call .readClock (afterClock r username email hash) := by
  rw [afterHash, PasswordHash.ofText, dif_pos hash.nonempty]

/-- What is left of a registration once the username has been looked up. -/
def afterLookup : Except DomainError (Option User) → Flow (Except ServiceError UserView)
  | .ok none => .call (.hashPassword r.password) (afterHash r username email)
  | .ok (some _) => .done (.error (.conflict "username already exists"))
  | .error e => .done (.error (.domain e))

end Steps

theorem run_register_of_valid {r : Registration} {username : Username} {email : Email}
    (h : r.Valid username email) :
    ExceptT.run (register r) = .call (.findByUsername username) (afterLookup r username email) := by
  have hname : ¬ Text.isBlankText r.name = true := by
    rw [h.name]
    exact Bool.false_ne_true
  rw [register, h.username, h.email, h.password]
  change ExceptT.run (if Text.isBlankText r.name = true then _ else _) = _
  rw [if_neg hname]
  apply congrArg (Flow.call _)
  funext found
  rcases found with e | ⟨_ | user⟩
  · rfl
  · apply congrArg (Flow.call _)
    funext hashed
    rcases hashed with e | text
    · rfl
    · rw [afterHash]
      change ExceptT.run (Operation.ofDomain (PasswordHash.ofText text) >>= _) = _
      cases PasswordHash.ofText text with
      | error e => rfl
      | ok hash =>
        apply congrArg (Flow.call _)
        funext now
        apply congrArg (Flow.call _)
        funext made
        cases made <;> rfl
  · rfl

/-- A registration whose input is refused makes no calls. -/
theorem run_register_cases (r : Registration) :
    (∃ username email, r.Valid username email) ∨
      ∃ e, ExceptT.run (register r) = .done (.error e) := by
  rw [register]
  cases husername : Username.ofText r.username with
  | error e => exact Or.inr ⟨_, rfl⟩
  | ok username =>
    cases hemail : Email.ofText r.email with
    | error e => exact Or.inr ⟨_, rfl⟩
    | ok email =>
      by_cases hname : Text.isBlankText r.name = true
      · refine Or.inr ⟨.validation "name cannot be empty", ?_⟩
        change ExceptT.run (if Text.isBlankText r.name = true then _ else _) = _
        rw [if_pos hname]
        rfl
      · cases hpassword : checkNewPassword r.password with
        | error e =>
          refine Or.inr ⟨e, ?_⟩
          change ExceptT.run (if Text.isBlankText r.name = true then _ else _) = _
          rw [if_neg hname]
          rfl
        | ok _ => exact Or.inl ⟨username, email, husername, hemail, by simpa using hname, hpassword⟩

/-- How far a registration with valid input has come, by the number of its calls so far: it looks
the username up, hashes the password, asks for the time and adds the account. -/
inductive Waiting (r : Registration) (username : Username) (email : Email) :
    Nat → Flow (Except ServiceError UserView) → Prop
  | lookup : Waiting r username email 0
      (.call (.findByUsername username) (afterLookup r username email))
  | hash : Waiting r username email 1
      (.call (.hashPassword r.password) (afterHash r username email))
  | clock (hash : PasswordHash) : Waiting r username email 2
      (.call .readClock (afterClock r username email hash))
  | insert (hash : PasswordHash) (now : Instant) : Waiting r username email 3
      (.call (.insertUser (NewUser.make username r.name email hash now)) afterInsert)

theorem not_waiting_done {r : Registration} {username : Username} {email : Email} {k : Nat}
    (result : Except ServiceError UserView) : ¬ Waiting r username email k (.done result) := by
  intro h
  cases h

theorem Registration.Valid.unique {r : Registration} {username username' : Username}
    {email email' : Email} (h : r.Valid username email) (h' : r.Valid username' email') :
    username = username' ∧ email = email' :=
  ⟨Except.ok.inj (h.username.symm.trans h'.username), Except.ok.inj (h.email.symm.trans h'.email)⟩

theorem Waiting.lt_four {r : Registration} {username : Username} {email : Email} {k : Nat}
    {rest : Flow (Except ServiceError UserView)} (h : Waiting r username email k rest) : k < 4 := by
  cases h <;> decide

end Service

/-! ## Calls that never add an account -/

/-- Whatever is answered, no account is added. -/
def Flow.AddsNone {α : Type} : Flow α → Prop
  | .done _ => True
  | .call c next => (∀ n, c ≠ .insertUser n) ∧ ∀ a, (next a).AddsNone

theorem Service.addsNone_softDelete (caller : Caller) :
    (ExceptT.run (softDelete caller)).AddsNone := by
  refine ⟨fun _ => by simp, fun first => ?_⟩
  rcases first with e | ⟨⟩
  · exact trivial
  · refine ⟨fun _ => by simp, fun second => ?_⟩
    rcases second with e | ⟨⟩
    · exact trivial
    · refine ⟨fun _ => by simp, fun now => ⟨fun _ => by simp, fun deleted => ?_⟩⟩
      rcases deleted with e | ⟨⟩ <;> exact trivial

end SessionAuth
