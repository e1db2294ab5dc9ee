import SessionAuth.Proofs.Service.Issue
import SessionAuth.Proofs.Service.Outcome
import SessionAuth.Proofs.Service.Request
import SessionAuth.Proofs.Token.Bearer

/-!
# A small system

One account, passwords that are kept as they are, and nothing on record: a system on which the
statements about all systems can be tried out.

* `Sample.alice`, `Sample.system`: the account and the system.
* `Sample.settle_login`: the account can log in; `Sample.loggedIn` is the system afterwards.
* `Sample.settle_openAccess`: the first half of a login; `Sample.halfOpened` is the system then.
-/

namespace SessionAuth.Sample

/-- The only account. -/
def alice : User where
  id := ⟨1, Nat.one_pos, UserId.one_le_max⟩
  username := ⟨"alice", by decide, by decide⟩
  name := "Alice"
  email := ⟨"alice@example.com", by decide⟩
  passwordHash := ⟨"plain$secret123", by decide⟩
  role := .user
  createdAt := ⟨0, 0⟩
  updatedAt := ⟨0, 0⟩
  deletedAt := none

/-- A system with one account at the start of 1970. -/
def system : System where
  users := ⟨[alice]⟩
  sessions := .empty
  provider := ⟨"secret", .ofSeconds 900, .ofSeconds 86400⟩
  hasher := .plain
  now := ⟨0, 0⟩
  clockAhead := 0
  uptime := 0
  random := fun n => List.replicate 16 (UInt8.ofNat n)
  draws := 0
  issued := []

theorem steady_system : system.Steady where
  clock := rfl
  inCalendar := by decide
  nanos := by decide
  ttl := fun kind => by cases kind <;> decide

theorem room_system : system.Room := fun kind => by cases kind <;> decide

theorem ofText_username : Username.ofText "alice" = .ok alice.username := by decide

theorem findByUsername_alice : system.users.findByUsername alice.username = some alice := by
  decide

theorem findById_alice : system.users.findById alice.id = some alice := by
  decide

theorem check_alice : Hasher.plain.check "secret123" alice.passwordHash.text = .ok () := by
  decide

/-- The account can prove who it is as long as the user table and the hasher stay as they are. -/
theorem settle_authenticate {s : System} (husers : s.users = system.users)
    (hhasher : s.hasher = system.hasher) :
    (Service.authenticate "alice" "secret123").settle s = some (.ok alice, s) :=
  Service.settle_authenticate_of_found ofText_username (husers ▸ findByUsername_alice)
    (hhasher ▸ check_alice)

/-- The account can log in as long as the clocks agree, too. -/
theorem settle_login_of_steady {s : System} (hs : s.Steady) (hroom : s.Room)
    (husers : s.users = system.users) (hhasher : s.hasher = system.hasher) :
    (Service.login "alice" "secret123").settle s =
      some (.ok ⟨alice.view, (s.openSession alice).1⟩, (s.openSession alice).2) := by
  rw [Service.login, Operation.settle_bind_ok (settle_authenticate husers hhasher),
    Operation.settle_bind_ok (Service.settle_issueSession hs hroom alice)]
  rfl

/-- The system after a login that has put its access token on record and nothing else. -/
def halfOpened : System :=
  (system.grant alice.id .access (Service.sessionClaims alice)).2

theorem sameClocks_halfOpened : System.SameClocks system halfOpened :=
  System.sameClocks_grant _ _ _ _

theorem settle_openAccess : (Service.openAccess "alice" "secret123").settle system = some
    (.ok (alice, (system.grant alice.id .access (Service.sessionClaims alice)).1), halfOpened) := by
  rw [Service.openAccess, Operation.settle_bind_ok (settle_authenticate rfl rfl),
    Operation.settle_bind_ok (Service.settle_grantToken steady_system room_system
      (Service.supplement_sessionClaims alice))]
  rfl

/-- The pair of tokens that the account logs in to. -/
def pair : TokenPair := (system.openSession alice).1

/-- The system after the account has logged in. -/
def loggedIn : System := (system.openSession alice).2

theorem settle_login :
    (Service.login "alice" "secret123").settle system =
      some (.ok ⟨alice.view, pair⟩, loggedIn) :=
  settle_login_of_steady steady_system room_system rfl rfl

theorem sameClocks_loggedIn : System.SameClocks system loggedIn :=
  System.sameClocks_openSession system alice

theorem steady_loggedIn : loggedIn.Steady := sameClocks_loggedIn.steady steady_system

theorem room_loggedIn : loggedIn.Room := sameClocks_loggedIn.room room_system

theorem bareToken_pair (kind : TokenKind) : bareToken (pair.token kind) = pair.token kind := by
  cases kind <;> exact Token.bareToken_sign _ _

theorem onRecord_loggedIn (kind : TokenKind) :
    loggedIn.OnRecord ⟨alice.id, kind⟩ (pair.token kind) (system.expiry kind) := by
  obtain ⟨haccess, hrefresh⟩ := System.onRecord_openSession steady_system alice
  cases kind with
  | access => exact haccess
  | refresh => exact hrefresh

/-- Both tokens of the pair are accepted. -/
theorem accepts_pair (kind : TokenKind) :
    ∃ claims, loggedIn.Accepts kind (pair.token kind) alice.id claims :=
  (onRecord_loggedIn kind).accepts steady_loggedIn (steady_system.lt_expiry kind)
    (bareToken_pair kind)

end SessionAuth.Sample
