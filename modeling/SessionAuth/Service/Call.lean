import SessionAuth.Session.Basic
import SessionAuth.Token.Claims
import SessionAuth.User.Basic

/-!
# Operations as trees of calls

An operation of the service keeps nothing of its own: it makes calls to its collaborators, one
after another, and each next step depends on the answers so far. So an operation is a tree whose
nodes are calls, and what a call does is left to whoever runs the tree.

* `Call`, `Call.Answer`: the calls, and what each of them answers.
* `Flow`: the trees, a monad.
* `Operation`: trees that may end with an error.
-/

namespace SessionAuth

/-- A call to a collaborator. -/
inductive Call where
  | findByUsername (name : Username)
  | findById (id : UserId)
  | insertUser (user : NewUser)
  | updatePassword (id : UserId) (hash : PasswordHash) (at' : Instant)
  | softDelete (id : UserId) (at' : Instant)
  | hashPassword (password : String)
  | checkPassword (password stored : String)
  | signToken (user : UserId) (kind : TokenKind) (extra : Claims)
  | verifyToken (token : String)
  | saveSession (session : Session) (ttl : Duration)
  | getSession (slot : Slot)
  | deleteSession (slot : Slot)
  | readClock
deriving Repr

@[reducible] def Call.Answer : Call → Type
  | .findByUsername _ => Except DomainError (Option User)
  | .findById _ => Except DomainError (Option User)
  | .insertUser _ => Except DomainError User
  | .updatePassword _ _ _ => Except DomainError User
  | .softDelete _ _ => Except DomainError Unit
  | .hashPassword _ => Except ServiceError String
  | .checkPassword _ _ => Except ServiceError Unit
  | .signToken _ _ _ => Except ServiceError String
  | .verifyToken _ => Except ServiceError Claims
  | .saveSession _ _ => Except ServiceError Unit
  | .getSession _ => Except ServiceError (Option Session)
  | .deleteSession _ => Except ServiceError Unit
  | .readClock => Instant

/-- A tree of calls with results at its ends. -/
inductive Flow (α : Type) where
  | done (a : α)
  | call (c : Call) (next : c.Answer → Flow α)

namespace Flow

variable {α β : Type}

/-- Goes on with `f` at every end. -/
def bind (f : α → Flow β) : Flow α → Flow β
  | .done a => f a
  | .call c next => .call c fun answer => (next answer).bind f

instance : Monad Flow where
  pure := .done
  bind x f := x.bind f

def ask (c : Call) : Flow c.Answer := .call c .done

@[simp] theorem pure_bind (a : α) (f : α → Flow β) : (pure a : Flow α) >>= f = f a := rfl

@[simp] theorem done_bind (a : α) (f : α → Flow β) : (Flow.done a) >>= f = f a := rfl

@[simp] theorem call_bind (c : Call) (next : c.Answer → Flow α) (f : α → Flow β) :
    (Flow.call c next) >>= f = .call c fun answer => next answer >>= f := rfl

theorem bind_done (x : Flow α) : x.bind .done = x := by
  induction x with
  | done a => rfl
  | call c next ih => simp [bind, ih]

theorem bind_assoc {γ : Type} (x : Flow α) (f : α → Flow β) (g : β → Flow γ) :
    (x.bind f).bind g = x.bind fun a => (f a).bind g := by
  induction x with
  | done a => rfl
  | call c next ih => simp [bind, ih]

instance : LawfulMonad Flow := LawfulMonad.mk' Flow bind_done (fun _ _ => rfl) bind_assoc

end Flow

abbrev Operation (α : Type) := ExceptT ServiceError Flow α

namespace Operation

variable {α : Type}

/-- One call and its answer, an error among the answers included. -/
def ask (c : Call) : Operation c.Answer := ExceptT.lift (Flow.ask c)

/-- Ends with an error, if there is one. -/
def ofResult (r : Except ServiceError α) : Operation α := ExceptT.mk (pure r)

/-- Ends with an error about users, if there is one. -/
def ofDomain (r : Except DomainError α) : Operation α := ofResult (r.mapError .domain)

/-- Ends with the failure of a call behind a heading, if there is one. -/
def orFailed (heading : String) (r : Except ServiceError α) : Operation α :=
  ofResult (r.mapError fun e => .failed heading e.message)

/-- The calls of an operation and its result, an error included. -/
def attempt (op : Operation α) : Operation (Except ServiceError α) := ExceptT.lift (ExceptT.run op)

end Operation

end SessionAuth
