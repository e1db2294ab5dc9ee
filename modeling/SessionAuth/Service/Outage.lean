import SessionAuth.Service.Run

/-!
# Outages

A collaborator may be out of order at some places for a while. A call at such a place fails before
anything is done.

* `Outage.Point`: the places; `Call.points` gives those of a call, the widest first.
* `Outage.Failure`: the ways to fail.
* `Outage.plan`: what an outage does to the calls of an operation.
-/

namespace SessionAuth

namespace Outage

/-- A place at which a collaborator may be out of order. A place for tokens may be narrowed to one
kind of them. -/
inductive Point where
  | insertUser
  | findByUsername
  | findById
  | updatePassword
  | softDelete
  | hashPassword
  | checkPassword
  | signToken (kind : Option TokenKind)
  | verifyToken
  | saveSession (kind : Option TokenKind)
  | getSession (kind : Option TokenKind)
  | deleteSession (kind : Option TokenKind)
deriving DecidableEq, Repr

/-- A way to fail. -/
inductive Failure where
  /-- An error of the user table. -/
  | users (e : DomainError)
  /-- An error of another collaborator. -/
  | other (e : ServiceError)
  /-- A hash without any characters. -/
  | emptyHash
  /-- The call never returns. -/
  | silence
deriving DecidableEq, Repr

end Outage

open Outage in
/-- The places at which a call may fail, the widest first. -/
def Call.points : Call → List Point
  | .findByUsername _ => [.findByUsername]
  | .findById _ => [.findById]
  | .insertUser _ => [.insertUser]
  | .updatePassword _ _ _ => [.updatePassword]
  | .softDelete _ _ => [.softDelete]
  | .hashPassword _ => [.hashPassword]
  | .checkPassword _ _ => [.checkPassword]
  | .signToken _ kind _ => [.signToken none, .signToken (some kind)]
  | .verifyToken _ => [.verifyToken]
  | .saveSession session _ => [.saveSession none, .saveSession (some session.kind)]
  | .getSession slot => [.getSession none, .getSession (some slot.kind)]
  | .deleteSession slot => [.deleteSession none, .deleteSession (some slot.kind)]
  | .readClock => []

/-- The places that are out of order, and how each of them fails. -/
abbrev Outage := List (Outage.Point × Outage.Failure)

namespace Outage

def none : Outage := []

/-- The outage after a place has failed or, with no failure given, recovered. -/
def set (o : Outage) (point : Point) (failure : Option Failure) : Outage :=
  (failure.map fun f => (point, f)).toList ++ o.filter (·.1 != point)

/-- How a call fails, if it does. -/
def failure? (o : Outage) (c : Call) : Option Failure := c.points.findSome? (o.lookup ·)

/-- The error of the user table when a failure is not one of its own. -/
def refused : DomainError := .persistence "connection refused"

def Failure.usersReply {α : Type} : Failure → Reply (Except DomainError α)
  | .users e => .answer (.error e)
  | .silence => .silence
  | _ => .answer (.error refused)

/-- The error of another collaborator when a failure is not one of its own. -/
def unreachable : ServiceError := .infrastructure "cache unavailable"

def Failure.otherReply {α : Type} : Failure → Reply (Except ServiceError α)
  | .other e => .answer (.error e)
  | .users e => .answer (.error (.domain e))
  | .silence => .silence
  | .emptyHash => .answer (.error unreachable)

def Failure.reply (f : Failure) : (c : Call) → Option (Reply c.Answer)
  | .findByUsername _ | .findById _ | .insertUser _ | .updatePassword _ _ _ | .softDelete _ _ =>
    some f.usersReply
  | .hashPassword _ => some (if f = .emptyHash then .answer (.ok "") else f.otherReply)
  | .checkPassword _ _ | .signToken _ _ _ | .verifyToken _ | .saveSession _ _ | .getSession _
  | .deleteSession _ => some f.otherReply
  | .readClock => .none

def plan (o : Outage) : Plan := fun _ c => (o.failure? c).bind (·.reply c)

end Outage

end SessionAuth
