import SessionAuth.Service.System

/-!
# Running operations

One operation runs against a system from its first call to its last. A plan may stand between the
two: it replaces the answer of a call, in which case the collaborator does nothing, or lets the
call wait for ever.

* `Plan`: what becomes of each call; `Plan.none` leaves them all alone.
* `Flow.run`: how an operation ends, which calls it has made and what the system is then.
-/

namespace SessionAuth

/-- What a call gets in place of the collaborator's answer. -/
inductive Reply (α : Type) where
  | answer (a : α)
  /-- The call never returns. -/
  | silence

/-- What becomes of the calls of an operation, by their number from zero. Where it says nothing,
the collaborator answers. -/
abbrev Plan := (n : Nat) → (c : Call) → Option (Reply c.Answer)

def Plan.none : Plan := fun _ _ => .none

/-- How a run ends. -/
inductive Ending (α : Type) where
  | returned (a : α)
  /-- A call never returned. -/
  | hung
  /-- A collaborator had no answer. -/
  | crashed
deriving Repr

/-- The ending, with another result. -/
def Ending.map {α β : Type} (f : α → β) : Ending α → Ending β
  | .returned a => .returned (f a)
  | .hung => .hung
  | .crashed => .crashed

/-- A run: its ending, its calls in their order, and the system after it. -/
structure Run (α : Type) where
  ending : Ending α
  calls : List Call
  system : System

def Run.after {α : Type} (c : Call) (r : Run α) : Run α := { r with calls := c :: r.calls }

/-- Runs an operation whose calls are numbered from `n`. -/
def Flow.run {α : Type} (plan : Plan) : (n : Nat) → Flow α → System → Run α
  | _, .done a, s => ⟨.returned a, [], s⟩
  | n, .call c next, s =>
    match plan n c with
    | some (.answer a) => ((next a).run plan (n + 1) s).after c
    | some .silence => ⟨.hung, [c], s⟩
    | .none =>
      match s.serve c with
      | some (a, s) => ((next a).run plan (n + 1) s).after c
      | .none => ⟨.crashed, [c], s⟩

def Operation.run {α : Type} (plan : Plan) (op : Operation α) (s : System) :
    Run (Except ServiceError α) :=
  Flow.run plan 0 (ExceptT.run op) s

end SessionAuth
