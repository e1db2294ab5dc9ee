import SessionAuth.Service.Run

/-!
# Operations among healthy collaborators

Without a plan that interferes, an operation is a function of the system. It is the composition of
its parts, so what is known of the parts carries over to the whole.

* `Flow.settle`: the result of a tree of calls and the system after it.
* `Flow.settle_eq_some_iff`: it is the run that leaves all calls alone.
* `Operation.Succeeds`: the operation returns a result that is no error.
* `Operation.settle_bind_ok`, `Operation.settle_bind_error`: an operation after another one.
* `Operation.exists_of_settle_bind_ok`: the parts of an operation that has succeeded.
-/

namespace SessionAuth

namespace Flow

variable {α β : Type}

/-- The result of a tree of calls and the system after it, if every call is answered. -/
def settle : Flow α → System → Option (α × System)
  | .done a, s => some (a, s)
  | .call c next, s => (s.serve c).bind fun p => (next p.1).settle p.2

@[simp] theorem settle_done (a : α) (s : System) : (Flow.done a).settle s = some (a, s) := rfl

@[simp] theorem settle_pure (a : α) (s : System) : (pure a : Flow α).settle s = some (a, s) := rfl

theorem settle_call (c : Call) (next : c.Answer → Flow α) (s : System) :
    (Flow.call c next).settle s = (s.serve c).bind fun p => (next p.1).settle p.2 := rfl

theorem settle_bind (x : Flow α) (f : α → Flow β) (s : System) :
    (x >>= f).settle s = (x.settle s).bind fun p => (f p.1).settle p.2 := by
  induction x generalizing s with
  | done a => rfl
  | call c next ih =>
    rw [call_bind, settle_call, settle_call, Option.bind_assoc]
    congr 1
    funext p
    exact ih p.1 p.2

/-- **Settling is running without interference.** -/
theorem settle_eq_some_iff {x : Flow α} {n : Nat} {s s' : System} {a : α} :
    x.settle s = some (a, s') ↔
      (x.run Plan.none n s).ending = .returned a ∧ (x.run Plan.none n s).system = s' := by
  induction x generalizing n s with
  | done b => simp [run]
  | call c next ih =>
    rw [settle_call, run]
    simp only [Plan.none]
    cases s.serve c with
    | none => simp
    | some p => exact ih p.1

end Flow

namespace Operation

variable {α β : Type}

/-- The result of an operation and the system after it, if every call is answered. -/
def settle (op : Operation α) (s : System) : Option (Except ServiceError α × System) :=
  Flow.settle (ExceptT.run op) s

theorem settle_eq_some_iff {op : Operation α} {s s' : System} {r : Except ServiceError α} :
    op.settle s = some (r, s') ↔
      (op.run Plan.none s).ending = .returned r ∧ (op.run Plan.none s).system = s' :=
  Flow.settle_eq_some_iff

@[simp] theorem settle_pure (a : α) (s : System) :
    (pure a : Operation α).settle s = some (.ok a, s) := rfl

@[simp] theorem settle_throw (e : ServiceError) (s : System) :
    (throw e : Operation α).settle s = some (.error e, s) := rfl

@[simp] theorem settle_ofResult (r : Except ServiceError α) (s : System) :
    (ofResult r).settle s = some (r, s) := rfl

@[simp] theorem settle_ofDomain (r : Except DomainError α) (s : System) :
    (ofDomain r).settle s = some (r.mapError .domain, s) := rfl

@[simp] theorem settle_orFailed (heading : String) (r : Except ServiceError α) (s : System) :
    (orFailed heading r).settle s = some (r.mapError fun e => .failed heading e.message, s) := rfl

theorem settle_ask {c : Call} {s s' : System} {a : c.Answer} (h : s.serve c = some (a, s')) :
    (ask c).settle s = some (.ok a, s') := by
  have hcall : (ask c).settle s = (s.serve c).bind fun p => some (.ok p.1, p.2) := rfl
  rw [hcall, h, Option.bind_some]

theorem settle_attempt {op : Operation α} {s s' : System} {r : Except ServiceError α}
    (h : op.settle s = some (r, s')) : (attempt op).settle s = some (.ok r, s') := by
  have hrun : ExceptT.run (attempt op) =
      ExceptT.run op >>= fun r => pure (.ok r : Except ServiceError (Except ServiceError α)) := rfl
  rw [settle] at h
  rw [settle, hrun, Flow.settle_bind, h, Option.bind_some, Flow.settle_pure]

theorem settle_bind (op : Operation α) (f : α → Operation β) (s : System) :
    (op >>= f).settle s = (op.settle s).bind fun p =>
      match p.1 with
      | .ok a => (f a).settle p.2
      | .error e => some (.error e, p.2) := by
  rw [settle, ExceptT.run_bind, Flow.settle_bind]
  congr 1
  funext p
  cases p.1 <;> rfl

theorem settle_bind_ok {op : Operation α} {s s' : System} {a : α}
    (h : op.settle s = some (.ok a, s')) (f : α → Operation β) :
    (op >>= f).settle s = (f a).settle s' := by
  rw [settle_bind, h, Option.bind_some]

theorem settle_bind_error {op : Operation α} {s s' : System} {e : ServiceError}
    (h : op.settle s = some (.error e, s')) (f : α → Operation β) :
    (op >>= f).settle s = some (.error e, s') := by
  rw [settle_bind, h, Option.bind_some]

/-- An operation that succeeds is made of parts that succeed. -/
theorem exists_of_settle_bind_ok {op : Operation α} {f : α → Operation β} {s s' : System} {b : β}
    (h : (op >>= f).settle s = some (.ok b, s')) :
    ∃ a s₁, op.settle s = some (.ok a, s₁) ∧ (f a).settle s₁ = some (.ok b, s') := by
  rw [settle_bind] at h
  obtain ⟨⟨r, s₁⟩, hop, hrest⟩ := Option.bind_eq_some_iff.mp h
  cases r with
  | error e => exact absurd (Option.some.inj hrest) (by simp)
  | ok a => exact ⟨a, s₁, hop, hrest⟩

theorem of_settle_ofDomain {s s' : System} {r : Except DomainError α} {a : α}
    (h : (ofDomain r).settle s = some (.ok a, s')) : r = .ok a ∧ s' = s := by
  obtain ⟨hr, rfl⟩ := Prod.mk.inj (Option.some.inj h)
  cases r with
  | error e => cases hr
  | ok b => exact ⟨congrArg Except.ok (Except.ok.inj hr), rfl⟩

theorem of_settle_ask {s s' : System} {c : Call} {a : c.Answer}
    (h : (ask c).settle s = some (.ok a, s')) : s.serve c = some (a, s') := by
  have hcall : (ask c).settle s = (s.serve c).bind fun p => some (.ok p.1, p.2) := rfl
  rw [hcall] at h
  obtain ⟨⟨b, s₁⟩, hserve, he⟩ := Option.bind_eq_some_iff.mp h
  obtain ⟨hb, rfl⟩ := Prod.mk.inj (Option.some.inj he)
  obtain rfl := Except.ok.inj hb
  exact hserve

/-- What comes after a check has been reached only if the check has passed. -/
theorem of_settle_unless {s s' : System} {c : Prop} [Decidable c] {e : ServiceError}
    {rest : Unit → Operation α} {a : α}
    (h : (if c then (throw e : Operation Unit) >>= rest else rest ()).settle s = some (.ok a, s')) :
    (rest ()).settle s = some (.ok a, s') := by
  split at h
  · exact absurd (Prod.mk.inj (Option.some.inj h)).1 (by simp)
  · exact h

/-- Among healthy collaborators the operation returns a result that is no error. -/
def Succeeds (op : Operation α) (s : System) (a : α) : Prop :=
  ∃ calls s', op.run Plan.none s = ⟨.returned (.ok a), calls, s'⟩

theorem exists_run_of_settle {op : Operation α} {s s' : System} {r : Except ServiceError α}
    (h : op.settle s = some (r, s')) :
    ∃ calls, op.run Plan.none s = ⟨.returned r, calls, s'⟩ := by
  obtain ⟨hending, rfl⟩ := settle_eq_some_iff.mp h
  refine ⟨(op.run Plan.none s).calls, ?_⟩
  rw [← hending]

theorem settle_of_run {op : Operation α} {s s' : System} {r : Except ServiceError α}
    {calls : List Call} (h : op.run Plan.none s = ⟨.returned r, calls, s'⟩) :
    op.settle s = some (r, s') :=
  settle_eq_some_iff.mpr ⟨congrArg Run.ending h, congrArg Run.system h⟩

theorem succeeds_iff {op : Operation α} {s : System} {a : α} :
    op.Succeeds s a ↔ ∃ s', op.settle s = some (.ok a, s') := by
  constructor
  · rintro ⟨calls, s', hrun⟩
    exact ⟨s', settle_of_run hrun⟩
  · rintro ⟨s', hsettle⟩
    obtain ⟨calls, hrun⟩ := exists_run_of_settle hsettle
    exact ⟨calls, s', hrun⟩

end Operation

end SessionAuth
