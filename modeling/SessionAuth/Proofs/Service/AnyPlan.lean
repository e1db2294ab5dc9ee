import SessionAuth.Proofs.Sequential.Conduct
import SessionAuth.Proofs.Service.Failure

/-!
# Runs under any plan

A plan may have a call answered with anything whatever, so nothing is taken for granted here about
the answers. What a run comes to is put together from what comes of each of its calls.

* `Plan.serve`, `Flow.run_call`: what comes of one call, and a run from its first call on.
* `Flow.run_bind`: a run of two parts, one after the other; `Operation.of_run_ask_bind` takes the
  first call off an operation that has returned.
* `System.Intact`: no account has changed, and no slot has.
* `Operation.Only` and its rules: all calls that an operation may make are of some sort, and it
  ends as stated; `Only.intact` is for those that write nothing.
* `Plan.Silences`: a call of a run has never returned, which is why the run has hung.
-/

namespace SessionAuth

variable {α β : Type}

/-! ## Calls and parts -/

/-- What comes of a call: how it ends, and the system after it. -/
def Plan.serve (plan : Plan) (n : Nat) (s : System) (c : Call) : Ending c.Answer × System :=
  match plan n c with
  | some (.answer a) => (.returned a, s)
  | some .silence => (.hung, s)
  | .none =>
    match s.serve c with
    | some (a, s') => (.returned a, s')
    | .none => (.crashed, s)

/-- What is run next, if what comes before it has returned. -/
def Ending.andThen (ending : Ending α) (s : System) (next : α → Run β) : Run β :=
  match ending with
  | .returned a => next a
  | .hung => ⟨.hung, [], s⟩
  | .crashed => ⟨.crashed, [], s⟩

namespace Flow

variable {plan : Plan} {n : Nat} {s : System}

theorem run_call (c : Call) (next : c.Answer → Flow α) :
    (Flow.call c next).run plan n s =
      ((plan.serve n s c).1.andThen (plan.serve n s c).2 fun a =>
        (next a).run plan (n + 1) (plan.serve n s c).2).after c := by
  rw [run, Plan.serve]
  cases plan n c with
  | none => cases s.serve c <;> rfl
  | some reply => cases reply <;> rfl

/-- **A run of two parts**: the second one goes on with the result of the first, after its calls and
with the system that it has left. -/
theorem run_bind (x : Flow α) (f : α → Flow β) :
    (x >>= f).run plan n s =
      ((x.run plan n s).ending.andThen (x.run plan n s).system fun a =>
        (f a).run plan (n + (x.run plan n s).calls.length) (x.run plan n s).system).behind
          (x.run plan n s).calls := by
  induction x generalizing n s with
  | done a => rfl
  | call c next ih =>
    rw [call_bind, run_call, run_call]
    cases (plan.serve n s c).1 with
    | returned a =>
      dsimp only [Ending.andThen, Run.after]
      rw [ih a]
      generalize (next a).run plan (n + 1) (plan.serve n s c).2 = v
      -- The calls of the second part are numbered from those of the first on.
      have hcount : n + (c :: v.calls).length = n + 1 + v.calls.length := by
        rw [List.length_cons]
        omega
      rw [hcount]
      rfl
    | hung | crashed => rfl

theorem run_map (f : α → β) (x : Flow α) :
    (f <$> x).run plan n s =
      ⟨(x.run plan n s).ending.map f, (x.run plan n s).calls, (x.run plan n s).system⟩ := by
  rw [map_eq_pure_bind, run_bind]
  generalize x.run plan n s = v
  obtain ⟨ending, calls, s'⟩ := v
  cases ending <;> simp [Ending.andThen, Run.behind, Ending.map, run, pure]

end Flow

namespace Operation

variable {plan : Plan} {n : Nat} {s : System} {r : Except ServiceError β}

/-- A run that returns has had its first call answered. -/
theorem of_run_ask_bind {c : Call} {f : c.Answer → Operation β}
    (h : (Flow.run plan n (ExceptT.run (ask c >>= f)) s).ending = .returned r) :
    ∃ answer s₁, plan.serve n s c = (.returned answer, s₁) ∧
      Flow.run plan n (ExceptT.run (ask c >>= f)) s =
        (Flow.run plan (n + 1) (ExceptT.run (f answer)) s₁).after c := by
  have hrun : Flow.run plan n (ExceptT.run (ask c >>= f)) s = _ :=
    Flow.run_call c fun answer => ExceptT.run (f answer)
  rw [hrun] at h ⊢
  generalize plan.serve n s c = served at h ⊢
  obtain ⟨ending, s₁⟩ := served
  cases ending with
  | returned answer => exact ⟨answer, s₁, rfl, rfl⟩
  | hung | crashed => exact absurd h (by simp [Ending.andThen, Run.after])

/-- What comes after an operation that ends with an error is not begun. -/
theorem run_bind_of_error {op : Operation α} {f : α → Operation β} {e : ServiceError}
    (h : (Flow.run plan n (ExceptT.run op) s).ending = .returned (.error e)) :
    Flow.run plan n (ExceptT.run (op >>= f)) s =
      ⟨.returned (.error e), (Flow.run plan n (ExceptT.run op) s).calls,
        (Flow.run plan n (ExceptT.run op) s).system⟩ := by
  rw [ExceptT.run_bind, Flow.run_bind, h]
  simp [Ending.andThen, Run.behind, Flow.run, pure]

theorem run_ofResult_ok_bind (a : α) (f : α → Operation β) :
    Flow.run plan n (ExceptT.run (ofResult (.ok a) >>= f)) s =
      Flow.run plan n (ExceptT.run (f a)) s := rfl

end Operation

/-! ## Nothing is changed -/

namespace System

/-- No clock moves, no account changes, and every slot holds from now on what it held before. -/
structure Intact (s s' : System) : Prop where
  clocks : SameClocks s s'
  users : s'.users = s.users
  untouched : ∀ slot, Untouched s s' slot

theorem Intact.refl (s : System) : Intact s s := ⟨SameClocks.refl s, rfl, Untouched.refl s⟩

theorem Intact.trans {s₁ s₂ s₃ : System} (h : Intact s₁ s₂) (h' : Intact s₂ s₃) : Intact s₁ s₃ :=
  ⟨h.clocks.trans h'.clocks, h'.users.trans h.users,
    fun slot => (h.untouched slot).trans h.clocks (h'.untouched slot)⟩

end System

theorem Call.isQuiet_of_not_writes {c : Call} (h : ¬ c.Writes) : c.IsQuiet := by
  cases c with
  | saveSession _ _ | deleteSession _ | softDelete _ _ => exact absurd trivial h
  | _ => trivial

namespace Plan

variable {plan : Plan} {n : Nat} {s s' : System} {c : Call}

theorem serve_intact (hc : ¬ c.Writes) {a : c.Answer} (h : s.serve c = some (a, s')) :
    s.Intact s' := by
  have hquiet := System.serve_quiet (Call.isQuiet_of_not_writes hc) h
  refine ⟨hquiet.clocks, ?_, hquiet.untouched⟩
  cases c with
  | insertUser _ | updatePassword _ _ _ | softDelete _ _ | saveSession _ _ | deleteSession _ =>
    exact absurd trivial hc
  | _ =>
    obtain ⟨-, rfl⟩ := Prod.mk.inj (Option.some.inj h)
    rfl

/-- A call that is there to change nothing is answered or never returns, and changes nothing. -/
theorem intact_of_not_writes (plan : Plan) (n : Nat) (s : System) (hc : ¬ c.Writes) :
    s.Intact (plan.serve n s c).2 ∧ (plan.serve n s c).1 ≠ .crashed := by
  rw [serve]
  split
  · exact ⟨.refl s, by simp⟩
  · exact ⟨.refl s, by simp⟩
  · obtain ⟨a, s', hserve⟩ := s.exists_serve (Call.isQuiet_of_not_writes hc)
    rw [hserve]
    exact ⟨serve_intact hc hserve, by simp⟩

end Plan

/-! ## What an operation may call, and how it may end -/

namespace Flow

variable {p : Call → Prop}

/-- All calls that may be made are of some sort, and all results are as stated, whatever is
answered. -/
def Only (p : Call → Prop) (post : α → Prop) : Flow α → Prop
  | .done a => post a
  | .call c next => p c ∧ ∀ a, (next a).Only p post

theorem Only.of_returned {post : α → Prop} {x : Flow α} (h : x.Only p post) {plan : Plan} {n : Nat}
    {s : System} {a : α} (hending : (x.run plan n s).ending = .returned a) : post a := by
  induction x generalizing n s with
  | done b => exact Ending.returned.inj hending ▸ h
  | call c next ih =>
    rw [run_call] at hending
    generalize plan.serve n s c = served at hending
    obtain ⟨ending, s₁⟩ := served
    cases ending with
    | returned answer => exact ih answer (h.2 answer) hending
    | hung | crashed => exact absurd hending (by simp [Ending.andThen, Run.after])

/-- A run of calls that write nothing changes nothing, and it does not crash. -/
theorem Only.intact {post : α → Prop} {x : Flow α} (h : x.Only (fun c => ¬ c.Writes) post)
    (plan : Plan) (n : Nat) (s : System) :
    s.Intact (x.run plan n s).system ∧ (x.run plan n s).ending ≠ .crashed := by
  induction x generalizing n s with
  | done a => exact ⟨.refl s, by simp [run]⟩
  | call c next ih =>
    obtain ⟨hintact, hcrashed⟩ := plan.intact_of_not_writes n s h.1
    rw [run_call]
    cases hserve : (plan.serve n s c).1 with
    | returned a =>
      obtain ⟨hrest, hending⟩ := ih a (h.2 a) (n + 1) (plan.serve n s c).2
      exact ⟨hintact.trans hrest, hending⟩
    | hung => exact ⟨hintact, by simp [Ending.andThen, Run.after]⟩
    | crashed => exact absurd hserve hcrashed

end Flow

namespace Operation

variable {p : Call → Prop} {post : Except ServiceError β → Prop}

/-- All calls that the operation may make are of some sort, and it ends as stated. -/
structure Only (p : Call → Prop) (post : Except ServiceError α → Prop) (op : Operation α) :
    Prop where
  flow : Flow.Only p post (ExceptT.run op)

theorem only_pure {b : β} (h : post (.ok b)) : (pure b : Operation β).Only p post := ⟨h⟩

theorem only_throw {e : ServiceError} (h : post (.error e)) :
    (throw e : Operation β).Only p post := ⟨h⟩

theorem only_ask_bind {c : Call} {f : c.Answer → Operation β} (hc : p c)
    (hrest : ∀ a, (f a).Only p post) : (ask c >>= f).Only p post :=
  ⟨hc, fun a => (hrest a).flow⟩

theorem only_ofResult_bind {r : Except ServiceError α} {f : α → Operation β}
    (hok : ∀ a, (f a).Only p post) (herror : ∀ e, r = .error e → post (.error e)) :
    (ofResult r >>= f).Only p post := by
  cases r with
  | ok a => exact ⟨(hok a).flow⟩
  | error e => exact ⟨herror e rfl⟩

theorem Only.of_returned {op : Operation β} (h : op.Only p post) {plan : Plan} {s : System}
    {r : Except ServiceError β} (hending : (op.run plan s).ending = .returned r) : post r :=
  h.flow.of_returned hending

/-- **An operation that writes nothing changes nothing**, under any plan. -/
theorem Only.intact {op : Operation β} (h : op.Only (fun c => ¬ c.Writes) post) (plan : Plan)
    (s : System) : s.Intact (op.run plan s).system ∧ (op.run plan s).ending ≠ .crashed :=
  h.flow.intact plan 0 s

end Operation

/-! ## Calls that never return -/

/-- A call of the run never returns. -/
def Plan.Silences (plan : Plan) (calls : List Call) : Prop :=
  ∃ n c, calls[n]? = some c ∧ plan n c = some .silence

theorem Flow.silenced_of_hung {x : Flow α} {plan : Plan} {n : Nat} {s : System}
    (h : (x.run plan n s).ending = .hung) :
    ∃ k c, (x.run plan n s).calls[k]? = some c ∧ plan (n + k) c = some .silence := by
  induction x generalizing n s with
  | done a => exact absurd h (by simp [run])
  | call c next ih =>
    have hlater : ∀ (a : c.Answer) (s₁ : System), ((next a).run plan (n + 1) s₁).ending = .hung →
        ∃ k d, (((next a).run plan (n + 1) s₁).after c).calls[k]? = some d ∧
          plan (n + k) d = some .silence := by
      intro a s₁ hhung
      obtain ⟨k, d, hcall, hsilence⟩ := ih a hhung
      exact ⟨k + 1, d, hcall, by rw [← hsilence, Nat.add_right_comm, Nat.add_assoc]⟩
    rw [run] at h ⊢
    split at h
    · exact hlater _ _ h
    · rename_i hsilence
      exact ⟨0, c, rfl, hsilence⟩
    · split at h
      · exact hlater _ _ h
      · exact absurd h (by simp)

theorem Operation.silences_of_hung {op : Operation α} {plan : Plan} {s : System}
    (h : (op.run plan s).ending = .hung) : plan.Silences (op.run plan s).calls := by
  obtain ⟨k, c, hcall, hsilence⟩ := Flow.silenced_of_hung h
  exact ⟨k, c, hcall, by rwa [Nat.zero_add] at hsilence⟩

end SessionAuth
