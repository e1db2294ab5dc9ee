import Mathlib.Logic.Relation
import SessionAuth.Proofs.Service.System

/-!
# Requests side by side

Any number of requests are worked on at the same time. Each has made some of its calls; the next
call of any of them may be answered next, the collaborators may fail it, time may pass, and new
requests may come in. A request that is never answered again has been abandoned.

* `Thread`, `World`: a request with its calls so far, and all of them with the collaborators.
* `Exchanges`: one call of one request is answered.
* `Step`, `Run`: what may happen next, and any number of such steps.
* `step_thread`: all that a step can do to one request.
* `moment_of_run`: every answer was given in some step.
* `follows_of_run`: every request keeps to its contract.
* `World.Over`: the requests so far have been answered or abandoned.
-/

namespace SessionAuth

namespace System

/-- What may become of a call: it is answered, or, where faults are allowed, it fails, with or
without having done what it was there for. -/
def Answers (faults : Bool) (s : System) (x : Exchange) (s' : System) : Prop :=
  s.serve x.call = some (x.answer, s') ∨
    faults = true ∧ x.Failed ∧ (s' = s ∨ ∃ a, s.serve x.call = some (a, s'))

/-- The clocks show something else, and that of the session store nothing earlier. -/
structure Later (s s' : System) : Prop where
  onlyClocks : s' = { s with now := s'.now, clockAhead := s'.clockAhead, uptime := s'.uptime }
  uptime : s.uptime ≤ s'.uptime
  inCalendar : s'.now.inCalendar = true

end System

namespace Concurrent

open Service

/-- A request, what has been answered to it so far, and what it still has to do. -/
structure Thread where
  request : Request
  past : List Exchange
  rest : Flow (Except ServiceError request.Result)

/-- A request that has just come in. -/
def Thread.start (r : Request) : Thread := ⟨r, [], ExceptT.run r.operation⟩

/-- The collaborators and all requests so far, in the order in which they came in. -/
structure World where
  system : System
  threads : List Thread

/-- The next call of the request at some place is answered. -/
inductive Exchanges (faults : Bool) (i : Nat) (x : Exchange) : World → World → Prop
  | mk {s s' : System} {threads : List Thread} {r : Request} {past : List Exchange}
      {next : x.call.Answer → Flow (Except ServiceError r.Result)}
      (thread : threads[i]? = some ⟨r, past, .call x.call next⟩)
      (answers : s.Answers faults x s') :
      Exchanges faults i x ⟨s, threads⟩ ⟨s', threads.set i ⟨r, past ++ [x], next x.answer⟩⟩

/-- What may happen next. -/
inductive Step (faults : Bool) : World → World → Prop
  | start (s : System) (threads : List Thread) (r : Request) :
      Step faults ⟨s, threads⟩ ⟨s, threads ++ [Thread.start r]⟩
  | exchange {i : Nat} {x : Exchange} {w w' : World} (h : Exchanges faults i x w w') :
      Step faults w w'
  | pass {s s' : System} {threads : List Thread} (h : s.Later s') :
      Step faults ⟨s, threads⟩ ⟨s', threads⟩

/-- Anything that may happen from one world to another. -/
abbrev Run (faults : Bool) : World → World → Prop := Relation.ReflTransGen (Step faults)

/-- Nobody has asked for anything, and nothing is on record. -/
structure World.Fresh (w : World) : Prop where
  threads : w.threads = []
  sessions : w.system.sessions = .empty
  inCalendar : w.system.now.inCalendar = true

/-! ## One step -/

variable {faults : Bool} {w₀ w w' : World}

/-- What a request has done so far remains done. -/
structure Thread.Grows (t t' : Thread) : Prop where
  request : t'.request = t.request
  past : t.past <+: t'.past

theorem Thread.Grows.refl (t : Thread) : t.Grows t := ⟨rfl, List.prefix_refl _⟩

theorem Thread.Grows.trans {t₁ t₂ t₃ : Thread} (h : t₁.Grows t₂) (h' : t₂.Grows t₃) :
    t₁.Grows t₃ :=
  ⟨h'.request.trans h.request, h.past.trans h'.past⟩

/-- One thread before and after an answer that it has got. -/
inductive Thread.Gets (x : Exchange) : Thread → Thread → Prop
  | mk {r : Request} {past : List Exchange}
      {next : x.call.Answer → Flow (Except ServiceError r.Result)} :
      Gets x ⟨r, past, .call x.call next⟩ ⟨r, past ++ [x], next x.answer⟩

/-- **All that a step can do to one request**: nothing, or it comes in, or it gets an answer. -/
theorem step_thread (h : Step faults w w') {j : Nat} {t' : Thread}
    (ht : w'.threads[j]? = some t') :
    w.threads[j]? = some t' ∨ (w.threads[j]? = none ∧ ∃ r, t' = Thread.start r) ∨
      ∃ x t, w.threads[j]? = some t ∧ t.Gets x t' ∧ Exchanges faults j x w w' := by
  cases h with
  | start s threads r =>
    simp only [List.getElem?_append] at ht ⊢
    split at ht
    · exact Or.inl ht
    · rename_i hlen
      have hnone : threads[j]? = none := List.getElem?_eq_none (Nat.le_of_not_lt hlen)
      obtain ⟨-, rfl⟩ := List.getElem?_eq_some_iff.mp ht
      refine Or.inr (Or.inl ⟨hnone, r, ?_⟩)
      simp
  | pass h => exact Or.inl ht
  | @exchange i x w w' h =>
    by_cases hj : i = j
    · subst hj
      have h' := h
      cases h with
      | @mk s s' threads r past next thread answers =>
        obtain ⟨hlt, -⟩ := List.getElem?_eq_some_iff.mp thread
        simp only [List.getElem?_set_self hlt, Option.some.injEq] at ht
        subst ht
        exact Or.inr (Or.inr ⟨x, _, thread, .mk, h'⟩)
    · cases h with
      | mk thread answers =>
        simp only [List.getElem?_set_ne hj] at ht
        exact Or.inl ht

theorem step_grows (h : Step faults w w') {j : Nat} {t : Thread} (ht : w.threads[j]? = some t) :
    ∃ t', w'.threads[j]? = some t' ∧ t.Grows t' := by
  cases h with
  | start s threads r =>
    obtain ⟨hlt, -⟩ := List.getElem?_eq_some_iff.mp ht
    exact ⟨t, (List.getElem?_append_left hlt).trans ht, Thread.Grows.refl t⟩
  | pass h => exact ⟨t, ht, Thread.Grows.refl t⟩
  | @exchange i x w w' h =>
    cases h with
    | @mk s s' threads r past next thread answers =>
      by_cases hj : i = j
      · subst hj
        obtain ⟨hlt, -⟩ := List.getElem?_eq_some_iff.mp thread
        obtain rfl := Option.some.inj (thread.symm.trans ht)
        exact ⟨_, List.getElem?_set_self hlt, rfl, List.prefix_append _ _⟩
      · exact ⟨t, (List.getElem?_set_ne hj).trans ht, Thread.Grows.refl t⟩

theorem Exchanges.step {i : Nat} {x : Exchange} (h : Exchanges faults i x w w') :
    Step faults w w' := .exchange h

theorem Exchanges.mem_past {i : Nat} {x : Exchange} (h : Exchanges faults i x w w') :
    ∃ t, w'.threads[i]? = some t ∧ x ∈ t.past := by
  cases h with
  | mk thread answers =>
    obtain ⟨hlt, -⟩ := List.getElem?_eq_some_iff.mp thread
    exact ⟨_, List.getElem?_set_self hlt, List.mem_append_right _ (List.mem_singleton_self _)⟩

theorem Exchanges.past_eq {i : Nat} {x : Exchange} (h : Exchanges faults i x w w') {t' : Thread}
    (ht' : w'.threads[i]? = some t') : ∃ t, w.threads[i]? = some t ∧ t'.past = t.past ++ [x] := by
  cases h with
  | mk thread answers =>
    obtain ⟨hlt, -⟩ := List.getElem?_eq_some_iff.mp thread
    obtain rfl := Option.some.inj ((List.getElem?_set_self hlt).symm.trans ht')
    exact ⟨_, thread, rfl⟩

theorem Exchanges.threads_ne {i j : Nat} {x : Exchange} (h : Exchanges faults i x w w')
    (hij : i ≠ j) : w'.threads[j]? = w.threads[j]? := by
  cases h with
  | mk thread answers => exact List.getElem?_set_ne hij

/-! ## Runs -/

theorem run_grows (h : Run faults w w') {j : Nat} {t : Thread} (ht : w.threads[j]? = some t) :
    ∃ t', w'.threads[j]? = some t' ∧ t.Grows t' := by
  induction h with
  | refl => exact ⟨t, ht, Thread.Grows.refl t⟩
  | tail _ hstep ih =>
    obtain ⟨t₁, ht₁, hgrows₁⟩ := ih
    obtain ⟨t₂, ht₂, hgrows₂⟩ := step_grows hstep ht₁
    exact ⟨t₂, ht₂, hgrows₁.trans hgrows₂⟩

theorem grows_of_run (h : Run faults w w') {j : Nat} {t t' : Thread}
    (ht : w.threads[j]? = some t) (ht' : w'.threads[j]? = some t') : t.Grows t' := by
  obtain ⟨u, hu, hgrows⟩ := run_grows h ht
  obtain rfl := Option.some.inj (hu.symm.trans ht')
  exact hgrows

theorem split_append_singleton {past before after : List Exchange} {x y : Exchange}
    (h : past ++ [y] = before ++ x :: after) :
    before = past ∧ x = y ∨ ∃ after', past = before ++ x :: after' := by
  rcases List.eq_nil_or_concat after with rfl | ⟨after', z, rfl⟩
  · obtain ⟨hpast, hy⟩ := List.append_inj' h rfl
    exact Or.inl ⟨hpast.symm, (List.cons.inj hy).1.symm⟩
  · rw [List.concat_eq_append, ← List.cons_append, ← List.append_assoc] at h
    exact Or.inr ⟨after', (List.append_inj' h rfl).1⟩

/-- **Every answer was given in some step**: what has been answered by the end of a run had been
answered before or was answered at some moment of it, when the request had got just the answers
before it. The run may be of any sort of steps. -/
theorem moment_of_run {R : World → World → Prop} (hR : ∀ {w w'}, R w w' → Step faults w w')
    (hrun : Relation.ReflTransGen R w w') {i : Nat} {t : Thread} (ht : w'.threads[i]? = some t)
    {before after : List Exchange} {x : Exchange} (hpast : t.past = before ++ x :: after) :
    (∃ u, w.threads[i]? = some u ∧ x ∈ u.past) ∨
      ∃ w₁ w₂, Relation.ReflTransGen R w w₁ ∧ R w₁ w₂ ∧ Exchanges faults i x w₁ w₂ ∧
        Relation.ReflTransGen R w₂ w' ∧ ∃ u, w₁.threads[i]? = some u ∧ u.past = before := by
  induction hrun generalizing t after with
  | refl => exact Or.inl ⟨t, ht, hpast ▸ List.mem_append_right _ List.mem_cons_self⟩
  | @tail w₁ w₂ hrun hstep ih =>
    have hlater : ∀ u after', w₁.threads[i]? = some u → u.past = before ++ x :: after' →
        (∃ u, w.threads[i]? = some u ∧ x ∈ u.past) ∨
          ∃ w₃ w₄, Relation.ReflTransGen R w w₃ ∧ R w₃ w₄ ∧ Exchanges faults i x w₃ w₄ ∧
            Relation.ReflTransGen R w₄ w₂ ∧ ∃ u, w₃.threads[i]? = some u ∧ u.past = before := by
      intro u after' hu hpast'
      rcases ih hu hpast' with hearlier | ⟨w₃, w₄, h₁, h₂, h₃, h₄, h₅⟩
      · exact Or.inl hearlier
      · exact Or.inr ⟨w₃, w₄, h₁, h₂, h₃, h₄.tail hstep, h₅⟩
    -- Either the last step has given the answer, or it had been given by then.
    rcases step_thread (hR hstep) ht with ht₁ | ⟨-, r, rfl⟩ | ⟨y, t₁, ht₁, hgets, hexchange⟩
    · exact hlater t after ht₁ hpast
    · exact absurd hpast (by simp [Thread.start])
    · cases hgets with
      | mk =>
        rcases split_append_singleton hpast with ⟨rfl, rfl⟩ | ⟨after', hpast'⟩
        · exact Or.inr ⟨w₁, w₂, hrun, hstep, hexchange, .refl, _, ht₁, rfl⟩
        · exact hlater _ after' ht₁ hpast'

theorem exchanged_since (hrun : Run faults w w') {i : Nat} {t : Thread}
    (ht : w'.threads[i]? = some t) {x : Exchange} (hx : x ∈ t.past) :
    (∃ u, w.threads[i]? = some u ∧ x ∈ u.past) ∨
      ∃ w₁ w₂, Run faults w w₁ ∧ Exchanges faults i x w₁ w₂ ∧ Run faults w₂ w' := by
  obtain ⟨before, after, hpast⟩ := List.append_of_mem hx
  rcases moment_of_run id hrun ht hpast with hearlier | ⟨w₁, w₂, hrun₁, -, hexchange, hrun₂, -⟩
  · exact Or.inl hearlier
  · exact Or.inr ⟨w₁, w₂, hrun₁, hexchange, hrun₂⟩

/-- A request that has come in since then has got all its answers since then. -/
theorem exchanged_of_new (hrun : Run faults w w') {i : Nat} {t : Thread}
    (hnew : w.threads[i]? = none) (ht : w'.threads[i]? = some t) {x : Exchange} (hx : x ∈ t.past) :
    ∃ w₁ w₂, Run faults w w₁ ∧ Exchanges faults i x w₁ w₂ ∧ Run faults w₂ w' := by
  rcases exchanged_since hrun ht hx with ⟨u, hu, -⟩ | hmoment
  · exact absurd (hnew.symm.trans hu) (by simp)
  · exact hmoment

theorem exists_moment (hfresh : w₀.Fresh) (hrun : Run faults w₀ w) {i : Nat} {t : Thread}
    (ht : w.threads[i]? = some t) {x : Exchange} (hx : x ∈ t.past) :
    ∃ w₁ w₂, Run faults w₀ w₁ ∧ Exchanges faults i x w₁ w₂ ∧ Run faults w₂ w := by
  have hnew : w₀.threads[i]? = none := by
    rw [hfresh.threads]
    exact List.getElem?_nil
  exact exchanged_of_new hrun hnew ht hx

/-- **Of any two answers to different requests one was given first.** -/
theorem exists_moments (hfresh : w₀.Fresh) (hrun : Run faults w₀ w) {i j : Nat} (hij : i ≠ j)
    {t u : Thread} (ht : w.threads[i]? = some t) (hu : w.threads[j]? = some u) {x y : Exchange}
    (hx : x ∈ t.past) (hy : y ∈ u.past) :
    (∃ w₁ w₂ w₃ w₄, Run faults w₀ w₁ ∧ Exchanges faults i x w₁ w₂ ∧ Run faults w₂ w₃ ∧
      Exchanges faults j y w₃ w₄ ∧ Run faults w₄ w) ∨
    ∃ w₁ w₂ w₃ w₄, Run faults w₀ w₁ ∧ Exchanges faults j y w₁ w₂ ∧ Run faults w₂ w₃ ∧
      Exchanges faults i x w₃ w₄ ∧ Run faults w₄ w := by
  obtain ⟨w₁, w₂, hrun₁, hexchange, hrun₂⟩ := exists_moment hfresh hrun ht hx
  rcases exchanged_since hrun₂ hu hy with ⟨v, hv, hmem⟩ | ⟨w₃, w₄, hrun₃, hexchange', hrun₄⟩
  · have hsame : w₁.threads[j]? = some v := by
      rwa [← hexchange.threads_ne hij]
    obtain ⟨w₃, w₄, hrun₃, hexchange', hrun₄⟩ := exists_moment hfresh hrun₁ hsame hmem
    exact Or.inr ⟨w₃, w₄, w₁, w₂, hrun₃, hexchange', hrun₄, hexchange, hrun₂⟩
  · exact Or.inl ⟨w₁, w₂, w₃, w₄, hrun₁, hexchange, hrun₃, hexchange', hrun₄⟩

/-! ## Contracts -/

/-- All collaborators are fair, even when they fail. -/
theorem fair_of_answers {s s' : System} {x : Exchange} (h : s.Answers faults x s') :
    x.Fair := by
  rcases h with h | ⟨-, hfailed, -⟩
  · exact System.serve_fair h
  · exact Exchange.fair_of_failed hfailed

/-- The request has kept to a contract so far and will keep to it. -/
structure Thread.Follows (safe : Request → List Exchange → Call → Prop)
    (post : (r : Request) → List Exchange → r.Result → Prop) (t : Thread) : Prop where
  along : Flow.Along (safe t.request) (fun past r => ∀ a, r = .ok a → post t.request past a)
    t.past t.rest
  safe : ∀ before x after, t.past = before ++ x :: after → safe t.request before x.call

section Contract

variable {safe : Request → List Exchange → Call → Prop}
  {post : (r : Request) → List Exchange → r.Result → Prop}

theorem follows_start {r : Request} (h : r.operation.Along (safe r) (post r) []) :
    (Thread.start r).Follows safe post :=
  ⟨h.flow, fun _ _ _ h => absurd h (by simp [Thread.start])⟩

theorem Thread.Follows.gets {x : Exchange} {t t' : Thread} (h : t.Follows safe post)
    (hgets : t.Gets x t') (hfair : x.Fair) : t'.Follows safe post := by
  cases hgets with
  | @mk r past next =>
    refine ⟨h.along.2 x.answer hfair, fun before y after hpast => ?_⟩
    rcases split_append_singleton hpast with ⟨rfl, rfl⟩ | ⟨after, hpast⟩
    · exact h.along.1
    · exact h.safe before y after hpast

/-- **Every request keeps to a contract, whatever happens besides**, if its operation does. -/
theorem follows_of_run (h : ∀ r : Request, r.operation.Along (safe r) (post r) [])
    (hfresh : w₀.Fresh) (hrun : Run faults w₀ w) {j : Nat} {t : Thread}
    (ht : w.threads[j]? = some t) : t.Follows safe post := by
  induction hrun generalizing t with
  | refl =>
    rw [hfresh.threads] at ht
    exact absurd ht (by simp)
  | tail _ hstep ih =>
    rcases step_thread hstep ht with ht | ⟨-, r, rfl⟩ | ⟨x, t₁, ht₁, hgets, hexchange⟩
    · exact ih ht
    · exact follows_start (h r)
    · cases hexchange with
      | mk thread answers => exact (ih ht₁).gets hgets (fair_of_answers answers)

end Contract

/-- The request has kept to its contract so far and will keep to it. -/
structure Thread.Lawful (t : Thread) : Prop where
  along : Flow.Along t.request.Safe (fun past r => ∀ a, r = .ok a → t.request.Post past a)
    t.past t.rest
  safe : ∀ before x after, t.past = before ++ x :: after → t.request.Safe before x.call

theorem lawful_of_run (hfresh : w₀.Fresh) (hrun : Run faults w₀ w) {j : Nat} {t : Thread}
    (ht : w.threads[j]? = some t) : t.Lawful := by
  have hfollows := follows_of_run Request.along_operation hfresh hrun ht
  exact ⟨hfollows.along, hfollows.safe⟩

/-! ## Requests that go on no more -/

/-- Of the requests that had come in before, none goes on: each has been answered or abandoned. -/
def World.Over (w w' : World) : Prop :=
  ∀ (i : Nat) (t : Thread), w.threads[i]? = some t → w'.threads[i]? = some t

theorem World.Over.refl (w : World) : w.Over w := fun _ _ => id

theorem World.over_of_append {more : List Thread} (h : w'.threads = w.threads ++ more) :
    w.Over w' := by
  intro i t ht
  have hlt := (List.getElem?_eq_some_iff.mp ht).1
  rw [h, List.getElem?_append_left hlt]
  exact ht

/-- Where all earlier requests are over, only a later one gets an answer. -/
theorem World.Over.eq_none (hover : w.Over w') {w₁ w₂ : World} (hrun : Run faults w w₁) {i : Nat}
    {x : Exchange} (h : Exchanges faults i x w₁ w₂) (hrun' : Run faults w₂ w') :
    w.threads[i]? = none := by
  cases ht : w.threads[i]? with
  | none => rfl
  | some t =>
    obtain ⟨u, hu, hgrows⟩ := run_grows hrun ht
    obtain ⟨v, hv, -⟩ := h.mem_past
    obtain ⟨u', hu', hpast⟩ := h.past_eq hv
    obtain rfl := Option.some.inj (hu.symm.trans hu')
    have hle := (grows_of_run hrun' hv (hover i t ht)).past.length_le
    have hle' := hgrows.past.length_le
    rw [hpast, List.length_append, List.length_singleton] at hle
    omega

theorem World.Over.between (hover : w.Over w') {w₁ : World} (hrun : Run faults w w₁)
    (hrun' : Run faults w₁ w') : w.Over w₁ := by
  induction hrun with
  | refl => exact World.Over.refl w
  | @tail w₁ w₂ hrun hstep ih =>
    intro i t ht
    have ht₁ := ih (hrun'.head hstep) i t ht
    obtain ⟨t', ht', -⟩ := step_grows hstep ht₁
    rcases step_thread hstep ht' with ht₂ | ⟨hnone, -⟩ | ⟨x, t₂, -, -, hexchange⟩
    · rwa [Option.some.inj (ht₁.symm.trans ht₂)]
    · exact absurd (ht₁.symm.trans hnone) (by simp)
    · exact absurd (ht.symm.trans (hover.eq_none hrun hexchange hrun')) (by simp)

end Concurrent

end SessionAuth
