import Mathlib.Logic.Relation
import SessionAuth.Http.Message
import SessionAuth.Proofs.Concurrent.World
import SessionAuth.Proofs.Service.Register
import SessionAuth.Proofs.User.Database

/-!
# Registrations side by side

Registrations and deletions of accounts are worked on side by side, with any database that keeps
the accounts apart. A registration looks its username up before it adds its account, but others may
add theirs in between, and nobody looks for the e-mail address.

* `Serves`, `Step`, `Run`: what may become of a call, and what may happen to all requests.
* `answer_cases`: all that an answer can do to a registration.
* `Stage`, `Invariant`: what a request can have come to, and that every step keeps to it.
* `step_thread`, `step_enrolled`, `step_rows`: all that a step can do to one request, about accounts
  that have been promised, and to the rows.
-/

namespace SessionAuth

open Database (Engine Sound Kept)

/-! ## Accounts that come and go -/

namespace Enrolment

open Service Concurrent

/-- What may become of a call. What the database does is up to it; the hasher always has a hash, and
the session store and the clock may answer anything. -/
inductive Serves (db : Engine) : db.State → (c : Call) → c.Answer → db.State → Prop
  | findByUsername {s s' : db.State} {name : Username} {outcome : UserRepository.Outcome}
      (h : db.Answers s (UserRepository.findByUsername name).query outcome s') :
      Serves db s (.findByUsername name) ((UserRepository.findByUsername name).result outcome) s'
  | insertUser {s s' : db.State} {n : NewUser} {outcome : UserRepository.Outcome}
      (h : db.Answers s (UserRepository.insert n).query outcome s') :
      Serves db s (.insertUser n) ((UserRepository.insert n).result outcome) s'
  | softDelete {s s' : db.State} {id : UserId} {time : Instant}
      {request : UserRepository.Request Unit} {outcome : UserRepository.Outcome}
      (hrequest : UserRepository.softDelete id time = .ok request)
      (h : db.Answers s request.query outcome s') :
      Serves db s (.softDelete id time) (request.result outcome) s'
  | refused {s : db.State} {id : UserId} {time : Instant} {e : DomainError}
      (h : UserRepository.softDelete id time = .error e) :
      Serves db s (.softDelete id time) (.error e) s
  | hashPassword {s : db.State} {password text : String} (h : text.isEmpty = false) :
      Serves db s (.hashPassword password) (.ok text) s
  | readClock {s : db.State} (now : Instant) : Serves db s .readClock now s
  | deleteSession {s : db.State} {slot : Slot} (answer : Except ServiceError Unit) :
      Serves db s (.deleteSession slot) answer s

/-- The database and all requests so far, in the order in which they came in. -/
structure World (db : Engine) where
  state : db.State
  threads : List Thread

/-- Registrations and deletions. -/
def IsEnrolment : Request → Prop
  | .register _ | .softDelete _ => True
  | _ => False

/-- What may happen next: a registration or a deletion comes in, or the next call of one of them is
answered. -/
inductive Step (db : Engine) : World db → World db → Prop
  | start {s : db.State} {threads : List Thread} {r : Request} (h : IsEnrolment r) :
      Step db ⟨s, threads⟩ ⟨s, threads ++ [Thread.start r]⟩
  | exchange {s s' : db.State} {threads : List Thread} {i : Nat} {r : Request}
      {past : List Exchange} {c : Call} {a : c.Answer}
      {next : c.Answer → Flow (Except ServiceError r.Result)}
      (thread : threads[i]? = some ⟨r, past, .call c next⟩) (serves : Serves db s c a s') :
      Step db ⟨s, threads⟩ ⟨s', threads.set i ⟨r, past ++ [⟨c, a⟩], next a⟩⟩

/-- Anything that may happen from one world to another. -/
abbrev Run (db : Engine) : World db → World db → Prop := Relation.ReflTransGen (Step db)

/-! ## One answer -/

section Answer

variable {db : Engine} {s s' : db.State} {c : Call} {a : c.Answer}

theorem Serves.kept (hdb : db.Healthy) (h : Serves db s c a s') :
    Kept (db.rows s) (db.rows s') := by
  cases h with
  | findByUsername h =>
    rw [(hdb.find h).2]
    exact Kept.refl _
  | insertUser h => exact (hdb.insert h).kept
  | softDelete hrequest h => exact (hdb.softDelete hrequest h).kept
  | _ => exact Kept.refl _

theorem Serves.sound (hdb : db.Healthy) (h : Serves db s c a s')
    (hnormal : ∀ n, c = .insertUser n → n.email.Normal) (hs : Sound (db.rows s)) :
    Sound (db.rows s') := by
  cases h with
  | findByUsername h =>
    rw [(hdb.find h).2]
    exact hs
  | insertUser h => exact (hdb.insert h).sound (hnormal _ rfl) hs
  | softDelete hrequest h => exact (hdb.softDelete hrequest h).sound hs
  | _ => exact hs

/-- A row holds the account that a view shows. -/
structure Shown (row : UserRow) (view : UserView) : Prop where
  id : row.id = view.id
  username : row.username = view.username
  email : row.email = view.email

/-- A view shows what a registration has asked for. -/
structure Asked (r : Registration) (username : Username) (email : Email) (view : UserView) :
    Prop where
  username : view.username = username.text
  name : view.name = Text.trim r.name
  email : view.email = email.text
  role : view.role = .user

/-- **All that an answer can do to a registration with valid input.** It goes on; or its account
has been added under a new id, apart from all live rows; or it is refused with a conflict, and a
live row has its username or its e-mail address. -/
theorem answer_cases (hdb : db.Healthy) (hs : Sound (db.rows s)) {r : Registration}
    {username : Username} {email : Email} (hvalid : r.Valid username email) {k : Nat}
    {next : c.Answer → Flow (Except ServiceError UserView)}
    (hwaiting : Waiting r username email k (.call c next)) (h : Serves db s c a s') :
    (Waiting r username email (k + 1) (next a) ∧ db.rows s' = db.rows s) ∨
    (∃ row view, next a = .done (.ok view) ∧ Asked r username email view ∧ Shown row view ∧
      row.Live ∧ db.rows s' = db.rows s ++ [row] ∧ (∀ other ∈ db.rows s, other.id ≠ row.id) ∧
      ∀ other ∈ db.rows s, other.Apart row) ∨
    (∃ e other, next a = .done (.error e) ∧ (Http.Response.ofError e).status = 409 ∧
      db.rows s' = db.rows s ∧ other ∈ db.rows s ∧ other.Live ∧
      (other.username = username.text ∨ other.email = email.text)) := by
  cases hwaiting with
  | lookup =>
    cases h with
    | findByUsername h =>
      obtain ⟨hfinding, hrows⟩ := hdb.find h
      rcases hfinding.result hs with ⟨u, row, hresult, hmem, hlive, hsame⟩ | hresult
      · refine Or.inr (Or.inr ⟨.conflict "username already exists", row, ?_, rfl, hrows, hmem,
          hlive, Or.inl hsame⟩)
        rw [hresult]
        rfl
      · refine Or.inl ⟨?_, hrows⟩
        rw [hresult]
        exact .hash
  | hash =>
    cases h with
    | @hashPassword _ text htext =>
      refine Or.inl ⟨?_, rfl⟩
      rw [afterHash_ok r username email ⟨text, htext⟩]
      exact .clock _
  | clock hash =>
    cases h with
    | readClock => exact Or.inl ⟨.insert hash _, rfl⟩
  | insert hash now =>
    cases h with
    | insertUser h =>
      have hadding := hdb.insert h
      rcases hadding.result (Email.normal_of_ofText hvalid.email) with
        ⟨row, u, hrows, hholds, hfresh, hapart, hresult, hid, husername, hname, hemail, hrole⟩ |
        ⟨text, other, hrows, hresult, hmem, hlive, hsame⟩
      · refine Or.inr (Or.inl ⟨row, u.view, ?_, ⟨congrArg Username.text husername, hname,
          congrArg Email.text hemail, hrole⟩, ⟨hid.symm, ?_, ?_⟩, hholds.live, hrows, hfresh,
          hapart⟩)
        · rw [hresult]
          rfl
        · exact hholds.username.trans (congrArg Username.text husername).symm
        · exact hholds.email.trans (congrArg Email.text hemail).symm
      · refine Or.inr (Or.inr ⟨.domain (.conflict text), other, ?_, rfl, hrows, hmem, hlive, hsame⟩)
        rw [hresult]
        rfl

end Answer

/-! ## Requests and what has become of them -/

/-- The registration has been answered with an account. -/
def Enrolled (t : Thread) (view : UserView) : Prop :=
  ∃ r past, t = ⟨.register r, past, .done (.ok view)⟩

/-- The registration has been answered with an error. -/
def Refused (t : Thread) (e : ServiceError) : Prop :=
  ∃ r past, t = ⟨.register r, past, .done (.error e)⟩

theorem Refused.rest_eq {r : Registration} {past : List Exchange}
    {rest : Flow (Except ServiceError UserView)} {e : ServiceError}
    (h : Refused ⟨.register r, past, rest⟩ e) : rest = .done (.error e) := by
  obtain ⟨r', past', heq⟩ := h
  obtain ⟨hrequest, -, hrest⟩ := Thread.mk.inj heq
  obtain rfl := Request.register.inj hrequest
  exact eq_of_heq hrest

/-- The request waits for the answer to its next call. -/
def Waits (t : Thread) : Prop :=
  ∃ r past c next, t = ⟨r, past, .call c next⟩

theorem waits_of_waiting {r : Registration} {username : Username} {email : Email} {k : Nat}
    {past : List Exchange} {rest : Flow (Except ServiceError UserView)}
    (h : Waiting r username email k rest) : Waits ⟨.register r, past, rest⟩ := by
  cases h <;> exact ⟨_, _, _, _, rfl⟩

/-- What a request can have come to. The rows at the beginning are `rows₀`. -/
inductive Stage (rows₀ rows : List UserRow) : Thread → Prop
  | waiting {r : Registration} {username : Username} {email : Email} {past : List Exchange}
      {rest : Flow (Except ServiceError UserView)} (valid : r.Valid username email)
      (waiting : Waiting r username email past.length rest) :
      Stage rows₀ rows ⟨.register r, past, rest⟩
  | enrolled {r : Registration} {username : Username} {email : Email} {past : List Exchange}
      {view : UserView} {row : UserRow} (valid : r.Valid username email)
      (asked : Asked r username email view) (mem : row ∈ rows) (shown : Shown row view)
      (new : ∀ other ∈ rows₀, other.id ≠ row.id) :
      Stage rows₀ rows ⟨.register r, past, .done (.ok view)⟩
  | refused {r : Registration} {username : Username} {email : Email} {past : List Exchange}
      {e : ServiceError} (valid : r.Valid username email)
      (conflict : (Http.Response.ofError e).status = 409) :
      Stage rows₀ rows ⟨.register r, past, .done (.error e)⟩
  | invalid {r : Registration} {past : List Exchange} {e : ServiceError}
      (invalid : ∀ username email, ¬ r.Valid username email) :
      Stage rows₀ rows ⟨.register r, past, .done (.error e)⟩
  | deletion {caller : Caller} {past : List Exchange} {rest : Flow (Except ServiceError Unit)}
      (adds : rest.AddsNone) : Stage rows₀ rows ⟨.softDelete caller, past, rest⟩

section Stage

variable {rows₀ rows rows' : List UserRow} {t : Thread}

theorem stage_start {r : Request} (h : IsEnrolment r) : Stage rows₀ rows (Thread.start r) := by
  cases r with
  | register r =>
    by_cases hvalid : ∃ username email, r.Valid username email
    · obtain ⟨username, email, hvalid⟩ := hvalid
      refine .waiting hvalid ?_
      show Waiting r username email 0 (ExceptT.run (register r))
      rw [run_register_of_valid hvalid]
      exact .lookup
    · rcases run_register_cases r with hvalid' | ⟨e, hrun⟩
      · exact absurd hvalid' hvalid
      · have hthread : Thread.start (.register r) = ⟨.register r, [], .done (.error e)⟩ :=
          congrArg (Thread.mk (.register r) []) hrun
        rw [hthread]
        exact .invalid fun username email h => hvalid ⟨username, email, h⟩
  | softDelete caller => exact .deletion (addsNone_softDelete caller)
  | _ => exact h.elim

theorem Stage.mono (h : Stage rows₀ rows t) (hkept : Kept rows rows') : Stage rows₀ rows' t := by
  cases h with
  | waiting valid waiting => exact .waiting valid waiting
  | enrolled valid asked mem shown new =>
    obtain ⟨row', hmem, hid, husername, hemail⟩ := hkept _ mem
    exact .enrolled valid asked hmem
      ⟨hid.trans shown.id, husername.trans shown.username, hemail.trans shown.email⟩
      fun other hother => hid ▸ new other hother
  | refused valid conflict => exact .refused valid conflict
  | invalid invalid => exact .invalid invalid
  | deletion adds => exact .deletion adds

variable {db : Engine} {s s' : db.State} {r : Request} {past : List Exchange} {c : Call}
  {a : c.Answer} {next : c.Answer → Flow (Except ServiceError r.Result)}

/-- An account that is to be added has a normal e-mail address. -/
theorem Stage.normal (h : Stage rows₀ rows ⟨r, past, .call c next⟩) {n : NewUser}
    (hc : c = .insertUser n) : n.email.Normal := by
  subst hc
  cases h with
  | waiting valid waiting =>
    generalize past.length = k at waiting
    cases waiting with
    | insert => exact Email.normal_of_ofText valid.email
  | deletion adds => exact absurd rfl (adds.1 n)

theorem Stage.answer (hdb : db.Healthy) (hs : Sound (db.rows s)) (hkept : Kept rows₀ (db.rows s))
    (h : Stage rows₀ (db.rows s) ⟨r, past, .call c next⟩) (hserves : Serves db s c a s') :
    Stage rows₀ (db.rows s') ⟨r, past ++ [⟨c, a⟩], next a⟩ := by
  cases h with
  | waiting valid waiting =>
    rcases answer_cases hdb hs valid waiting hserves with ⟨hnext, -⟩ |
      ⟨row, view, hnext, hasked, hshown, -, hrows, hfresh, -⟩ | ⟨e, other, hnext, hconflict, -⟩
    · exact .waiting valid (by rwa [List.length_append])
    · rw [hnext]
      refine .enrolled valid hasked (hrows ▸ List.mem_append_right _ List.mem_cons_self) hshown ?_
      intro other hother
      obtain ⟨other', hmem, hid, -⟩ := hkept other hother
      exact hid ▸ hfresh other' hmem
    · rw [hnext]
      exact .refused valid hconflict
  | deletion adds => exact .deletion (adds.2 a)

end Stage

/-! ## All requests -/

section Run

variable {db : Engine} {rows₀ : List UserRow} {w w' : World db}

/-- **All that a step can do to one request**: nothing, or it comes in, or it gets an answer and no
other one does. -/
theorem step_thread (h : Step db w w') {j : Nat} {t' : Thread} (ht : w'.threads[j]? = some t') :
    w.threads[j]? = some t' ∨
    (∃ r, IsEnrolment r ∧ t' = Thread.start r) ∨
    (∃ r past c a next, w.threads[j]? = some ⟨r, past, .call c next⟩ ∧
      Serves db w.state c a w'.state ∧ t' = ⟨r, past ++ [⟨c, a⟩], next a⟩ ∧
      ∀ i, i ≠ j → w'.threads[i]? = w.threads[i]?) := by
  cases h with
  | @start s threads r hr =>
    by_cases hlt : j < threads.length
    · exact Or.inl ((List.getElem?_append_left hlt).symm.trans ht)
    · simp only [List.getElem?_append_right (Nat.le_of_not_lt hlt)] at ht
      obtain ⟨-, rfl⟩ := List.getElem?_eq_some_iff.mp ht
      exact Or.inr (Or.inl ⟨r, hr, by simp⟩)
  | @exchange s s' threads i r past c a next thread serves =>
    by_cases hij : i = j
    · subst hij
      obtain ⟨hlt, -⟩ := List.getElem?_eq_some_iff.mp thread
      simp only [List.getElem?_set_self hlt, Option.some.injEq] at ht
      exact Or.inr (Or.inr ⟨r, past, c, a, next, thread, serves, ht.symm,
        fun k hk => List.getElem?_set_ne (Ne.symm hk)⟩)
    · simp only [List.getElem?_set_ne hij] at ht
      exact Or.inl ht

/-- All that a step can do to the database: nothing, or it answers a request. -/
theorem step_state (h : Step db w w') :
    w'.state = w.state ∨ ∃ (j : Nat) (r : Request) (past : List Exchange) (c : Call)
      (a : c.Answer) (next : c.Answer → Flow (Except ServiceError r.Result)),
      w.threads[j]? = some ⟨r, past, .call c next⟩ ∧ Serves db w.state c a w'.state := by
  cases h with
  | start => exact Or.inl rfl
  | exchange thread serves => exact Or.inr ⟨_, _, _, _, _, _, thread, serves⟩

/-- What holds after any number of steps, from the rows `rows₀` on. -/
structure Invariant (rows₀ : List UserRow) (w : World db) : Prop where
  sound : Sound (db.rows w.state)
  kept : Kept rows₀ (db.rows w.state)
  stage : ∀ (j : Nat) (t : Thread), w.threads[j]? = some t → Stage rows₀ (db.rows w.state) t
  distinct : ∀ (i j : Nat) (t t' : Thread) (view view' : UserView), i ≠ j →
    w.threads[i]? = some t → w.threads[j]? = some t' → Enrolled t view → Enrolled t' view' →
    view.id ≠ view'.id

theorem step_kept (hdb : db.Healthy) (h : Step db w w') :
    Kept (db.rows w.state) (db.rows w'.state) := by
  rcases step_state h with hstate | ⟨_, _, _, _, _, _, -, hserves⟩
  · rw [hstate]
    exact Kept.refl _
  · exact hserves.kept hdb

theorem not_enrolled_start (r : Request) (view : UserView) : ¬ Enrolled (Thread.start r) view := by
  rintro ⟨r', past, hstart⟩
  obtain ⟨rfl, -, hrest⟩ := Thread.mk.inj hstart
  have hrun : ExceptT.run (register r') = .done (.ok view) := eq_of_heq hrest
  rcases run_register_cases r' with ⟨username, email, hvalid⟩ | ⟨e, he⟩
  · rw [run_register_of_valid hvalid] at hrun
    cases hrun
  · rw [he] at hrun
    cases hrun

theorem not_refused_start {r : Registration} {username : Username} {email : Email}
    (hvalid : r.Valid username email) (e : ServiceError) :
    ¬ Refused (Thread.start (.register r)) e := by
  intro h
  have hrun : ExceptT.run (register r) = .done (.error e) := h.rest_eq
  rw [run_register_of_valid hvalid] at hrun
  cases hrun

/-- What is known of a registration that has been answered with an account. -/
theorem Stage.of_enrolled {rows : List UserRow} {t : Thread} {view : UserView}
    (h : Stage rows₀ rows t) (ht : Enrolled t view) :
    ∃ r username email row, t.request = .register r ∧ r.Valid username email ∧
      Asked r username email view ∧ row ∈ rows ∧ Shown row view := by
  obtain ⟨r, past, rfl⟩ := ht
  cases h with
  | waiting valid waiting => exact absurd waiting (not_waiting_done _)
  | enrolled valid asked mem shown => exact ⟨r, _, _, _, rfl, valid, asked, mem, shown⟩

/-- **All that a step can do about accounts that have been promised.** A registration has been
answered with an account before, or the step has added just this account. -/
theorem step_enrolled (hdb : db.Healthy) (hw : Invariant rows₀ w) (h : Step db w w') {j : Nat}
    {t : Thread} {view : UserView} (ht : w'.threads[j]? = some t) (hview : Enrolled t view) :
    w.threads[j]? = some t ∨
    ∃ row, Shown row view ∧ row.Live ∧ db.rows w'.state = db.rows w.state ++ [row] ∧
      (∀ other ∈ db.rows w.state, other.id ≠ row.id) ∧
      ∀ i, i ≠ j → w'.threads[i]? = w.threads[i]? := by
  rcases step_thread h ht with hold | ⟨r, -, rfl⟩ |
    ⟨r, past, c, a, next, hthread, hserves, rfl, hothers⟩
  · exact Or.inl hold
  · exact absurd hview (not_enrolled_start r view)
  · obtain ⟨r', past', heq⟩ := hview
    obtain ⟨rfl, -, hnext⟩ := Thread.mk.inj heq
    have hnext : next a = .done (.ok view) := eq_of_heq hnext
    have hstage := hw.stage j _ hthread
    cases hstage with
    | waiting valid waiting =>
      rcases answer_cases hdb hw.sound valid waiting hserves with ⟨hwaits, -⟩ |
        ⟨row, view', hdone, -, hshown, hlive, hrows, hfresh, -⟩ | ⟨e, other, hdone, -⟩
      · rw [hnext] at hwaits
        exact absurd hwaits (not_waiting_done _)
      · rw [hnext] at hdone
        obtain rfl : view = view' := by simpa using hdone
        exact Or.inr ⟨row, hshown, hlive, hrows, hfresh, hothers⟩
      · rw [hnext] at hdone
        cases hdone

theorem Invariant.step (hdb : db.Healthy) (hw : Invariant rows₀ w) (h : Step db w w') :
    Invariant rows₀ w' where
  sound := by
    rcases step_state h with hstate | ⟨j, r, past, c, a, next, hthread, hserves⟩
    · rw [hstate]
      exact hw.sound
    · exact hserves.sound hdb (fun n hc => (hw.stage j _ hthread).normal hc) hw.sound
  kept := hw.kept.trans (step_kept hdb h)
  stage := fun j t ht => by
    rcases step_thread h ht with ht | ⟨r, hr, rfl⟩ | ⟨r, past, c, a, next, hthread, hserves, rfl, -⟩
    · exact (hw.stage j t ht).mono (step_kept hdb h)
    · exact stage_start hr
    · exact (hw.stage j _ hthread).answer hdb hw.sound hw.kept hserves
  distinct := by
    intro i j t t' view view' hij ht ht' hview hview'
    rcases step_enrolled hdb hw h ht hview with hold | ⟨row, hshown, -, -, hfresh, hothers⟩
    · rcases step_enrolled hdb hw h ht' hview' with hold' | ⟨row', hshown', -, -, hfresh', hothers'⟩
      · exact hw.distinct i j t t' view view' hij hold hold' hview hview'
      · obtain ⟨-, -, -, row, -, -, -, hmem, hshown⟩ := (hw.stage i t hold).of_enrolled hview
        have hne := hfresh' row hmem
        rw [hshown.id, hshown'.id] at hne
        exact fun heq => hne (congrArg _ heq)
    · have hold' := (hothers j hij.symm).symm.trans ht'
      obtain ⟨-, -, -, row', -, -, -, hmem, hshown'⟩ := (hw.stage j t' hold').of_enrolled hview'
      have hne := hfresh row' hmem
      rw [hshown'.id, hshown.id] at hne
      exact fun heq => hne (congrArg _ heq.symm)

theorem not_waits_done (r : Request) (past : List Exchange)
    (result : Except ServiceError r.Result) : ¬ Waits ⟨r, past, .done result⟩ := by
  rintro ⟨r', past', c, next, heq⟩
  obtain ⟨rfl, -, hrest⟩ := Thread.mk.inj heq
  cases eq_of_heq hrest

theorem Enrolled.not_waits {t : Thread} {view : UserView} (h : Enrolled t view) : ¬ Waits t := by
  obtain ⟨r, past, rfl⟩ := h
  exact not_waits_done (.register r) past (.ok view)

/-- A request that waits for nothing stays as it is. -/
theorem step_keeps (h : Step db w w') {j : Nat} {t : Thread} (ht : w.threads[j]? = some t)
    (hdone : ¬ Waits t) : w'.threads[j]? = some t := by
  cases h with
  | start hr =>
    obtain ⟨hlt, -⟩ := List.getElem?_eq_some_iff.mp ht
    exact (List.getElem?_append_left hlt).trans ht
  | @exchange s s' threads i r past c a next thread serves =>
    by_cases hij : i = j
    · subst hij
      obtain rfl := Option.some.inj (thread.symm.trans ht)
      exact absurd ⟨r, past, c, next, rfl⟩ hdone
    · exact (List.getElem?_set_ne hij).trans ht

/-- A request stays what it is. -/
theorem step_request (h : Step db w w') {j : Nat} {t : Thread} (ht : w.threads[j]? = some t) :
    ∃ t', w'.threads[j]? = some t' ∧ t'.request = t.request := by
  cases h with
  | start hr =>
    obtain ⟨hlt, -⟩ := List.getElem?_eq_some_iff.mp ht
    exact ⟨t, (List.getElem?_append_left hlt).trans ht, rfl⟩
  | @exchange s s' threads i r past c a next thread serves =>
    by_cases hij : i = j
    · subst hij
      obtain ⟨hlt, -⟩ := List.getElem?_eq_some_iff.mp ht
      obtain rfl := Option.some.inj (thread.symm.trans ht)
      exact ⟨_, List.getElem?_set_self hlt, rfl⟩
    · exact ⟨t, (List.getElem?_set_ne hij).trans ht, rfl⟩

/-- All that a step can do to the rows: nothing, or it adds the account that a registration is
answered with, or a deletion marks some of them. -/
theorem step_rows (hdb : db.Healthy) (hw : Invariant rows₀ w) (h : Step db w w') :
    db.rows w'.state = db.rows w.state ∨
    (∃ (j : Nat) (t : Thread) (view : UserView) (row : UserRow), w'.threads[j]? = some t ∧
      Enrolled t view ∧ Shown row view ∧ db.rows w'.state = db.rows w.state ++ [row]) ∨
    (∃ (j : Nat) (t : Thread) (caller : Caller) (id : Int) (time : Instant),
      w'.threads[j]? = some t ∧ t.request = .softDelete caller ∧
      db.rows w'.state = (db.rows w.state).map (·.marked id time)) := by
  cases h with
  | start hr => exact Or.inl rfl
  | @exchange s s' threads j r past c a next thread serves =>
    obtain ⟨hlt, -⟩ := List.getElem?_eq_some_iff.mp thread
    have hself : (threads.set j ⟨r, past ++ [⟨c, a⟩], next a⟩)[j]? =
        some ⟨r, past ++ [⟨c, a⟩], next a⟩ := List.getElem?_set_self hlt
    cases hw.stage j _ thread with
    | waiting valid waiting =>
      rcases answer_cases hdb hw.sound valid waiting serves with ⟨-, hrows⟩ |
        ⟨row, view, hdone, -, hshown, -, hrows, -⟩ | ⟨e, other, -, -, hrows, -⟩
      · exact Or.inl hrows
      · exact Or.inr (Or.inl ⟨j, _, view, row, hself, ⟨_, _, congrArg (Thread.mk _ _) hdone⟩,
          hshown, hrows⟩)
      · exact Or.inl hrows
    | @deletion caller past rest adds =>
      cases serves with
      | findByUsername h => exact Or.inl (hdb.find h).2
      | insertUser h => exact absurd rfl (adds.1 _)
      | softDelete hrequest h =>
        obtain ⟨time, hrows⟩ := (hdb.softDelete hrequest h).rows_eq
        exact Or.inr (Or.inr ⟨j, _, caller, _, time, hself, rfl, hrows⟩)
      | _ => exact Or.inl rfl

/-- Where a registration with valid input is refused, a live row has its username or its e-mail
address. -/
theorem Invariant.taken_of_error (hdb : db.Healthy) (hw : Invariant rows₀ w) {r : Registration}
    {username : Username} {email : Email} (hvalid : r.Valid username email) {j : Nat}
    {past : List Exchange} {c : Call} {a : c.Answer} {s' : db.State} {e : ServiceError}
    {next : c.Answer → Flow (Except ServiceError UserView)}
    (ht : w.threads[j]? = some ⟨.register r, past, .call c next⟩)
    (hserves : Serves db w.state c a s') (hnext : next a = .done (.error e)) :
    ∃ other ∈ db.rows w.state, other.Live ∧
      (other.username = username.text ∨ other.email = email.text) := by
  cases hw.stage j _ ht with
  | waiting valid waiting =>
    obtain ⟨rfl, rfl⟩ := valid.unique hvalid
    rcases answer_cases hdb hw.sound valid waiting hserves with ⟨hwaits, -⟩ |
      ⟨row, view, hdone, -⟩ | ⟨e', other, -, -, -, hother⟩
    · rw [hnext] at hwaits
      exact absurd hwaits (not_waiting_done _)
    · rw [hnext] at hdone
      cases hdone
    · exact ⟨other, hother⟩

theorem Invariant.run (hdb : db.Healthy) {s₀ : db.State} (hstart : Sound (db.rows s₀))
    (h : Run db ⟨s₀, []⟩ w) : Invariant (db.rows s₀) w := by
  induction h with
  | refl =>
    exact ⟨hstart, Kept.refl _, fun j t ht => by simp at ht, fun i j t t' _ _ _ ht => by simp at ht⟩
  | tail _ hstep ih => exact ih.step hdb hstep

end Run

end Enrolment

end SessionAuth
