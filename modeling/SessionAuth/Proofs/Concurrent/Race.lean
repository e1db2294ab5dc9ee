import SessionAuth.Proofs.Concurrent.Enrolment

/-!
# Registrations that race

Whether two accounts stay apart while registrations race rests on the indexes of the database, since
several registrations may have found one username free. What a registration is answered rests on
the indexes and on its own look at the username.

* `exists_run_to_insert`: a registration that finds its username free can wait to add its account.
* `Accounted`: where live rows come from, and why registrations are refused.
* `one_enrolled`: of those that want one free username, exactly one gets it.
* `apart_of_run`: what holds after any run.
-/

namespace SessionAuth

open Database (Engine Sound Kept)

namespace Enrolment

open Service Concurrent

/-! ## A race -/

section Race

variable {db : Engine} {w : World db} {s s' : db.State} {threads : List Thread} {i : Nat}

theorem Run.exchange {r : Request} {past : List Exchange} {c : Call} {a : c.Answer}
    {next : c.Answer → Flow (Except ServiceError r.Result)} (hlt : i < threads.length)
    (h : Run db w ⟨s, threads.set i ⟨r, past, .call c next⟩⟩) (hserves : Serves db s c a s') :
    Run db w ⟨s', threads.set i ⟨r, past ++ [⟨c, a⟩], next a⟩⟩ := by
  have hget : (threads.set i (⟨r, past, .call c next⟩ : Thread))[i]? =
      some ⟨r, past, .call c next⟩ := List.getElem?_set_self hlt
  have hstep := Step.exchange hget hserves
  rw [List.set_set] at hstep
  exact h.tail hstep

/-- As long as no account has its username, a registration can come as far as adding its own. -/
theorem exists_run_to_insert {r : Registration} {username : Username} {email : Email}
    (hvalid : r.Valid username email) {affected : Nat}
    (hfree : db.Answers s (UserRepository.findByUsername username).query
      (.ok ⟨none, affected⟩) s) (hash : PasswordHash) (now : Instant)
    (h : Run db w ⟨s, threads⟩) (ht : threads[i]? = some (Thread.start (.register r))) :
    ∃ past, Run db w ⟨s, threads.set i ⟨.register r, past,
      .call (.insertUser (NewUser.make username r.name email hash now)) afterInsert⟩⟩ := by
  obtain ⟨hlt, hget⟩ := List.getElem?_eq_some_iff.mp ht
  have hstart : Run db w ⟨s, threads.set i ⟨.register r, [], ExceptT.run (register r)⟩⟩ := by
    change threads[i] = ⟨.register r, [], ExceptT.run (register r)⟩ at hget
    rwa [← hget, List.set_getElem_self hlt]
  rw [run_register_of_valid hvalid] at hstart
  have hfound := Run.exchange hlt hstart (.findByUsername hfree)
  have hhashed := Run.exchange hlt hfound (.hashPassword hash.nonempty)
  rw [afterHash_ok r username email hash] at hhashed
  exact ⟨_, Run.exchange hlt hhashed (.readClock now)⟩

end Race

/-- A registration for a username that is wanted by others as well. -/
def rival (email : String) : Registration := ⟨" bobby ", "Bob", email, "hunter22"⟩

theorem long_bobby : 3 ≤ "bobby".utf8ByteSize := by decide

theorem noBlank_bobby : "bobby".toList.any Text.isBlank = false := by decide

def bobby : Username := ⟨"bobby", long_bobby, noBlank_bobby⟩

theorem valid_rival_bob : (rival "bob@example.com").Valid bobby ⟨"bob@example.com", by decide⟩ :=
  ⟨by decide +kernel, by decide +kernel, by decide, by decide⟩

theorem valid_rival_rob : (rival "ROB@example.com").Valid bobby ⟨"rob@example.com", by decide⟩ :=
  ⟨by decide +kernel, by decide +kernel, by decide, by decide⟩

/-- The row of the registration that adds its account first. -/
def bobbyRow : UserRow :=
  ⟨1, "bobby", "Bob", "rob@example.com", "plain$hunter22", "user", ⟨0, 0⟩, ⟨0, 0⟩, none⟩

/-- Both look the username up before either adds its account, and the one that has come in last is
the first to add it. -/
theorem exists_race : ∃ past past' view, Run Database.ledger ⟨[], []⟩ ⟨[bobbyRow],
    [⟨.register (rival "bob@example.com"), past,
      .done (.error (.domain (.conflict "username already exists")))⟩,
    ⟨.register (rival "ROB@example.com"), past', .done (.ok view)⟩]⟩ := by
  let hash : PasswordHash := ⟨"plain$hunter22", by decide⟩
  have hregisters (email : String) : IsEnrolment (.register (rival email)) := trivial
  have hstarted : Run Database.ledger ⟨[], []⟩
      ⟨[], [Thread.start (.register (rival "bob@example.com")),
        Thread.start (.register (rival "ROB@example.com"))]⟩ :=
    (Relation.ReflTransGen.single (.start (hregisters _))).tail (.start (hregisters _))
  have hfree : Database.ledger.Answers [] (UserRepository.findByUsername bobby).query
      (.ok ⟨none, 0⟩) [] := rfl
  obtain ⟨past, hfirst⟩ :=
    exists_run_to_insert (i := 0) valid_rival_bob hfree hash ⟨0, 0⟩ hstarted rfl
  obtain ⟨past', hboth⟩ :=
    exists_run_to_insert (i := 1) valid_rival_rob hfree hash ⟨0, 0⟩ hfirst rfl
  have hname : Text.trim "Bob" = "Bob" := by decide
  have hadded : Database.ledger.Answers [] (UserRepository.insert (NewUser.make bobby "Bob"
      ⟨"rob@example.com", by decide⟩ hash ⟨0, 0⟩)).query (.ok ⟨some bobbyRow.raw, 1⟩)
      [bobbyRow] := by
    rw [NewUser.make, hname]
    rfl
  have hrefused : Database.ledger.Answers [bobbyRow] (UserRepository.insert (NewUser.make bobby
      "Bob" ⟨"bob@example.com", by decide⟩ hash ⟨0, 0⟩)).query
      (Database.Ledger.duplicate "users_username_key") [bobbyRow] := by
    show Database.Ledger.add _ _ = _
    exact if_pos ⟨bobbyRow, List.mem_singleton_self _, rfl, rfl⟩
  have hfaster := hboth.tail (.exchange (i := 1) rfl (.insertUser hadded))
  have hslower := hfaster.tail (.exchange (i := 0) rfl (.insertUser hrefused))
  exact ⟨_, _, _, hslower⟩

section Run

variable {db : Engine} {rows₀ : List UserRow} {w w' : World db}

/-! ## Who has which name -/

/-- Some registration so far has been answered with an account of this kind. -/
def Promised (w : World db) (p : UserView → Prop) : Prop :=
  ∃ (j : Nat) (t : Thread) (view : UserView), w.threads[j]? = some t ∧ Enrolled t view ∧ p view

theorem Promised.step {p : UserView → Prop} (h : Promised w p) (hstep : Step db w w') :
    Promised w' p := by
  obtain ⟨j, t, view, ht, hview, hp⟩ := h
  exact ⟨j, t, view, step_keeps hstep ht hview.not_waits, hview, hp⟩

/-- Where live rows come from and why registrations are refused, from the rows `rows₀` on: a live
row has been live at the beginning or is that of an account that was promised; a registration is
refused because such a row has its username or its e-mail address; and the row of an account that
was promised is live unless something has been asked to be deleted. -/
structure Accounted (rows₀ : List UserRow) (w : World db) : Prop where
  origin : ∀ row ∈ db.rows w.state, row.Live →
    (∃ row₀ ∈ rows₀, row₀.Live ∧ row₀.username = row.username ∧ row₀.email = row.email) ∨
      Promised w (Shown row)
  blame : ∀ (j : Nat) (t : Thread) (e : ServiceError) (r : Registration) (username : Username)
    (email : Email), w.threads[j]? = some t → Refused t e → t.request = .register r →
    r.Valid username email →
    (∃ row₀ ∈ rows₀, row₀.Live ∧ (row₀.username = username.text ∨ row₀.email = email.text)) ∨
      Promised w fun view => view.username = username.text ∨ view.email = email.text
  live : ∀ (j : Nat) (t : Thread) (view : UserView), w.threads[j]? = some t → Enrolled t view →
    (∃ row ∈ db.rows w.state, row.Live ∧ Shown row view) ∨
      ∃ (i : Nat) (t : Thread) (caller : Caller), w.threads[i]? = some t ∧
        t.request = .softDelete caller

theorem Accounted.step (hdb : db.Healthy) (hw : Invariant rows₀ w) (ha : Accounted rows₀ w)
    (h : Step db w w') : Accounted rows₀ w' where
  origin := by
    intro row hrow hlive
    rcases step_rows hdb hw h with hrows | ⟨j, t, view, new, ht, hview, hshown, hrows⟩ |
      ⟨j, t, caller, key, time, -, -, hrows⟩
    · rw [hrows] at hrow
      exact (ha.origin row hrow hlive).imp id (·.step h)
    · rw [hrows] at hrow
      rcases List.mem_append.mp hrow with hrow | hrow
      · exact (ha.origin row hrow hlive).imp id (·.step h)
      · obtain rfl := List.mem_singleton.mp hrow
        exact Or.inr ⟨j, t, view, ht, hview, hshown⟩
    · rw [hrows] at hrow
      obtain ⟨before, hbefore, rfl⟩ := List.mem_map.mp hrow
      have hsame := before.marked_of_live key time hlive
      rw [hsame] at hlive ⊢
      exact (ha.origin before hbefore hlive).imp id (·.step h)
  blame := by
    intro j t e r username email ht hrefused hrequest hvalid
    rcases step_thread h ht with hold | ⟨r', -, rfl⟩ |
      ⟨r', past, c, a, next, hthread, hserves, rfl, -⟩
    · exact (ha.blame j t e r username email hold hrefused hrequest hvalid).imp id (·.step h)
    · obtain rfl : r' = .register r := hrequest
      exact absurd hrefused (not_refused_start hvalid e)
    · obtain rfl : r' = .register r := hrequest
      have hnext : next a = .done (.error e) := hrefused.rest_eq
      obtain ⟨other, hother, hlive, htaken⟩ := hw.taken_of_error hdb hvalid hthread hserves hnext
      rcases ha.origin other hother hlive with ⟨row₀, hrow₀, hlive₀, husername, hemail⟩ | hpromised
      · rw [← husername, ← hemail] at htaken
        exact Or.inl ⟨row₀, hrow₀, hlive₀, htaken⟩
      · obtain ⟨i, t, view, ht, hview, hshown⟩ := hpromised.step h
        rw [hshown.username, hshown.email] at htaken
        exact Or.inr ⟨i, t, view, ht, hview, htaken⟩
  live := by
    intro j t view ht hview
    rcases step_enrolled hdb hw h ht hview with hold | ⟨row, hshown, hlive, hrows, -⟩
    · rcases ha.live j t view hold hview with ⟨row, hrow, hlive, hshown⟩ |
        ⟨i, t', caller, ht', hrequest⟩
      · rcases step_rows hdb hw h with hrows | ⟨_, _, _, new, -, -, -, hrows⟩ |
          ⟨i, t', caller, key, time, ht', hrequest, hrows⟩
        · exact Or.inl ⟨row, hrows ▸ hrow, hlive, hshown⟩
        · exact Or.inl ⟨row, hrows ▸ List.mem_append_left _ hrow, hlive, hshown⟩
        · exact Or.inr ⟨i, t', caller, ht', hrequest⟩
      · obtain ⟨t'', ht'', hsame⟩ := step_request h ht'
        exact Or.inr ⟨i, t'', caller, ht'', hsame.trans hrequest⟩
    · exact Or.inl ⟨row, hrows ▸ List.mem_append_right _ List.mem_cons_self, hlive, hshown⟩

theorem Accounted.run (hdb : db.Healthy) {s₀ : db.State} (hstart : Sound (db.rows s₀))
    (h : Run db ⟨s₀, []⟩ w) : Accounted (db.rows s₀) w := by
  induction h with
  | refl =>
    exact ⟨fun row hrow hlive => Or.inl ⟨row, hrow, hlive, rfl, rfl⟩,
      fun j t e r username email ht => by simp at ht, fun j t view ht => by simp at ht⟩
  | tail hrun hstep ih => exact ih.step hdb (Invariant.run hdb hstart hrun) hstep

/-! ## The outcome -/

/-- A registration of a race for a username: its input is valid, and no live row has its e-mail
address at the beginning. -/
def Competes (rows₀ : List UserRow) (username : Username) (t : Thread) : Prop :=
  ∃ r email, t.request = .register r ∧ r.Valid username email ∧
    ∀ row ∈ rows₀, row.Live → row.email ≠ email.text

/-- **What a registration with valid input comes to**: an account under an id that no row had at the
beginning, or a conflict. Until then it waits, and for no more than four answers. -/
theorem Stage.outcome {rows : List UserRow} {t : Thread} (h : Stage rows₀ rows t) {r : Registration}
    {username : Username} {email : Email} (hrequest : t.request = .register r)
    (hvalid : r.Valid username email) :
    (∃ view row, Enrolled t view ∧ Asked r username email view ∧ row ∈ rows ∧ Shown row view ∧
      ∀ other ∈ rows₀, other.id ≠ view.id) ∨
    (∃ e, Refused t e ∧ (Http.Response.ofError e).status = 409) ∨
    (Waits t ∧ t.past.length < 4) := by
  cases h with
  | waiting valid waiting => exact Or.inr (Or.inr ⟨waits_of_waiting waiting, waiting.lt_four⟩)
  | enrolled valid asked mem shown new =>
    obtain rfl := Request.register.inj hrequest
    obtain ⟨rfl, rfl⟩ := valid.unique hvalid
    exact Or.inl ⟨_, _, ⟨_, _, rfl⟩, asked, mem, shown,
      fun other hother => shown.id ▸ new other hother⟩
  | refused valid conflict => exact Or.inr (Or.inl ⟨_, ⟨_, _, rfl⟩, conflict⟩)
  | invalid invalid =>
    obtain rfl := Request.register.inj hrequest
    exact absurd hvalid (invalid username email)
  | deletion adds => cases hrequest

/-- Where nothing is asked but registrations for one free username with free e-mail addresses, an
account has been promised as soon as one of them is refused. -/
theorem Accounted.promised_of_refused (ha : Accounted rows₀ w) {username : Username}
    (hfree : ∀ row ∈ rows₀, row.Live → row.username ≠ username.text) {j : Nat} {t : Thread}
    {e : ServiceError} (ht : w.threads[j]? = some t) (hrefused : Refused t e)
    (hcompetes : Competes rows₀ username t) : ∃ p, Promised w p := by
  obtain ⟨r, email, hrequest, hvalid, hemail⟩ := hcompetes
  rcases ha.blame j t e r username email ht hrefused hrequest hvalid with
    ⟨row, hrow, hlive, husername | hsame⟩ | hpromised
  · exact absurd husername (hfree row hrow hlive)
  · exact absurd hsame (hemail row hrow hlive)
  · exact ⟨_, hpromised⟩

/-- The account of a registration that competes has the username in question. -/
theorem Invariant.username_of_competes (hw : Invariant rows₀ w) {username : Username} {j : Nat}
    {t : Thread} {view : UserView} (ht : w.threads[j]? = some t) (hview : Enrolled t view)
    (hcompetes : Competes rows₀ username t) : view.username = username.text := by
  obtain ⟨r, email, hrequest, hvalid, -⟩ := hcompetes
  obtain ⟨r', username', email', row, hrequest', hvalid', hasked, -⟩ :=
    (hw.stage j t ht).of_enrolled hview
  obtain rfl := Request.register.inj (hrequest.symm.trans hrequest')
  obtain ⟨rfl, -⟩ := hvalid.unique hvalid'
  exact hasked.username

/-- **Exactly one of those that compete succeeds**, once all of them have been answered. -/
theorem one_enrolled (hw : Invariant rows₀ w) (ha : Accounted rows₀ w) {username : Username}
    (hfree : ∀ row ∈ rows₀, row.Live → row.username ≠ username.text) (hsome : w.threads ≠ [])
    (hall : ∀ t ∈ w.threads, Competes rows₀ username t ∧ ¬ Waits t) :
    ∃! j : Nat, ∃ (t : Thread) (view : UserView), w.threads[j]? = some t ∧ Enrolled t view := by
  have hat {j : Nat} {t : Thread} (ht : w.threads[j]? = some t) :
      Competes rows₀ username t ∧ ¬ Waits t := hall t (List.mem_of_getElem? ht)
  have hpromised : ∃ p, Promised w p := by
    obtain ⟨t, ht⟩ : ∃ t, w.threads[0]? = some t :=
      ⟨_, List.getElem?_eq_getElem (List.length_pos_iff.mpr hsome)⟩
    obtain ⟨hcompetes, hdone⟩ := hat ht
    have hcompetes' := hcompetes
    obtain ⟨r, email, hrequest, hvalid, -⟩ := hcompetes'
    rcases (hw.stage 0 t ht).outcome hrequest hvalid with ⟨view, row, hview, -⟩ |
      ⟨e, hrefused, -⟩ | ⟨hwaits, -⟩
    · exact ⟨fun _ => True, 0, t, view, ht, hview, trivial⟩
    · exact ha.promised_of_refused hfree ht hrefused hcompetes
    · exact absurd hwaits hdone
  obtain ⟨p, j, t, view, ht, hview, -⟩ := hpromised
  -- Nobody deletes anything, so the row of every account that was promised is live.
  have hlive {i : Nat} {t : Thread} {view : UserView} (ht : w.threads[i]? = some t)
      (hview : Enrolled t view) : ∃ row ∈ db.rows w.state, row.Live ∧ Shown row view := by
    rcases ha.live i t view ht hview with hrow | ⟨k, t', caller, ht', hdelete⟩
    · exact hrow
    · obtain ⟨⟨r, email, hregister, -⟩, -⟩ := hat ht'
      rw [hdelete] at hregister
      cases hregister
  refine ⟨j, ⟨t, view, ht, hview⟩, ?_⟩
  rintro i ⟨t', view', ht', hview'⟩
  by_contra hij
  obtain ⟨row, hrow, hrowlive, hshown⟩ := hlive ht hview
  obtain ⟨row', hrow', hrowlive', hshown'⟩ := hlive ht' hview'
  have hsame : row'.username = row.username := by
    rw [hshown.username, hshown'.username, hw.username_of_competes ht hview (hat ht).1,
      hw.username_of_competes ht' hview' (hat ht').1]
  obtain rfl := hw.sound.eq_of_username hrow' hrow hrowlive' hrowlive hsame
  exact hw.distinct i j t' t view' view hij ht' ht hview' hview
    (Int.ofNat_inj.mp (hshown'.id.symm.trans hshown.id))

/-- **The accounts stay apart while registrations race.** From rows that are apart and can be read,
with any database that enforces both indexes, after any number of steps of any registrations and
deletions: no two live rows have the same username or the same e-mail address. A registration with
valid input has come to an account under a new id or to a conflict, or waits for one of its four
answers. No two accounts have the same id. And where nothing has been asked but registrations for
one free username with free e-mail addresses, and all have been answered, exactly one has come to an
account. -/
theorem apart_of_run (hdb : db.Healthy) {s₀ : db.State} (hstart : Sound (db.rows s₀))
    (h : Run db ⟨s₀, []⟩ w) :
    (db.rows w.state).Pairwise UserRow.Apart ∧
    (∀ (j : Nat) (t : Thread) (r : Registration) (username : Username) (email : Email),
      w.threads[j]? = some t → t.request = .register r → r.Valid username email →
      (∃ view row, Enrolled t view ∧ Asked r username email view ∧ row ∈ db.rows w.state ∧
        Shown row view ∧ ∀ other ∈ db.rows s₀, other.id ≠ view.id) ∨
      (∃ e, Refused t e ∧ (Http.Response.ofError e).status = 409) ∨
      (Waits t ∧ t.past.length < 4)) ∧
    (∀ (i j : Nat) (t t' : Thread) (view view' : UserView), i ≠ j → w.threads[i]? = some t →
      w.threads[j]? = some t' → Enrolled t view → Enrolled t' view' → view.id ≠ view'.id) ∧
    (∀ username : Username, (∀ row ∈ db.rows s₀, row.Live → row.username ≠ username.text) →
      w.threads ≠ [] → (∀ t ∈ w.threads, Competes (db.rows s₀) username t ∧ ¬ Waits t) →
      ∃! j : Nat, ∃ (t : Thread) (view : UserView),
        w.threads[j]? = some t ∧ Enrolled t view) := by
  have hw := Invariant.run hdb hstart h
  have ha := Accounted.run hdb hstart h
  refine ⟨hw.sound.apart, ?_, hw.distinct, ?_⟩
  · intro j t r username email ht hrequest hvalid
    exact (hw.stage j t ht).outcome hrequest hvalid
  · intro username hfree hsome hall
    exact one_enrolled hw ha hfree hsome hall

/-- Two registrations race for a username, and one of them succeeds. -/
theorem one_of_two_rivals : ∃ w : World Database.ledger, Database.ledger.Healthy ∧
    Sound (Database.ledger.rows []) ∧ Run Database.ledger ⟨[], []⟩ w ∧
    (∀ row ∈ Database.ledger.rows [], row.Live → row.username ≠ bobby.text) ∧ w.threads ≠ [] ∧
    (∀ t ∈ w.threads, Competes (Database.ledger.rows []) bobby t ∧ ¬ Waits t) ∧
    ∃! j : Nat, ∃ (t : Thread) (view : UserView), w.threads[j]? = some t ∧ Enrolled t view := by
  obtain ⟨past, past', view, hrun⟩ := exists_race
  have hstart : Sound (Database.ledger.rows []) :=
    ⟨List.Pairwise.nil, fun row hrow => absurd hrow List.not_mem_nil⟩
  have hfree : ∀ row ∈ Database.ledger.rows [], row.Live → row.username ≠ bobby.text :=
    fun row hrow => absurd hrow List.not_mem_nil
  have hcompetes {r : Registration} {email : Email} (hvalid : r.Valid bobby email)
      (past : List Exchange) (result : Except ServiceError UserView) :
      Competes (Database.ledger.rows []) bobby ⟨.register r, past, .done result⟩ ∧
        ¬ Waits ⟨.register r, past, .done result⟩ :=
    ⟨⟨r, email, rfl, hvalid, fun row hrow => absurd hrow List.not_mem_nil⟩,
      not_waits_done (.register r) past result⟩
  obtain ⟨-, -, -, hrace⟩ := apart_of_run Database.healthy_ledger hstart hrun
  have hbob := hcompetes valid_rival_bob past
    (.error (.domain (.conflict "username already exists")))
  have hrob := hcompetes valid_rival_rob past' (.ok view)
  have hall : ∀ t ∈ _, Competes (Database.ledger.rows []) bobby t ∧ ¬ Waits t :=
    List.forall_mem_cons.mpr ⟨hbob, List.forall_mem_singleton.mpr hrob⟩
  exact ⟨_, Database.healthy_ledger, hstart, hrun, hfree, List.cons_ne_nil _ _, hall,
    hrace bobby hfree (List.cons_ne_nil _ _) hall⟩

end Run

end Enrolment

end SessionAuth
