import SessionAuth.Proofs.Session.History
import SessionAuth.Session.Cached

/-!
# A cache server in place of the store in memory

Sessions are kept in memory or on a cache server. The one store counts nanoseconds and forgets a
token when it is asked for it, the other is told a number of milliseconds and forgets by itself.
Whoever uses them cannot tell which of the two it is.

* `Cache.Command.Acceptable`: a server does what it is told; `Cache.Server.exists_reply_iff`.
* `Cache.Server.read?_drop`, `Cache.Server.read?_set`: what a server holds after a command.
* `SessionStore.Answer`, `SessionStore.Clocked.answers`, `CachedSessions.Clocked.answers`: what a
  user of either store gets to see.
* `Mirrors`: the server holds what the store holds; `Mirrors.use` is the step and
  `Mirrors.answers_prefixOf` the run.
* `answers_alike`: the main statement.
-/

namespace SessionAuth

/-! ## What a server holds -/

namespace Cache

/-- The command states no lifetime but one that a server accepts. -/
def Command.Acceptable : Command → Prop
  | .set _ _ millis => 1 ≤ millis ∧ (millis : Int) ≤ maxInt64
  | .get _ | .delete _ => True

instance : DecidablePred Command.Acceptable
  | .set _ _ millis => inferInstanceAs (Decidable (1 ≤ millis ∧ (millis : Int) ≤ maxInt64))
  | .get _ | .delete _ => inferInstanceAs (Decidable True)

namespace Server

theorem acceptsMillis_iff {n : Nat} : acceptsMillis n = true ↔ 1 ≤ n ∧ (n : Int) ≤ maxInt64 := by
  simp only [acceptsMillis, Bool.and_eq_true, decide_eq_true_eq]
  unfold maxInt64
  omega

section Run

variable (s : Server) (now t : Nat) (key other token : String)

/-- **A server replies to just those commands that are acceptable.** -/
theorem exists_reply_iff (c : Command) : (∃ r, (s.run now c).1 = .reply r) ↔ c.Acceptable := by
  cases c with
  | set key token millis =>
    rw [run, Command.Acceptable, ← acceptsMillis_iff]
    split
    · rename_i haccepts
      exact ⟨fun _ => haccepts, fun _ => ⟨_, rfl⟩⟩
    · rename_i hrefuses
      refine ⟨?_, fun h => absurd h hrefuses⟩
      rintro ⟨r, hr⟩
      exact absurd hr (by simp)
  | get key =>
    rw [run]
    split
    · exact ⟨fun _ => trivial, fun _ => ⟨_, rfl⟩⟩
    · exact ⟨fun _ => trivial, fun _ => ⟨_, rfl⟩⟩
  | delete key => exact ⟨fun _ => trivial, fun _ => ⟨_, rfl⟩⟩

theorem read?_drop :
    (s.drop key).read? t other = if other = key then none else s.read? t other := by
  rw [read?, drop, List.find?_filter]
  split
  · rename_i h
    subst h
    refine Option.map_eq_none_iff.mpr (List.find?_eq_none.mpr fun i _ => ?_)
    by_cases hi : i.key = other <;> simp [hi]
  · rename_i h
    rw [read?]
    congr 2
    funext i
    by_cases hi : i.key = other
    · simp [hi, h]
    · simp [hi]

/-- What was put under a key is there until its time is over. -/
theorem read?_set {millis : Nat} (h : (Command.set key token millis).Acceptable) :
    (s.run now (.set key token millis)).2.read? t other =
      if other = key then (if t < now + millis * perMilli then some token else none)
      else s.read? t other := by
  have hrun : (s.run now (.set key token millis)).2 =
      ⟨⟨key, token, now + millis * perMilli⟩ :: (s.drop key).items⟩ := by
    rw [run, if_pos (acceptsMillis_iff.mpr h)]
  have hdrop := s.read?_drop t key other
  rw [hrun, read?, List.find?_cons]
  split
  · rename_i hfirst
    obtain ⟨hkey, hlt⟩ : key = other ∧ t < now + millis * perMilli := by simpa using hfirst
    rw [if_pos hkey.symm, if_pos hlt]
    rfl
  · rename_i hfirst
    rw [← read?, hdrop]
    by_cases hkey : other = key
    · have hover : ¬ t < now + millis * perMilli := by
        intro hlt
        simp [hkey, hlt] at hfirst
      rw [if_pos hkey, if_pos hkey, if_neg hover]
    · rw [if_neg hkey, if_neg hkey]

end Run

end Server

end Cache

namespace SessionStore

/-! ## What a user gets to see -/

/-- The answer to a use. -/
inductive Answer where
  | saved (r : Except ServiceError Unit)
  | found (r : Except ServiceError (Option Session))
  | deleted (r : Except ServiceError Unit)
  /-- Time has passed and nobody has asked for anything. -/
  | waited

/-- The answer of the store in memory, which never reports an error. -/
def Clocked.answer (c : Clocked) : Use → Answer
  | .save _ _ => .saved (.ok ())
  | .get slot => .found (.ok (c.read slot))
  | .delete _ => .deleted (.ok ())
  | .wait _ => .waited

/-- The answers of the store in memory. There are none from the first session on that is to be kept
for longer than the clock can show. -/
def Clocked.answers (c : Clocked) : List Use → List Answer
  | [] => []
  | u :: uses =>
    match c.use u with
    | some c' => c.answer u :: c'.answers uses
    | none => []

/-- The command that a use comes to on a cache server. -/
def Use.command? : Use → Option Cache.Command
  | .save session ttl => some (CachedSessions.saveCommand session ttl)
  | .get slot => some (CachedSessions.getCommand slot)
  | .delete slot => some (CachedSessions.deleteCommand slot)
  | .wait _ => none

/-- The command that a use comes to is accepted. -/
def Use.Accepted (u : Use) : Prop := ∀ c ∈ u.command?, c.Acceptable

instance : DecidablePred Use.Accepted := fun u =>
  inferInstanceAs (Decidable (∀ c ∈ u.command?, c.Acceptable))

/-- A session is saved for a whole number of seconds. -/
def Use.WholeSeconds : Use → Prop
  | .save _ ttl => ∃ n, ttl = .ofSeconds n
  | .get _ | .delete _ | .wait _ => True

end SessionStore

namespace CachedSessions

open SessionStore (Use Answer)

/-- A cache server with the reading of its clock. -/
structure Clocked where
  server : Cache.Server
  now : Nat

namespace Clocked

/-- The answer to a use and the server after it. -/
def use (c : Clocked) : Use → Answer × Clocked
  | .save session ttl =>
    let (r, server) := CachedSessions.save c.server c.now session ttl
    (.saved r, { c with server })
  | .get slot =>
    let (r, server) := CachedSessions.get c.server c.now slot
    (.found r, { c with server })
  | .delete slot =>
    let (r, server) := CachedSessions.delete c.server c.now slot
    (.deleted r, { c with server })
  | .wait nanos => (.waited, { c with now := c.now + nanos })

/-- The answers of a cache server. -/
def answers (c : Clocked) : List Use → List Answer
  | [] => []
  | u :: uses => (c.use u).1 :: (c.use u).2.answers uses

section Use

variable (c : Clocked) (session : Session) (ttl : Duration) (slot : Slot)

theorem use_save : c.use (.save session ttl) =
    (.saved (saved (c.server.run c.now (saveCommand session ttl)).1),
      { c with server := (c.server.run c.now (saveCommand session ttl)).2 }) := rfl

/-- Reading a slot changes nothing. -/
theorem use_get : c.use (.get slot) = (.found (.ok ((c.server.read? c.now slot.key).map
    fun token => ⟨slot.user, slot.kind, token⟩)), c) := by
  rw [use, get, getCommand, Cache.Server.run]
  cases c.server.read? c.now slot.key <;> rfl

theorem use_delete :
    c.use (.delete slot) = (.deleted (.ok ()), { c with server := c.server.drop slot.key }) := rfl

end Use

end Clocked

/-! ## Lifetimes -/

theorem exists_lifetime_ofSeconds (n : Nat) : ∃ k, lifetime (.ofSeconds n) = .ofSeconds k := by
  rw [lifetime]
  split
  · exact ⟨24 * 60 * 60, rfl⟩
  · exact ⟨n, rfl⟩

theorem nanos_ofSeconds (n : Nat) :
    (Duration.ofSeconds n).nanos = n * 1000 * Cache.Server.perMilli := by
  unfold Duration.ofSeconds Instant.perSecond Cache.Server.perMilli
  rw [Nat.mul_assoc]

theorem millis_ofSeconds (n : Nat) : (Duration.ofSeconds n).millis = n * 1000 := by
  rw [Duration.millis, nanos_ofSeconds]
  exact Nat.mul_div_cancel _ (by decide)

/-- The longest time for which a server keeps a token, in nanoseconds. -/
def longestKept : Nat := maxInt64.toNat * Cache.Server.perMilli

section Lifetime

variable {session : Session} {n : Nat} (h : (saveCommand session (.ofSeconds n)).Acceptable)

include h

/-- A whole number of seconds is as long in milliseconds, unless there are more of them than a
server accepts. -/
theorem nanos_of_acceptable :
    min (lifetime (.ofSeconds n)).millis maxNat64 * Cache.Server.perMilli =
      (lifetime (.ofSeconds n)).nanos := by
  obtain ⟨k, hk⟩ := exists_lifetime_ofSeconds n
  have hle : ((min (lifetime (.ofSeconds n)).millis maxNat64 : Nat) : Int) ≤ maxInt64 := h.2
  rw [hk, millis_ofSeconds] at hle
  rw [hk, millis_ofSeconds, nanos_ofSeconds]
  -- The bound of the server is below the one at which the number of milliseconds is cut off.
  have hmin : min (k * 1000) maxNat64 = k * 1000 := by
    unfold maxInt64 maxNat64 at hle
    unfold maxNat64
    omega
  rw [hmin]

theorem nanos_le_longestKept : (lifetime (.ofSeconds n)).nanos ≤ longestKept := by
  have hle : ((min (lifetime (.ofSeconds n)).millis maxNat64 : Nat) : Int) ≤ maxInt64 := h.2
  rw [← nanos_of_acceptable h]
  refine Nat.mul_le_mul_right _ ?_
  unfold maxInt64 at hle ⊢
  omega

end Lifetime

/-! ## The same sessions -/

/-- The server and the store show the same time, and from now on they hold the same. -/
structure Mirrors (c : Clocked) (m : SessionStore.Clocked) : Prop where
  now : c.now = m.now
  held : ∀ t, m.now ≤ t → ∀ slot : Slot, c.server.read? t slot.key = m.store.live? t slot

theorem mirrors_empty (start : Nat) : Mirrors ⟨.empty, start⟩ ⟨.empty, start⟩ :=
  ⟨rfl, fun _ _ _ => rfl⟩

theorem key_eq_iff {a b : Slot} : a.key = b.key ↔ a = b :=
  ⟨Slot.key_injective, congrArg Slot.key⟩

/-- A token that was saved is there until its lifetime is over. -/
theorem read?_save (s : Cache.Server) (now t : Nat) {session : Session} {n : Nat}
    (h : (saveCommand session (.ofSeconds n)).Acceptable) (slot : Slot) :
    (s.run now (saveCommand session (.ofSeconds n))).2.read? t slot.key =
      if slot = session.slot then
        (if t < now + (lifetime (.ofSeconds n)).nanos then some session.token else none)
      else s.read? t slot.key := by
  have hset := s.read?_set now t session.slot.key slot.key session.token h
  rw [nanos_of_acceptable h] at hset
  simp only [key_eq_iff] at hset
  exact hset

namespace Mirrors

variable {c : Clocked} {m m' : SessionStore.Clocked} {u : Use} {uses : List Use}

theorem use_save (h : Mirrors c m) {session : Session} {n : Nat} {store : SessionStore}
    (hcommand : (saveCommand session (.ofSeconds n)).Acceptable)
    (hsave : m.store.save m.now session (.ofSeconds n) = some store) :
    (c.use (.save session (.ofSeconds n))).1 = .saved (.ok ()) ∧
      Mirrors (c.use (.save session (.ofSeconds n))).2 { m with store } := by
  obtain ⟨r, hreply⟩ := (c.server.exists_reply_iff c.now _).mpr hcommand
  have hread := fun t => read?_save c.server c.now t hcommand
  rw [Clocked.use_save]
  generalize c.server.run c.now (saveCommand session (.ofSeconds n)) = outcome at hreply hread
  obtain ⟨outcome, server⟩ := outcome
  obtain rfl : outcome = .reply r := hreply
  refine ⟨rfl, h.now, fun t ht slot => ?_⟩
  rw [SessionStore.live?_save hsave, ← h.held t ht, ← h.now]
  exact hread t slot

/-- **The step**: a server and a store that hold the same give the same answer to a use, and they
hold the same after it. -/
theorem use (h : Mirrors c m) (hwhole : u.WholeSeconds) (haccepted : u.Accepted)
    (huse : m.use u = some m') : (c.use u).1 = m.answer u ∧ Mirrors (c.use u).2 m' := by
  cases u with
  | save session ttl =>
    obtain ⟨n, rfl⟩ := hwhole
    obtain ⟨store, hsave, rfl⟩ := Option.map_eq_some_iff.mp huse
    exact h.use_save (haccepted _ rfl) hsave
  | get slot =>
    obtain rfl := Option.some.inj huse
    have hheld : c.server.read? c.now slot.key = m.store.live? m.now slot := by
      rw [h.now, h.held m.now (Nat.le_refl _)]
    rw [Clocked.use_get, hheld, SessionStore.Clocked.answer, SessionStore.Clocked.read,
      SessionStore.get_fst]
    refine ⟨rfl, h.now, fun t ht other => ?_⟩
    rw [SessionStore.live?_get m.store slot other ht]
    exact h.held t ht other
  | delete slot =>
    obtain rfl := Option.some.inj huse
    rw [Clocked.use_delete]
    refine ⟨rfl, h.now, fun t ht other => ?_⟩
    have hdrop := c.server.read?_drop t slot.key other.key
    rw [h.held t ht] at hdrop
    simp only [key_eq_iff] at hdrop
    rw [SessionStore.live?_delete]
    exact hdrop
  | wait nanos =>
    obtain rfl := Option.some.inj huse
    refine ⟨rfl, congrArg (· + nanos) h.now, fun t ht slot => h.held t ?_ slot⟩
    exact Nat.le_trans (Nat.le_add_right _ _) ht

/-- **The run**: as long as the store in memory gives answers, the server gives the same. -/
theorem answers_prefixOf (h : Mirrors c m) (hwhole : ∀ u ∈ uses, u.WholeSeconds)
    (haccepted : ∀ u ∈ uses, u.Accepted) : m.answers uses <+: c.answers uses := by
  induction uses generalizing c m with
  | nil => exact List.prefix_refl []
  | cons u uses ih =>
    rw [SessionStore.Clocked.answers, Clocked.answers]
    cases huse : m.use u with
    | none => exact List.nil_prefix
    | some m' =>
      obtain ⟨hu, huses⟩ := List.forall_mem_cons.mp hwhole
      obtain ⟨hu', huses'⟩ := List.forall_mem_cons.mp haccepted
      obtain ⟨hanswer, hnext⟩ := h.use hu hu' huse
      rw [hanswer]
      exact List.cons_prefix_cons.mpr ⟨rfl, ih hnext huses huses'⟩

end Mirrors

/-- A store in memory that goes through a whole history gives an answer to each use. -/
theorem length_answers {m m' : SessionStore.Clocked} {uses : List Use}
    (h : m.run uses = some m') : (m.answers uses).length = uses.length := by
  induction uses generalizing m with
  | nil => rfl
  | cons u uses ih =>
    obtain ⟨next, huse, hrun⟩ := Option.bind_eq_some_iff.mp h
    rw [SessionStore.Clocked.answers, huse]
    exact congrArg (· + 1) (ih hrun)

theorem Clocked.length_answers (c : Clocked) (uses : List Use) :
    (c.answers uses).length = uses.length := by
  induction uses generalizing c with
  | nil => rfl
  | cons u uses ih => exact congrArg (· + 1) (ih _)

open SessionStore (elapsed Fits)

/-- What a server accepts does not go beyond what the clock can show, as long as there is room for
the longest time on it. -/
theorem fits_of_room {start : Nat} {uses : List Use} (hwhole : ∀ u ∈ uses, u.WholeSeconds)
    (haccepted : ∀ u ∈ uses, u.Accepted)
    (hroom : start + elapsed uses + longestKept < clockLimit) : Fits start uses := by
  refine SessionStore.fits_of_forall fun session ttl hmem => ?_
  obtain ⟨n, rfl⟩ := hwhole _ hmem
  have hle := nanos_le_longestKept (haccepted _ hmem _ rfl)
  rw [SessionStore.nanos_lifetime] at hle
  omega

/-- **The two stores are interchangeable.** Take any history in which each session is saved for a
whole number of seconds, zero included, and each command is one that the server accepts. Started
empty and at the same time, the store in memory and the cache server give the same answers: each
answer of the store in memory is that of the server, and none is missing before its clock is about
to end, some three hundred billion years after it has started. -/
theorem answers_alike (start : Nat) (uses : List Use) (hwhole : ∀ u ∈ uses, u.WholeSeconds)
    (haccepted : ∀ u ∈ uses, u.Accepted) :
    SessionStore.Clocked.answers ⟨.empty, start⟩ uses <+: Clocked.answers ⟨.empty, start⟩ uses ∧
      (start + elapsed uses + longestKept < clockLimit →
        SessionStore.Clocked.answers ⟨.empty, start⟩ uses =
          Clocked.answers ⟨.empty, start⟩ uses) := by
  have hstart := (mirrors_empty start).answers_prefixOf hwhole haccepted
  refine ⟨hstart, fun hroom => hstart.eq_of_length ?_⟩
  obtain ⟨m, hrun, -⟩ :=
    SessionStore.Clocked.exists_run_empty (fits_of_room hwhole haccepted hroom)
  rw [length_answers hrun, Clocked.length_answers]

/-! ## The end of a minute -/

namespace MinuteEnd

open SessionStore.Minute (first)

/-- A session that is saved for a minute is read when the minute is nearly over, and again when it
is over. Then one is saved for no stated time, and the first slot is cleared. -/
def uses : List Use := [
  .save ⟨first, .access, "a"⟩ (.ofSeconds 60), .wait (60 * Instant.perSecond - 1),
  .get ⟨first, .access⟩, .wait 1, .get ⟨first, .access⟩,
  .save ⟨first, .refresh, "b"⟩ (.ofSeconds 0), .delete ⟨first, .access⟩, .get ⟨first, .refresh⟩]

def answers : List Answer := [
  .saved (.ok ()), .waited, .found (.ok (some ⟨first, .access, "a"⟩)), .waited, .found (.ok none),
  .saved (.ok ()), .deleted (.ok ()), .found (.ok (some ⟨first, .refresh, "b"⟩))]

theorem wholeSeconds : ∀ u ∈ uses, u.WholeSeconds := by
  simp [uses, Use.WholeSeconds]

theorem accepted : ∀ u ∈ uses, u.Accepted := by decide

end MinuteEnd

/-- Up to the last nanosecond of the minute both stores have the token, and from then on neither
of them has. -/
theorem answers_at_minuteEnd :
    (∀ u ∈ MinuteEnd.uses, u.WholeSeconds) ∧ (∀ u ∈ MinuteEnd.uses, u.Accepted) ∧
      SessionStore.Clocked.answers ⟨.empty, 7⟩ MinuteEnd.uses = MinuteEnd.answers ∧
      Clocked.answers ⟨.empty, 7⟩ MinuteEnd.uses = MinuteEnd.answers := by
  have hstore : SessionStore.Clocked.answers ⟨.empty, 7⟩ MinuteEnd.uses = MinuteEnd.answers := by
    rfl
  have halike := answers_alike 7 MinuteEnd.uses MinuteEnd.wholeSeconds MinuteEnd.accepted
  refine ⟨MinuteEnd.wholeSeconds, MinuteEnd.accepted, hstore, ?_⟩
  rw [← halike.2 (by decide), hstore]

end CachedSessions

end SessionAuth
