import Mathlib.Algebra.GroupWithZero.Nat
import Mathlib.Data.List.Induction
import SessionAuth.Proofs.Session.Store

/-!
# What was put into a slot last

A store is used for a while: sessions are saved, slots are read and cleared, and time passes. What
reading a slot gives in the end depends on nothing but the last use that was addressed to the slot.

* `SessionStore.Use`, `Clocked.run`: the uses of a store with a clock, one after another.
* `Use.Addresses`, `elapsed`: the uses that change a slot, and the time that a history takes.
* `SavedLast`: the last use addressed to a slot has saved a session.
* `Fits`: no token is to be kept for longer than the clock can show.
* `Clocked.Reflects`: the store holds what its history says; `Reflects.use` is the step and
  `exists_run` the run.
* `read_iff_of_uses`: the main statement.
-/

namespace SessionAuth.SessionStore

/-- One use of a store, or a while in which nobody uses it. -/
inductive Use where
  | save (session : Session) (ttl : Duration)
  | get (slot : Slot)
  | delete (slot : Slot)
  | wait (nanos : Nat)

/-- A store with the reading of its clock. -/
structure Clocked where
  store : SessionStore
  now : Nat

namespace Clocked

/-- The store after a use. There is none when a session cannot be saved. -/
def use (c : Clocked) : Use → Option Clocked
  | .save session ttl => (c.store.save c.now session ttl).map fun store => { c with store }
  | .get slot => some { c with store := (c.store.get c.now slot).2 }
  | .delete slot => some { c with store := c.store.delete slot }
  | .wait nanos => some { c with now := c.now + nanos }

def run (c : Clocked) : List Use → Option Clocked
  | [] => some c
  | u :: uses => (c.use u).bind fun c => c.run uses

/-- The session that reading a slot gives. -/
def read (c : Clocked) (slot : Slot) : Option Session := (c.store.get c.now slot).1

end Clocked

/-! ## Histories -/

/-- The use saves a session into a slot or clears the slot. -/
def Use.Addresses (slot : Slot) : Use → Prop
  | .save session _ => session.slot = slot
  | .delete other => other = slot
  | .get _ => False
  | .wait _ => False

/-- The time that a use takes. -/
def Use.nanos : Use → Nat
  | .wait nanos => nanos
  | _ => 0

def elapsed (uses : List Use) : Nat := (uses.map Use.nanos).sum

/-- The nanoseconds for which a token is kept: a day when no time is given. -/
def keepingTime (ttl : Duration) : Nat :=
  if ttl.nanos = 0 then 24 * 60 * 60 * Instant.perSecond else ttl.nanos

/-- The last use addressed to the slot of a session has saved this session, and its token is kept
until some time. -/
def SavedLast (start : Nat) (uses : List Use) (session : Session) (expires : Nat) : Prop :=
  ∃ before ttl after, uses = before ++ .save session ttl :: after ∧
    (∀ u ∈ after, ¬ u.Addresses session.slot) ∧
    expires = start + elapsed before + keepingTime ttl

/-- No token is to be kept for longer than the clock can show. -/
def Fits (start : Nat) (uses : List Use) : Prop :=
  ∀ before session ttl after, uses = before ++ .save session ttl :: after →
    start + elapsed before + keepingTime ttl < clockLimit

theorem nanos_lifetime (ttl : Duration) : (lifetime ttl).nanos = keepingTime ttl := by
  rw [lifetime, keepingTime]
  split <;> rfl

theorem elapsed_append (uses more : List Use) :
    elapsed (uses ++ more) = elapsed uses + elapsed more := by
  rw [elapsed, List.map_append, List.sum_append]
  rfl

theorem elapsed_snoc (uses : List Use) (u : Use) :
    elapsed (uses ++ [u]) = elapsed uses + u.nanos := by
  have hlast : elapsed [u] = u.nanos := List.sum_singleton
  rw [elapsed_append, hlast]

/-- A place in a history is in the part before the last use, or it is that of the last use. -/
theorem snoc_eq_append_cons {uses before after : List Use} {u v : Use} :
    uses ++ [u] = before ++ v :: after ↔
      (uses = before ∧ u = v ∧ after = []) ∨
        ∃ after', uses = before ++ v :: after' ∧ after = after' ++ [u] := by
  rcases List.eq_nil_or_concat after with rfl | ⟨after', w, rfl⟩
  · simp
  · rw [List.concat_eq_append, ← List.cons_append, ← List.append_assoc]
    constructor
    · intro h
      obtain ⟨hbefore, hlast⟩ := List.append_inj' h rfl
      obtain rfl := List.singleton_inj.mp hlast
      exact Or.inr ⟨after', hbefore, rfl⟩
    · rintro (⟨-, -, h⟩ | ⟨after'', hbefore, h⟩)
      · exact absurd h (by simp)
      · obtain ⟨rfl, hlast⟩ := List.append_inj' h rfl
        obtain rfl := List.singleton_inj.mp hlast
        rw [hbefore]

section Snoc

variable {start : Nat} {uses : List Use} {u : Use}

theorem savedLast_snoc {session : Session} {expires : Nat} :
    SavedLast start (uses ++ [u]) session expires ↔
      (∃ ttl, u = .save session ttl ∧ expires = start + elapsed uses + keepingTime ttl) ∨
        ¬ u.Addresses session.slot ∧ SavedLast start uses session expires := by
  constructor
  · rintro ⟨before, ttl, after, hsplit, hafter, rfl⟩
    rcases snoc_eq_append_cons.mp hsplit with ⟨rfl, rfl, rfl⟩ | ⟨after', rfl, rfl⟩
    · exact Or.inl ⟨ttl, rfl, rfl⟩
    · refine Or.inr ⟨hafter u (by simp), before, ttl, after', rfl, ?_, rfl⟩
      exact fun v hv => hafter v (List.mem_append_left _ hv)
  · rintro (⟨ttl, rfl, rfl⟩ | ⟨hu, before, ttl, after, rfl, hafter, rfl⟩)
    · exact ⟨uses, ttl, [], rfl, by simp, rfl⟩
    · refine ⟨before, ttl, after ++ [u], by simp, fun v hv => ?_, rfl⟩
      rcases List.mem_append.mp hv with hv | hv
      · exact hafter v hv
      · exact List.mem_singleton.mp hv ▸ hu

theorem fits_snoc :
    Fits start (uses ++ [u]) ↔ Fits start uses ∧
      ∀ session ttl, u = .save session ttl →
        start + elapsed uses + keepingTime ttl < clockLimit := by
  constructor
  · intro h
    refine ⟨fun before session ttl after hsplit => ?_, ?_⟩
    · exact h before session ttl (after ++ [u]) (by simp [hsplit])
    · rintro session ttl rfl
      exact h uses session ttl [] rfl
  · rintro ⟨huses, hu⟩ before session ttl after hsplit
    rcases snoc_eq_append_cons.mp hsplit with ⟨rfl, rfl, -⟩ | ⟨after', hbefore, -⟩
    · exact hu session ttl rfl
    · exact huses before session ttl after' hbefore

theorem elapsed_le_append (uses more : List Use) : elapsed uses ≤ elapsed (uses ++ more) := by
  rw [elapsed_append]
  exact Nat.le_add_right _ _

/-- Tokens that could be saved at the end of a history can be saved at any time of it. -/
theorem fits_of_forall (h : ∀ session ttl, .save session ttl ∈ uses →
    start + elapsed uses + keepingTime ttl < clockLimit) : Fits start uses := by
  rintro before session ttl after rfl
  have hlast := h session ttl (by simp)
  have hle := elapsed_le_append before (.save session ttl :: after)
  omega

end Snoc

/-! ## A store and its history -/

namespace Clocked

variable {c c' : Clocked} {start : Nat} {past uses : List Use} {u : Use}

/-- The store holds, now and later, what its history says. -/
structure Reflects (c : Clocked) (start : Nat) (past : List Use) : Prop where
  now : c.now = start + elapsed past
  live : ∀ t, c.now ≤ t → ∀ session : Session,
    c.store.live? t session.slot = some session.token ↔
      ∃ expires, SavedLast start past session expires ∧ t < expires

theorem reflects_empty (start : Nat) : Reflects ⟨empty, start⟩ start [] where
  now := rfl
  live := by
    intro t _ session
    rw [live?_empty]
    refine ⟨fun h => absurd h (by simp), ?_⟩
    rintro ⟨_, ⟨before, ttl, after, hsplit, -⟩, -⟩
    exact absurd hsplit (by simp)

/-- A use that is not addressed to a slot leaves the slot as it is, now and later. -/
theorem live?_use (h : c.use u = some c') {t : Nat} (ht : c.now ≤ t) {slot : Slot}
    (hu : ¬ u.Addresses slot) : c'.store.live? t slot = c.store.live? t slot := by
  cases u with
  | save session ttl =>
    obtain ⟨store, hsave, rfl⟩ := Option.map_eq_some_iff.mp h
    rw [live?_save hsave, if_neg (Ne.symm hu)]
  | get other =>
    obtain rfl := Option.some.inj h
    exact live?_get c.store other slot ht
  | delete other =>
    obtain rfl := Option.some.inj h
    rw [live?_delete, if_neg (Ne.symm hu)]
  | wait nanos =>
    obtain rfl := Option.some.inj h
    rfl

theorem now_use (h : c.use u = some c') : c'.now = c.now + u.nanos := by
  cases u with
  | save session ttl =>
    obtain ⟨store, -, rfl⟩ := Option.map_eq_some_iff.mp h
    rfl
  | get other | delete other | wait nanos =>
    obtain rfl := Option.some.inj h
    rfl

/-- **The step**: a store that holds what its history says does so after one more use. -/
theorem Reflects.use (hc : c.Reflects start past) (h : c.use u = some c') :
    c'.Reflects start (past ++ [u]) where
  now := by rw [now_use h, hc.now, elapsed_snoc, Nat.add_assoc]
  live := by
    intro t ht session
    have hle : c.now ≤ t := by
      have hnow := now_use h
      omega
    by_cases hu : u.Addresses session.slot
    · -- The slot holds what has just been saved, or nothing.
      have hlast : ∀ expires, SavedLast start (past ++ [u]) session expires ↔
          ∃ ttl, u = .save session ttl ∧ expires = start + elapsed past + keepingTime ttl :=
        fun expires => savedLast_snoc.trans (or_iff_left fun hother => hother.1 hu)
      cases u with
      | save saved ttl =>
        obtain ⟨store, hsave, rfl⟩ := Option.map_eq_some_iff.mp h
        have hslot : session.slot = saved.slot := Eq.symm hu
        rw [live?_save hsave, if_pos hslot, nanos_lifetime, hc.now]
        constructor
        · intro hlive
          obtain ⟨hlt, htoken⟩ := Option.ite_none_right_eq_some.mp hlive
          have hsame : saved = session := by
            obtain ⟨huser, hkind⟩ := Slot.mk.inj hslot
            cases saved
            cases session
            simp_all
          exact ⟨_, (hlast _).mpr ⟨ttl, by rw [hsame], rfl⟩, hlt⟩
        · rintro ⟨expires, hsaved, hlt⟩
          obtain ⟨ttl', heq, rfl⟩ := (hlast expires).mp hsaved
          obtain ⟨rfl, rfl⟩ := Use.save.inj heq
          exact if_pos hlt
      | delete slot =>
        obtain rfl := Option.some.inj h
        rw [live?_delete, if_pos (Eq.symm hu)]
        refine ⟨fun hlive => absurd hlive (by simp), ?_⟩
        rintro ⟨expires, hsaved, -⟩
        obtain ⟨ttl, heq, -⟩ := (hlast expires).mp hsaved
        exact absurd heq (by simp)
      | get slot => exact hu.elim
      | wait nanos => exact hu.elim
    · rw [live?_use h hle hu, hc.live t hle session]
      refine exists_congr fun expires => and_congr_left fun _ => ?_
      rw [savedLast_snoc]
      refine ⟨fun hsaved => Or.inr ⟨hu, hsaved⟩, ?_⟩
      rintro (⟨ttl, rfl, -⟩ | ⟨-, hsaved⟩)
      · exact absurd rfl hu
      · exact hsaved

theorem exists_use (hc : c.Reflects start past) (h : Fits start (past ++ [u])) :
    ∃ c', c.use u = some c' := by
  cases u with
  | save session ttl =>
    have hlt := (fits_snoc.mp h).2 session ttl rfl
    refine ⟨_, Option.map_eq_some_iff.mpr ⟨_, if_pos ?_, rfl⟩⟩
    rw [nanos_lifetime, hc.now]
    exact hlt
  | get slot => exact ⟨_, rfl⟩
  | delete slot => exact ⟨_, rfl⟩
  | wait nanos => exact ⟨_, rfl⟩

/-- **The run**: a store goes through every history that fits, and holds what it says. -/
theorem exists_run (hc : c.Reflects start past) (h : Fits start (past ++ uses)) :
    ∃ c', c.run uses = some c' ∧ c'.Reflects start (past ++ uses) := by
  induction uses generalizing c past with
  | nil => exact ⟨c, rfl, by rwa [List.append_nil]⟩
  | cons u uses ih =>
    have hsplit : past ++ u :: uses = past ++ [u] ++ uses := by simp
    rw [hsplit] at h ⊢
    have hfirst : Fits start (past ++ [u]) := fun before session ttl after heq =>
      h before session ttl (after ++ uses) (by rw [heq]; simp)
    obtain ⟨c₁, huse⟩ := exists_use hc hfirst
    obtain ⟨c', hrun, hreflects⟩ := ih (hc.use huse) h
    exact ⟨c', by rw [run, huse, Option.bind_some, hrun], hreflects⟩

theorem exists_run_empty (h : Fits start uses) :
    ∃ c, run ⟨empty, start⟩ uses = some c ∧ c.Reflects start uses :=
  exists_run (reflects_empty start) h

theorem Reflects.read_iff (hc : c.Reflects start past) (slot : Slot) (session : Session) :
    c.read slot = some session ↔
      session.slot = slot ∧ ∃ expires, SavedLast start past session expires ∧ c.now < expires := by
  rw [read, get_fst, Option.map_eq_some_iff, ← hc.live c.now (Nat.le_refl _) session]
  constructor
  · rintro ⟨token, hlive, rfl⟩
    exact ⟨rfl, hlive⟩
  · rintro ⟨rfl, hlive⟩
    exact ⟨session.token, hlive, rfl⟩

end Clocked

/-! ## Uses that leave a slot alone -/

section Idle

variable {start : Nat} {before after : List Use} {u : Use}

theorem elapsed_remove (hnanos : u.nanos = 0) (before after : List Use) :
    elapsed (before ++ u :: after) = elapsed (before ++ after) := by
  have hcons : elapsed (u :: after) = u.nanos + elapsed after := rfl
  rw [elapsed_append, elapsed_append, hcons, hnanos, Nat.zero_add]

theorem savedLast_remove (hnanos : u.nanos = 0) {session : Session}
    (hu : ¬ u.Addresses session.slot) (expires : Nat) :
    SavedLast start (before ++ u :: after) session expires ↔
      SavedLast start (before ++ after) session expires := by
  induction after using List.reverseRecOn with
  | nil =>
    rw [savedLast_snoc, List.append_nil]
    refine ⟨?_, fun hsaved => Or.inr ⟨hu, hsaved⟩⟩
    rintro (⟨ttl, rfl, -⟩ | ⟨-, hsaved⟩)
    · exact absurd rfl hu
    · exact hsaved
  | append_singleton after v ih =>
    rw [← List.cons_append, ← List.append_assoc, ← List.append_assoc, savedLast_snoc,
      savedLast_snoc, ih, elapsed_remove hnanos]

theorem Fits.remove (hnanos : u.nanos = 0) (h : Fits start (before ++ u :: after)) :
    Fits start (before ++ after) := by
  induction after using List.reverseRecOn with
  | nil =>
    rw [List.append_nil]
    exact (fits_snoc.mp h).1
  | append_singleton after v ih =>
    rw [← List.cons_append, ← List.append_assoc, fits_snoc, elapsed_remove hnanos] at h
    rw [← List.append_assoc, fits_snoc]
    exact ⟨ih h.1, h.2⟩

end Idle

/-! ## What reading gives -/

/-- **Reading a slot gives the session that was saved into it last, until its time is over.** After
every history of a store that was empty at first, reading a slot gives a session just if the last
use addressed to the slot has saved it and its time is not over, and otherwise nothing. A use that
takes no time and is not addressed to the slot may as well not have happened: neither reading any
slot nor what is done to another slot makes a difference. -/
theorem read_iff_of_uses (start : Nat) (uses : List Use) (h : Fits start uses) :
    ∃ c, Clocked.run ⟨empty, start⟩ uses = some c ∧ c.now = start + elapsed uses ∧
      (∀ slot session, c.read slot = some session ↔ session.slot = slot ∧
        ∃ expires, SavedLast start uses session expires ∧ start + elapsed uses < expires) ∧
      ∀ slot before u after, uses = before ++ u :: after → u.nanos = 0 → ¬ u.Addresses slot →
        ∃ c', Clocked.run ⟨empty, start⟩ (before ++ after) = some c' ∧ c'.now = c.now ∧
          c'.read slot = c.read slot := by
  obtain ⟨c, hrun, hc⟩ := Clocked.exists_run_empty h
  refine ⟨c, hrun, hc.now, fun slot session => hc.now ▸ hc.read_iff slot session, ?_⟩
  rintro slot before u after rfl hnanos hu
  obtain ⟨c', hrun', hc'⟩ := Clocked.exists_run_empty (h.remove hnanos)
  have hnow : c'.now = c.now := by rw [hc'.now, hc.now, elapsed_remove hnanos]
  refine ⟨c', hrun', hnow, Option.ext fun session => ?_⟩
  rw [hc'.read_iff, hc.read_iff, hnow]
  refine and_congr_right ?_
  rintro rfl
  exact exists_congr fun expires =>
    and_congr_left fun _ => (savedLast_remove hnanos hu expires).symm

/-! ## A minute -/

namespace Minute

def first : UserId := ⟨1, Nat.one_pos, UserId.one_le_max⟩

def second : UserId := ⟨2, by decide, by decide⟩

/-- A session for a minute and one for no stated time are saved. Then the minute passes, the first
slot is read, and another slot of the same user is cleared. -/
def uses : List Use := [
  .save ⟨first, .access, "a"⟩ (.ofSeconds 60), .save ⟨second, .access, "b"⟩ (.ofSeconds 0),
  .wait (60 * Instant.perSecond), .get ⟨first, .access⟩, .delete ⟨second, .refresh⟩]

theorem fits : Fits 7 uses := by
  apply fits_of_forall
  intro session ttl hmem
  simp only [uses, List.mem_cons, Use.save.injEq, reduceCtorEq, List.not_mem_nil, or_false] at hmem
  rcases hmem with ⟨-, rfl⟩ | ⟨-, rfl⟩
  · decide
  · decide

theorem savedLast_second :
    SavedLast 7 uses ⟨second, .access, "b"⟩ (7 + 24 * 60 * 60 * Instant.perSecond) := by
  refine ⟨[.save ⟨first, .access, "a"⟩ (.ofSeconds 60)], .ofSeconds 0, _, rfl, ?_, rfl⟩
  intro u hu
  simp only [List.mem_cons, List.not_mem_nil, or_false] at hu
  rcases hu with rfl | rfl | rfl
  · exact id
  · exact id
  · exact fun h : (⟨second, .refresh⟩ : Slot) = ⟨second, .access⟩ => absurd h (by decide)

/-- The session in the slot of the first user was saved at the start. -/
theorem expires_le {session : Session} {expires : Nat} (hslot : session.slot = ⟨first, .access⟩)
    (h : SavedLast 7 uses session expires) : expires ≤ 7 + elapsed uses := by
  obtain ⟨before, ttl, after, hsplit, -, rfl⟩ := h
  cases before with
  | nil =>
    obtain ⟨-, rfl⟩ := Use.save.inj (List.cons.inj hsplit).1
    decide
  | cons u before =>
    have hmem : Use.save session ttl ∈ uses.tail := hsplit ▸ by simp
    simp only [uses, List.tail_cons, List.mem_cons, Use.save.injEq, reduceCtorEq, or_false,
      List.not_mem_nil] at hmem
    obtain ⟨rfl, -⟩ := hmem
    exact absurd hslot (by decide)

end Minute

/-- What is kept for a minute is gone when the minute is over; what is kept for a day is not. -/
theorem read_after_minute : Fits 7 Minute.uses ∧
    ∃ c, Clocked.run ⟨empty, 7⟩ Minute.uses = some c ∧
      c.read ⟨Minute.first, .access⟩ = none ∧
      c.read ⟨Minute.second, .access⟩ = some ⟨Minute.second, .access, "b"⟩ := by
  obtain ⟨c, hrun, -, hread, -⟩ := read_iff_of_uses 7 Minute.uses Minute.fits
  refine ⟨Minute.fits, c, hrun, Option.eq_none_iff_forall_ne_some.mpr fun session hsome => ?_, ?_⟩
  · obtain ⟨hslot, expires, hsaved, hlt⟩ := (hread _ _).mp hsome
    exact absurd hlt (Nat.not_lt.mpr (Minute.expires_le hslot hsaved))
  · exact (hread _ _).mpr ⟨rfl, _, Minute.savedLast_second, by decide⟩

end SessionAuth.SessionStore
