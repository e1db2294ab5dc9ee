import Mathlib.Data.List.DropRight
import SessionAuth.Json.Parts
import SessionAuth.Proofs.Bind
import SessionAuth.Proofs.Json.Grammar

/-!
# Readers and the grammar

What a reader takes from the front of a text, as an equivalence with the grammar. A string ends at
a quote and a container at its mark, whatever comes behind; any other value ends where something
follows that may.

* `readQuoted_eq_ok_iff`, `skipQuoted_eq_ok_iff`: strings.
* `Takes`: the reader takes what the grammar has; `Takes.unique`: and so the grammar has no two
  ways to read a text.
* `Steps`: what the pieces of a container do to the state of the reader, one after the other.
* `readArray_eq_ok_iff`, `readObject_eq_ok_iff`: containers, from what their pieces do.
-/

namespace SessionAuth.Json

/-! ## Strings -/

theorem readQuotedFrom_plain {c : Char} (hc : Plain c) (acc cs : List Char) :
    readQuotedFrom acc (c :: cs) = readQuotedFrom (c :: acc) cs := by
  obtain ⟨hvisible, hquote, hbackslash⟩ := hc
  rw [readQuotedFrom.eq_def]
  split <;> grind

theorem not_low_of_high {n : Nat} (h : isHighSurrogate n = true) : isLowSurrogate n = false := by
  simp only [isHighSurrogate, isLowSurrogate, Bool.and_eq_true, decide_eq_true_eq,
    Bool.and_eq_false_iff, decide_eq_false_iff_not] at h ⊢
  omega

theorem readQuotedFrom_quotes {k s : List Char} (h : Quotes k s) (acc rest : List Char) :
    readQuotedFrom acc (k ++ '"' :: rest) = .ok (acc.reverse ++ s, rest) := by
  induction h generalizing acc with
  | nil => simp [readQuotedFrom]
  | plain hc _ ih =>
    rw [List.cons_append, readQuotedFrom_plain hc, ih]
    simp
  | @short c d cs _ hc _ ih =>
    have hu : c ≠ 'u' := by
      rintro rfl
      cases hc
    have hread : readQuotedFrom acc ('\\' :: c :: (cs ++ '"' :: rest)) =
        readQuotedFrom (d :: acc) (cs ++ '"' :: rest) := by
      rw [readQuotedFrom.eq_def]
      split <;> grind
    rw [List.cons_append, List.cons_append, hread, ih]
    simp
  | unicode hn hlow hhigh _ ih =>
    simp only [List.cons_append, readQuotedFrom, hn, hlow, hhigh, Bool.false_eq_true, if_false,
      ih, List.reverse_cons, List.append_assoc, List.nil_append]
  | pair hn hm hhigh hlow _ ih =>
    simp only [List.cons_append, readQuotedFrom, hn, hm, not_low_of_high hhigh, hhigh, hlow,
      Bool.false_eq_true, if_false, if_true, ih, List.reverse_cons, List.append_assoc,
      List.nil_append]

theorem quotes_of_readQuotedFrom {acc cs r rest : List Char}
    (h : readQuotedFrom acc cs = .ok (r, rest)) :
    ∃ k s, Quotes k s ∧ cs = k ++ '"' :: rest ∧ r = acc.reverse ++ s := by
  fun_induction readQuotedFrom acc cs with
  | case1 acc rest' =>
    obtain ⟨rfl, rfl⟩ := Prod.mk.inj (Except.ok.inj h)
    exact ⟨[], [], .nil, rfl, by simp⟩
  | case5 acc a b c d n hn hlow hhigh a' b' c' d' rest' m hm hm' ih =>
    obtain ⟨k, s, hk, rfl, rfl⟩ := ih h
    exact ⟨_, _, .pair hn hm hhigh hm' hk, rfl, by simp⟩
  | case8 acc a b c d rest' n hn hlow hhigh ih =>
    obtain ⟨k, s, hk, rfl, rfl⟩ := ih h
    exact ⟨_, _, .unicode hn (Bool.eq_false_iff.mpr hlow) (Bool.eq_false_iff.mpr hhigh) hk, rfl,
      by simp⟩
  | case9 acc c rest' _ d hc ih =>
    obtain ⟨k, s, hk, rfl, rfl⟩ := ih h
    exact ⟨_, _, .short hc hk, rfl, by simp⟩
  | case12 acc c rest' hquote _ hbackslash hvisible ih =>
    obtain ⟨k, s, hk, rfl, rfl⟩ := ih h
    have hne : c ≠ '\\' := fun hc => by
      cases k with
      | nil => exact hbackslash '"' rest hc rfl
      | cons d k => exact hbackslash d (k ++ '"' :: rest) hc rfl
    exact ⟨_, _, .plain ⟨Nat.le_of_not_lt hvisible, hquote, hne⟩ hk, rfl, by simp⟩
  | case2 | case3 | case4 | case6 | case7 | case10 | case11 | case13 => cases h

/-- **A string is read up to the quote that ends it.** -/
theorem readQuoted_eq_ok_iff {cs rest : List Char} {s : String} :
    readQuoted cs = .ok (s, rest) ↔ ∃ k, SpellsKey k s ∧ cs = k ++ '"' :: rest := by
  constructor
  · intro h
    obtain ⟨⟨r, after⟩, hread, h⟩ := ok_of_bind h
    obtain ⟨rfl, rfl⟩ := Prod.mk.inj (Except.ok.inj h)
    obtain ⟨k, s, hk, rfl, rfl⟩ := quotes_of_readQuotedFrom hread
    exact ⟨k, by simpa [SpellsKey] using hk, rfl⟩
  · rintro ⟨k, hk, rfl⟩
    rw [readQuoted, readQuotedFrom_quotes hk]
    simp [bind, Except.bind, pure, Except.pure]

theorem skipQuoted_plain {c : Char} (hc : Plain c) (cs : List Char) :
    skipQuoted (c :: cs) = skipQuoted cs := by
  obtain ⟨hvisible, hquote, hbackslash⟩ := hc
  rw [skipQuoted.eq_def]
  split <;> grind

theorem skipQuoted_quotable {k : List Char} (h : Quotable k) (rest : List Char) :
    skipQuoted (k ++ '"' :: rest) = .ok rest := by
  induction h with
  | nil => simp [skipQuoted]
  | plain hc _ ih => rw [List.cons_append, skipQuoted_plain hc, ih]
  | @short c cs hc _ ih =>
    have hu : c ≠ 'u' := by
      rintro rfl
      cases hc
    have hread : skipQuoted ('\\' :: c :: (cs ++ '"' :: rest)) =
        skipQuoted (cs ++ '"' :: rest) := by
      rw [skipQuoted.eq_def]
      split <;> grind
    rw [List.cons_append, List.cons_append, hread, ih]
  | unicode hn _ ih => simp only [List.cons_append, skipQuoted, hn, if_true, ih]

theorem quotable_of_skipQuoted {cs rest : List Char} (h : skipQuoted cs = .ok rest) :
    ∃ k, Quotable k ∧ cs = k ++ '"' :: rest := by
  fun_induction skipQuoted cs with
  | case1 rest' =>
    obtain rfl := Except.ok.inj h
    exact ⟨[], .nil, rfl⟩
  | case2 a b c d rest' hn ih =>
    obtain ⟨k, hk, rfl⟩ := ih h
    exact ⟨_, .unicode hn hk, rfl⟩
  | case4 c rest' _ hc ih =>
    obtain ⟨k, hk, rfl⟩ := ih h
    exact ⟨_, .short hc hk, rfl⟩
  | case7 c rest' hquote _ hbackslash hvisible ih =>
    obtain ⟨k, hk, rfl⟩ := ih h
    have hne : c ≠ '\\' := fun hc => by
      cases k with
      | nil => exact hbackslash '"' rest hc rfl
      | cons d k => exact hbackslash d (k ++ '"' :: rest) hc rfl
    exact ⟨_, .plain ⟨Nat.le_of_not_lt hvisible, hquote, hne⟩ hk, rfl⟩
  | case3 | case5 | case6 | case8 => cases h

theorem skipQuoted_eq_ok_iff {cs rest : List Char} :
    skipQuoted cs = .ok rest ↔ ∃ k, Quotable k ∧ cs = k ++ '"' :: rest := by
  refine ⟨quotable_of_skipQuoted, ?_⟩
  rintro ⟨k, hk, rfl⟩
  exact skipQuoted_quotable hk rest

/-! ## Marks -/

theorem expect_eq_ok_iff {c : Char} {cs rest : List Char} :
    expect c cs = .ok rest ↔ cs = c :: rest := by
  cases cs with
  | nil => simp [expect]
  | cons d ds =>
    rw [expect]
    split
    · rename_i h
      simp [h]
    · rename_i h
      simp [h]

theorem expectWord_eq_ok_iff {word cs rest : List Char} :
    expectWord word cs = .ok rest ↔ cs = word ++ rest := by
  induction word generalizing cs with
  | nil => simp [expectWord]
  | cons c word ih =>
    rw [expectWord, bind_eq_ok_iff]
    simp only [expect_eq_ok_iff, ih]
    constructor
    · rintro ⟨ds, rfl, rfl⟩
      rfl
    · rintro rfl
      exact ⟨_, rfl, rfl⟩

theorem skipBlank_eq_cons_iff {c : Char} (hc : isBlank c = false) {cs rest : List Char} :
    skipBlank cs = c :: rest ↔ ∃ b, Blanks b ∧ cs = b ++ c :: rest := by
  constructor
  · intro h
    obtain ⟨b, hb, hcs⟩ := exists_skipBlank cs
    exact ⟨b, hb, h ▸ hcs⟩
  · rintro ⟨b, hb, rfl⟩
    rw [skipBlank_blanks hb, skipBlank_cons hc]

theorem readColon_eq_ok_iff {cs rest : List Char} :
    readColon cs = .ok rest ↔ ∃ b, Blanks b ∧ cs = b ++ ':' :: rest := by
  rw [readColon, expect_eq_ok_iff, skipBlank_eq_cons_iff (by decide)]

theorem ends_cons {c : Char} (h : isBlank c = true ∨ c = ',' ∨ c = ':' ∨ c = ']' ∨ c = '}')
    (rest : List Char) : Ends (c :: rest) := by
  intro d hd
  obtain rfl := Option.some.inj hd
  exact h

theorem Blanks.ends {b cs : List Char} (hb : Blanks b) (hcs : Ends cs) : Ends (b ++ cs) := by
  cases b with
  | nil => exact hcs
  | cons c b => exact ends_cons (Or.inl (hb c List.mem_cons_self)) _

theorem Ends.halts {rest : List Char} (h : Ends rest) : NumberText.Halts rest := by
  intro c hc
  rcases h c hc with hblank | rfl | rfl | rfl | rfl
  · simp only [isBlank, Bool.or_eq_true, beq_iff_eq] at hblank
    rcases hblank with ((rfl | rfl) | rfl) | rfl <;> decide
  all_goals decide

theorem skipBlank_starts {v : List Char} (hv : Starts v) (rest : List Char) :
    skipBlank (v ++ rest) = v ++ rest := by
  obtain ⟨c, ds, rfl, hc, -⟩ := hv
  exact skipBlank_cons hc _

theorem Starts.skipBlank_eq {v : List Char} (hv : Starts v) {b : List Char} (hb : Blanks b)
    (rest : List Char) : skipBlank (b ++ (v ++ rest)) = v ++ rest := by
  rw [skipBlank_blanks hb, skipBlank_starts hv]

theorem skipBlank_idem (cs : List Char) : skipBlank (skipBlank cs) = skipBlank cs :=
  List.dropWhile_idempotent isBlank cs

/-! ## Readers and grammars -/

/-- The reader takes from the front of a text, after white space, what the grammar has for a
value, provided that the text does not go on there. -/
structure Takes {α : Type} (reader : Reader α) (G : List Char → α → Prop) : Prop where
  sound : ∀ {cs a rest}, reader cs = .ok (a, rest) →
    ∃ b v, Blanks b ∧ G v a ∧ cs = b ++ (v ++ rest)
  complete : ∀ {b v a rest}, Blanks b → G v a → Ends rest →
    reader (b ++ (v ++ rest)) = .ok (a, rest)

namespace Takes

variable {α β : Type} {reader : Reader α} {G G' : List Char → α → Prop}

theorem of_iff (h : Takes reader G) (hG : ∀ v a, G v a ↔ G' v a) : Takes reader G' := by
  constructor
  · intro cs a rest hread
    obtain ⟨b, v, hb, hv, hcs⟩ := h.sound hread
    exact ⟨b, v, hb, (hG v a).mp hv, hcs⟩
  · intro b v a rest hb hv hrest
    exact h.complete hb ((hG v a).mpr hv) hrest

/-- A function on what is read. -/
theorem map (h : Takes reader G) (f : α → β) :
    Takes (fun cs => do
      let (a, rest) ← reader cs
      return (f a, rest)) fun v b => ∃ a, G v a ∧ b = f a := by
  constructor
  · intro cs b rest hread
    obtain ⟨⟨a, after⟩, ha, hpure⟩ := ok_of_bind hread
    obtain ⟨rfl, rfl⟩ := Prod.mk.inj (Except.ok.inj hpure)
    obtain ⟨b, v, hb, hv, hcs⟩ := h.sound ha
    exact ⟨b, v, hb, ⟨a, hv, rfl⟩, hcs⟩
  · rintro b v _ rest hb ⟨a, hv, rfl⟩ hrest
    rw [h.complete hb hv hrest]
    rfl

/-- **A text is read in one way only.** -/
theorem unique (h : Takes reader G) {v v' rest rest' : List Char} {a a' : α} (hv : G v a)
    (hv' : G v' a') (hrest : Ends rest) (hrest' : Ends rest') (heq : v ++ rest = v' ++ rest') :
    v = v' ∧ a = a' ∧ rest = rest' := by
  have hread : reader (v ++ rest) = .ok (a, rest) := h.complete blanks_nil hv hrest
  have hread' : reader (v' ++ rest') = .ok (a', rest') := h.complete blanks_nil hv' hrest'
  rw [heq, hread'] at hread
  obtain ⟨rfl, rfl⟩ := Prod.mk.inj (Except.ok.inj hread)
  exact ⟨List.append_cancel_right heq, rfl, rfl⟩

end Takes

/-- Steps from one state to another, one for each of the elements. -/
inductive Steps {σ β : Type} (G : σ → β → σ → Prop) : σ → List β → σ → Prop
  | nil (s : σ) : Steps G s [] s
  | cons {s mid s' : σ} {x : β} {xs : List β} (step : G s x mid) (rest : Steps G mid xs s') :
      Steps G s (x :: xs) s'

/-- Steps that fold something into the state fold all of it. -/
theorem steps_foldl_iff {σ β α : Type} {G : β → α → Prop} {f : σ → α → σ} {s s' : σ}
    {xs : List β} :
    Steps (fun s x s' => ∃ a, G x a ∧ s' = f s a) s xs s' ↔
      ∃ as, List.Forall₂ G xs as ∧ s' = as.foldl f s := by
  constructor
  · intro h
    induction h with
    | nil s => exact ⟨[], .nil, rfl⟩
    | cons step _ ih =>
      obtain ⟨a, ha, rfl⟩ := step
      obtain ⟨as, has, rfl⟩ := ih
      exact ⟨a :: as, .cons ha has, rfl⟩
  · rintro ⟨as, has, rfl⟩
    induction has generalizing s with
    | nil => exact .nil s
    | cons ha _ ih => exact .cons ⟨_, ha, rfl⟩ ih

/-! ## Pieces with commas between them -/

section Pieces

variable {σ : Type} {close : Char} {item : σ → Reader σ} {G : σ → List Char → σ → Prop}
  {s s' : σ} {cs rest : List Char}

/-- Reads pieces up to the end of their container, which is what `readElements` does for arrays and
`readMembers` for objects. -/
def readPieces (close : Char) (item : σ → Reader σ) : (fuel : Nat) → σ → Reader σ
  | 0, _, _ => .error .malformed
  | fuel + 1, s, cs => do
    let (s, cs) ← item s cs
    match skipBlank cs with
    | c :: cs =>
      if c = ',' then readPieces close item fuel s cs
      else if c = close then .ok (s, cs) else .error .malformed
    | [] => .error .malformed

theorem readElements_eq (fuel : Nat) (s : σ) (cs : List Char) :
    readElements item fuel s cs = readPieces ']' item fuel s cs := by
  induction fuel generalizing s cs with
  | zero => rfl
  | succ fuel ih =>
    rw [readElements, readPieces]
    refine bind_congr fun q => ?_
    obtain ⟨s, after⟩ := q
    dsimp only
    cases skipBlank after with
    | nil => rfl
    | cons c tail =>
      dsimp only
      split
      · rename_i heq
        obtain ⟨rfl, rfl⟩ := List.cons.inj heq
        exact ih s _
      · rename_i heq
        obtain ⟨rfl, rfl⟩ := List.cons.inj heq
        rfl
      · rename_i hcomma hclose
        rw [if_neg fun hc => hcomma tail (by rw [hc]), if_neg fun hc => hclose tail (by rw [hc])]

/-- The reader of a member of an object, from the quote of its key on. -/
def memberItem (key : Reader String) (member : σ → String → Reader σ) (s : σ) : Reader σ :=
  fun cs => do
    let cs ← expect '"' (skipBlank cs)
    let (name, cs) ← key cs
    member s name cs

theorem readMembers_eq (key : Reader String) (member : σ → String → Reader σ) (fuel : Nat) (s : σ)
    (cs : List Char) :
    readMembers key member fuel s cs = readPieces '}' (memberItem key member) fuel s cs := by
  induction fuel generalizing s cs with
  | zero => rfl
  | succ fuel ih =>
    rw [readMembers, readPieces, memberItem]
    simp only [bind_assoc]
    refine bind_congr fun afterQuote => bind_congr fun p => bind_congr fun q => ?_
    obtain ⟨s, after⟩ := q
    dsimp only
    cases skipBlank after with
    | nil => rfl
    | cons c tail =>
      dsimp only
      split
      · rename_i heq
        obtain ⟨rfl, rfl⟩ := List.cons.inj heq
        exact ih s _
      · rename_i heq
        obtain ⟨rfl, rfl⟩ := List.cons.inj heq
        rfl
      · rename_i hcomma hclose
        rw [if_neg fun hc => hcomma tail (by rw [hc]), if_neg fun hc => hclose tail (by rw [hc])]

theorem steps_of_readPieces (hitem : ∀ s, Takes (item s) (G s)) (hclose : isBlank close = false)
    {fuel : Nat} (h : readPieces close item fuel s cs = .ok (s', rest)) :
    ∃ p ps body, Listed (p :: ps) body ∧ Steps G s (p :: ps) s' ∧ cs = body ++ close :: rest := by
  induction fuel generalizing s cs with
  | zero => cases h
  | succ fuel ih =>
    obtain ⟨⟨mid, after⟩, hread, hafter⟩ := ok_of_bind h
    clear h
    obtain ⟨b, p, hb, hp, rfl⟩ := (hitem s).sound hread
    dsimp only at hafter
    split at hafter
    · rename_i c tail hskip
      split at hafter
      · rename_i hc
        subst hc
        obtain ⟨b', hb', rfl⟩ := (skipBlank_eq_cons_iff (by decide)).mp hskip
        obtain ⟨q, ps, body, hlist, hsteps, rfl⟩ := ih hafter
        exact ⟨p, q :: ps, _, .more hb hb' hlist, .cons hp hsteps, by simp⟩
      · split at hafter
        · rename_i hc
          subst hc
          obtain ⟨b', hb', rfl⟩ := (skipBlank_eq_cons_iff hclose).mp hskip
          obtain ⟨rfl, rfl⟩ := Prod.mk.inj (Except.ok.inj hafter)
          exact ⟨p, [], _, .last hb hb', .cons hp (.nil _), by simp⟩
        · cases hafter
    · cases hafter

theorem readPieces_of_steps (hitem : ∀ s, Takes (item s) (G s))
    (hclose : close = ']' ∨ close = '}') {p body : List Char} {ps : List (List Char)}
    (hlist : Listed (p :: ps) body) (hsteps : Steps G s (p :: ps) s') {fuel : Nat}
    (hfuel : ps.length < fuel) (rest : List Char) :
    readPieces close item fuel s (body ++ close :: rest) = .ok (s', rest) := by
  have hcloseBlank : isBlank close = false := by rcases hclose with rfl | rfl <;> decide
  have hcloseEnds : Ends (close :: rest) :=
    ends_cons (hclose.elim (fun h => by simp [h]) fun h => by simp [h]) rest
  have hcloseComma : close ≠ ',' := by rcases hclose with rfl | rfl <;> decide
  induction ps generalizing p body s fuel with
  | nil =>
    obtain ⟨fuel, rfl⟩ := Nat.exists_eq_add_one_of_ne_zero (Nat.ne_of_gt hfuel)
    cases hlist with
    | last hb hb' =>
      cases hsteps with
      | cons hp hrest =>
        cases hrest
        rw [List.append_assoc, List.append_assoc, readPieces,
          (hitem s).complete hb hp (hb'.ends hcloseEnds)]
        simp only [bind, Except.bind, skipBlank_blanks hb', skipBlank_cons hcloseBlank,
          if_neg hcloseComma, if_true]
  | cons q ps ih =>
    obtain ⟨fuel, rfl⟩ := Nat.exists_eq_add_one_of_ne_zero (Nat.ne_of_gt (Nat.zero_lt_of_lt hfuel))
    cases hlist with
    | @more b _ b' _ _ body hb hb' hlist =>
      cases hsteps with
      | cons hp hrest =>
        have hends : Ends (b' ++ (',' :: body ++ close :: rest)) :=
          hb'.ends (ends_cons (by simp) _)
        have hlt : ps.length < fuel := by
          simp only [List.length_cons] at hfuel
          omega
        simp only [List.append_assoc]
        rw [readPieces, (hitem s).complete hb hp hends]
        simp only [bind, Except.bind, skipBlank_blanks hb', List.cons_append,
          skipBlank_cons (show isBlank ',' = false by decide), if_true]
        exact ih hlist hrest hlt

/-- Reads all pieces of a container, of which there may be none. -/
def readAll (close : Char) (item : σ → Reader σ) (s : σ) : Reader σ := fun cs =>
  if (skipBlank cs).head? = some close then .ok (s, (skipBlank cs).tail)
  else readPieces close item (skipBlank cs).length s (skipBlank cs)

theorem Listed.of_cons {p body : List Char} {ps : List (List Char)} (h : Listed (p :: ps) body) :
    ∃ b more, Blanks b ∧ Listed (p :: ps) (p ++ more) ∧ body = b ++ (p ++ more) := by
  cases h with
  | @last b _ b' hb hb' =>
    have hlist : Listed [p] ([] ++ (p ++ b')) := .last blanks_nil hb'
    exact ⟨b, b', hb, hlist, rfl⟩
  | @more b _ b' q ps cs hb hb' rest =>
    have hlist : Listed (p :: q :: ps) ([] ++ (p ++ (b' ++ ',' :: cs))) :=
      .more blanks_nil hb' rest
    exact ⟨b, _, hb, hlist, rfl⟩

theorem readAll_eq_ok_iff (hitem : ∀ s, Takes (item s) (G s))
    (hclose : close = ']' ∨ close = '}') (hstarts : ∀ {s p s'}, G s p s' → Starts p) :
    readAll close item s cs = .ok (s', rest) ↔
      ∃ ps body, Listed ps body ∧ Steps G s ps s' ∧ cs = body ++ close :: rest := by
  have hblank : isBlank close = false := by rcases hclose with rfl | rfl <;> decide
  constructor
  · intro h
    obtain ⟨b, hb, hcs⟩ := exists_skipBlank cs
    unfold readAll at h
    split at h
    · rename_i hhead
      obtain ⟨rfl, rfl⟩ := Prod.mk.inj (Except.ok.inj h)
      refine ⟨[], b, .none hb, .nil s, ?_⟩
      rwa [List.eq_cons_of_mem_head? hhead] at hcs
    · obtain ⟨p, ps, body, hlist, hsteps, hbody⟩ := steps_of_readPieces hitem hblank h
      exact ⟨p :: ps, _, hlist.blank hb, hsteps, by rw [List.append_assoc, ← hbody, ← hcs]⟩
  · rintro ⟨ps, body, hlist, hsteps, rfl⟩
    cases ps with
    | nil =>
      cases hlist with
      | none hb =>
        cases hsteps
        rw [readAll, skipBlank_blanks hb, skipBlank_cons hblank, List.head?_cons, if_pos rfl,
          List.tail_cons]
    | cons p ps =>
      obtain ⟨b, more, hb, hrest, rfl⟩ := hlist.of_cons
      obtain ⟨c, ds, rfl, hc, hbracket, hbrace⟩ : Starts p := by
        cases hsteps with
        | cons hp _ => exact hstarts hp
      have hskip : skipBlank ((b ++ (c :: ds ++ more)) ++ close :: rest) =
          (c :: ds ++ more) ++ close :: rest := by
        rw [List.append_assoc, skipBlank_blanks hb]
        exact skipBlank_cons hc _
      have hne : c ≠ close := by
        rintro rfl
        exact hclose.elim hbracket hbrace
      have hlength := hrest.length_le
      rw [readAll, hskip, if_neg (by simpa using hne)]
      refine readPieces_of_steps hitem hclose hrest hsteps ?_ rest
      simp only [List.length_cons, List.length_append] at hlength ⊢
      omega

theorem readArray_eq (s : σ) (cs : List Char) : readArray item s cs = readAll ']' item s cs := by
  rw [readArray, readAll]
  split
  · rename_i hskip
    rw [hskip]
    rfl
  · rename_i hskip
    rw [readElements_eq, if_neg]
    intro hhead
    exact hskip _ (List.eq_cons_of_mem_head? hhead)

theorem readObject_eq (key : Reader String) (member : σ → String → Reader σ) (s : σ)
    (cs : List Char) :
    readObject key member s cs = readAll '}' (memberItem key member) s cs := by
  rw [readObject, readAll]
  split
  · rename_i hskip
    rw [hskip]
    rfl
  · rename_i hskip
    rw [readMembers_eq, if_neg]
    intro hhead
    exact hskip _ (List.eq_cons_of_mem_head? hhead)

/-- **An array is read up to its bracket**, a step for each of its values. -/
theorem readArray_eq_ok_iff (hitem : ∀ s, Takes (item s) (G s))
    (hstarts : ∀ {s p s'}, G s p s' → Starts p) :
    readArray item s cs = .ok (s', rest) ↔
      ∃ values v, IsArray values v ∧ Steps G s values s' ∧ '[' :: cs = v ++ rest := by
  rw [readArray_eq, readAll_eq_ok_iff hitem (Or.inl rfl) hstarts]
  constructor
  · rintro ⟨values, body, hlist, hsteps, rfl⟩
    exact ⟨values, _, ⟨body, hlist, rfl⟩, hsteps, by simp⟩
  · rintro ⟨values, _, ⟨body, hlist, rfl⟩, hsteps, hcs⟩
    exact ⟨values, body, hlist, hsteps, by simpa using hcs⟩

end Pieces

/-! ## Members -/

section Members

variable {σ : Type} {key : Reader String} {K : List Char → String → Prop}
  {member : σ → String → Reader σ} {M : σ → String × List Char → σ → Prop} {s s' : σ}
  {cs rest : List Char}

/-- The reader takes what comes after the key of a member, up to the end of its value. -/
def TakesMember (member : σ → String → Reader σ) (M : σ → String × List Char → σ → Prop) : Prop :=
  ∀ s name, Takes (member s name) fun w s' =>
    ∃ b v, Blanks b ∧ M s (name, v) s' ∧ w = ':' :: (b ++ v)

theorem takes_colon {reader : Reader σ} {G : List Char → σ → Prop} (h : Takes reader G) :
    Takes (fun cs => do reader (← readColon cs)) fun w s' =>
      ∃ b v, Blanks b ∧ G v s' ∧ w = ':' :: (b ++ v) := by
  constructor
  · intro cs s' rest hread
    obtain ⟨after, hcolon, hvalue⟩ := ok_of_bind hread
    obtain ⟨b, hb, rfl⟩ := readColon_eq_ok_iff.mp hcolon
    obtain ⟨b', v, hb', hv, rfl⟩ := h.sound hvalue
    exact ⟨b, _, hb, ⟨b', v, hb', hv, rfl⟩, by simp⟩
  · rintro b _ s' rest hb ⟨b', v, hb', hv, rfl⟩ hrest
    have hcolon : readColon (b ++ (':' :: (b' ++ v) ++ rest)) = .ok (b' ++ (v ++ rest)) :=
      readColon_eq_ok_iff.mpr ⟨b, hb, by simp⟩
    simp only [hcolon, bind, Except.bind]
    exact h.complete hb' hv hrest

theorem takes_memberItem
    (hkey : ∀ {cs name rest}, key cs = .ok (name, rest) ↔ ∃ k, K k name ∧ cs = k ++ '"' :: rest)
    (hmember : TakesMember member M) (s : σ) :
    Takes (memberItem key member s) fun piece s' => ∃ m, IsMember K m piece ∧ M s m s' := by
  constructor
  · intro cs s' rest h
    obtain ⟨after, hquote, hafter⟩ := ok_of_bind h
    obtain ⟨⟨name, after'⟩, hname, hvalue⟩ := ok_of_bind hafter
    obtain ⟨b, hb, rfl⟩ := (skipBlank_eq_cons_iff (by decide)).mp (expect_eq_ok_iff.mp hquote)
    obtain ⟨k, hk, rfl⟩ := hkey.mp hname
    obtain ⟨b', _, hb', ⟨b'', v, hb'', hm, rfl⟩, rfl⟩ := (hmember s name).sound hvalue
    exact ⟨b, _, hb, ⟨(name, v), ⟨k, b', b'', hk, hb', hb'', rfl⟩, hm⟩, by simp⟩
  · rintro b _ s' rest hb ⟨⟨name, v⟩, ⟨k, b', b'', hk, hb', hb'', rfl⟩, hm⟩ hends
    have hvalue := (hmember s name).complete hb' ⟨b'', v, hb'', hm, rfl⟩ hends
    have hname : key ((k ++ '"' :: (b' ++ ':' :: (b'' ++ v))) ++ rest) =
        .ok (name, b' ++ (':' :: (b'' ++ v) ++ rest)) :=
      hkey.mpr ⟨k, hk, by simp⟩
    rw [memberItem, List.cons_append, skipBlank_blanks hb, skipBlank_cons (by decide),
      expect_eq_ok_iff.mpr rfl]
    simp only [bind, Except.bind, hname]
    exact hvalue

theorem IsMember.starts {m : String × List Char} {piece : List Char} (h : IsMember K m piece) :
    Starts piece := by
  obtain ⟨k, b, b', -, -, -, rfl⟩ := h
  exact starts_cons (by decide) (by decide) (by decide)

theorem exists_members {pieces : List (List Char)}
    (h : Steps (fun s piece s' => ∃ m, IsMember K m piece ∧ M s m s') s pieces s') :
    ∃ members, List.Forall₂ (IsMember K) members pieces ∧ Steps M s members s' := by
  induction h with
  | nil s => exact ⟨[], .nil, .nil s⟩
  | cons step _ ih =>
    obtain ⟨m, hpiece, hm⟩ := step
    obtain ⟨members, hpieces, hsteps⟩ := ih
    exact ⟨m :: members, .cons hpiece hpieces, .cons hm hsteps⟩

theorem steps_of_members {members : List (String × List Char)} {pieces : List (List Char)}
    (h : List.Forall₂ (IsMember K) members pieces) (hsteps : Steps M s members s') :
    Steps (fun s piece s' => ∃ m, IsMember K m piece ∧ M s m s') s pieces s' := by
  induction h generalizing s with
  | nil =>
    cases hsteps
    exact .nil _
  | cons hpiece _ ih =>
    cases hsteps with
    | cons hm hsteps => exact .cons ⟨_, hpiece, hm⟩ (ih hsteps)

/-- **An object is read up to its brace**, a step for each of its members. -/
theorem readObject_eq_ok_iff
    (hkey : ∀ {cs name rest}, key cs = .ok (name, rest) ↔ ∃ k, K k name ∧ cs = k ++ '"' :: rest)
    (hmember : TakesMember member M) :
    readObject key member s cs = .ok (s', rest) ↔
      ∃ members v, IsObject K members v ∧ Steps M s members s' ∧ '{' :: cs = v ++ rest := by
  rw [readObject_eq, readAll_eq_ok_iff (takes_memberItem hkey hmember) (Or.inr rfl)
    fun ⟨_, hpiece, _⟩ => hpiece.starts]
  constructor
  · rintro ⟨pieces, body, hlist, hsteps, rfl⟩
    obtain ⟨members, hpieces, hsteps⟩ := exists_members hsteps
    exact ⟨members, _, ⟨pieces, body, hpieces, hlist, rfl⟩, hsteps, by simp⟩
  · rintro ⟨members, _, ⟨pieces, body, hpieces, hlist, rfl⟩, hsteps, hcs⟩
    exact ⟨pieces, body, hlist, steps_of_members hpieces hsteps, by simpa using hcs⟩

end Members

end SessionAuth.Json
