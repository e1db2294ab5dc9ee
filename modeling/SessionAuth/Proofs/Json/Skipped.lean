import SessionAuth.Proofs.Json.Spans

/-!
# What is passed over

The reader that drops a value from the front of a text keeps the containers that are open on a
stack of its own. Whatever lies on the stack, it drops the text of a value and goes on with the
innermost container, and it drops nothing else.

* `Frame.Piece`: the pieces of a container of either kind.
* `Skips`, `Passes.skips`: the text of a value is dropped, in no more steps than it has characters.
* `DropsValue`, `DropsPieces`, `drops`: nothing but the text of a value is dropped.
* `takes_skipValue`: the main statement.
-/

namespace SessionAuth.Json

namespace Frame

/-- The character that opens a container. -/
def start : Frame → Char
  | .array => '['
  | .object => '{'

/-- The character that ends a container. -/
def close : Frame → Char
  | .array => ']'
  | .object => '}'

/-- What comes next after the start of a container. -/
def first : Frame → Awaited
  | .array => .firstItem
  | .object => .firstKey

/-- What comes next after a comma. -/
def next : Frame → Awaited
  | .array => .value
  | .object => .key

/-- A piece of a container that is passed over: a value, or a member. -/
def Piece : Frame → List Char → Prop
  | .array => Passes
  | .object => fun p => ∃ m, IsMember (fun k _ => Quotable k) m p ∧ Passes m.2

theorem ends_close (frame : Frame) (rest : List Char) : Ends (frame.close :: rest) :=
  ends_cons (by cases frame <;> decide) rest

end Frame

/-- What is done after a value: nothing if no container is open. -/
def leave (fuel : Nat) (frames : List Frame) (rest : List Char) : Except Fault (List Char) :=
  if frames.isEmpty then .ok rest else skipFrom fuel .separator frames rest

variable {fuel : Nat} {frame : Frame} {frames : List Frame} {b cs after rest : List Char}

/-! ## Values that are no containers -/

theorem leaf_of_skipLeaf (h : skipLeaf cs = .ok rest) : ∃ v, Leaf v ∧ cs = v ++ rest := by
  unfold skipLeaf at h
  split at h
  · exact ⟨_, .null, by rw [expectWord_eq_ok_iff.mp h]; rfl⟩
  · exact ⟨_, .true, by rw [expectWord_eq_ok_iff.mp h]; rfl⟩
  · exact ⟨_, .false, by rw [expectWord_eq_ok_iff.mp h]; rfl⟩
  · obtain ⟨k, hk, rfl⟩ := skipQuoted_eq_ok_iff.mp h
    exact ⟨_, .string hk, by simp [inQuotes]⟩
  · split at h
    · obtain ⟨⟨t, after⟩, ht, hpure⟩ := ok_of_bind h
      obtain rfl := Except.ok.inj hpure
      obtain ⟨v, hv, hcs⟩ := NumberText.written_of_readNumberText ht
      exact ⟨v, .number hv, hcs⟩
    · cases h
  · cases h

theorem Leaf.skipLeaf {v : List Char} (h : Leaf v) (hrest : Ends rest) :
    skipLeaf (v ++ rest) = .ok rest := by
  cases h with
  | null | true | false => rfl
  | number ht =>
    obtain ⟨c, ds, rfl, hc⟩ := ht.startsNumber
    have hread := ht.read hrest.halts
    obtain ⟨-, hn, ht, hf, hq, -⟩ := startsNumber_cases hc
    rw [List.cons_append] at hread ⊢
    unfold Json.skipLeaf
    split <;> simp_all [bind, Except.bind, pure, Except.pure]
  | @string k hk =>
    have hcs : inQuotes k ++ rest = '"' :: (k ++ '"' :: rest) := by simp [inQuotes]
    rw [hcs]
    exact skipQuoted_quotable hk rest

/-- A value that is no container does not begin like one. -/
theorem Leaf.ne_start {v ds : List Char} (h : Leaf v) (frame : Frame) :
    v ++ rest ≠ frame.start :: ds := by
  intro heq
  cases h with
  | null | true | false | string => cases frame <;> cases heq
  | number ht =>
    obtain ⟨c, cs, rfl, hc⟩ := ht.startsNumber
    obtain ⟨-, -, -, -, -, hbracket, hbrace, -⟩ := startsNumber_cases hc
    have hstart : c = frame.start := (List.cons.inj heq).1
    cases frame
    · exact hbracket hstart
    · exact hbrace hstart

/-! ## Steps -/

theorem skipFrom_blanks {awaited : Awaited} (hb : Blanks b) :
    skipFrom fuel awaited frames (b ++ cs) = skipFrom fuel awaited frames cs := by
  cases fuel with
  | zero => rfl
  | succ fuel => simp only [skipFrom, skipBlank_blanks hb]

theorem skipFrom_leaf {v : List Char} (hv : Leaf v) (hafter : Ends after) :
    skipFrom (fuel + 1) .value frames (v ++ after) = leave fuel frames after := by
  unfold skipFrom
  rw [skipBlank_starts hv.starts]
  dsimp only
  split
  · rename_i heq
    exact absurd heq (hv.ne_start .array)
  · rename_i heq
    exact absurd heq (hv.ne_start .object)
  · rw [hv.skipLeaf hafter]
    rfl

theorem skipFrom_start :
    skipFrom (fuel + 1) .value frames (frame.start :: cs) =
      skipFrom fuel frame.first (frame :: frames) cs := by
  cases frame <;> rfl

theorem skipFrom_comma :
    skipFrom (fuel + 1) .separator (frame :: frames) (',' :: cs) =
      skipFrom fuel frame.next (frame :: frames) cs := by
  cases frame <;> rfl

theorem skipFrom_close :
    skipFrom (fuel + 1) .separator (frame :: frames) (frame.close :: after) =
      leave fuel frames after := by
  cases frame <;> rfl

theorem skipFrom_first_close :
    skipFrom (fuel + 1) frame.first (frame :: frames) (frame.close :: after) =
      leave fuel frames after := by
  cases frame <;> rfl

/-- What is no end of a container begins with a piece. -/
theorem skipFrom_first (h : ∀ ds, skipBlank cs ≠ frame.close :: ds) :
    skipFrom (fuel + 1) frame.first (frame :: frames) cs =
      skipFrom (fuel + 1) frame.next (frame :: frames) cs := by
  cases frame <;> simp only [Frame.first, Frame.next, Frame.close, skipFrom] at h ⊢ <;>
    split <;> simp_all

theorem skipFrom_separator_eq_error (hcomma : ∀ ds, skipBlank cs ≠ ',' :: ds)
    (hclose : ∀ ds, skipBlank cs ≠ frame.close :: ds) :
    skipFrom (fuel + 1) .separator (frame :: frames) cs = .error .malformed := by
  cases frame <;> simp only [Frame.close, skipFrom] at hclose ⊢ <;> split <;> simp_all

theorem skipFrom_key {k b' : List Char} (hk : Quotable k) (hb' : Blanks b') :
    skipFrom (fuel + 1) .key frames ('"' :: (k ++ '"' :: (b' ++ ':' :: cs))) =
      skipFrom fuel .value frames cs := by
  have hkey : skipKey ('"' :: (k ++ '"' :: (b' ++ ':' :: cs))) = .ok cs := by
    simp only [skipKey, skipBlank_cons (show isBlank '"' = false by decide),
      expect_eq_ok_iff.mpr rfl, skipQuoted_quotable hk, readColon_eq_ok_iff.mpr ⟨b', hb', rfl⟩,
      bind, Except.bind]
  simp only [skipFrom, skipBlank_cons (show isBlank '"' = false by decide), hkey, bind, Except.bind]

/-! ### The steps that there are -/

theorem of_skipFrom_value (h : skipFrom (fuel + 1) .value frames cs = .ok rest) :
    (∃ b v after, Blanks b ∧ Leaf v ∧ cs = b ++ (v ++ after) ∧
      leave fuel frames after = .ok rest) ∨
    ∃ frame b after, Blanks b ∧ cs = b ++ Frame.start frame :: after ∧
      skipFrom fuel frame.first (frame :: frames) after = .ok rest := by
  obtain ⟨b, hb, hcs⟩ := exists_skipBlank cs
  simp only [skipFrom] at h
  split at h
  · rename_i hskip
    exact Or.inr ⟨.array, b, _, hb, by rw [hcs, hskip]; rfl, h⟩
  · rename_i hskip
    exact Or.inr ⟨.object, b, _, hb, by rw [hcs, hskip]; rfl, h⟩
  · obtain ⟨after, hleaf, hleave⟩ := ok_of_bind h
    obtain ⟨v, hv, hskip⟩ := leaf_of_skipLeaf hleaf
    exact Or.inl ⟨b, v, after, hb, hv, by rw [hcs, hskip], hleave⟩

theorem of_skipFrom_first
    (h : skipFrom (fuel + 1) frame.first (frame :: frames) cs = .ok rest) :
    (∃ b after, Blanks b ∧ cs = b ++ frame.close :: after ∧ leave fuel frames after = .ok rest) ∨
      skipFrom (fuel + 1) frame.next (frame :: frames) cs = .ok rest := by
  obtain ⟨b, hb, hcs⟩ := exists_skipBlank cs
  by_cases hclose : ∃ ds, skipBlank cs = frame.close :: ds
  · obtain ⟨after, hskip⟩ := hclose
    rw [hskip] at hcs
    rw [hcs, skipFrom_blanks hb, skipFrom_first_close] at h
    exact Or.inl ⟨b, after, hb, hcs, h⟩
  · rw [skipFrom_first fun ds hskip => hclose ⟨ds, hskip⟩] at h
    exact Or.inr h

theorem of_skipFrom_separator
    (h : skipFrom (fuel + 1) .separator (frame :: frames) cs = .ok rest) :
    ∃ b after, Blanks b ∧
      (cs = b ++ ',' :: after ∧ skipFrom fuel frame.next (frame :: frames) after = .ok rest ∨
        cs = b ++ frame.close :: after ∧ leave fuel frames after = .ok rest) := by
  obtain ⟨b, hb, hcs⟩ := exists_skipBlank cs
  by_cases hcomma : ∃ ds, skipBlank cs = ',' :: ds
  · obtain ⟨after, hskip⟩ := hcomma
    rw [hskip] at hcs
    rw [hcs, skipFrom_blanks hb, skipFrom_comma] at h
    exact ⟨b, after, hb, Or.inl ⟨hcs, h⟩⟩
  by_cases hclose : ∃ ds, skipBlank cs = frame.close :: ds
  · obtain ⟨after, hskip⟩ := hclose
    rw [hskip] at hcs
    rw [hcs, skipFrom_blanks hb, skipFrom_close] at h
    exact ⟨b, after, hb, Or.inr ⟨hcs, h⟩⟩
  rw [skipFrom_separator_eq_error (fun ds hskip => hcomma ⟨ds, hskip⟩)
    fun ds hskip => hclose ⟨ds, hskip⟩] at h
  cases h

theorem of_skipFrom_key (h : skipFrom (fuel + 1) .key frames cs = .ok rest) :
    ∃ b k b' after, Blanks b ∧ Quotable k ∧ Blanks b' ∧
      cs = b ++ '"' :: (k ++ '"' :: (b' ++ ':' :: after)) ∧
      skipFrom fuel .value frames after = .ok rest := by
  obtain ⟨b, hb, hcs⟩ := exists_skipBlank cs
  obtain ⟨after, hkey, hvalue⟩ := ok_of_bind h
  obtain ⟨afterQuote, hquote, hkey⟩ := ok_of_bind hkey
  obtain ⟨afterKey, hquoted, hcolon⟩ := ok_of_bind hkey
  obtain ⟨k, hk, rfl⟩ := skipQuoted_eq_ok_iff.mp hquoted
  obtain ⟨b', hb', rfl⟩ := readColon_eq_ok_iff.mp hcolon
  rw [skipBlank_idem] at hquote
  rw [expect_eq_ok_iff.mp hquote] at hcs
  exact ⟨b, k, b', after, hb, hk, hb', hcs, hvalue⟩

/-! ## Members and their texts -/

theorem exists_of_mem_right {α β : Type} {R : α → β → Prop} {as : List α} {bs : List β}
    (h : List.Forall₂ R as bs) {x : β} (hx : x ∈ bs) : ∃ a ∈ as, R a x := by
  induction h with
  | nil => cases hx
  | cons hab _ ih =>
    rcases List.mem_cons.mp hx with rfl | hx
    · exact ⟨_, List.mem_cons_self, hab⟩
    · obtain ⟨a, ha, hax⟩ := ih hx
      exact ⟨a, List.mem_cons_of_mem _ ha, hax⟩

theorem exists_forall₂ {α β : Type} {R : α → β → Prop} {bs : List β}
    (h : ∀ x ∈ bs, ∃ a, R a x) : ∃ as, List.Forall₂ R as bs := by
  induction bs with
  | nil => exact ⟨[], .nil⟩
  | cons x bs ih =>
    obtain ⟨a, ha⟩ := h x List.mem_cons_self
    obtain ⟨as, has⟩ := ih fun y hy => h y (List.mem_cons_of_mem _ hy)
    exact ⟨a :: as, .cons ha has⟩

/-! ## Every value is dropped -/

/-- The text of a piece is dropped, in no more steps than it has characters, up to what follows it
in its container. -/
def PieceSkips (frame : Frame) (p : List Char) : Prop :=
  ∃ k ≤ p.length, ∀ fuel frames b after, Blanks b → Ends after →
    skipFrom (fuel + k) frame.next (frame :: frames) (b ++ (p ++ after)) =
      skipFrom fuel .separator (frame :: frames) after

/-- The text of a value is dropped, in no more steps than it has characters, whatever containers
are open. -/
def Skips (v : List Char) : Prop :=
  ∃ k ≤ v.length, ∀ fuel frames b after, Blanks b → Ends after →
    skipFrom (fuel + k) .value frames (b ++ (v ++ after)) = leave fuel frames after

theorem Leaf.skips {v : List Char} (h : Leaf v) : Skips v := by
  refine ⟨1, ?_, fun fuel frames b after hb hafter => ?_⟩
  · obtain ⟨c, ds, rfl, -⟩ := h.starts
    exact Nat.le_add_left 1 _
  · rw [skipFrom_blanks hb, skipFrom_leaf h hafter]

theorem Skips.item {v : List Char} (h : Skips v) : PieceSkips .array v := by
  obtain ⟨k, hk, hskip⟩ := h
  exact ⟨k, hk, fun fuel frames b after hb hafter => hskip fuel _ b after hb hafter⟩

theorem Skips.member {m : String × List Char} {p : List Char} (h : Skips m.2)
    (hp : IsMember (fun k _ => Quotable k) m p) : PieceSkips .object p := by
  obtain ⟨k, hk, hskip⟩ := h
  obtain ⟨key, b, b', hkey, hb, hb', rfl⟩ := hp
  refine ⟨k + 1, ?_, fun fuel frames b'' after hb'' hafter => ?_⟩
  · simp only [List.length_cons, List.length_append]
    omega
  · have hcs : '"' :: (key ++ '"' :: (b ++ ':' :: (b' ++ m.2))) ++ after =
        '"' :: (key ++ '"' :: (b ++ ':' :: (b' ++ (m.2 ++ after)))) := by simp
    rw [skipFrom_blanks hb'', hcs, ← Nat.add_assoc]
    exact (skipFrom_key hkey hb).trans (hskip fuel _ b' after hb' hafter)

/-- The pieces of a container are dropped with its end. -/
theorem skipFrom_listed {p body : List Char} {ps : List (List Char)}
    (hlist : Listed (p :: ps) body) (hps : ∀ q ∈ p :: ps, PieceSkips frame q) :
    ∃ k ≤ body.length, ∀ fuel frames after,
      skipFrom (fuel + k + 1) frame.next (frame :: frames) (body ++ frame.close :: after) =
        leave fuel frames after := by
  induction ps generalizing p body with
  | nil =>
    obtain ⟨k, hk, hskip⟩ := hps p List.mem_cons_self
    cases hlist with
    | @last b _ b' hb hb' =>
      refine ⟨k, ?_, fun fuel frames after => ?_⟩
      · simp only [List.length_append]
        omega
      · have hcs : b ++ (p ++ b') ++ frame.close :: after =
            b ++ (p ++ (b' ++ frame.close :: after)) := by simp
        rw [hcs, Nat.add_right_comm, hskip (fuel + 1) frames b _ hb (hb'.ends (frame.ends_close _)),
          skipFrom_blanks hb', skipFrom_close]
  | cons q ps ih =>
    obtain ⟨k, hk, hskip⟩ := hps p List.mem_cons_self
    cases hlist with
    | @more b _ b' _ _ body hb hb' hlist =>
      obtain ⟨k', hk', hskip'⟩ := ih hlist fun r hr => hps r (List.mem_cons_of_mem _ hr)
      refine ⟨k + 1 + k', ?_, fun fuel frames after => ?_⟩
      · simp only [List.length_append, List.length_cons]
        omega
      · have hcs : b ++ (p ++ (b' ++ ',' :: body)) ++ frame.close :: after =
            b ++ (p ++ (b' ++ ',' :: (body ++ frame.close :: after))) := by simp
        have hends : Ends (b' ++ ',' :: (body ++ frame.close :: after)) :=
          hb'.ends (ends_cons (by simp) _)
        have hfuel : fuel + (k + 1 + k') + 1 = fuel + k' + 1 + 1 + k := by omega
        rw [hcs, hfuel, hskip _ frames b _ hb hends, skipFrom_blanks hb', skipFrom_comma, hskip']

theorem skips_container {ps : List (List Char)} {body : List Char} (hlist : Listed ps body)
    (hps : ∀ q ∈ ps, PieceSkips frame q) (hstarts : ∀ q ∈ ps, Starts q) :
    Skips (frame.start :: (body ++ [frame.close])) := by
  have hcs : ∀ b after, b ++ (frame.start :: (body ++ [frame.close]) ++ after) =
      b ++ frame.start :: (body ++ frame.close :: after) := by simp
  cases ps with
  | nil =>
    cases hlist with
    | none hbody =>
      refine ⟨2, ?_, fun fuel frames b after hb hafter => ?_⟩
      · simp
      · rw [hcs, skipFrom_blanks hb, skipFrom_start, skipFrom_blanks hbody, skipFrom_first_close]
  | cons p ps =>
    obtain ⟨k, hk, hskip⟩ := skipFrom_listed hlist hps
    refine ⟨k + 2, ?_, fun fuel frames b after hb hafter => ?_⟩
    · simp only [List.length_append, List.length_cons, List.length_nil]
      omega
    · obtain ⟨b', more, hb', -, rfl⟩ := hlist.of_cons
      have hfirst : ∀ ds, skipBlank (b' ++ (p ++ more) ++ frame.close :: after) ≠
          frame.close :: ds := by
        obtain ⟨c, cs, rfl, hc, hbracket, hbrace⟩ := hstarts p List.mem_cons_self
        intro ds hskip
        rw [List.append_assoc, skipBlank_blanks hb', List.cons_append, List.cons_append,
          skipBlank_cons hc] at hskip
        have hclose := (List.cons.inj hskip).1
        cases frame
        · exact hbracket hclose
        · exact hbrace hclose
      have hfuel : fuel + (k + 2) = fuel + k + 1 + 1 := rfl
      rw [hcs, hfuel, skipFrom_blanks hb, skipFrom_start, skipFrom_first hfirst, hskip]

/-- **The text of every value is dropped**, whatever containers are open. -/
theorem Passes.skips {v : List Char} (h : Passes v) : Skips v := by
  induction h with
  | leaf h => exact h.skips
  | @array values _ h hvalues ih =>
    obtain ⟨body, hlist, rfl⟩ := h
    have hskips : ∀ v ∈ values, PieceSkips .array v := fun v hv => (ih v hv).item
    exact skips_container hlist hskips fun v hv => (hvalues v hv).starts
  | @object members _ h _ ih =>
    obtain ⟨pieces, body, hpieces, hlist, rfl⟩ := h
    have hmember : ∀ p ∈ pieces, ∃ m ∈ members, IsMember (fun k _ => Quotable k) m p :=
      fun p hp => exists_of_mem_right hpieces hp
    have hskips : ∀ p ∈ pieces, PieceSkips .object p := by
      intro p hp
      obtain ⟨m, hm, hmp⟩ := hmember p hp
      exact (ih m hm).member hmp
    refine skips_container hlist hskips fun p hp => ?_
    obtain ⟨m, -, hmp⟩ := hmember p hp
    exact hmp.starts

/-! ## Nothing else is dropped -/

theorem passes_container {ps : List (List Char)} {body : List Char} (hlist : Listed ps body)
    (hps : ∀ p ∈ ps, frame.Piece p) : Passes (frame.start :: (body ++ [frame.close])) := by
  cases frame with
  | array => exact .array ⟨body, hlist, rfl⟩ hps
  | object =>
    have hmembers : ∃ members : List (String × List Char),
        List.Forall₂ (fun m p => Passes m.2 ∧ IsMember (fun k _ => Quotable k) m p) members ps :=
      exists_forall₂ fun p hp => (hps p hp).imp fun _ h => h.symm
    obtain ⟨members, hmembers⟩ := hmembers
    obtain ⟨hpasses, hpieces⟩ := (List.forall₂_and_left _ _).mp hmembers
    exact .object ⟨ps, body, hpieces, hlist, rfl⟩ hpasses

/-- What a run drops from the front of a text before it leaves a value: the text of the value. -/
def DropsValue (fuel : Nat) : Prop :=
  ∀ frames cs rest, skipFrom fuel .value frames cs = .ok rest →
    ∃ b v after fuel', fuel' < fuel ∧ Blanks b ∧ Passes v ∧ cs = b ++ (v ++ after) ∧
      leave fuel' frames after = .ok rest

/-- What a run drops after a comma before it leaves a container: pieces and the end of it. -/
def DropsPieces (fuel : Nat) : Prop :=
  ∀ frame frames cs rest, skipFrom fuel (Frame.next frame) (frame :: frames) cs = .ok rest →
    ∃ ps body after fuel', fuel' < fuel ∧ Listed ps body ∧ (∀ p ∈ ps, frame.Piece p) ∧ ps ≠ [] ∧
      cs = body ++ frame.close :: after ∧ leave fuel' frames after = .ok rest

theorem drops_value (hpieces : ∀ fuel' < fuel, DropsPieces fuel') : DropsValue fuel := by
  intro frames cs rest h
  cases fuel with
  | zero => cases h
  | succ fuel =>
    rcases of_skipFrom_value h with ⟨b, v, after, hb, hv, hcs, hleave⟩ | hstart
    · exact ⟨b, v, after, fuel, Nat.lt_succ_self _, hb, .leaf hv, hcs, hleave⟩
    obtain ⟨frame, b, inside, hb, rfl, hinside⟩ := hstart
    cases fuel with
    | zero => cases frame <;> cases hinside
    | succ fuel =>
      rcases of_skipFrom_first hinside with ⟨b', after, hb', rfl, hleave⟩ | hnext
      · have hpasses : Passes (frame.start :: (b' ++ [frame.close])) :=
          passes_container (.none hb') fun _ hp => absurd hp List.not_mem_nil
        exact ⟨b, _, after, fuel, by omega, hb, hpasses, by simp, hleave⟩
      · obtain ⟨ps, body, after, fuel', hlt, hlist, hps, -, rfl, hleave⟩ :=
          hpieces (fuel + 1) (by omega) frame frames inside rest hnext
        refine ⟨b, _, after, fuel', by omega, hb, passes_container hlist hps, ?_, hleave⟩
        simp

/-- The piece that comes next in a container. -/
theorem piece_of_skipFrom (hvalue : ∀ fuel' ≤ fuel, DropsValue fuel')
    (h : skipFrom fuel frame.next (frame :: frames) cs = .ok rest) :
    ∃ b p after fuel', fuel' < fuel ∧ Blanks b ∧ frame.Piece p ∧ cs = b ++ (p ++ after) ∧
      skipFrom fuel' .separator (frame :: frames) after = .ok rest := by
  cases frame with
  | array => exact hvalue fuel le_rfl _ cs rest h
  | object =>
    cases fuel with
    | zero => cases h
    | succ fuel =>
      obtain ⟨b, k, b', inside, hb, hk, hb', rfl, hinside⟩ := of_skipFrom_key h
      obtain ⟨b'', v, after, fuel', hlt, hb'', hv, rfl, hleave⟩ :=
        hvalue fuel (Nat.le_succ _) _ inside rest hinside
      refine ⟨b, _, after, fuel', by omega, hb,
        ⟨("", v), ⟨k, b', b'', hk, hb', hb'', rfl⟩, hv⟩, ?_, hleave⟩
      simp

theorem drops_pieces (hvalue : ∀ fuel' ≤ fuel, DropsValue fuel')
    (hpieces : ∀ fuel' < fuel, DropsPieces fuel') : DropsPieces fuel := by
  intro frame frames cs rest h
  obtain ⟨b, p, inside, fuel', hlt, hb, hp, rfl, hinside⟩ := piece_of_skipFrom hvalue h
  cases fuel' with
  | zero => cases hinside
  | succ fuel' =>
    obtain ⟨b', after, hb', ⟨rfl, hnext⟩ | ⟨rfl, hleave⟩⟩ := of_skipFrom_separator hinside
    · obtain ⟨ps, body, after, fuel'', hlt', hlist, hps, hne, rfl, hleave⟩ :=
        hpieces fuel' (by omega) frame frames after rest hnext
      obtain ⟨q, ps, rfl⟩ := List.exists_cons_of_ne_nil hne
      refine ⟨p :: q :: ps, _, after, fuel'', by omega, .more hb hb' hlist,
        List.forall_mem_cons.mpr ⟨hp, hps⟩, List.cons_ne_nil _ _, ?_, hleave⟩
      simp
    · refine ⟨[p], _, after, fuel', by omega, .last hb hb', ?_, List.cons_ne_nil _ _, ?_, hleave⟩
      · exact List.forall_mem_singleton.mpr hp
      · simp

theorem drops (fuel : Nat) : DropsValue fuel ∧ DropsPieces fuel := by
  induction fuel using Nat.strongRecOn with
  | _ fuel ih =>
    have hvalue : DropsValue fuel := drops_value fun fuel' hlt => (ih fuel' hlt).2
    refine ⟨hvalue, drops_pieces (fun fuel' hle => ?_) fun fuel' hlt => (ih fuel' hlt).2⟩
    rcases Nat.lt_or_eq_of_le hle with hlt | rfl
    · exact (ih fuel' hlt).1
    · exact hvalue

/-- **What is passed over is the text of a value**, to whatever depth its containers nest. -/
theorem takes_skipValue {σ : Type} (s : σ) :
    Takes (fun cs => do return (s, ← skipValue cs)) fun v s' => Passes v ∧ s' = s := by
  constructor
  · intro cs s' rest h
    obtain ⟨after, hskip, hpure⟩ := ok_of_bind h
    obtain ⟨rfl, rfl⟩ := Prod.mk.inj (Except.ok.inj hpure)
    obtain ⟨b, v, after, fuel, -, hb, hv, hcs, hleave⟩ := (drops _).1 [] cs _ hskip
    obtain rfl := Except.ok.inj hleave
    exact ⟨b, v, hb, ⟨hv, rfl⟩, hcs⟩
  · rintro b v s' rest hb ⟨hv, rfl⟩ hrest
    obtain ⟨k, hk, hskip⟩ := hv.skips
    obtain ⟨fuel, hfuel⟩ : ∃ fuel, (b ++ (v ++ rest)).length + 1 = fuel + k :=
      ⟨_, (Nat.sub_add_cancel (by simp only [List.length_append]; omega)).symm⟩
    have hread : skipValue (b ++ (v ++ rest)) = .ok rest := by
      rw [skipValue, hfuel, hskip fuel [] b rest hb hrest]
      rfl
    simp only [hread, bind, Except.bind, pure, Except.pure]

end SessionAuth.Json
