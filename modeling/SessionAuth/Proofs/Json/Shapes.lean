import SessionAuth.Proofs.Json.Skipped
import SessionAuth.Proofs.Json.Values
import SessionAuth.Proofs.Text.Bytes

/-!
# Shapes of values

What the readers take that want a value of a certain shape, said by the grammar.

* `IsText`, `IsList`, `OrNull`, `IsNamed`: the texts of a string, of a list, of a value or `null`,
  and of a name.
* `takes_readText`, `takes_readList`, `takes_readOptional`, `takes_readNameOver`: the readers.
* `Passes.unique`, `IsObject.unique`: a text is passed over in one way only, and an object has its
  members in one way only.
* `HasMembers`, `entries?_eq_some_iff`: whole texts that are objects.
* `isUtf8_byteChars_iff`, `takes_readUtf8`: bytes that are UTF-8, and a reader of them.
* `isPlainText`: texts whose characters stand for themselves between quotes.
-/

namespace SessionAuth.Json

variable {α : Type}

/-- The text of `null`. -/
def nullText : List Char := ['n', 'u', 'l', 'l']

/-- The text is a string in its quotes. -/
def IsText (v : List Char) (s : String) : Prop := ∃ k, SpellsKey k s ∧ v = inQuotes k

/-- The text is an array of what the grammar has for some values. -/
def IsList (G : List Char → α → Prop) (v : List Char) (as : List α) : Prop :=
  ∃ values, IsArray values v ∧ List.Forall₂ G values as

/-- The text is `null` or what the grammar has for a value. -/
def OrNull (G : List Char → α → Prop) (v : List Char) : Option α → Prop
  | none => v = nullText
  | some a => G v a

/-- The text is a name, or an object that has the name for its one key, over what `U` has. -/
def IsNamed (U : List Char → Prop) (v : List Char) (s : String) : Prop :=
  IsText v s ∨ ∃ u, U u ∧ IsObject SpellsKey [(s, u)] v

/-- The text begins like a string or a container. -/
def Opens (v : List Char) : Prop := ∃ ds, v = '"' :: ds ∨ v = '[' :: ds ∨ v = '{' :: ds

theorem Opens.starts {v : List Char} (h : Opens v) : Starts v := by
  obtain ⟨ds, rfl | rfl | rfl⟩ := h <;> exact starts_cons (by decide) (by decide) (by decide)

theorem IsText.opens {v : List Char} {s : String} (h : IsText v s) : Opens v := by
  obtain ⟨k, -, rfl⟩ := h
  exact ⟨_, Or.inl rfl⟩

theorem IsList.opens {G : List Char → α → Prop} {v : List Char} {as : List α}
    (h : IsList G v as) : Opens v := by
  obtain ⟨values, ⟨body, -, rfl⟩, -⟩ := h
  exact ⟨_, Or.inr (Or.inl rfl)⟩

theorem IsObject.opens {K : List Char → String → Prop} {members : List (String × List Char)}
    {v : List Char} (h : IsObject K members v) : Opens v := by
  obtain ⟨pieces, body, -, -, rfl⟩ := h
  exact ⟨_, Or.inr (Or.inr rfl)⟩

theorem IsNamed.opens {U : List Char → Prop} {v : List Char} {s : String} (h : IsNamed U v s) :
    Opens v := by
  rcases h with h | ⟨u, -, h⟩
  · exact h.opens
  · exact h.opens

theorem passes_nullText : Passes nullText := .leaf .null

theorem IsText.passes {v : List Char} {s : String} (h : IsText v s) : Passes v := by
  obtain ⟨k, hk, rfl⟩ := h
  exact .leaf (.string (Quotes.quotable hk))

theorem IsList.passes {G : List Char → α → Prop} (hG : ∀ {v a}, G v a → Passes v)
    {v : List Char} {as : List α} (h : IsList G v as) : Passes v := by
  obtain ⟨values, hv, has⟩ := h
  refine .array hv fun w hw => ?_
  obtain ⟨a, ha⟩ := mem_zip_of_mem has.length_eq hw
  exact hG ((List.forall₂_iff_zip.mp has).2 ha)

theorem OrNull.passes {G : List Char → α → Prop} (hG : ∀ {v a}, G v a → Passes v)
    {v : List Char} {a : Option α} (h : OrNull G v a) : Passes v := by
  cases a with
  | none =>
    obtain rfl : v = nullText := h
    exact passes_nullText
  | some a => exact hG h

theorem IsObject.passes {members : List (String × List Char)} {v : List Char}
    (h : IsObject SpellsKey members v) (hmembers : ∀ m ∈ members, Passes m.2) : Passes v :=
  .object (h.mono fun _ _ hk => Quotes.quotable hk) hmembers

theorem IsNamed.passes {U : List Char → Prop} (hU : ∀ {u}, U u → Passes u) {v : List Char}
    {s : String} (h : IsNamed U v s) : Passes v := by
  rcases h with h | ⟨u, hu, h⟩
  · exact h.passes
  · exact h.passes fun m hm => by
      obtain rfl := List.mem_singleton.mp hm
      exact hU hu

/-! ## What is refused -/

theorem refuse_ne_ok (cs : List Char) (p : α × List Char) : refuse cs ≠ .ok p :=
  refuseWith_ne_ok readQuoted cs p

/-! ## Texts, lists and names -/

theorem takes_readText : Takes readText IsText := by
  constructor
  · intro cs s rest h
    obtain ⟨b, hb, hcs⟩ := exists_skipBlank cs
    unfold readText at h
    split at h
    · rename_i after hskip
      obtain ⟨k, hk, rfl⟩ := readQuoted_eq_ok_iff.mp h
      rw [hskip] at hcs
      exact ⟨b, _, hb, ⟨k, hk, rfl⟩, by rw [hcs]; simp [inQuotes]⟩
    · exact absurd h (refuse_ne_ok _ _)
  · rintro b v s rest hb ⟨k, hk, rfl⟩ _
    have hcs : inQuotes k ++ rest = '"' :: (k ++ '"' :: rest) := by simp [inQuotes]
    rw [readText, skipBlank_blanks hb, hcs, skipBlank_cons (by decide)]
    exact readQuoted_eq_ok_iff.mpr ⟨k, hk, rfl⟩

theorem takes_readOptional {reader : Reader α} {G : List Char → α → Prop} (h : Takes reader G)
    (hopens : ∀ {v a}, G v a → Opens v) : Takes (readOptional reader) (OrNull G) := by
  constructor
  · intro cs a rest hread
    obtain ⟨b, hb, hcs⟩ := exists_skipBlank cs
    unfold readOptional at hread
    split at hread
    · rename_i after hskip
      obtain ⟨_, hword, hpure⟩ := ok_of_bind hread
      obtain ⟨rfl, rfl⟩ := Prod.mk.inj (Except.ok.inj hpure)
      rw [hskip, expectWord_eq_ok_iff.mp hword] at hcs
      exact ⟨b, nullText, hb, rfl, hcs⟩
    · obtain ⟨⟨a, after⟩, ha, hpure⟩ := ok_of_bind hread
      obtain ⟨rfl, rfl⟩ := Prod.mk.inj (Except.ok.inj hpure)
      obtain ⟨b', v, hb', hv, hskip⟩ := h.sound ha
      refine ⟨b ++ b', v, hb.append hb', hv, ?_⟩
      rw [List.append_assoc, ← hskip, ← hcs]
  · rintro b v (_ | a) rest hb hv hrest
    · obtain rfl : v = nullText := hv
      have hskip : skipBlank (b ++ (nullText ++ rest)) = 'n' :: (['u', 'l', 'l'] ++ rest) :=
        passes_nullText.starts.skipBlank_eq hb rest
      rw [readOptional, hskip]
      simp only [expectWord_append, bind, Except.bind, pure, Except.pure]
    · have hread : reader (v ++ rest) = .ok (a, rest) := h.complete blanks_nil hv hrest
      obtain ⟨ds, hds⟩ := hopens hv
      have hskip := (hopens hv).starts.skipBlank_eq hb rest
      unfold readOptional
      rw [hskip]
      split
      · rename_i heq
        rcases hds with rfl | rfl | rfl <;> cases heq
      · rw [hread]
        rfl

theorem takes_readList {reader : Reader α} {G : List Char → α → Prop} (h : Takes reader G)
    (hopens : ∀ {v a}, G v a → Opens v) : Takes (readList reader) (IsList G) := by
  have hstarts : ∀ {v a}, G v a → Starts v := fun hv => (hopens hv).starts
  constructor
  · intro cs as rest hread
    obtain ⟨b, hb, hcs⟩ := exists_skipBlank cs
    unfold readList at hread
    split at hread
    · rename_i after hskip
      obtain ⟨⟨items, _⟩, harray, hpure⟩ := ok_of_bind hread
      obtain ⟨rfl, rfl⟩ := Prod.mk.inj (Except.ok.inj hpure)
      rw [← List.reverse_reverse items] at harray
      obtain ⟨values, v, hv, hitems, hspan⟩ := (readArray_itemReader_iff h hstarts).mp harray
      exact ⟨b, v, hb, ⟨values, hv, hitems⟩, by rw [hcs, hskip, hspan]⟩
    · exact absurd hread (refuse_ne_ok _ _)
  · rintro b _ as rest hb ⟨values, ⟨body, hlist, rfl⟩, has⟩ _
    have hread : readArray (itemReader reader) [] ((body ++ [']']) ++ rest) =
        .ok (as.reverse, rest) :=
      (readArray_itemReader_iff h hstarts).mpr ⟨values, _, ⟨body, hlist, rfl⟩, has, rfl⟩
    unfold readList
    rw [skipBlank_blanks hb, List.cons_append, skipBlank_cons (by decide)]
    change (readArray (itemReader reader) [] _ >>= _) = _
    rw [hread]
    simp [bind, Except.bind, pure, Except.pure]

theorem takes_readNamed (value? : String → Option α) :
    Takes (readNamed value?) fun v a => ∃ s, value? s = some a ∧ IsText v s := by
  constructor
  · intro cs a rest hread
    obtain ⟨⟨s, after⟩, hs, hvalue⟩ := ok_of_bind hread
    obtain ⟨b, v, hb, hv, hcs⟩ := takes_readText.sound hs
    dsimp only at hvalue
    split at hvalue
    · rename_i ha
      obtain ⟨rfl, rfl⟩ := Prod.mk.inj (Except.ok.inj hvalue)
      exact ⟨b, v, hb, ⟨s, ha, hv⟩, hcs⟩
    · cases hvalue
  · rintro b v a rest hb ⟨s, ha, hv⟩ hrest
    simp only [readNamed, takes_readText.complete hb hv hrest, bind, Except.bind, ha]

theorem takes_readNull : Takes readNull fun v _ => v = nullText := by
  constructor
  · intro cs a rest hread
    obtain ⟨b, hb, hcs⟩ := exists_skipBlank cs
    unfold readNull at hread
    split at hread
    · rename_i after hskip
      obtain ⟨_, hword, hpure⟩ := ok_of_bind hread
      obtain ⟨rfl, rfl⟩ := Prod.mk.inj (Except.ok.inj hpure)
      rw [hskip, expectWord_eq_ok_iff.mp hword] at hcs
      exact ⟨b, nullText, hb, rfl, hcs⟩
    · exact absurd hread (refuse_ne_ok _ _)
  · rintro b _ ⟨⟩ rest hb rfl _
    have hskip : skipBlank (b ++ (nullText ++ rest)) = 'n' :: (['u', 'l', 'l'] ++ rest) :=
      passes_nullText.starts.skipBlank_eq hb rest
    rw [readNull, hskip]
    simp only [expectWord_append, bind, Except.bind, pure, Except.pure]

theorem isObject_nil_iff {K : List Char → String → Prop} {v : List Char} :
    IsObject K [] v ↔ ∃ b, Blanks b ∧ v = '{' :: (b ++ ['}']) := by
  constructor
  · rintro ⟨_, body, ⟨⟩, hlist, rfl⟩
    cases hlist with
    | none hb => exact ⟨body, hb, rfl⟩
  · rintro ⟨b, hb, rfl⟩
    exact ⟨[], b, .nil, .none hb, rfl⟩

theorem isObject_singleton_iff {K : List Char → String → Prop} {m : String × List Char}
    {v : List Char} :
    IsObject K [m] v ↔
      ∃ b p b', Blanks b ∧ IsMember K m p ∧ Blanks b' ∧ v = '{' :: (b ++ (p ++ (b' ++ ['}']))) := by
  constructor
  · rintro ⟨pieces, body, hpieces, hlist, rfl⟩
    cases hpieces with
    | cons hp hnil =>
      cases hnil
      cases hlist with
      | @last b _ b' hb hb' => exact ⟨b, _, b', hb, hp, hb', by simp⟩
  · rintro ⟨b, p, b', hb, hp, hb', rfl⟩
    exact ⟨[p], _, .cons hp .nil, .last hb hb', by simp⟩

theorem takes_readNothing :
    Takes readNothing fun v _ => v = nullText ∨ IsObject SpellsKey [] v := by
  constructor
  · intro cs a rest hread
    obtain ⟨b, hb, hcs⟩ := exists_skipBlank cs
    unfold readNothing at hread
    split at hread
    · rename_i after hskip
      obtain ⟨_, hclose, hpure⟩ := ok_of_bind hread
      obtain ⟨rfl, rfl⟩ := Prod.mk.inj (Except.ok.inj hpure)
      obtain ⟨b', hb', rfl⟩ := (skipBlank_eq_cons_iff (by decide)).mp (expect_eq_ok_iff.mp hclose)
      exact ⟨b, _, hb, Or.inr (isObject_nil_iff.mpr ⟨b', hb', rfl⟩), by rw [hcs, hskip]; simp⟩
    · obtain ⟨b', v, hb', hv, hskip⟩ := takes_readNull.sound hread
      refine ⟨b ++ b', v, hb.append hb', Or.inl hv, ?_⟩
      rw [List.append_assoc, ← hskip, ← hcs]
  · rintro b v ⟨⟩ rest hb (rfl | hv) hrest
    · have hread : readNull (nullText ++ rest) = .ok ((), rest) :=
        takes_readNull.complete blanks_nil rfl hrest
      have hskip := passes_nullText.starts.skipBlank_eq hb rest
      unfold readNothing
      rw [hskip, ← hread]
      rfl
    · obtain ⟨b', hb', rfl⟩ := isObject_nil_iff.mp hv
      rw [readNothing, skipBlank_blanks hb, List.cons_append, skipBlank_cons (by decide)]
      simp only [List.append_assoc, List.cons_append, List.nil_append, skipBlank_blanks hb',
        skipBlank_cons (show isBlank '}' = false by decide), expect_eq_ok_iff.mpr rfl, bind,
        Except.bind, pure, Except.pure]

/-- The reader of an object that has a name for its one key, after its brace. -/
theorem readNameOver_object_iff {unit : Reader Unit} {U : List Char → Prop}
    (h : Takes unit fun v _ => U v) (value? : String → Option α) {cs rest : List Char} {a : α} :
    readNameOver unit value? ('{' :: cs) = .ok (a, rest) ↔
      ∃ s u v, value? s = some a ∧ U u ∧ IsObject SpellsKey [(s, u)] v ∧ '{' :: cs = v ++ rest := by
  constructor
  · intro hread
    obtain ⟨⟨a, afterName⟩, hname, hread⟩ := ok_of_bind hread
    obtain ⟨afterColon, hcolon, hread⟩ := ok_of_bind hread
    obtain ⟨⟨_, afterUnit⟩, hunit, hread⟩ := ok_of_bind hread
    obtain ⟨_, hclose, hpure⟩ := ok_of_bind hread
    obtain ⟨rfl, rfl⟩ := Prod.mk.inj (Except.ok.inj hpure)
    obtain ⟨b, _, hb, ⟨s, hs, k, hk, rfl⟩, rfl⟩ := (takes_readNamed value?).sound hname
    obtain ⟨b₁, hb₁, rfl⟩ := readColon_eq_ok_iff.mp hcolon
    obtain ⟨b₂, u, hb₂, hu, rfl⟩ := h.sound hunit
    obtain ⟨b₃, hb₃, rfl⟩ := (skipBlank_eq_cons_iff (by decide)).mp (expect_eq_ok_iff.mp hclose)
    refine ⟨s, u, _, hs, hu, isObject_singleton_iff.mpr
      ⟨b, _, b₃, hb, ⟨k, b₁, b₂, hk, hb₁, hb₂, rfl⟩, hb₃, rfl⟩, ?_⟩
    simp [inQuotes]
  · rintro ⟨s, u, v, hs, hu, hv, hcs⟩
    obtain ⟨b, _, b₃, hb, ⟨k, b₁, b₂, hk, hb₁, hb₂, rfl⟩, hb₃, rfl⟩ :=
      isObject_singleton_iff.mp hv
    rw [List.cons_append] at hcs
    obtain rfl := (List.cons.inj hcs).2
    have hcolon : readColon (b₁ ++ ':' :: (b₂ ++ (u ++ (b₃ ++ '}' :: rest)))) =
        .ok (b₂ ++ (u ++ (b₃ ++ '}' :: rest))) := readColon_eq_ok_iff.mpr ⟨b₁, hb₁, rfl⟩
    have hname : readNamed value? (b ++ (inQuotes k ++
        (b₁ ++ ':' :: (b₂ ++ (u ++ (b₃ ++ '}' :: rest)))))) =
        .ok (a, b₁ ++ ':' :: (b₂ ++ (u ++ (b₃ ++ '}' :: rest)))) :=
      (takes_readNamed value?).complete hb ⟨s, hs, k, hk, rfl⟩ (hb₁.ends (ends_cons (by simp) _))
    have hunit : unit (b₂ ++ (u ++ (b₃ ++ '}' :: rest))) = .ok ((), b₃ ++ '}' :: rest) :=
      h.complete hb₂ hu (hb₃.ends (ends_cons (by simp) _))
    have hbody : b ++ ('"' :: (k ++ '"' :: (b₁ ++ ':' :: (b₂ ++ u))) ++ (b₃ ++ ['}'])) ++ rest =
        b ++ (inQuotes k ++ (b₁ ++ ':' :: (b₂ ++ (u ++ (b₃ ++ '}' :: rest))))) := by
      simp [inQuotes]
    rw [hbody, readNameOver, skipBlank_cons (by decide)]
    simp only [hname, hcolon, hunit, skipBlank_blanks hb₃,
      skipBlank_cons (show isBlank '}' = false by decide), expect_eq_ok_iff.mpr rfl, bind,
      Except.bind, pure, Except.pure]

theorem takes_readNameOver {unit : Reader Unit} {U : List Char → Prop}
    (h : Takes unit fun v _ => U v) (value? : String → Option α) :
    Takes (readNameOver unit value?) fun v a => ∃ s, value? s = some a ∧ IsNamed U v s := by
  constructor
  · intro cs a rest hread
    obtain ⟨b, hb, hcs⟩ := exists_skipBlank cs
    unfold readNameOver at hread
    split at hread
    · rename_i after hskip
      obtain ⟨s, u, v, hs, hu, hv, hspan⟩ := (readNameOver_object_iff h value?).mp hread
      exact ⟨b, v, hb, ⟨s, hs, Or.inr ⟨u, hu, hv⟩⟩, by rw [hcs, hskip, hspan]⟩
    · rename_i after hskip
      obtain ⟨b', v, hb', ⟨s, hs, hv⟩, hspan⟩ := (takes_readNamed value?).sound hread
      refine ⟨b ++ b', v, hb.append hb', ⟨s, hs, Or.inl hv⟩, ?_⟩
      rw [List.append_assoc, ← hspan, ← hskip, ← hcs]
    · cases hread
  · rintro b v a rest hb ⟨s, hs, hv | ⟨u, hu, hv⟩⟩ hrest
    · have hskip := hv.opens.starts.skipBlank_eq hb rest
      obtain ⟨k, hk, rfl⟩ := hv
      have hread : readNamed value? (inQuotes k ++ rest) = .ok (a, rest) :=
        (takes_readNamed value?).complete blanks_nil ⟨s, hs, k, hk, rfl⟩ hrest
      unfold readNameOver
      rw [hskip]
      exact hread
    · have hskip := hv.opens.starts.skipBlank_eq hb rest
      obtain ⟨pieces, body, hpieces, hlist, rfl⟩ := hv
      have hread : readNameOver unit value? ('{' :: ((body ++ ['}']) ++ rest)) = .ok (a, rest) :=
        (readNameOver_object_iff h value?).mpr
          ⟨s, u, _, hs, hu, ⟨pieces, body, hpieces, hlist, rfl⟩, rfl⟩
      unfold readNameOver
      rw [hskip]
      exact hread

/-! ## Spans -/

theorem take_span (b v rest : List Char) :
    (b ++ (v ++ rest)).take ((b ++ (v ++ rest)).length - rest.length) = b ++ v := by
  rw [← List.append_assoc, List.length_append, Nat.add_sub_cancel]
  exact List.take_left' rfl

theorem takes_readSpan {reader : Reader α} {G : List Char → α → Prop} (h : Takes reader G)
    (hstarts : ∀ {v a}, G v a → Starts v) :
    Takes (readSpan reader) fun v s => (∃ a, G v a) ∧ s = v := by
  constructor
  · intro cs s rest hread
    obtain ⟨⟨a, after⟩, ha, hpure⟩ := ok_of_bind hread
    obtain ⟨rfl, rfl⟩ := Prod.mk.inj (Except.ok.inj hpure)
    obtain ⟨b, hb, hcs⟩ := exists_skipBlank cs
    obtain ⟨b', v, hb', hv, hskip⟩ := h.sound ha
    have hv' : skipBlank cs = v ++ after := by
      rw [← skipBlank_idem, hskip, skipBlank_blanks hb', skipBlank_starts (hstarts hv)]
    have hspan := take_span [] v after
    rw [List.nil_append, List.nil_append, ← hv'] at hspan
    exact ⟨b, v, hb, ⟨⟨a, hv⟩, hspan⟩, hv' ▸ hcs⟩
  · rintro b _ v rest hb ⟨⟨a, hv⟩, rfl⟩ hrest
    have hread : reader (v ++ rest) = .ok (a, rest) := h.complete blanks_nil hv hrest
    have hspan := take_span [] v rest
    rw [List.nil_append, List.nil_append] at hspan
    simp only [readSpan, (hstarts hv).skipBlank_eq hb, hread, bind, Except.bind, pure,
      Except.pure, hspan]

/-- **A text is passed over in one way only.** -/
theorem Passes.unique {v v' rest rest' : List Char} (hv : Passes v) (hv' : Passes v')
    (hrest : Ends rest) (hrest' : Ends rest') (h : v ++ rest = v' ++ rest') :
    v = v' ∧ rest = rest' := by
  obtain ⟨hvalue, -, hafter⟩ :=
    (takes_skipValue ()).unique ⟨hv, rfl⟩ ⟨hv', rfl⟩ hrest hrest' h
  exact ⟨hvalue, hafter⟩

theorem takes_readEntriesWith {value : Reader α} {G : List Char → α → Prop} (h : Takes value G) :
    Takes (readEntriesWith value) fun v entries =>
      ∃ members, IsObject SpellsKey members v ∧ List.Forall₂ (MemberOf G) members entries := by
  constructor
  · intro cs entries rest hread
    obtain ⟨b, hb, hcs⟩ := exists_skipBlank cs
    unfold readEntriesWith at hread
    split at hread
    · rename_i after hskip
      obtain ⟨⟨entries, _⟩, hobject, hpure⟩ := ok_of_bind hread
      obtain ⟨rfl, rfl⟩ := Prod.mk.inj (Except.ok.inj hpure)
      obtain ⟨members, as, v, hv, has, rfl, hspan⟩ :=
        (readObject_fold_iff h fun entries m => m :: entries).mp hobject
      refine ⟨b, v, hb, ⟨members, hv, ?_⟩, by rw [hcs, hskip, hspan]⟩
      simpa using has
    · exact absurd hread (refuse_ne_ok _ _)
  · rintro b v entries rest hb ⟨members, hobject, has⟩ -
    obtain ⟨pieces, body, hpieces, hlist, rfl⟩ := hobject
    have hmembers : ∃ ms es v, IsObject SpellsKey ms v ∧ List.Forall₂ (MemberOf G) ms es ∧
        entries.reverse = es.foldl (fun entries m => m :: entries) [] ∧
          '{' :: ((body ++ ['}']) ++ rest) = v ++ rest :=
      ⟨members, entries, _, ⟨pieces, body, hpieces, hlist, rfl⟩, has, by simp, rfl⟩
    have hread := (readObject_fold_iff h fun entries m => m :: entries).mpr hmembers
    unfold readEntriesWith
    rw [skipBlank_blanks hb, List.cons_append, skipBlank_cons (by decide)]
    change (readObject readQuoted _ [] _ >>= _) = _
    rw [hread]
    simp [bind, Except.bind, pure, Except.pure]

/-- **An object has its members in one way only.** -/
theorem IsObject.unique {members members' : List (String × List Char)}
    {v v' rest rest' : List Char} (h : IsObject SpellsKey members v)
    (h' : IsObject SpellsKey members' v') (hpasses : ∀ m ∈ members, Passes m.2)
    (hpasses' : ∀ m ∈ members', Passes m.2) (hrest : Ends rest) (hrest' : Ends rest')
    (heq : v ++ rest = v' ++ rest') : v = v' ∧ members = members' ∧ rest = rest' := by
  have hspan : Takes (readSpan fun cs => do return ((), ← skipValue cs)) fun v s =>
      (∃ u, Passes v ∧ u = ()) ∧ s = v :=
    takes_readSpan (takes_skipValue ()) fun hv => hv.1.starts
  have hself : ∀ {ms : List (String × List Char)}, (∀ m ∈ ms, Passes m.2) →
      List.Forall₂ (MemberOf fun v s => (∃ u, Passes v ∧ u = ()) ∧ s = v) ms ms :=
    fun hms => List.forall₂_same.mpr fun m hm => ⟨rfl, ⟨(), hms m hm, rfl⟩, rfl⟩
  exact (takes_readEntriesWith hspan).unique ⟨members, h, hself hpasses⟩
    ⟨members', h', hself hpasses'⟩ hrest hrest' heq

/-- The text is an object with the members, whose values may be any, with white space around it. -/
def HasMembers (cs : List Char) (members : List (String × List Char)) : Prop :=
  ∃ b v b', Blanks b ∧ Blanks b' ∧ cs = b ++ (v ++ b') ∧ IsObject SpellsKey members v ∧
    ∀ m ∈ members, Passes m.2

theorem HasMembers.unique {cs : List Char} {members members' : List (String × List Char)}
    (h : HasMembers cs members) (h' : HasMembers cs members') : members = members' := by
  obtain ⟨b, v, b', hb, hb', hcs, hv, hpasses⟩ := h
  obtain ⟨b₁, v₁, b₁', hb₁, hb₁', hcs₁, hv₁, hpasses₁⟩ := h'
  have hskip := congrArg skipBlank (hcs.symm.trans hcs₁)
  rw [(hv.passes hpasses).starts.skipBlank_eq hb,
    (hv₁.passes hpasses₁).starts.skipBlank_eq hb₁] at hskip
  exact (hv.unique hv₁ hpasses hpasses₁ (ends_blanks hb') (ends_blanks hb₁') hskip).2.1

/-- **The members of an object one by one** are those that the text has, with the values that their
texts write. -/
theorem entries?_eq_some_iff {text : String} {entries : List (String × Json)} :
    entries? text = some entries ↔
      ∃ members, HasMembers text.toList members ∧
        List.Forall₂ (MemberOf (Writes (maxDepth - 1))) members entries := by
  rw [entries?, toOption_eq_some_iff, readEntries,
    (takes_readEntriesWith (takes_readValue (maxDepth - 1))).decode_iff]
  constructor
  · rintro ⟨b, v, b', hb, ⟨members, hv, hentries⟩, hb', hcs⟩
    obtain ⟨hkeys, hwrites⟩ := memberOf_iff.mp hentries
    refine ⟨members, ⟨b, v, b', hb, hb', hcs, hv, fun m hm => ?_⟩, hentries⟩
    obtain ⟨a, ha⟩ := mem_zip_of_mem hentries.length_eq hm
    exact (hwrites _ ha).passes
  · rintro ⟨members, ⟨b, v, b', hb, hb', hcs, hv, -⟩, hentries⟩
    exact ⟨b, v, b', hb, ⟨members, hv, hentries⟩, hb', hcs⟩

/-! ## Bytes -/

theorem isUtf8_byteChars_iff {bytes : List UInt8} :
    isUtf8 (byteChars bytes) = true ↔ ∃ s, bytes = Hash.utf8 s := by
  have hbytes : (byteChars bytes).map (fun c => UInt8.ofNat c.toNat) = bytes := by
    rw [byteChars, List.map_map]
    refine List.map_id'' (fun b => ?_) bytes
    rw [Function.comp_apply, Hash.toNat_ofNat_byte, UInt8.ofNat_toNat]
  rw [isUtf8, ofByteChars?, hbytes, Option.isSome_iff_exists]
  simp only [Hash.ofUtf8?_eq_some_iff]

theorem isUtf8_cons {c : Char} (hc : c.toNat ≤ 0x7f) (cs : List Char) :
    isUtf8 (c :: cs) = isUtf8 cs := by
  have hbyte : (UInt8.ofNat c.toNat).toNat ≤ 0x7f := by
    rw [UInt8.toNat_ofNat']
    omega
  exact Hash.isSome_ofUtf8?_cons hbyte _

theorem isUtf8_blanks {b : List Char} (hb : Blanks b) (cs : List Char) :
    isUtf8 (b ++ cs) = isUtf8 cs := by
  induction b with
  | nil => rfl
  | cons c b ih =>
    have hc := hb c List.mem_cons_self
    simp only [isBlank, Bool.or_eq_true, beq_iff_eq] at hc
    rw [List.cons_append, isUtf8_cons (by rcases hc with ((rfl | rfl) | rfl) | rfl <;> decide)]
    exact ih fun d hd => hb d (List.mem_cons_of_mem _ hd)

/-- **A reader of bytes takes what is UTF-8 among what it would take.** -/
theorem takes_readUtf8 {reader : Reader α} {G : List Char → α → Prop} (h : Takes reader G) :
    Takes (readUtf8 reader) fun v a => G v a ∧ isUtf8 v = true := by
  constructor
  · intro cs a rest hread
    obtain ⟨⟨a, after⟩, ha, hutf8⟩ := ok_of_bind hread
    obtain ⟨b, v, hb, hv, rfl⟩ := h.sound ha
    dsimp only at hutf8
    rw [take_span, isUtf8_blanks hb] at hutf8
    split at hutf8
    · rename_i hv8
      obtain ⟨rfl, rfl⟩ := Prod.mk.inj (Except.ok.inj hutf8)
      exact ⟨b, v, hb, ⟨hv, hv8⟩, rfl⟩
    · cases hutf8
  · rintro b v a rest hb ⟨hv, hv8⟩ hrest
    simp only [readUtf8, h.complete hb hv hrest, bind, Except.bind, take_span, isUtf8_blanks hb,
      hv8, if_true]

/-- Between quotes, the characters spell the name, and with the quotes they are UTF-8. -/
def SpellsUtf8 (k : List Char) (name : String) : Prop :=
  SpellsKey k name ∧ isUtf8 (inQuotes k) = true

theorem readUtf8_readQuoted_iff {cs rest : List Char} {name : String} :
    readUtf8 readQuoted cs = .ok (name, rest) ↔ ∃ k, SpellsUtf8 k name ∧ cs = k ++ '"' :: rest := by
  have hspan : ∀ k : List Char, isUtf8 ((k ++ '"' :: rest).take
      ((k ++ '"' :: rest).length - rest.length)) = isUtf8 (inQuotes k) := by
    intro k
    have htake := take_span k ['"'] rest
    rw [inQuotes, isUtf8_cons (by decide)]
    exact congrArg isUtf8 htake
  constructor
  · intro hread
    obtain ⟨⟨name, after⟩, hname, hutf8⟩ := ok_of_bind hread
    obtain ⟨k, hk, rfl⟩ := readQuoted_eq_ok_iff.mp hname
    dsimp only at hutf8
    split at hutf8
    · rename_i hk8
      obtain ⟨rfl, rfl⟩ := Prod.mk.inj (Except.ok.inj hutf8)
      exact ⟨k, ⟨hk, hspan k ▸ hk8⟩, rfl⟩
    · cases hutf8
  · rintro ⟨k, ⟨hk, hk8⟩, rfl⟩
    have hname : readQuoted (k ++ '"' :: rest) = .ok (name, rest) :=
      readQuoted_eq_ok_iff.mpr ⟨k, hk, rfl⟩
    simp only [readUtf8, hname, bind, Except.bind, hspan, hk8, if_true]

/-! ## Texts that stand for themselves -/

/-- The characters of the text stand for themselves in a string. -/
def isPlainText (s : String) : Bool :=
  s.toList.all fun c => 0x20 ≤ c.toNat && c != '"' && c != '\\'

theorem spellsKey_of_isPlainText {s : String} (h : isPlainText s = true) :
    SpellsKey s.toList s := by
  refine Quotes.of_plain fun c hc => ?_
  have hplain := List.all_eq_true.mp h c hc
  simp only [Bool.and_eq_true, decide_eq_true_eq, bne_iff_ne, ne_eq] at hplain
  exact ⟨hplain.1.1, hplain.1.2, hplain.2⟩

theorem isText_of_isPlainText {s : String} (h : isPlainText s = true) :
    IsText (inQuotes s.toList) s :=
  ⟨_, spellsKey_of_isPlainText h, rfl⟩

theorem isMember_of_isPlainText {name : String} (h : isPlainText name = true)
    (hutf8 : isUtf8 (inQuotes name.toList) = true) (v : List Char) :
    IsMember SpellsUtf8 (name, v) (inQuotes name.toList ++ ':' :: v) :=
  ⟨name.toList, [], [], ⟨spellsKey_of_isPlainText h, hutf8⟩, blanks_nil, blanks_nil,
    by simp [inQuotes]⟩

theorem listed_pair (p q : List Char) : Listed [p, q] (p ++ ',' :: q) := by
  have hlast : Listed [q] ([] ++ (q ++ [])) := .last blanks_nil blanks_nil
  have hmore : Listed [p, q] ([] ++ (p ++ ([] ++ ',' :: ([] ++ (q ++ []))))) :=
    .more blanks_nil blanks_nil hlast
  simpa using hmore

end SessionAuth.Json
