import Mathlib.Data.List.TakeWhile
import SessionAuth.Proofs.Json.Numbers

/-!
# The grammar of JSON text

What the readers take, said without them. A string is what stands between quotes, a container is
made of pieces with commas between them, and a value is one or the other, a number or a word.

* `Quotes`, `Quotable`: what stands between the quotes of a string that is read, and of one that is
  passed over.
* `Listed`, `IsArray`, `IsObject`: containers, from the texts of what they hold.
* `Writes`: a text writes a value, with so many containers around any part of it.
* `Passes`: a text is a value that is passed over, to whatever depth.
* `Writes.passes`: what is read could be passed over.
-/

namespace SessionAuth.Json

/-! ## White space -/

/-- White space between the parts of a text. -/
def Blanks (cs : List Char) : Prop := ∀ c ∈ cs, isBlank c = true

theorem blanks_nil : Blanks [] := fun _ hc => absurd hc List.not_mem_nil

theorem Blanks.append {b b' : List Char} (h : Blanks b) (h' : Blanks b') : Blanks (b ++ b') :=
  fun c hc => (List.mem_append.mp hc).elim (h c) (h' c)

theorem skipBlank_blanks {b : List Char} (h : Blanks b) (cs : List Char) :
    skipBlank (b ++ cs) = skipBlank cs :=
  List.dropWhile_append_of_pos h

theorem exists_skipBlank (cs : List Char) : ∃ b, Blanks b ∧ cs = b ++ skipBlank cs :=
  ⟨cs.takeWhile isBlank, fun _ hc => List.mem_takeWhile_imp hc,
    List.takeWhile_append_dropWhile.symm⟩

/-- What may follow a value or a key: white space, a comma, a colon, or the end of a container or
of the text. -/
def Ends (rest : List Char) : Prop :=
  ∀ c ∈ rest.head?, isBlank c = true ∨ c = ',' ∨ c = ':' ∨ c = ']' ∨ c = '}'

/-! ## Strings -/

/-- A character that stands for itself in a string. -/
structure Plain (c : Char) : Prop where
  visible : 0x20 ≤ c.toNat
  not_quote : c ≠ '"'
  not_backslash : c ≠ '\\'

/-- Between quotes the characters stand for the string: for themselves, or as escapes. An escape of
a surrogate counts only as one of a pair. -/
inductive Quotes : List Char → List Char → Prop
  | nil : Quotes [] []
  | plain {c : Char} {cs s : List Char} (hc : Plain c) (rest : Quotes cs s) :
      Quotes (c :: cs) (c :: s)
  | short {c d : Char} {cs s : List Char} (hc : shortEscape? c = some d) (rest : Quotes cs s) :
      Quotes ('\\' :: c :: cs) (d :: s)
  | unicode {a b c d : Char} {n : Nat} {cs s : List Char} (hn : hexFour? a b c d = some n)
      (hlow : isLowSurrogate n = false) (hhigh : isHighSurrogate n = false) (rest : Quotes cs s) :
      Quotes ('\\' :: 'u' :: a :: b :: c :: d :: cs) (Char.ofNat n :: s)
  | pair {a b c d a' b' c' d' : Char} {n m : Nat} {cs s : List Char}
      (hn : hexFour? a b c d = some n) (hm : hexFour? a' b' c' d' = some m)
      (hhigh : isHighSurrogate n = true) (hlow : isLowSurrogate m = true) (rest : Quotes cs s) :
      Quotes ('\\' :: 'u' :: a :: b :: c :: d :: '\\' :: 'u' :: a' :: b' :: c' :: d' :: cs)
        (pairChar n m :: s)

/-- What may stand between the quotes of a string that is passed over. Escapes need to have the
right shape only. -/
inductive Quotable : List Char → Prop
  | nil : Quotable []
  | plain {c : Char} {cs : List Char} (hc : Plain c) (rest : Quotable cs) : Quotable (c :: cs)
  | short {c : Char} {cs : List Char} (hc : (shortEscape? c).isSome) (rest : Quotable cs) :
      Quotable ('\\' :: c :: cs)
  | unicode {a b c d : Char} {cs : List Char} (hn : (hexFour? a b c d).isSome)
      (rest : Quotable cs) : Quotable ('\\' :: 'u' :: a :: b :: c :: d :: cs)

theorem Quotes.quotable {cs s : List Char} (h : Quotes cs s) : Quotable cs := by
  induction h with
  | nil => exact .nil
  | plain hc _ ih => exact .plain hc ih
  | short hc _ ih => exact .short (by rw [hc]; rfl) ih
  | unicode hn _ _ _ ih => exact .unicode (by rw [hn]; rfl) ih
  | pair hn hm _ _ _ ih => exact .unicode (by rw [hn]; rfl) (.unicode (by rw [hm]; rfl) ih)

theorem Quotes.of_plain {cs : List Char} (h : ∀ c ∈ cs, Plain c) : Quotes cs cs := by
  induction cs with
  | nil => exact .nil
  | cons c cs ih =>
    obtain ⟨hc, hcs⟩ := List.forall_mem_cons.mp h
    exact .plain hc (ih hcs)

/-- The text of a string in its quotes. -/
def inQuotes (cs : List Char) : List Char := '"' :: (cs ++ ['"'])

/-! ## Containers -/

/-- The pieces stand in the text with commas between them and white space around them. -/
inductive Listed : List (List Char) → List Char → Prop
  | none {b : List Char} (hb : Blanks b) : Listed [] b
  | last {b p b' : List Char} (hb : Blanks b) (hb' : Blanks b') : Listed [p] (b ++ (p ++ b'))
  | more {b p b' q : List Char} {ps : List (List Char)} {cs : List Char} (hb : Blanks b)
      (hb' : Blanks b') (rest : Listed (q :: ps) cs) :
      Listed (p :: q :: ps) (b ++ (p ++ (b' ++ ',' :: cs)))

theorem Listed.blank {ps : List (List Char)} {b cs : List Char} (hb : Blanks b)
    (h : Listed ps cs) : Listed ps (b ++ cs) := by
  cases h with
  | none hb' => exact .none (hb.append hb')
  | last hb₁ hb' =>
    rw [← List.append_assoc]
    exact .last (hb.append hb₁) hb'
  | more hb₁ hb' rest =>
    rw [← List.append_assoc]
    exact .more (hb.append hb₁) hb' rest

theorem Listed.length_le {ps : List (List Char)} {cs : List Char} (h : Listed ps cs) :
    ps.length ≤ cs.length + 1 := by
  induction h with
  | none => exact Nat.zero_le _
  | last => exact Nat.le_add_left 1 _
  | more _ _ _ ih =>
    simp only [List.length_cons, List.length_append] at ih ⊢
    omega

/-- The text of an array with the values. -/
def IsArray (values : List (List Char)) (cs : List Char) : Prop :=
  ∃ body, Listed values body ∧ cs = '[' :: (body ++ [']'])

/-- A member of an object and the text of it: what stands between the quotes of its key is one for
the name, by `K`, and its value comes after a colon. -/
def IsMember (K : List Char → String → Prop) (m : String × List Char) (piece : List Char) :
    Prop :=
  ∃ k b b', K k m.1 ∧ Blanks b ∧ Blanks b' ∧
    piece = '"' :: (k ++ '"' :: (b ++ ':' :: (b' ++ m.2)))

/-- The text of an object with the members, each of them a name and the text of a value. -/
def IsObject (K : List Char → String → Prop) (members : List (String × List Char))
    (cs : List Char) : Prop :=
  ∃ pieces body, List.Forall₂ (IsMember K) members pieces ∧ Listed pieces body ∧
    cs = '{' :: (body ++ ['}'])

theorem IsObject.mono {K K' : List Char → String → Prop} {members : List (String × List Char)}
    {cs : List Char} (h : IsObject K members cs) (hK : ∀ k s, K k s → K' k s) :
    IsObject K' members cs := by
  obtain ⟨pieces, body, hmembers, hbody, rfl⟩ := h
  refine ⟨pieces, body, hmembers.imp ?_, hbody, rfl⟩
  rintro m piece ⟨k, b, b', hk, hb, hb', rfl⟩
  exact ⟨k, b, b', hK _ _ hk, hb, hb', rfl⟩

/-- Between quotes, the characters spell the name. -/
def SpellsKey (k : List Char) (name : String) : Prop := Quotes k name.toList

/-! ## Values -/

/-- The text writes the value, with at most `depth` containers around any part of it. Of a key that
repeats the last value counts. -/
inductive Writes : (depth : Nat) → List Char → Json → Prop
  | null {depth : Nat} : Writes depth ['n', 'u', 'l', 'l'] .null
  | true {depth : Nat} : Writes depth ['t', 'r', 'u', 'e'] (.bool true)
  | false {depth : Nat} : Writes depth ['f', 'a', 'l', 's', 'e'] (.bool false)
  | number {depth : Nat} {t : NumberText} {n : Number} {cs : List Char} (ht : t.Written cs)
      (hn : t.value? = some n) : Writes depth cs (.number n)
  | string {depth : Nat} {k s : List Char} (h : Quotes k s) :
      Writes depth (inQuotes k) (.string (String.ofList s))
  | array {depth : Nat} {values : List (List Char)} {items : List Json} {cs : List Char}
      (h : IsArray values cs) (hlen : values.length = items.length)
      (hitems : ∀ p ∈ values.zip items, Writes depth p.1 p.2) :
      Writes (depth + 1) cs (.array items)
  | object {depth : Nat} {members : List (String × List Char)} {entries : List (String × Json)}
      {cs : List Char} (h : IsObject SpellsKey members cs)
      (hkeys : members.map Prod.fst = entries.map Prod.fst)
      (hentries : ∀ p ∈ members.zip entries, Writes depth p.1.2 p.2.2) :
      Writes (depth + 1) cs (.object (Fields.ofList entries))

/-- The text is a value that is no container. Its size does not matter if it is a number, and the
escapes in a string need to have the right shape only. -/
inductive Leaf : List Char → Prop
  | null : Leaf ['n', 'u', 'l', 'l']
  | true : Leaf ['t', 'r', 'u', 'e']
  | false : Leaf ['f', 'a', 'l', 's', 'e']
  | number {t : NumberText} {cs : List Char} (ht : t.Written cs) : Leaf cs
  | string {k : List Char} (h : Quotable k) : Leaf (inQuotes k)

/-- The text is a value that is passed over. Its containers nest to any depth. -/
inductive Passes : List Char → Prop
  | leaf {cs : List Char} (h : Leaf cs) : Passes cs
  | array {values : List (List Char)} {cs : List Char} (h : IsArray values cs)
      (hvalues : ∀ v ∈ values, Passes v) : Passes cs
  | object {members : List (String × List Char)} {cs : List Char}
      (h : IsObject (fun k _ => Quotable k) members cs) (hmembers : ∀ m ∈ members, Passes m.2) :
      Passes cs

theorem mem_zip_of_mem {α β : Type} {as : List α} {bs : List β} (hlen : as.length = bs.length)
    {a : α} (ha : a ∈ as) : ∃ b, (a, b) ∈ as.zip bs := by
  have hmap : (as.zip bs).map Prod.fst = as := List.map_fst_zip (Nat.le_of_eq hlen)
  rw [← hmap] at ha
  obtain ⟨⟨a, b⟩, hp, rfl⟩ := List.mem_map.mp ha
  exact ⟨b, hp⟩

/-- **What is read could be passed over.** -/
theorem Writes.passes {depth : Nat} {cs : List Char} {v : Json} (h : Writes depth cs v) :
    Passes cs := by
  induction h with
  | null => exact .leaf .null
  | true => exact .leaf .true
  | false => exact .leaf .false
  | number ht _ => exact .leaf (.number ht)
  | string h => exact .leaf (.string h.quotable)
  | array h hlen _ ih =>
    refine .array h fun v hv => ?_
    obtain ⟨x, hp⟩ := mem_zip_of_mem hlen hv
    exact ih _ hp
  | @object _ members entries _ h hkeys _ ih =>
    have hlen : members.length = entries.length := by
      simpa using congrArg List.length hkeys
    refine .object (h.mono fun k s hk => hk.quotable) fun m hm => ?_
    obtain ⟨x, hp⟩ := mem_zip_of_mem hlen hm
    exact ih _ hp

/-- A text begins with something that neither is white space nor ends a container. -/
def Starts (cs : List Char) : Prop :=
  ∃ c ds, cs = c :: ds ∧ isBlank c = false ∧ c ≠ ']' ∧ c ≠ '}'

theorem starts_cons {c : Char} {ds : List Char} (hb : isBlank c = false) (h : c ≠ ']')
    (h' : c ≠ '}') : Starts (c :: ds) :=
  ⟨c, ds, rfl, hb, h, h'⟩

theorem Leaf.starts {cs : List Char} (h : Leaf cs) : Starts cs := by
  cases h with
  | null | true | false => exact starts_cons (by decide) (by decide) (by decide)
  | number ht =>
    obtain ⟨c, rest, rfl, hc⟩ := ht.startsNumber
    obtain ⟨hb, -, -, -, -, -, -, hend⟩ := startsNumber_cases hc
    refine starts_cons hb hend ?_
    rintro rfl
    exact absurd hc (by decide)
  | string h => exact starts_cons (by decide) (by decide) (by decide)

theorem Passes.starts {cs : List Char} (h : Passes cs) : Starts cs := by
  cases h with
  | leaf h => exact h.starts
  | array h _ =>
    obtain ⟨body, -, rfl⟩ := h
    exact starts_cons (by decide) (by decide) (by decide)
  | object h _ =>
    obtain ⟨pieces, body, -, -, rfl⟩ := h
    exact starts_cons (by decide) (by decide) (by decide)

end SessionAuth.Json
