import SessionAuth.Json.Record
import SessionAuth.Proofs.Json.RoundTrip

/-!
# Records read back

The readers of values of a known shape undo the printer: each of them makes the right thing of a
value that is printed, and a record is put together member by member.

* `reads_text`, `reads_bounded`, `reads_named`, `reads_unitName`: plain values.
* `reads_some`, `reads_none`, `reads_list`: values that may be absent, and lists.
* `memberTaken_of_find`: a member of a record, by the field with its name.
* `reads_record`: a record, from its members.
-/

namespace SessionAuth.Json

variable {α : Type} {v : Json} {a : α}

/-! ## Plain values -/

theorem render_string (s : String) (rest : List Char) :
    render (.string s) ++ rest = '"' :: (escape s.toList ++ '"' :: rest) := by
  simp [render, quote]

theorem reads_text (s : String) : Reads readText (.string s) s := by
  intro rest _
  rw [render_string, readText, skipBlank_cons (by decide)]
  exact readQuoted_quote s rest

theorem reads_named {value? : String → Option α} {s : String} (h : value? s = some a) :
    Reads (readNamed value?) (.string s) a := by
  intro rest hr
  simp only [readNamed, reads_text s rest hr, bind, Except.bind, h]

theorem reads_unitName {value? : String → Option α} {s : String} (h : value? s = some a) :
    Reads (readUnitName value?) (.string s) a := by
  intro rest hr
  have hnamed := reads_named h rest hr
  rw [render_string] at hnamed ⊢
  rw [readUnitName, readNameOver, skipBlank_cons (by decide)]
  exact hnamed

/-- The text of a value starts as numbers do. -/
theorem render_int_starts {n : Int} (hmin : minInt64 ≤ n) (hmax : n ≤ maxNat64) :
    ∃ c cs, render (.int n) = c :: cs ∧ startsNumber c = true := by
  obtain ⟨c, cs, hc, hs⟩ := (readsBack_int hmin hmax).starts
  exact ⟨c, cs, by rw [int, render, hc], hs⟩

theorem reads_bounded {min max n : Int} (hmin : minInt64 ≤ n) (hmax : n ≤ maxNat64)
    (h : min ≤ n ∧ n ≤ max) : Reads (readBounded min max) (.int n) n := by
  intro rest hr
  obtain ⟨c, cs, hc, hs⟩ := render_int_starts hmin hmax
  have hread := (readsBack_int hmin hmax).reads rest hr
  have hrender : renderNumber (.int n) = c :: cs := by rw [← hc, int, render]
  rw [hrender, List.cons_append] at hread
  rw [hc, List.cons_append, readBounded, skipBlank_cons (startsNumber_cases hs).1]
  simp only [if_pos hs, hread, bind, Except.bind, if_pos h]

/-! ## Absent values and lists -/

/-- The text of the value cannot be taken for `null`. -/
def Present (v : Json) : Prop :=
  ∃ c cs, render v = c :: cs ∧ isBlank c = false ∧ c ≠ 'n'

theorem present_string (s : String) : Present (.string s) :=
  ⟨'"', escape s.toList ++ ['"'], by rw [render, quote], by decide, by decide⟩

theorem present_int {n : Int} (hmin : minInt64 ≤ n) (hmax : n ≤ maxNat64) :
    Present (.int n) := by
  obtain ⟨c, cs, hc, hs⟩ := render_int_starts hmin hmax
  obtain ⟨hblank, hne, -⟩ := startsNumber_cases hs
  exact ⟨c, cs, hc, hblank, hne⟩

theorem reads_some {reader : Reader α} (hv : Present v) (h : Reads reader v a) :
    Reads (readOptional reader) v (some a) := by
  intro rest hr
  obtain ⟨c, cs, hc, hblank, hne⟩ := hv
  have hread := h rest hr
  rw [hc, List.cons_append] at hread ⊢
  rw [readOptional, skipBlank_cons hblank]
  split
  · rename_i heq
    exact absurd (List.cons.inj heq).1 hne
  · rw [hread]
    rfl

theorem reads_none (reader : Reader α) : Reads (readOptional reader) .null none := by
  intro rest _
  have hword := expectWord_append ['u', 'l', 'l'] rest
  rw [render, List.cons_append, readOptional, skipBlank_cons (by decide)]
  simp only [hword, bind, Except.bind, pure, Except.pure]

theorem reads_list {reader : Reader α} {depth : Nat} {vs : List Json} {as : List α}
    (hp : ∀ v ∈ vs, Printable depth v) (h : List.Forall₂ (Reads reader) vs as) :
    Reads (readList reader) (.array vs) as := by
  intro rest _
  have hread := readArray_render hp h rest
  rw [render, List.cons_append, List.append_assoc, List.singleton_append, readList,
    skipBlank_cons (by decide)]
  change readArray (itemReader reader) [] _ >>= _ = _
  rw [hread]
  simp [bind, Except.bind, pure, Except.pure]

/-! ## Records -/

section Record

variable {σ : Type} {fields : List (Field σ)} {s s' : σ}

/-- A member of a record, once, is read as its field says. -/
theorem memberTaken_of_find {key : String} {field : Field σ}
    (hfind : fields.find? (·.name == key) = some field) (hunset : field.isSet s = false)
    (h : Reads (field.read s) v s') : MemberTaken (readMember fields) (key, v) s s' := by
  intro rest hr
  simp only [readMember, hfind, hunset, Bool.false_eq_true, if_false, readColon_cons, bind,
    Except.bind, h rest hr]

/-- **A record is read back** when its members are read and the finished record is had from what
they come to. -/
theorem reads_record {members : Fields} {empty : σ} {finish : σ → Option α}
    (h : Reaches (readMember fields) members empty s) (hfinish : finish s = some a) :
    Reads (readRecord fields empty finish) (.object members) a := by
  intro rest _
  have hread := readObject_render h rest
  rw [render, List.cons_append, List.append_assoc, List.singleton_append, readRecord,
    readRecordWith, skipBlank_cons (by decide)]
  simp only [hread, bind, Except.bind, finishRecord, hfinish]

end Record

end SessionAuth.Json
