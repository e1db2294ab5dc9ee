import SessionAuth.Proofs.Bind
import SessionAuth.Proofs.Text.Decimal
import SessionAuth.Proofs.Time.Calendar
import SessionAuth.Time.Rfc3339

/-!
# Instants read back

An instant that is written as a text is read back from it: its year may have a sign, its second may
be the leap second 60, and its fraction has as many digits as it takes.

* `Instant.settled`: the instant that is read back. It is the same instant, unless that is in a
  leap second that does not end a minute.
* `Instant.Representable`: the instants of the calendar, with leap seconds at the end of minutes.
* `ofText?_text`: an instant is read back.
* `representable_iff`: every instant that is read is one of these.
-/

namespace SessionAuth.Instant

/-! ## Parts of a text -/

section Parts

variable {ds rest : List Char}

theorem trimStart_digits (h : Text.isDigits ds = true) (rest : List Char) :
    Text.trimStart (ds ++ rest) = ds ++ rest := by
  refine Text.trimStart_eq_self fun c hc => ?_
  cases ds with
  | nil => exact absurd h (by decide)
  | cons d ds =>
    obtain rfl := Option.some.inj hc
    exact Text.not_blank_of_isDigit (Text.mem_isDigit_of_isDigits h d List.mem_cons_self)

/-- Digits are taken as far as they go, or as far as they may. -/
theorem takeNumber?_append {most : Nat} (hds : Text.isDigits ds = true) (hle : ds.length ≤ most)
    (hstop : ds.length = most ∨ ∀ c ∈ rest.head?, c.isDigit = false) :
    takeNumber? most (ds ++ rest) = some (Text.digitsValue 0 ds, rest) := by
  have hend : ∀ c ∈ (rest.take (most - ds.length)).head?, c.isDigit = false := by
    intro c hc
    rcases hstop with hfull | hstop
    · rw [hfull, Nat.sub_self, List.take_zero] at hc
      cases hc
    · cases rest with
      | nil => simp at hc
      | cons d rest =>
        cases hk : most - ds.length with
        | zero => simp [hk] at hc
        | succ k =>
          rw [hk, List.take_succ_cons] at hc
          exact hstop c hc
  have htake : ((ds ++ rest).take most).takeWhile Char.isDigit = ds := by
    rw [List.take_append, List.take_of_length_le hle]
    exact Text.takeWhile_isDigit_append (Text.mem_isDigit_of_isDigits hds) hend
  unfold takeNumber?
  rw [htake]
  simp [(Text.isDigits_iff.mp hds).1]

theorem takeDigits?_append (hds : Text.isDigits ds = true)
    (hstop : ∀ c ∈ rest.head?, c.isDigit = false) :
    takeDigits? (ds ++ rest) = some (Text.digitsValue 0 ds, rest) :=
  takeNumber?_append hds (by simp) (Or.inr hstop)

theorem takeYear?_unsigned (hds : Text.isDigits ds = true) (rest : List Char) :
    takeYear? (ds ++ rest) = (takeNumber? 4 (ds ++ rest)).map fun p => ((p.1 : Int), p.2) := by
  have hsign : ∀ c cs, ds ++ rest = c :: cs → c.isDigit = true := by
    intro c cs heq
    cases ds with
    | nil => exact absurd hds (by decide)
    | cons d ds =>
      obtain rfl := (List.cons.inj heq).1
      exact Text.mem_isDigit_of_isDigits hds d List.mem_cons_self
  unfold takeYear?
  split
  · rename_i heq
    exact absurd (hsign _ _ heq) (by decide)
  · rename_i heq
    exact absurd (hsign _ _ heq) (by decide)
  · rfl

theorem takeYear?_minus (cs : List Char) :
    takeYear? ('-' :: cs) = (takeDigits? cs).map fun p => (-(p.1 : Int), p.2) := rfl

theorem takeYear?_plus (cs : List Char) :
    takeYear? ('+' :: cs) = (takeDigits? cs).map fun p => ((p.1 : Int), p.2) := rfl

theorem takeYear?_append (year : Int) {mark : Char} (hmark : mark.isDigit = false)
    (rest : List Char) :
    takeYear? ((yearText year).toList ++ mark :: rest) = some (year, mark :: rest) := by
  have hstop : ∀ c ∈ (mark :: rest).head?, c.isDigit = false := by simpa using hmark
  unfold yearText
  split
  · rename_i hyear
    have hdigits := Text.isDigits_padded 4 year.toNat
    have hlength : (Text.padded 4 year.toNat).toList.length = 4 :=
      Text.length_padded (by decide) (by omega)
    rw [takeYear?_unsigned hdigits,
      takeNumber?_append hdigits (Nat.le_of_eq hlength) (Or.inl hlength), Text.digitsValue_padded,
      Option.map_some, Int.toNat_of_nonneg hyear.1]
  · have hdigits := takeDigits?_append (Text.isDigits_padded 4 year.natAbs) hstop
    rw [Text.digitsValue_padded] at hdigits
    rw [String.toList_append, List.append_assoc]
    split
    · have hvalue : -(year.natAbs : Int) = year := by omega
      rw [show "-".toList = ['-'] from rfl, List.singleton_append, takeYear?_minus, hdigits,
        Option.map_some, hvalue]
    · have hvalue : (year.natAbs : Int) = year := by omega
      rw [show "+".toList = ['+'] from rfl, List.singleton_append, takeYear?_plus, hdigits,
        Option.map_some, hvalue]

theorem takeMark?_cons {mark : Char} (h : Text.isBlank mark = false) (rest : List Char) :
    takeMark? mark (mark :: rest) = some rest := by
  have htrim : Text.trimStart (mark :: rest) = mark :: rest := by
    refine Text.trimStart_eq_self fun c hc => ?_
    obtain rfl := Option.some.inj hc
    exact h
  unfold takeMark?
  rw [htrim]
  exact if_pos rfl

theorem takePart?_append {n : Nat} (h : n < 100) (rest : List Char) :
    takePart? ((Text.padded 2 n).toList ++ rest) = some (n, rest) := by
  have hdigits := Text.isDigits_padded 2 n
  have hlength : (Text.padded 2 n).toList.length = 2 := Text.length_padded (by decide) h
  rw [takePart?, trimStart_digits hdigits, takeNumber?_append hdigits (Nat.le_of_eq hlength)
    (Or.inl hlength), Text.digitsValue_padded]

/-- A fraction that is written with some of its nine digits. -/
theorem takeFraction?_padded {width value : Nat} (hwidth : 0 < width) (hnine : width ≤ 9)
    (hvalue : value < 10 ^ width) (hstop : ∀ c ∈ rest.head?, c.isDigit = false) :
    takeFraction? ('.' :: ((Text.padded width value).toList ++ rest)) =
      some (value * Nat.pow 10 (9 - width), rest) := by
  have hdigits := Text.isDigits_padded width value
  have hlength := Text.length_padded hwidth hvalue
  have htake := Text.takeWhile_isDigit_append (Text.mem_isDigit_of_isDigits hdigits) hstop
  have hcounted := List.take_of_length_le (Nat.le_trans (Nat.le_of_eq hlength) hnine)
  rw [takeFraction?]
  dsimp only
  rw [htake, hcounted, Text.digitsValue_padded, List.drop_left, hlength,
    if_neg (Bool.eq_false_iff.mp (Text.isDigits_iff.mp hdigits).1)]

theorem takeFraction?_none (hstop : ∀ c ∈ rest.head?, c ≠ '.') :
    takeFraction? rest = some (0, rest) := by
  unfold takeFraction?
  split
  · exact absurd rfl (hstop '.' rfl)
  · rfl

theorem takeFraction?_append {nanos : Nat} (h : nanos < perSecond) {mark : Char}
    (hmark : mark.isDigit = false) (hne : mark ≠ '.') (rest : List Char) :
    takeFraction? ((fractionText nanos).toList ++ mark :: rest) = some (nanos, mark :: rest) := by
  have hdigit : ∀ c ∈ (mark :: rest).head?, c.isDigit = false := by simpa using hmark
  have hpoint : ∀ s : String, ("." ++ s).toList ++ mark :: rest =
      '.' :: (s.toList ++ mark :: rest) := by
    intro s
    rw [String.toList_append]
    rfl
  unfold perSecond at h
  unfold fractionText
  split
  · rename_i hzero
    rw [hzero]
    exact takeFraction?_none (by simpa using hne)
  split
  · rename_i hmillis
    rw [hpoint, takeFraction?_padded (by decide) (by decide) (by omega) hdigit]
    exact congrArg some (Prod.ext (by simp; omega) rfl)
  split
  · rename_i hmicros
    rw [hpoint, takeFraction?_padded (by decide) (by decide) (by omega) hdigit]
    exact congrArg some (Prod.ext (by simp; omega) rfl)
  · rw [hpoint, takeFraction?_padded (by decide) (by decide) h hdigit]
    exact congrArg some (Prod.ext (by simp) rfl)

end Parts

/-! ## Whole texts -/

/-- The characters that stand for a date, a time of day and a fraction in UTC. -/
def chars (date : Date) (hour minute second nanos : Nat) : List Char :=
  (yearText date.year).toList ++ '-' :: ((Text.padded 2 date.month).toList ++
    '-' :: ((Text.padded 2 date.day).toList ++ 'T' :: ((Text.padded 2 hour).toList ++
    ':' :: ((Text.padded 2 minute).toList ++ ':' :: ((Text.padded 2 second).toList ++
    ((fractionText nanos).toList ++ ['Z']))))))

theorem text_toList (t : Instant) : t.text.toList =
    chars (Date.ofDays t.dayNumber) (t.secondOfDay / 3600) (t.secondOfDay / 60 % 60)
      (t.secondOfDay % 60 + t.nanos / perSecond) (t.nanos % perSecond) := by
  have hmarks : "-".toList = ['-'] ∧ "T".toList = ['T'] ∧ ":".toList = [':'] ∧
      "Z".toList = ['Z'] := ⟨rfl, rfl, rfl, rfl⟩
  simp only [text, chars, String.toList_append, List.append_assoc, hmarks, List.cons_append,
    List.nil_append]

theorem trimStart_yearText (year : Int) (rest : List Char) :
    Text.trimStart ((yearText year).toList ++ rest) = (yearText year).toList ++ rest := by
  have hsign : ∀ (sign : Char) (cs : List Char), Text.isBlank sign = false →
      Text.trimStart (sign :: cs) = sign :: cs := fun sign cs h =>
    Text.trimStart_eq_self fun c hc => Option.some.inj hc ▸ h
  unfold yearText
  split
  · exact trimStart_digits (Text.isDigits_padded _ _) _
  · rw [String.toList_append, List.append_assoc]
    split
    · exact hsign '-' _ (by decide)
    · exact hsign '+' _ (by decide)

theorem ofText?_chars {s : String} {date : Date} {hour minute second nanos : Nat}
    (hs : s.toList = chars date hour minute second nanos)
    (hmonth : date.month < 100) (hday : date.day < 100) (hhour : hour < 100)
    (hminute : minute < 100) (hsecond : second < 100) (hnanos : nanos < perSecond) :
    ofText? s = ofParts? date hour minute second nanos 0 := by
  have hdash : Text.isBlank '-' = false := by decide
  have hcolon : Text.isBlank ':' = false := by decide
  have hmark : isTimeMark 'T' = true := by decide
  have hzone : takeOffset? (Text.trimStart ['Z']) = some (0, []) := by decide
  have hyear := takeYear?_append date.year (show '-'.isDigit = false by decide)
  have hfraction := takeFraction?_append hnanos (show 'Z'.isDigit = false by decide)
    (by decide) []
  -- One step of the reader after another, in the order in which it takes them.
  unfold ofText?
  rw [hs, chars, trimStart_yearText]
  refine (bind_eq_of_some (hyear _) _).trans ?_
  refine (bind_eq_of_some (takeMark?_cons hdash _) _).trans ?_
  refine (bind_eq_of_some (takePart?_append hmonth _) _).trans ?_
  refine (bind_eq_of_some (takeMark?_cons hdash _) _).trans ?_
  refine (bind_eq_of_some (takePart?_append hday _) _).trans ?_
  dsimp only
  rw [if_pos hmark]
  refine (bind_eq_of_some rfl _).trans ?_
  refine (bind_eq_of_some (takePart?_append hhour _) _).trans ?_
  refine (bind_eq_of_some (takeMark?_cons hcolon _) _).trans ?_
  refine (bind_eq_of_some (takePart?_append hminute _) _).trans ?_
  refine (bind_eq_of_some (takeMark?_cons hcolon _) _).trans ?_
  refine (bind_eq_of_some (takePart?_append hsecond _) _).trans ?_
  refine (bind_eq_of_some hfraction _).trans ?_
  refine (bind_eq_of_some hzone _).trans ?_
  exact if_pos rfl

/-! ## Instants -/

/-- The instant that is read back: a leap second that does not end a minute is written as the next
second, and read as that. -/
def settled (t : Instant) : Instant :=
  if perSecond ≤ t.nanos ∧ t.seconds % 60 ≠ 59 then ⟨t.seconds + 1, t.nanos - perSecond⟩ else t

/-- An instant that is in the calendar. It may be in a leap second, at the end of a minute; anywhere
else a leap second would share its text with the next second. -/
structure Representable (t : Instant) : Prop where
  inCalendar : t.inCalendar = true
  nanos : t.nanos < 2 * perSecond
  leap : perSecond ≤ t.nanos → t.seconds % 60 = 59

instance (t : Instant) : Decidable t.Representable :=
  decidable_of_decidable_of_iff (p := t.inCalendar = true ∧ t.nanos < 2 * perSecond ∧
      (perSecond ≤ t.nanos → t.seconds % 60 = 59))
    ⟨fun ⟨hcalendar, hnanos, hleap⟩ => ⟨hcalendar, hnanos, hleap⟩,
      fun ⟨hcalendar, hnanos, hleap⟩ => ⟨hcalendar, hnanos, hleap⟩⟩

theorem Representable.settled {t : Instant} (h : t.Representable) : t.settled = t := by
  refine if_neg fun ⟨hnanos, hsecond⟩ => ?_
  exact hsecond (h.leap hnanos)

theorem inCalendar_settled {t : Instant} (h : t.inCalendar = true) :
    t.settled.inCalendar = true := by
  have hmax : maxSeconds = 8210266876799 := by decide
  unfold settled
  split
  · simp only [inCalendar, Bool.and_eq_true, decide_eq_true_eq] at h ⊢
    omega
  · exact h

/-- The parts of a text make up the instant that is read back. -/
theorem settled_eq {t : Instant} (hnanos : t.nanos < 2 * perSecond) {second : Nat}
    (hsecond : second = t.secondOfDay % 60 + t.nanos / perSecond) :
    t.settled = ⟨t.dayNumber * 86400 + (t.secondOfDay / 3600 : Nat) * 3600 +
      (t.secondOfDay / 60 % 60 : Nat) * 60 + min second 59,
      t.nanos % perSecond + if second = 60 then perSecond else 0⟩ := by
  have hday : (t.secondOfDay : Int) = t.seconds % 86400 := by
    unfold secondOfDay
    omega
  generalize t.secondOfDay = k at hday hsecond ⊢
  obtain ⟨seconds, nanos⟩ := t
  unfold settled dayNumber perSecond at *
  dsimp only at *
  by_cases hleap : second = 60
  · rw [if_pos hleap]
    split <;> simp only [Instant.mk.injEq] <;> omega
  · rw [if_neg hleap]
    split <;> simp only [Instant.mk.injEq] <;> omega

theorem monthLength_le (year : Int) (month : Nat) : Date.monthLength year month ≤ 31 := by
  unfold Date.monthLength
  split
  · split <;> decide
  · split <;> decide

theorem ofParts?_settled {t : Instant} (h : t.inCalendar = true)
    (hnanos : t.nanos < 2 * perSecond) :
    ofParts? (Date.ofDays t.dayNumber) (t.secondOfDay / 3600) (t.secondOfDay / 60 % 60)
      (t.secondOfDay % 60 + t.nanos / perSecond) (t.nanos % perSecond) 0 = some t.settled := by
  have hsettled := settled_eq hnanos rfl
  have hcalendar := inCalendar_settled h
  have hvalid := Date.valid_ofDays t.dayNumber
  have hyear : minYear ≤ (Date.ofDays t.dayNumber).year ∧
      (Date.ofDays t.dayNumber).year ≤ maxYear := by
    rw [inCalendar, Bool.and_eq_true, decide_eq_true_eq, decide_eq_true_eq] at h
    unfold minSeconds maxSeconds at h
    refine Date.year_ofDays_bounds ?_ ?_ <;> unfold dayNumber <;> omega
  have hday : t.secondOfDay < 86400 := by
    unfold secondOfDay
    omega
  have hhour : t.secondOfDay / 3600 < 24 := by omega
  have hminute : t.secondOfDay / 60 % 60 < 60 := by omega
  have hsecond : t.secondOfDay % 60 + t.nanos / perSecond ≤ 60 := by
    unfold perSecond at *
    omega
  unfold ofParts?
  dsimp only
  rw [Date.toDays_ofDays, Int.sub_zero, ← hsettled, if_pos]
  simp [hvalid, hyear, hhour, hminute, hsecond, hcalendar]

/-- **An instant is read back** from the text that it is written as. -/
theorem ofText?_text {t : Instant} (h : t.inCalendar = true) (hnanos : t.nanos < 2 * perSecond) :
    ofText? t.text = some t.settled := by
  have hvalid := Date.valid_ofDays t.dayNumber
  have hlength := monthLength_le (Date.ofDays t.dayNumber).year (Date.ofDays t.dayNumber).month
  have hday : t.secondOfDay < 86400 := by
    unfold secondOfDay
    omega
  simp only [Date.valid, Bool.and_eq_true, decide_eq_true_eq] at hvalid
  rw [ofText?_chars t.text_toList (by omega) (by omega) (by omega) (by omega)
    (by unfold perSecond at *; omega) (Nat.mod_lt _ (by decide))]
  exact ofParts?_settled h hnanos

theorem Representable.ofText?_text {t : Instant} (h : t.Representable) :
    ofText? t.text = some t := by
  rw [Instant.ofText?_text h.inCalendar h.nanos, h.settled]

/-! ## Every instant that is read -/

theorem takeFraction?_lt {cs rest : List Char} {nanos : Nat}
    (h : takeFraction? cs = some (nanos, rest)) : nanos < perSecond := by
  unfold takeFraction? at h
  split at h
  · rename_i digits
    dsimp only at h
    split at h
    · cases h
    · generalize hcounted : (digits.takeWhile Char.isDigit).take 9 = counted at h
      obtain ⟨rfl, -⟩ := Prod.mk.inj (Option.some.inj h)
      have hlength : counted.length ≤ 9 := by
        rw [← hcounted]
        exact List.length_take_le _ _
      have hdigits : ∀ c ∈ counted, c.isDigit = true := by
        intro c hc
        rw [← hcounted] at hc
        exact List.all_eq_true.mp List.all_takeWhile c (List.mem_of_mem_take hc)
      have hvalue : Text.digitsValue 0 counted < 10 ^ counted.length :=
        Text.digitsValue_lt hdigits
      calc Text.digitsValue 0 counted * 10 ^ (9 - counted.length)
          < 10 ^ counted.length * 10 ^ (9 - counted.length) :=
            Nat.mul_lt_mul_of_pos_right hvalue (Nat.pow_pos (by omega))
        _ = 10 ^ 9 := by rw [← Nat.pow_add, Nat.add_sub_cancel' hlength]
        _ = perSecond := rfl
  · obtain ⟨rfl, -⟩ := Prod.mk.inj (Option.some.inj h)
    decide

/-- An offset from UTC has no seconds. -/
theorem takeOffset?_minutes {cs rest : List Char} {offset : Int}
    (h : takeOffset? cs = some (offset, rest)) : offset % 60 = 0 := by
  have hsigned : ∀ {sign : Int} {cs : List Char}, ((takeTwo? '9' cs).bind fun p =>
      (takeTwo? '5' (p.2.dropWhile fun c => c == ':' || Text.isBlank c)).bind fun q =>
        some (sign * ((p.1 : Int) * 3600 + q.1 * 60), q.2)) = some (offset, rest) →
      offset % 60 = 0 := by
    intro sign cs h
    simp only [Option.bind_eq_some_iff, Option.some.injEq, Prod.mk.injEq] at h
    obtain ⟨p, -, q, -, rfl, -⟩ := h
    refine Int.emod_eq_zero_of_dvd (Int.dvd_mul_of_dvd_right ?_)
    omega
  unfold takeOffset? at h
  dsimp only at h
  split at h
  · cases h
    rfl
  split at h
  · cases h
    rfl
  · cases h
    rfl
  · exact hsigned h
  · exact hsigned h
  · exact hsigned h
  · cases h

theorem ofParts?_representable {date : Date} {hour minute second nanos : Nat} {offset : Int}
    {t : Instant} (hnanos : nanos < perSecond) (hoffset : offset % 60 = 0)
    (h : ofParts? date hour minute second nanos offset = some t) : t.Representable := by
  unfold ofParts? at h
  dsimp only at h
  obtain ⟨hchecks, h⟩ := Option.ite_none_right_eq_some.mp h
  obtain rfl := Option.some.inj h
  simp only [Bool.and_eq_true] at hchecks
  refine ⟨hchecks.2, ?_, fun hleap => ?_⟩
  · dsimp only
    split <;> omega
  · have hsecond : second = 60 := by
      dsimp only at hleap
      split at hleap <;> omega
    dsimp only
    omega

theorem representable_of_ofText? {s : String} {t : Instant} (h : ofText? s = some t) :
    t.Representable := by
  unfold ofText? at h
  obtain ⟨year, -, h⟩ := Option.bind_eq_some_iff.mp h
  obtain ⟨_, -, h⟩ := Option.bind_eq_some_iff.mp h
  obtain ⟨month, -, h⟩ := Option.bind_eq_some_iff.mp h
  obtain ⟨_, -, h⟩ := Option.bind_eq_some_iff.mp h
  obtain ⟨day, -, h⟩ := Option.bind_eq_some_iff.mp h
  dsimp only at h
  split at h
  · split at h
    · obtain ⟨_, -, h⟩ := Option.bind_eq_some_iff.mp h
      obtain ⟨hour, -, h⟩ := Option.bind_eq_some_iff.mp h
      obtain ⟨_, -, h⟩ := Option.bind_eq_some_iff.mp h
      obtain ⟨minute, -, h⟩ := Option.bind_eq_some_iff.mp h
      obtain ⟨_, -, h⟩ := Option.bind_eq_some_iff.mp h
      obtain ⟨second, -, h⟩ := Option.bind_eq_some_iff.mp h
      obtain ⟨fraction, hfraction, h⟩ := Option.bind_eq_some_iff.mp h
      obtain ⟨offset, hoffset, h⟩ := Option.bind_eq_some_iff.mp h
      obtain ⟨-, h⟩ := Option.ite_none_right_eq_some.mp h
      exact ofParts?_representable (takeFraction?_lt hfraction) (takeOffset?_minutes hoffset) h
    · cases h
  · cases h

/-- **The representable instants are those that a text spells.** -/
theorem representable_iff {t : Instant} : t.Representable ↔ ∃ s, ofText? s = some t :=
  ⟨fun h => ⟨t.text, h.ofText?_text⟩, fun ⟨_, h⟩ => representable_of_ofText? h⟩

end SessionAuth.Instant
