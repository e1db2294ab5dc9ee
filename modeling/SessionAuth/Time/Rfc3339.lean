import SessionAuth.Time.Instant
import SessionAuth.Text.Blank
import SessionAuth.Text.Digits

/-!
# Instants as text

An instant is written in UTC as `YYYY-MM-DDThh:mm:ss`, with the fewest of 0, 3, 6 or 9 digits of
the fraction that lose nothing, and a `Z`. A year of more than four digits and a negative year
carry their sign.

Reading is more generous: the parts of date and time may have fewer digits and white space
between and around them, a blank may stand for the `T`, and an offset from UTC may follow.

* `Instant.text`: the written form.
* `Instant.ofText?`: the instant that a text spells.
-/

namespace SessionAuth.Instant

/-- The year in four digits, or with its sign. -/
def yearText (year : Int) : String :=
  if 0 ≤ year ∧ year ≤ 9999 then Text.padded 4 year.toNat
  else (if year < 0 then "-" else "+") ++ Text.padded 4 year.natAbs

/-- The fraction of a second with the point, in the fewest groups of three digits. -/
def fractionText (nanos : Nat) : String :=
  if nanos = 0 then ""
  else if nanos % 1000000 = 0 then "." ++ Text.padded 3 (nanos / 1000000)
  else if nanos % 1000 = 0 then "." ++ Text.padded 6 (nanos / 1000)
  else "." ++ Text.padded 9 nanos

/-- The day of the instant, counted from 1970-01-01. -/
def dayNumber (t : Instant) : Int := t.seconds / 86400

def secondOfDay (t : Instant) : Nat := (t.seconds % 86400).toNat

def text (t : Instant) : String :=
  let date := Date.ofDays t.dayNumber
  let s := t.secondOfDay
  let leap := t.nanos / perSecond
  yearText date.year ++ "-" ++ Text.padded 2 date.month ++ "-" ++ Text.padded 2 date.day
    ++ "T" ++ Text.padded 2 (s / 3600) ++ ":" ++ Text.padded 2 (s / 60 % 60)
    ++ ":" ++ Text.padded 2 (s % 60 + leap) ++ fractionText (t.nanos % perSecond) ++ "Z"

/-! ## Reading -/

/-- Takes digits from the front of a text: one at least and `most` at most. -/
def takeNumber? (most : Nat) (cs : List Char) : Option (Nat × List Char) :=
  let digits := (cs.take most).takeWhile Char.isDigit
  if digits.isEmpty then none
  else some (Text.digitsValue 0 digits, cs.drop digits.length)

def takeDigits? (cs : List Char) : Option (Nat × List Char) := takeNumber? cs.length cs

/-- Takes a year: four digits at most, or any number of them after a sign. -/
def takeYear? (cs : List Char) : Option (Int × List Char) :=
  match cs with
  | '-' :: rest => (takeDigits? rest).map fun p => (-(p.1 : Int), p.2)
  | '+' :: rest => (takeDigits? rest).map fun p => ((p.1 : Int), p.2)
  | cs => (takeNumber? 4 cs).map fun p => ((p.1 : Int), p.2)

def takeMark? (mark : Char) (cs : List Char) : Option (List Char) :=
  match Text.trimStart cs with
  | c :: rest => if c = mark then some rest else none
  | [] => none

/-- Takes a number of two digits at most and the white space in front of it. -/
def takePart? (cs : List Char) : Option (Nat × List Char) := takeNumber? 2 (Text.trimStart cs)

/-- Takes the fraction of a second, if there is one. Nine of its digits count. -/
def takeFraction? (cs : List Char) : Option (Nat × List Char) :=
  match cs with
  | '.' :: rest =>
    let digits := rest.takeWhile Char.isDigit
    let counted := digits.take 9
    if digits.isEmpty then none
    else
      let nanos := Text.digitsValue 0 counted * Nat.pow 10 (9 - counted.length)
      some (nanos, rest.drop digits.length)
  | cs => some (0, cs)

/-- Takes two digits, the first one up to `high`. -/
def takeTwo? (high : Char) (cs : List Char) : Option (Nat × List Char) :=
  match cs with
  | a :: b :: rest =>
    if a.isDigit && b.isDigit && a ≤ high then some (Text.digitsValue 0 [a, b], rest) else none
  | _ => none

/-- Takes an offset from UTC in seconds: the letter `Z`, the word `UTC`, or hours and minutes. -/
def takeOffset? (cs : List Char) : Option (Int × List Char) :=
  let signed (sign : Int) (cs : List Char) : Option (Int × List Char) := do
    let (hours, cs) ← takeTwo? '9' cs
    let cs := cs.dropWhile fun c => c == ':' || Text.isBlank c
    let (minutes, cs) ← takeTwo? '5' cs
    return (sign * ((hours : Int) * 3600 + minutes * 60), cs)
  if (cs.take 3).map Char.toUpper = ['U', 'T', 'C'] then some (0, cs.drop 3)
  else
    match cs with
    | 'Z' :: rest => some (0, rest)
    | 'z' :: rest => some (0, rest)
    | '+' :: rest => signed 1 rest
    | '-' :: rest => signed (-1) rest
    | '−' :: rest => signed (-1) rest
    | _ => none

def isTimeMark (c : Char) : Bool := c == 'T' || c == 't' || c == ' '

/-- The instant of a date and a time of day at an offset from UTC. Second 60 is the leap second
after second 59. -/
def ofParts? (date : Date) (hour minute second nanos : Nat) (offset : Int) : Option Instant :=
  let local' := date.toDays * 86400 + hour * 3600 + minute * 60 + min second 59
  let t : Instant := ⟨local' - offset, nanos + if second = 60 then perSecond else 0⟩
  if date.valid && minYear ≤ date.year && date.year ≤ maxYear && hour < 24 && minute < 60
      && second ≤ 60 && offset.natAbs < 86400 && t.inCalendar then some t
  else none

def ofText? (text : String) : Option Instant := do
  let (year, cs) ← takeYear? (Text.trimStart text.toList)
  let (month, cs) ← takePart? (← takeMark? '-' cs)
  let (day, cs) ← takePart? (← takeMark? '-' cs)
  let cs ← match cs with
    | c :: rest => if isTimeMark c then some rest else none
    | [] => none
  let (hour, cs) ← takePart? cs
  let (minute, cs) ← takePart? (← takeMark? ':' cs)
  let (second, cs) ← takePart? (← takeMark? ':' cs)
  let (nanos, cs) ← takeFraction? cs
  let (offset, cs) ← takeOffset? (Text.trimStart cs)
  if (Text.trimStart cs).isEmpty then
    ofParts? ⟨year, month, day⟩ hour minute second nanos offset
  else none

end SessionAuth.Instant
