import SessionAuth.Hash.Words
import SessionAuth.Json.Parser
import SessionAuth.Json.Skip

/-!
# Records in JSON text

Readers of values whose shape is known in advance. They go through the text once: the first fault
in it decides, be it a fault of form or of shape.

A text that comes in bytes is read with every byte as the character of that number. All that gives
the text its form is ASCII and looks the same. Bytes that are not UTF-8 do no harm in a value that
is passed over, while every other piece has to be UTF-8.

* `refuse`: what a value of another shape than wanted comes to.
* `readText`, `readBounded`, `readOptional`, `readList`, `readUnitName`: readers of plain values.
* `readRecord`, `readRecordWith`: a record, written as an object or as an array of all its fields.
* `readUtf8`, `decodeBytes`: a piece of a text that comes in bytes, and the whole of it.
-/

namespace SessionAuth.Json

/-- A value of another shape than wanted. A container is refused at its start; any other value is
read to its end first, a string with `quoted`, so that a fault of form inside it is found. -/
def refuseWith {α : Type} (quoted : Reader String) : Reader α := fun cs =>
  match skipBlank cs with
  | '[' :: _ => .error .mismatch
  | '{' :: _ => .error .mismatch
  | '"' :: rest => do
    let _ ← quoted rest
    .error .mismatch
  | cs => do
    let _ ← readValueWith none cs
    .error .mismatch

def refuse {α : Type} : Reader α := refuseWith readQuoted

def readText : Reader String := fun cs =>
  match skipBlank cs with
  | '"' :: rest => readQuoted rest
  | cs => refuse cs

def readBounded (min max : Int) : Reader Int := fun cs => do
  match skipBlank cs with
  | c :: rest =>
    if startsNumber c then
      match ← readNumber (c :: rest) with
      | (.int n, rest) => if min ≤ n ∧ n ≤ max then .ok (n, rest) else .error .mismatch
      | (.float _, _) => .error .mismatch
    else refuse (c :: rest)
  | [] => .error .malformed

/-- Reads a value or `null`. -/
def readOptional {α : Type} (reader : Reader α) : Reader (Option α) := fun cs =>
  match skipBlank cs with
  | 'n' :: rest => do return (none, ← expectWord ['u', 'l', 'l'] rest)
  | cs => do
    let (a, rest) ← reader cs
    return (some a, rest)

def readList {α : Type} (reader : Reader α) : Reader (List α) := fun cs =>
  match skipBlank cs with
  | '[' :: rest => do
    let item (items : List α) : Reader (List α) := fun cs => do
      let (a, cs) ← reader cs
      return (a :: items, cs)
    let (items, rest) ← readArray item [] rest
    return (items.reverse, rest)
  | cs => refuse cs

def readNamed {α : Type} (value? : String → Option α) : Reader α := fun cs => do
  let (s, rest) ← readText cs
  match value? s with
  | some a => .ok (a, rest)
  | none => .error .mismatch

/-- Reads `null`. -/
def readNull : Reader Unit := fun cs =>
  match skipBlank cs with
  | 'n' :: rest => do return ((), ← expectWord ['u', 'l', 'l'] rest)
  | cs => refuse cs

/-- Reads `null` or an object without members. -/
def readNothing : Reader Unit := fun cs =>
  match skipBlank cs with
  | '{' :: rest => do return ((), ← expect '}' (skipBlank rest))
  | cs => readNull cs

/-- Reads one of several named values, written as its name or as an object with the name for its
one key and under it what `unit` reads. -/
def readNameOver {α : Type} (unit : Reader Unit) (value? : String → Option α) : Reader α :=
  fun cs =>
    match skipBlank cs with
    | '{' :: rest => do
      let (a, rest) ← readNamed value? rest
      let (_, rest) ← unit (← readColon rest)
      return (a, ← expect '}' (skipBlank rest))
    | '"' :: rest => readNamed value? ('"' :: rest)
    | _ => .error .malformed

/-- Reads one of several named values, written as its name or as an object with the name for its
one key and `null` under it. -/
def readUnitName {α : Type} (value? : String → Option α) : Reader α := readNameOver readNull value?

/-- A field of a record. A record under construction is a value of `σ`. -/
structure Field (σ : Type) where
  name : String
  /-- Whether the field has been read. -/
  isSet : σ → Bool
  /-- Reads the value of the field and stores it. -/
  read : σ → Reader σ

/-- Reads a member of an object: a known field, once, or a field to skip. -/
def readMember {σ : Type} (fields : List (Field σ)) (s : σ) (key : String) : Reader σ := fun cs =>
  match fields.find? (·.name == key) with
  | some field =>
    if field.isSet s then .error .mismatch else do field.read s (← readColon cs)
  | none => do return (s, ← skipValue (← readColon cs))

/-- Reads the fields after the first one of a record that is written as an array. -/
def readRest {σ : Type} : List (Field σ) → σ → Reader σ
  | [], s, cs => do return (s, ← expect ']' (skipBlank cs))
  | field :: fields, s, cs =>
    match skipBlank cs with
    | ']' :: _ => .error .mismatch
    | ',' :: cs => do
      let (s, cs) ← field.read s cs
      readRest fields s cs
    | _ => .error .malformed

/-- Reads all fields of a record that is written as an array, after its bracket. -/
def readInOrder {σ : Type} : List (Field σ) → σ → Reader σ
  | [], s, cs => readRest [] s cs
  | field :: fields, s, cs =>
    match skipBlank cs with
    | ']' :: _ => .error .mismatch
    | cs => do
      let (s, cs) ← field.read s cs
      readRest fields s cs

/-- The finished record; a field that is missing makes another shape of it. -/
def finishRecord {σ α : Type} (finish : σ → Option α) (s : σ) (rest : List Char) :
    Except Fault (α × List Char) :=
  match finish s with
  | some a => .ok (a, rest)
  | none => .error .mismatch

/-- Reads a record with the given fields from an object, whose keys `key` reads after the quote, or
from an array. -/
def readRecordWith {σ α : Type} (key : Reader String) (fields : List (Field σ)) (empty : σ)
    (finish : σ → Option α) : Reader α := fun cs =>
  match skipBlank cs with
  | '{' :: rest => do
    let (s, rest) ← readObject key (readMember fields) empty rest
    finishRecord finish s rest
  | '[' :: rest => do
    let (s, rest) ← readInOrder fields empty rest
    finishRecord finish s rest
  | cs => refuseWith key cs

/-- Reads a record with the given fields from an object or from an array. -/
def readRecord {σ α : Type} (fields : List (Field σ)) (empty : σ) (finish : σ → Option α) :
    Reader α := readRecordWith readQuoted fields empty finish

/-! ## Texts in bytes -/

def byteChars (bytes : List UInt8) : List Char := bytes.map fun b => Char.ofNat b.toNat

/-- The text that bytes are in UTF-8, the bytes given as characters. -/
def ofByteChars? (cs : List Char) : Option String :=
  Hash.ofUtf8? (cs.map fun c => UInt8.ofNat c.toNat)

def isUtf8 (cs : List Char) : Bool := (ofByteChars? cs).isSome

/-- Takes from bytes what `reader` takes, provided that it is UTF-8. -/
def readUtf8 {α : Type} (reader : Reader α) : Reader α := fun cs => do
  let (a, rest) ← reader cs
  if isUtf8 (cs.take (cs.length - rest.length)) then .ok (a, rest) else .error .malformed

/-- Reads a whole text that comes in bytes. -/
def decodeBytes {α : Type} (reader : Reader α) (bytes : List UInt8) : Except Fault α :=
  decode reader (String.ofList (byteChars bytes))

end SessionAuth.Json
