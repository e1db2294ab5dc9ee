import SessionAuth.Json.Quoted
import SessionAuth.Json.Number

/-!
# Values in JSON text

* `readValue`: reads a value whose containers nest no deeper than a limit. The members of an
  object are stored in the order of their keys; of a repeated key the last value counts.
* `parse`: the value of a whole text, with at most 127 containers around any part of it.
-/

namespace SessionAuth.Json

/-- Containers around a part of a text, at most. -/
def maxDepth : Nat := 127

def startsNumber (c : Char) : Bool := c == '-' || c.isDigit

/-- Reads a value, and the values inside it with `child`. -/
def readValueWith (child : Option (Reader Json)) : Reader Json := fun cs =>
  match skipBlank cs with
  | 'n' :: rest => do return (.null, ← expectWord ['u', 'l', 'l'] rest)
  | 't' :: rest => do return (.bool true, ← expectWord ['r', 'u', 'e'] rest)
  | 'f' :: rest => do return (.bool false, ← expectWord ['a', 'l', 's', 'e'] rest)
  | '"' :: rest => do
    let (s, rest) ← readQuoted rest
    return (.string s, rest)
  | '[' :: rest =>
    match child with
    | none => .error .malformed
    | some child => do
      let item (items : List Json) : Reader (List Json) := fun cs => do
        let (v, cs) ← child cs
        return (v :: items, cs)
      let (items, rest) ← readArray item [] rest
      return (.array items.reverse, rest)
  | '{' :: rest =>
    match child with
    | none => .error .malformed
    | some child => do
      let member (fields : Fields) (key : String) : Reader Fields := fun cs => do
        let (v, cs) ← child (← readColon cs)
        return (fields.insert key v, cs)
      let (fields, rest) ← readObject readQuoted member [] rest
      return (.object fields, rest)
  | c :: rest =>
    if startsNumber c then do
      let (n, rest) ← readNumber (c :: rest)
      return (.number n, rest)
    else .error .malformed
  | [] => .error .malformed

/-- Reads a value with at most `depth` containers around any part of it. -/
def readValue : (depth : Nat) → Reader Json
  | 0 => readValueWith none
  | depth + 1 => readValueWith (some (readValue depth))

def parse (text : String) : Except Fault Json := decode (readValue maxDepth) text

/-- The value of a whole text, if it is one. -/
def parse? (text : String) : Option Json := (parse text).toOption

end SessionAuth.Json
