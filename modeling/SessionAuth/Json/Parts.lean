import SessionAuth.Json.Record

/-!
# The members of an object one by one

* `readSpan`: the text that a reader takes, without white space in front of it.
* `readEntriesWith`, `readEntries`: the members of an object in the order in which they are
  written, repeated keys included.
-/

namespace SessionAuth.Json

def readSpan {α : Type} (reader : Reader α) : Reader (List Char) := fun cs => do
  let cs := skipBlank cs
  let (_, rest) ← reader cs
  return (cs.take (cs.length - rest.length), rest)

/-- Reads the members of an object, and their values with `value`. -/
def readEntriesWith {α : Type} (value : Reader α) : Reader (List (String × α)) := fun cs =>
  match skipBlank cs with
  | '{' :: rest => do
    let member (entries : List (String × α)) (key : String) :
        Reader (List (String × α)) := fun cs => do
      let (v, cs) ← value (← readColon cs)
      return ((key, v) :: entries, cs)
    let (entries, rest) ← readObject readQuoted member [] rest
    return (entries.reverse, rest)
  | cs => refuse cs

/-- Reads the members of an object, each with a value of at most `depth` containers. -/
def readEntries (depth : Nat) : Reader (List (String × Json)) := readEntriesWith (readValue depth)

/-- The members of the object that a text spells, with at most 127 containers around any part. -/
def entries? (text : String) : Option (List (String × Json)) :=
  (decode (readEntries (maxDepth - 1)) text).toOption

end SessionAuth.Json
