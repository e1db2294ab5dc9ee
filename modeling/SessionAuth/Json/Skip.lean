import SessionAuth.Json.Quoted
import SessionAuth.Json.Number
import SessionAuth.Json.Parser

/-!
# Values of which only the end is wanted

A value that nobody asks for is checked for its form and dropped. Its containers may nest to any
depth, its numbers may be of any size and its escapes may name lone surrogates.

* `skipValue`: drops a value from the front of a text.
-/

namespace SessionAuth.Json

/-- A container that is still open. -/
inductive Frame where
  | array
  | object
deriving DecidableEq, Repr

/-- What comes next in a value that is being skipped. -/
inductive Awaited where
  | value
  /-- A first item or the end of the array. -/
  | firstItem
  /-- A first key or the end of the object. -/
  | firstKey
  | key
  /-- A comma, or the end of the innermost container. -/
  | separator
deriving DecidableEq, Repr

def skipKey (cs : List Char) : Except Fault (List Char) := do
  readColon (← skipQuoted (← expect '"' (skipBlank cs)))

def skipLeaf : List Char → Except Fault (List Char)
  | 'n' :: rest => expectWord ['u', 'l', 'l'] rest
  | 't' :: rest => expectWord ['r', 'u', 'e'] rest
  | 'f' :: rest => expectWord ['a', 'l', 's', 'e'] rest
  | '"' :: rest => skipQuoted rest
  | c :: rest =>
    if startsNumber c then do return (← readNumberText (c :: rest)).2 else .error .malformed
  | [] => .error .malformed

/-- Drops what is left of a value inside the open containers `frames`, innermost first. Every
step takes a character at least, so the length of the text is fuel enough. -/
def skipFrom : (fuel : Nat) → Awaited → List Frame → List Char → Except Fault (List Char)
  | 0, _, _, _ => .error .malformed
  | fuel + 1, awaited, frames, cs =>
    let close (frames : List Frame) (rest : List Char) :=
      if frames.isEmpty then .ok rest else skipFrom fuel .separator frames rest
    let value (cs : List Char) :=
      match cs with
      | '[' :: rest => skipFrom fuel .firstItem (.array :: frames) rest
      | '{' :: rest => skipFrom fuel .firstKey (.object :: frames) rest
      | cs => do close frames (← skipLeaf cs)
    let key (cs : List Char) := do skipFrom fuel .value frames (← skipKey cs)
    match awaited, frames, skipBlank cs with
    | .value, _, cs => value cs
    | .firstItem, _ :: outer, ']' :: rest => close outer rest
    | .firstItem, _, cs => value cs
    | .firstKey, _ :: outer, '}' :: rest => close outer rest
    | .firstKey, _, cs => key cs
    | .key, _, cs => key cs
    | .separator, .array :: _, ',' :: rest => skipFrom fuel .value frames rest
    | .separator, .array :: outer, ']' :: rest => close outer rest
    | .separator, .object :: _, ',' :: rest => skipFrom fuel .key frames rest
    | .separator, .object :: outer, '}' :: rest => close outer rest
    | .separator, _, _ => .error .malformed

def skipValue (cs : List Char) : Except Fault (List Char) :=
  skipFrom (cs.length + 1) .value [] cs

end SessionAuth.Json
