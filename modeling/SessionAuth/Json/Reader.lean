/-!
# Reading JSON text piece by piece

A reader takes a piece from the front of a text and leaves the rest. It fails for one of two
reasons: the text is not JSON, or it is JSON of another shape than wanted.

* `Reader`: the type of readers; `Reader.bind` runs two in a row.
* `readElements`, `readMembers`: the bodies of arrays and objects, folded from left to right.
* `decode`: a reader run over a whole text.
-/

namespace SessionAuth.Json

/-- Why a text cannot be read. -/
inductive Fault where
  /-- The text is not JSON. -/
  | malformed
  /-- The text has another shape than wanted. -/
  | mismatch
deriving DecidableEq, Repr

abbrev Reader (α : Type) := List Char → Except Fault (α × List Char)

def isBlank (c : Char) : Bool := c == ' ' || c == '\n' || c == '\r' || c == '\t'

def skipBlank (cs : List Char) : List Char := cs.dropWhile isBlank

def expect (c : Char) : List Char → Except Fault (List Char)
  | d :: rest => if d = c then .ok rest else .error .malformed
  | [] => .error .malformed

def expectWord : (word cs : List Char) → Except Fault (List Char)
  | [], cs => .ok cs
  | c :: word, cs => do expectWord word (← expect c cs)

def readColon (cs : List Char) : Except Fault (List Char) := expect ':' (skipBlank cs)

/-- Reads the items of an array after the first one is known to follow, each with the state left
by the one before it. One step per character is enough. -/
def readElements {σ : Type} (item : σ → Reader σ) : (fuel : Nat) → σ → Reader σ
  | 0, _, _ => .error .malformed
  | fuel + 1, s, cs => do
    let (s, cs) ← item s cs
    match skipBlank cs with
    | ',' :: cs => readElements item fuel s cs
    | ']' :: cs => .ok (s, cs)
    | _ => .error .malformed

def readArray {σ : Type} (item : σ → Reader σ) (s : σ) : Reader σ := fun cs =>
  match skipBlank cs with
  | ']' :: rest => .ok (s, rest)
  | cs => readElements item cs.length s cs

/-- Reads the members of an object after the first one is known to follow. The reader of a member
gets its key and starts at the colon. -/
def readMembers {σ : Type} (key : Reader String) (member : σ → String → Reader σ) :
    (fuel : Nat) → σ → Reader σ
  | 0, _, _ => .error .malformed
  | fuel + 1, s, cs => do
    let cs ← expect '"' (skipBlank cs)
    let (name, cs) ← key cs
    let (s, cs) ← member s name cs
    match skipBlank cs with
    | ',' :: cs => readMembers key member fuel s cs
    | '}' :: cs => .ok (s, cs)
    | _ => .error .malformed

/-- Reads an object after its opening brace. The reader of keys starts after the quote. -/
def readObject {σ : Type} (key : Reader String) (member : σ → String → Reader σ) (s : σ) :
    Reader σ := fun cs =>
  match skipBlank cs with
  | '}' :: rest => .ok (s, rest)
  | cs => readMembers key member cs.length s cs

/-- Reads a whole text, which may end in white space. -/
def decode {α : Type} (reader : Reader α) (text : String) : Except Fault α := do
  let (a, rest) ← reader text.toList
  if (skipBlank rest).isEmpty then .ok a else .error .malformed

end SessionAuth.Json
