import SessionAuth.Text.Digits
import SessionAuth.Text.Split

/-!
# The hosts of URLs

A host is a name or, between brackets, an address of eight groups of sixteen bits.

* `Host.ofText?`: the host that a text spells.
* `Host.isUnspecified`: whether a host stands for any address, so that nobody can be found there.
-/

namespace SessionAuth.Url

/-- The host of a URL. -/
inductive Host where
  | name (text : String)
  | address (groups : List Nat)
deriving DecidableEq, Repr

namespace Host

/-- The number below 256 that decimal digits spell without zeros in front. -/
def octet? (cs : List Char) : Option Nat :=
  if cs.length = 1 || cs.head? != some '0' then (Text.readDigits? cs).filter (· < 256) else none

def quad? (cs : List Char) : Option (List Nat) :=
  match (Text.splitOn '.' cs).mapM octet? with
  | some [a, b, c, d] => some [256 * a + b, 256 * c + d]
  | _ => none

def group? (cs : List Char) : Option Nat :=
  if cs.isEmpty || 4 < cs.length then none
  else (cs.mapM Text.hexValue?).map (·.foldl (fun n digit => 16 * n + digit) 0)

/-- The groups that pieces spell, of which the last may be four octets. -/
def groups? : List (List Char) → Option (List Nat)
  | [] => some []
  | [last] => ((group? last).map ([·])).or (quad? last)
  | piece :: rest => do return (← group? piece) :: (← groups? rest)

/-- The pieces between colons; an empty text has none. -/
def pieces (cs : List Char) : List (List Char) :=
  if cs.isEmpty then [] else Text.splitOn ':' cs

def splitAtGap? : List Char → Option (List Char × List Char)
  | ':' :: ':' :: rest => some ([], rest)
  | c :: rest => (splitAtGap? rest).map fun p => (c :: p.1, p.2)
  | [] => none

/-- The groups of an address. Two colons in a row stand for one group of zeros or more. -/
def address? (cs : List Char) : Option (List Nat) :=
  match splitAtGap? cs with
  | none => (groups? (pieces cs)).filter (·.length = 8)
  | some (before, after) => do
    let before ← (pieces before).mapM group?
    let after ← groups? (pieces after)
    let known := before.length + after.length
    if known < 8 then some (before ++ List.replicate (8 - known) 0 ++ after) else none

def isBarred (c : Char) : Bool := c.toNat = 0 || " #/:<>?@[\\]^|".toList.contains c

def ofText? (cs : List Char) : Option Host :=
  match cs with
  | '[' :: rest =>
    if rest.getLast? = some ']' then (address? rest.dropLast).map .address else none
  | cs => if cs.isEmpty || cs.any isBarred then none else some (.name (String.ofList cs))

def isUnspecified : Host → Bool
  | .name text => text == "0.0.0.0"
  | .address groups => groups.all (· == 0)

def isLocal (h : Host) : Bool := h == .name "localhost"

end Host

end SessionAuth.Url
