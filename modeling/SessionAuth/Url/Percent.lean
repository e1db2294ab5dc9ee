import SessionAuth.Hash.Words
import SessionAuth.Text.Digits
import SessionAuth.Text.Split

/-!
# Percent signs in URLs

A percent sign and two hexadecimal digits stand for a byte. In a query a plus sign stands for a
blank as well.

* `percentDecoded`, `percentText?`: the bytes and the text that a spelling stands for.
* `queryValues`: the names and values of a query.
-/

namespace SessionAuth.Url

/-- The bytes of a text in which a percent sign and two hexadecimal digits stand for a byte. -/
def percentDecoded : List Char → List UInt8
  | '%' :: a :: b :: rest =>
    match Text.hexValue? a, Text.hexValue? b with
    | some high, some low => UInt8.ofNat (16 * high + low) :: percentDecoded rest
    | _, _ => Hash.utf8 "%" ++ percentDecoded (a :: b :: rest)
  | c :: rest => Hash.utf8 (String.ofList [c]) ++ percentDecoded rest
  | [] => []

/-- The text that stands behind percent signs, if it is one. -/
def percentText? (cs : List Char) : Option String := Hash.ofUtf8? (percentDecoded cs)

/-- The text of a name or a value of a query, if it is one. -/
def queryText? (cs : List Char) : Option String :=
  percentText? (cs.map fun c => if c = '+' then ' ' else c)

/-- The names and values of a query, the last one of a name first. A name that is no text is
passed over; a value that is none counts as a value that cannot be read. -/
def queryValues (query : List Char) : List (String × Option String) :=
  ((Text.splitOn '&' query).filterMap fun pair =>
    let (name, value) := (Text.splitFirst? '=' pair).getD (pair, [])
    (queryText? name).map fun name => (name, queryText? value)).reverse

end SessionAuth.Url
