import SessionAuth.Json.Quoted
import SessionAuth.Json.Value
import SessionAuth.Binary64.Shortest
import SessionAuth.Text.Digits

/-!
# Compact JSON text

A value is written without white space, members in the order in which they are kept. A binary64
number is written with the fewest digits that read back, positionally from `10^(-5)` up to below
`10^16` and with an exponent otherwise.

* `render`, `print`: the text of a value.
* `FloatFormat`: the choices in writing a binary64 number.
-/

namespace SessionAuth.Json

/-- How a binary64 number is written. Positions are those of the point after the first digit:
`123.` has point position three. -/
structure FloatFormat where
  /-- The least point position that is written positionally. -/
  leastPoint : Int
  /-- The greatest point position that is written positionally. -/
  greatestPoint : Int

/-- Numbers from `10^(-5)` up to below `10^16` are written positionally. -/
def floatFormat : FloatFormat := ⟨-4, 16⟩

/-- The text of a number other than zero with the given digits and point position. -/
def FloatFormat.write (format : FloatFormat) (digits : List Char) (point : Int) : List Char :=
  let count := digits.length
  if point < format.leastPoint || format.greatestPoint < point then
    let mantissa := match digits with
      | [d] => [d]
      | d :: rest => d :: '.' :: rest
      | [] => []
    let power := point - 1
    mantissa ++ 'e' :: (if power < 0 then '-' else '+') :: Nat.toDigits 10 power.natAbs
  else if point ≤ 0 then
    '0' :: '.' :: List.replicate point.natAbs '0' ++ digits
  else if point < count then
    digits.take point.toNat ++ '.' :: digits.drop point.toNat
  else
    digits ++ List.replicate (point.toNat - count) '0' ++ ['.', '0']

def renderFloat (x : Binary64) : List Char :=
  let sign := if x.negative then ['-'] else []
  if x.significand = 0 then sign ++ ['0', '.', '0']
  else
    let s := x.shortest
    let digits := Nat.toDigits 10 s.digits
    sign ++ floatFormat.write digits (digits.length + s.exponent)

def renderNumber : Number → List Char
  | .int n => (Text.intText n).toList
  | .float x => renderFloat x

mutual

def render : Json → List Char
  | .null => ['n', 'u', 'l', 'l']
  | .bool true => ['t', 'r', 'u', 'e']
  | .bool false => ['f', 'a', 'l', 's', 'e']
  | .number n => renderNumber n
  | .string s => quote s.toList
  | .array items => '[' :: (renderItems items ++ [']'])
  | .object fields => '{' :: (renderFields fields ++ ['}'])

def renderItems : List Json → List Char
  | [] => []
  | [v] => render v
  | v :: rest => render v ++ ',' :: renderItems rest

def renderFields : List (String × Json) → List Char
  | [] => []
  | [(k, v)] => quote k.toList ++ ':' :: render v
  | (k, v) :: rest => quote k.toList ++ ':' :: (render v ++ ',' :: renderFields rest)

end

def print (v : Json) : String := String.ofList (render v)

end SessionAuth.Json
