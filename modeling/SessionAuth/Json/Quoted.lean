import SessionAuth.Json.Reader
import SessionAuth.Text.Digits

/-!
# Strings in quotes

A string is written between quotes. Quotes, backslashes and characters below the blank are
escaped; every other character stands for itself.

* `escape`: the text between the quotes.
* `readQuoted`: the string, read after the opening quote. An escape of a surrogate counts only
  as one of a pair.
* `skipQuoted`: the same span of text, in which escapes need to have the right shape only.
-/

namespace SessionAuth.Json

def escapeChar (c : Char) : List Char :=
  if c = '"' then ['\\', '"']
  else if c = '\\' then ['\\', '\\']
  else if c = '\x08' then ['\\', 'b']
  else if c = '\x0c' then ['\\', 'f']
  else if c = '\n' then ['\\', 'n']
  else if c = '\r' then ['\\', 'r']
  else if c = '\t' then ['\\', 't']
  else if c.toNat < 0x20 then
    ['\\', 'u', '0', '0', Text.hexDigit (c.toNat / 16), Text.hexDigit (c.toNat % 16)]
  else [c]

def escape (cs : List Char) : List Char := cs.flatMap escapeChar

def quote (cs : List Char) : List Char := '"' :: (escape cs ++ ['"'])

def hexFour? (a b c d : Char) : Option Nat := do
  let a ← Text.hexValue? a
  let b ← Text.hexValue? b
  let c ← Text.hexValue? c
  let d ← Text.hexValue? d
  return ((a * 16 + b) * 16 + c) * 16 + d

def shortEscape? : Char → Option Char
  | '"' => some '"'
  | '\\' => some '\\'
  | '/' => some '/'
  | 'b' => some '\x08'
  | 'f' => some '\x0c'
  | 'n' => some '\n'
  | 'r' => some '\r'
  | 't' => some '\t'
  | _ => none

def isHighSurrogate (n : Nat) : Bool := 0xD800 ≤ n && n ≤ 0xDBFF

def isLowSurrogate (n : Nat) : Bool := 0xDC00 ≤ n && n ≤ 0xDFFF

def pairChar (high low : Nat) : Char :=
  Char.ofNat (0x10000 + (high - 0xD800) * 0x400 + (low - 0xDC00))

/-- The characters up to the closing quote, put in front of the reversed ones in `acc`. -/
def readQuotedFrom (acc : List Char) : Reader (List Char)
  | '"' :: rest => .ok (acc.reverse, rest)
  | '\\' :: 'u' :: a :: b :: c :: d :: rest =>
    match hexFour? a b c d with
    | none => .error .malformed
    | some n =>
      if isLowSurrogate n then .error .malformed
      else if isHighSurrogate n then
        match rest with
        | '\\' :: 'u' :: a :: b :: c :: d :: rest =>
          match hexFour? a b c d with
          | none => .error .malformed
          | some m =>
            if isLowSurrogate m then readQuotedFrom (pairChar n m :: acc) rest
            else .error .malformed
        | _ => .error .malformed
      else readQuotedFrom (Char.ofNat n :: acc) rest
  | '\\' :: c :: rest =>
    match shortEscape? c with
    | some d => readQuotedFrom (d :: acc) rest
    | none => .error .malformed
  | c :: rest => if c.toNat < 0x20 then .error .malformed else readQuotedFrom (c :: acc) rest
  | [] => .error .malformed

def readQuoted : Reader String := fun cs => do
  let (chars, rest) ← readQuotedFrom [] cs
  return (String.ofList chars, rest)

def skipQuoted : List Char → Except Fault (List Char)
  | '"' :: rest => .ok rest
  | '\\' :: 'u' :: a :: b :: c :: d :: rest =>
    if (hexFour? a b c d).isSome then skipQuoted rest else .error .malformed
  | '\\' :: c :: rest => if (shortEscape? c).isSome then skipQuoted rest else .error .malformed
  | c :: rest => if c.toNat < 0x20 then .error .malformed else skipQuoted rest
  | [] => .error .malformed

end SessionAuth.Json
