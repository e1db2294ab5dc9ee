import SessionAuth.Base64
import SessionAuth.Text.Digits
import SessionAuth.Text.Split

/-!
# The text of a stored password hash

A stored hash is a sequence of fields, each after a dollar sign: the algorithm, the version, the
parameters, the salt and the digest. Every field after the first may be missing, but the digest
stands behind a salt.

* `StoredHash.text`: the text of a stored hash.
* `StoredHash.ofText`: the stored hash that a text spells, or the first fault in it.
-/

namespace SessionAuth

/-- The parts of a stored hash. -/
structure StoredHash where
  algorithm : String
  version : Option Nat
  params : List (String × String)
  salt : Option String
  digest : Option (List UInt8)
deriving DecidableEq, Repr

namespace StoredHash

/-- What is wrong with a value inside a stored hash. -/
inductive ValueFault where
  | invalidChar (c : Char)
  /-- A number with a leading zero or beyond 32 bits. -/
  | format
  | malformed
  | tooLong
  | tooShort
deriving DecidableEq, Repr

def ValueFault.message : ValueFault → String
  | .invalidChar c => "contains invalid character: '" ++ c.toString ++ "'"
  | .format => "value format is invalid"
  | .malformed => "value malformed"
  | .tooLong => "value to long"
  | .tooShort => "value to short"

/-- What is wrong with a stored hash. -/
inductive Fault where
  | missingField
  | paramName
  | paramValue (fault : ValueFault)
  | tooManyParams
  | salt (fault : ValueFault)
  | encoding
  | encodingLength
  | digestTooShort
  | trailing
deriving DecidableEq, Repr

def Fault.message : Fault → String
  | .missingField => "password hash string missing field"
  | .paramName => "invalid parameter name"
  | .paramValue fault => "invalid parameter value: " ++ fault.message
  | .tooManyParams => "maximum number of parameters reached"
  | .salt fault => "salt invalid: " ++ fault.message
  | .encoding => "invalid Base64 encoding"
  | .encodingLength => "invalid Base64 length"
  | .digestTooShort => "output size too short, expected at least 10 bytes"
  | .trailing => "password hash string contains trailing characters"

/-! ## Names and values -/

def byteLength (cs : List Char) : Nat := (String.ofList cs).utf8ByteSize

def isNameChar (c : Char) : Bool := ('a' ≤ c && c ≤ 'z') || c.isDigit || c == '-'

def isValueChar (c : Char) : Bool :=
  c.isAlphanum || c == '/' || c == '+' || c == '.' || c == '-'

/-- Whether a text is a name: 1 to 32 characters. -/
def isName (cs : List Char) : Bool := 1 ≤ cs.length && cs.length ≤ 32 && cs.all isNameChar

def readName (cs : List Char) : Except Fault String :=
  if isName cs then .ok (String.ofList cs) else .error .paramName

/-- A value: at most 64 bytes, all of them characters of values. -/
def readValue (cs : List Char) : Except ValueFault String :=
  if 64 < byteLength cs then .error .tooLong
  else
    match cs.find? (!isValueChar ·) with
    | some c => .error (.invalidChar c)
    | none => .ok (String.ofList cs)

def maxNumber : Nat := 4294967295

/-- A number of 32 bits in decimal digits without leading zeros. -/
def readDecimal (s : String) : Except ValueFault Nat :=
  let cs := s.toList
  if cs.isEmpty then .error .malformed
  else
    match cs.find? (!·.isDigit) with
    | some c => .error (.invalidChar c)
    | none =>
      if cs.head? == some '0' && 1 < cs.length then .error .format
      else
        let n := Text.digitsValue 0 cs
        if n ≤ maxNumber then .ok n else .error .format

/-! ## Fields -/

def inValue {α : Type} : Except ValueFault α → Except Fault α := Except.mapError .paramValue

/-- The version in a field without its first two characters. -/
def readVersion (cs : List Char) : Except Fault Nat :=
  inValue ((readValue cs).bind readDecimal)

/-- One parameter: a name and a value with an equals sign between them. -/
def readParam (cs : List Char) : Except Fault (String × String) :=
  match Text.splitOn '=' cs with
  | [] => .error .paramName
  | [name] => do
    let _ ← readName name
    .error (.paramValue .malformed)
  | name :: value :: rest => do
    let name ← readName name
    let value ← inValue (readValue value)
    if rest.isEmpty then .ok (name, value) else .error (.paramValue .malformed)

/-- The parameters, with commas between them. -/
def readParams (cs : List Char) : Except Fault (List (String × String)) :=
  if 127 < byteLength cs then .error .tooManyParams
  else (Text.splitOn ',' cs).mapM readParam

/-- A salt: a value of 4 bytes at least. -/
def readSalt (cs : List Char) : Except Fault String :=
  if byteLength cs < 4 then .error (.salt .tooShort)
  else if 64 < byteLength cs then .error (.salt .tooLong)
  else Except.mapError .salt (readValue cs)

/-- A digest: Base64 of 10 to 64 bytes. -/
def readDigest (cs : List Char) : Except Fault (List UInt8) :=
  if 64 < byteLength cs * 3 / 4 then .error .encodingLength
  else
    match Base64.decode? Base64.standard cs with
    | none => .error .encoding
    | some bytes => if bytes.length < 10 then .error .digestTooShort else .ok bytes

/-- Takes the version from the front of the fields, if the first one is a version. -/
def takeVersion (fields : List (List Char)) : Except Fault (Option Nat × List (List Char)) :=
  match fields with
  | ('v' :: '=' :: cs) :: rest =>
    if cs.contains ',' then .ok (none, fields) else do return (some (← readVersion cs), rest)
  | _ => .ok (none, fields)

/-- Takes the parameters from the front of the fields, if the first one has parameters. -/
def takeParams (fields : List (List Char)) :
    Except Fault (List (String × String) × List (List Char)) :=
  match fields with
  | cs :: rest => if cs.contains '=' then do return (← readParams cs, rest) else .ok ([], fields)
  | [] => .ok ([], fields)

def ofFields (algorithm : String) (fields : List (List Char)) : Except Fault StoredHash := do
  let (version, fields) ← takeVersion fields
  let (params, fields) ← takeParams fields
  match fields with
  | [] => return ⟨algorithm, version, params, none, none⟩
  | [salt] => return ⟨algorithm, version, params, some (← readSalt salt), none⟩
  | salt :: digest :: rest => do
    let salt ← readSalt salt
    let digest ← readDigest digest
    if rest.isEmpty then return ⟨algorithm, version, params, some salt, some digest⟩
    else throw .trailing

def ofText (text : String) : Except Fault StoredHash :=
  match Text.splitOn '$' text.toList with
  | [] :: algorithm :: fields => do ofFields (← readName algorithm) fields
  | _ => .error .missingField

/-! ## Writing -/

def paramsText (params : List (String × String)) : List Char :=
  [','].intercalate (params.map fun p => p.1.toList ++ '=' :: p.2.toList)

def settingsFields (h : StoredHash) : List (List Char) :=
  h.algorithm.toList
    :: (h.version.map fun v => "v=".toList ++ (Text.natText v).toList).toList
    ++ (if h.params.isEmpty then [] else [paramsText h.params])

def outputFields (h : StoredHash) : List (List Char) :=
  (h.salt.map String.toList).toList ++ (h.digest.map (Base64.encode Base64.standard)).toList

def fieldsText (fields : List (List Char)) : String :=
  String.ofList (fields.flatMap fun cs => '$' :: cs)

/-- The algorithm, the version and the parameters of a stored hash. -/
def settingsText (h : StoredHash) : String := fieldsText h.settingsFields

def text (h : StoredHash) : String := fieldsText (h.settingsFields ++ h.outputFields)

end StoredHash

end SessionAuth
