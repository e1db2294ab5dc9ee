import SessionAuth.Http.Credentials

/-!
# Media types

A media type is a type and a subtype with a slash between them and parameters behind them. The
subtype may have a suffix after a plus sign.

* `MediaType.ofText?`: the media type that a text spells, in small letters.
* `MediaType.isJson`: whether a body of this type is JSON.
-/

namespace SessionAuth.Http

/-- A media type without its parameters. -/
structure MediaType where
  type : List Char
  /-- The subtype without its suffix. -/
  subtype : List Char
  suffix : Option (List Char)
deriving DecidableEq, Repr

namespace MediaType

def isQuotedChar (c : Char) : Bool := 32 ≤ c.toNat && c.toNat != 127

/-- What is expected next among parameters. -/
inductive Awaited where
  /-- A name, blanks or the end. -/
  | name
  | restOfName
  | value
  | restOfValue
  /-- The text between quotes, of which nothing has been read; not even a quote ends it. -/
  | quoted
  | restOfQuoted
  /-- The end of a parameter. -/
  | separator
deriving DecidableEq, Repr

/-- What is expected after a character, unless the character is not allowed. -/
def Awaited.next (a : Awaited) (c : Char) : Option Awaited :=
  match a with
  | .name => if c = ' ' then some .name else if isTokenChar c then some .restOfName else none
  | .restOfName =>
    if c = '=' then some .value else if isTokenChar c then some .restOfName else none
  | .value => if c = '"' then some .quoted else if isTokenChar c then some .restOfValue else none
  | .restOfValue =>
    if c = ';' then some .name else if isTokenChar c then some .restOfValue else none
  | .quoted => if isQuotedChar c then some .restOfQuoted else none
  | .restOfQuoted =>
    if c = '"' then some .separator else if isQuotedChar c then some .restOfQuoted else none
  | .separator => if c = ' ' then some .separator else if c = ';' then some .name else none

def Awaited.canEnd : Awaited → Bool
  | .name | .value | .restOfValue | .separator => true
  | .restOfName | .quoted | .restOfQuoted => false

def areParams (cs : List Char) : Bool :=
  ((cs.foldlM Awaited.next .name).map Awaited.canEnd).getD false

/-- Splits a subtype at its last plus sign, which may not come first. -/
def splitSuffix (cs : List Char) : List Char × Option (List Char) :=
  let suffix := (cs.reverse.takeWhile (· != '+')).reverse
  let before := cs.take (cs.length - suffix.length - 1)
  if suffix.length < cs.length && !before.isEmpty then (before, some suffix) else (cs, none)

def ofText? (text : String) : Option MediaType := do
  let cs := text.toList
  let (type, rest) := cs.span (· != '/')
  let (subtype, params) := rest.tail.span (· != ';')
  if type.isEmpty || rest.isEmpty || subtype.isEmpty then none
  else if !(type.all isTokenChar && subtype.all isTokenChar && areParams params.tail) then none
  else
    let lower := List.map Char.toLower
    let (before, suffix) := splitSuffix subtype
    some ⟨lower type, lower before, suffix.map lower⟩

def isJson (m : MediaType) : Bool :=
  m.type == "application".toList
    && (m.subtype == "json".toList || m.suffix == some "json".toList)

end MediaType

def Request.hasJson (r : Request) : Bool :=
  match (r.value? "content-type").bind readable? with
  | some text => (MediaType.ofText? text).any MediaType.isJson
  | none => false

end SessionAuth.Http
