import SessionAuth.Text.Split

/-!
# The targets of requests

A request names what it is about in one of four forms: a path with or without a query, a URL with
a host, a host alone, or an asterisk. A fragment is dropped.

* `targetPath?`: the path in a target.
-/

namespace SessionAuth.Http

def maxTarget : Nat := 65534

/-- The most characters that the scheme of a target may have. -/
def maxScheme : Nat := 64

/-- The most colons in a row of groups that the host of a target may have. -/
def maxColons : Nat := 8

/-! ## Paths -/

def isPathChar (c : Char) : Bool :=
  if c.toNat < 127 then c.isAlphanum || "!\"$%&'()*+,-./:;=@[\\]^_\x7b|\x7d~".toList.contains c
  else true

def isQueryChar (c : Char) : Bool := 32 < c.toNat && c != '"' && c != '#' && c != '<' && c != '>'

/-- The path of a target without a host, or of the part after one, as it is written. -/
def writtenPath? (cs : List Char) : Option (List Char) :=
  let cs := cs.takeWhile (· != '#')
  let (path, query) := cs.span (· != '?')
  if path.all isPathChar && query.all isQueryChar then some path else none

/-! ## Hosts -/

/-- What has been seen of a host, the part of a user in front of it included. -/
structure HostScan where
  colons : Nat
  opened : Bool
  closed : Bool
  percent : Bool

namespace HostScan

def start : HostScan := ⟨0, false, false, false⟩

def isPlain (c : Char) : Bool := c.isAlphanum || "!$&'()*+,-.;=_~".toList.contains c

/-- What has been seen after one more character, unless it cannot stand there. What comes before an
at sign or a closing bracket may hold colons and percent signs. -/
def next (s : HostScan) (c : Char) : Option HostScan :=
  if c = ':' then
    if s.colons < maxColons then some { s with colons := s.colons + 1 } else none
  else if c = '[' then
    if s.percent || s.opened then none else some { s with opened := true }
  else if c = ']' then
    if s.opened && !s.closed then some { s with closed := true, colons := 0, percent := false }
    else none
  else if c = '@' then some { s with colons := 0, percent := false }
  else if c = '%' then some { s with percent := true }
  else if isPlain c then some s
  else none

def canEnd (s : HostScan) : Bool := s.opened == s.closed && s.colons ≤ 1 && !s.percent

end HostScan

/-- Whether a text is a host, with or without a user and a number. -/
def isHost (cs : List Char) : Bool :=
  ((cs.foldlM HostScan.next .start).map HostScan.canEnd).getD false && cs.getLast? != some '@'

/-! ## Targets -/

def isSchemeChar (c : Char) : Bool := c.isAlphanum || c == '+' || c == '-' || c == '.' || c == '~'

/-- Splits a target after its scheme, a colon and two slashes. -/
def splitScheme? (cs : List Char) : Option (List Char × List Char) :=
  match cs.span isSchemeChar with
  | (scheme, ':' :: '/' :: '/' :: rest) => some (scheme, rest)
  | _ => none

/-- The path of a URL after its scheme; an empty one is the root. -/
def pathAfterScheme? (cs : List Char) : Option (List Char) :=
  let (host, rest) := cs.span fun c => c != '/' && c != '?' && c != '#'
  if host.isEmpty || !isHost host then none
  else (writtenPath? rest).map fun path => if path.isEmpty then ['/'] else path

/-- The path in a target. A host alone has the empty path. -/
def targetPath? (target : String) : Option String :=
  let path? : Option (List Char) :=
    match target.toList with
    | [] => none
    | ['*'] => some ['*']
    | '/' :: rest => writtenPath? ('/' :: rest)
    | cs =>
      match splitScheme? cs with
      | some (scheme, rest) =>
        if maxScheme < scheme.length then none else pathAfterScheme? rest
      | none => if isHost cs then some [] else none
  if target.utf8ByteSize ≤ maxTarget then path?.map String.ofList else none

end SessionAuth.Http
