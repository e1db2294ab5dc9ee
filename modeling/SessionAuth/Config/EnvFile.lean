import SessionAuth.Config.Basic
import SessionAuth.Text.Alphabetic
import SessionAuth.Text.Numeric

/-!
# Environment files

A file of lines `NAME=value` adds variables to an environment; those that are there already stay.
A value may be quoted, a quoted one may run over several lines, and a dollar sign inserts the
value of another variable. Reading stops at the first line that is none of this.

* `EnvFile.load`: an environment with the variables of a file.
* `Config.ofEnvironment`: the configuration that an environment and a file give.
-/

namespace SessionAuth

abbrev Environment := List (String × String)

namespace EnvFile

/-! ## Lines -/

/-- Where a line stands with regard to quotes and escapes. -/
inductive LineState where
  | plain
  | blank
  | escape
  | double
  | doubleEscape
  | single
  | singleEscape
  | comment
deriving DecidableEq, Repr

def LineState.next (s : LineState) (c : Char) : LineState :=
  let opening : LineState :=
    if c = '\\' then .escape else if c = '"' then .double else if c = '\'' then .single
    else .plain
  match s with
  | .blank => if c = '#' then .comment else opening
  | .plain => if Text.isBlank c && c != '\n' && c != '\r' then .blank else opening
  | .escape => .plain
  | .double => if c = '\\' then .doubleEscape else if c = '"' then .plain else .double
  | .doubleEscape => .double
  | .single => if c = '\\' then .singleEscape else if c = '\'' then .plain else .single
  | .singleEscape => .single
  | .comment => .comment

/-- The text before a comment, and the state at its end. -/
def scan (s : LineState) : List Char → List Char × LineState
  | [] => ([], s)
  | c :: rest =>
    let t := s.next c
    if t = .comment then ([], .comment)
    else
      let (before, last) := scan t rest
      (c :: before, last)

def dropLineEnd (cs : List Char) : List Char :=
  match cs.reverse with
  | '\n' :: '\r' :: rest => rest.reverse
  | '\n' :: rest => rest.reverse
  | _ => cs

/-- The physical lines of a text, each with its line end. -/
def physicalLines : List Char → List (List Char)
  | [] => []
  | c :: rest =>
    if c = '\n' then ['\n'] :: physicalLines rest
    else
      match physicalLines rest with
      | line :: lines => (c :: line) :: lines
      | [] => [[c]]

/-- Joins physical lines while a quote or an escape is open, after the text `held`. Nothing at
the end stands for a line that is never finished. -/
def joinLines (held : List Char) (s : LineState) : List (List Char) → List (Option (List Char))
  | [] => if s = .plain then [] else [none]
  | line :: lines =>
    let all := held ++ line
    if (Text.trimStart all).head? = some '#' then some [] :: joinLines [] .plain lines
    else
      let (before, last) := scan s line
      match last with
      | .plain => some (dropLineEnd all) :: joinLines [] .plain lines
      | .comment => some (held ++ before) :: joinLines [] .plain lines
      | last => joinLines all last lines

def lines (text : String) : List (Option (List Char)) :=
  let cs := text.toList
  let cs := if cs.head? = some '\uFEFF' then cs.tail else cs
  joinLines [] .plain (physicalLines cs)

/-! ## Values -/

/-- How the name of a variable to insert is being read. -/
inductive Insertion where
  | none
  /-- After a dollar sign. -/
  | bare
  /-- Between braces. -/
  | braced
deriving DecidableEq, Repr

/-- How far a value has been read. -/
structure ValueState where
  single : Bool
  double : Bool
  escaped : Bool
  /-- Only a comment may follow. -/
  ended : Bool
  insertion : Insertion
  /-- The name of the variable to insert, reversed. -/
  name : List Char
  /-- What has been read, reversed. -/
  output : List Char

def ValueState.insert (s : ValueState) (lookup : String → String) : ValueState :=
  let value := lookup (String.ofList s.name.reverse)
  { s with name := [], output := value.toList.reverse ++ s.output }

def ValueState.push (s : ValueState) (c : Char) : ValueState := { s with output := c :: s.output }

def ValueState.nextName (s : ValueState) (lookup : String → String) (c : Char) : ValueState :=
  if Text.isAlphabetic c || Text.isNumeric c then { s with name := c :: s.name }
  else if s.insertion = .braced then
    if c = '\x7d' then { s.insert lookup with insertion := .none }
    else { s with name := c :: s.name }
  else if c = '\x7b' ∧ s.name.isEmpty then { s with insertion := .braced }
  else if c = '$' then s.insert lookup
  else { (s.insert lookup).push c with insertion := .none }

/-- The characters of a value from a state on, or nothing if there is a fault. -/
def readValueFrom (lookup : String → String) (s : ValueState) : List Char → Option ValueState
  | [] => some s
  | c :: rest =>
    if s.ended then
      if c = ' ' ∨ c = '\t' then readValueFrom lookup s rest
      else if c = '#' then some s
      else none
    else if s.escaped then
      if c = 'n' then readValueFrom lookup { s.push '\n' with escaped := false } rest
      else if c = '\\' ∨ c = '\'' ∨ c = '"' ∨ c = '$' ∨ c = ' ' then
        readValueFrom lookup { s.push c with escaped := false } rest
      else none
    else if s.single then
      readValueFrom lookup (if c = '\'' then { s with single := false } else s.push c) rest
    else if s.insertion ≠ .none then readValueFrom lookup (s.nextName lookup c) rest
    else if c = '$' then readValueFrom lookup { s with insertion := .bare } rest
    else if c = '\\' then readValueFrom lookup { s with escaped := true } rest
    else if s.double then
      readValueFrom lookup (if c = '"' then { s with double := false } else s.push c) rest
    else if c = '\'' then readValueFrom lookup { s with single := true } rest
    else if c = '"' then readValueFrom lookup { s with double := true } rest
    else if c = ' ' ∨ c = '\t' then readValueFrom lookup { s with ended := true } rest
    else readValueFrom lookup (s.push c) rest

def readValue (lookup : String → String) (cs : List Char) : Option String := do
  let s ← readValueFrom lookup ⟨false, false, false, false, .none, [], []⟩ cs
  if s.insertion = .braced || s.single || s.double then none
  else some (String.ofList (s.insert lookup).output.reverse)

/-! ## Assignments -/

/-- Splits off the name in front: a letter or an underscore, then letters, digits, underscores
and dots. -/
def takeName? (cs : List Char) : Option (String × List Char) :=
  let isNameChar (c : Char) : Bool := c.isAlphanum || c == '_' || c == '.'
  match cs with
  | c :: _ =>
    if c.isAlpha || c == '_' then
      some (String.ofList (cs.takeWhile isNameChar), Text.trimStart (cs.dropWhile isNameChar))
    else none
  | [] => none

def takeEquals? : List Char → Option (List Char)
  | '=' :: rest => some (Text.trimStart rest)
  | _ => none

/-- The name and the text of the value in a line, in which the word `export` may come first. -/
def splitLine? (cs : List Char) : Option (String × List Char) := do
  let (name, rest) ← takeName? cs
  if name = "export" then
    match takeEquals? rest with
    | some value => some (name, value)
    | none => do
      let (name, rest) ← takeName? rest
      return (name, ← takeEquals? rest)
  else return (name, ← takeEquals? rest)

def isIdle (cs : List Char) : Bool := cs.isEmpty || cs.head? == some '#'

def add (env : Environment) (name value : String) : Environment :=
  if (List.lookup name env).isSome then env else env ++ [(name, value)]

/-- The environment and the values of the file after a line, or nothing if there is a fault. The
environment wins when a value is inserted. -/
def loadLine (env file : Environment) (line : List Char) : Option (Environment × Environment) :=
  let cs := Text.trimStart (Text.trimEnd line)
  if isIdle cs then some (env, file)
  else do
    let (name, text) ← splitLine? cs
    let lookup (n : String) : String := ((List.lookup n env).or (List.lookup n file)).getD ""
    let value ← if isIdle text then some "" else readValue lookup text
    return (add env name value, (name, value) :: file)

def loadLines (env file : Environment) : List (Option (List Char)) → Environment
  | some line :: rest =>
    match loadLine env file line with
    | some (env, file) => loadLines env file rest
    | none => env
  | _ => env

def load (env : Environment) (text : String) : Environment := loadLines env [] (lines text)

end EnvFile

/-- The configuration that an environment and, if there is one, a file give. -/
def Config.ofEnvironment (env : Environment) (file : Option String) : Except ConfigError Config :=
  let env := match file with
    | some text => EnvFile.load env text
    | none => env
  Config.ofLookup fun name => List.lookup name env

end SessionAuth
