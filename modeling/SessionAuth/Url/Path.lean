import SessionAuth.Text.Split
import SessionAuth.Url.Percent

/-!
# The paths of URLs

A path is a list of segments, each with a slash in front. A segment of one dot stands for the
directory itself and one of two dots for the directory above it.

* `Path.ofText`: the path that a text spells, without segments of dots.
* `Path.toText`: the spelling of a path.
-/

namespace SessionAuth.Url

/-- The path of a URL. The empty list is the path without a slash. -/
structure Path where
  segments : List (List Char)
deriving DecidableEq, Repr

namespace Path

/-- Whether a piece is a dot, as itself or behind a percent sign. -/
def isDot (cs : List Char) : Bool := [".", "%2e", "%2E"].contains (String.ofList cs)

def isDots (cs : List Char) : Bool :=
  (isDot (cs.take 1) && isDot (cs.drop 1)) || (isDot (cs.take 3) && isDot (cs.drop 3))

def isDrive : List Char → Bool
  | c :: mark :: rest =>
    c.isAlpha && (mark == ':' || mark == '|') && (rest.isEmpty || rest.head? == some '\\')
  | _ => false

/-- The directory above one, both with the innermost name first. Nothing is above a drive. -/
def above : List (List Char) → List (List Char)
  | [] => []
  | name :: outer => if isDrive name then name :: outer else outer

def enter (dir : List (List Char)) (segment : List Char) : List (List Char) :=
  if isDots segment then above dir
  else if isDot segment then dir
  else segment :: dir

/-- The path of a segment in a directory. Dots leave the directory without a name in it. -/
def finish (dir : List (List Char)) (segment : List Char) : Path :=
  if isDot segment || isDots segment then ⟨([] :: enter dir segment).reverse⟩
  else ⟨(segment :: dir).reverse⟩

def resolve (dir : List (List Char)) : List (List Char) → Path
  | [] => ⟨dir.reverse⟩
  | [segment] => finish dir segment
  | segment :: rest => resolve (enter dir segment) rest

/-- The path that a text spells. A slash in front goes without saying. -/
def ofText : List Char → Path
  | [] => ⟨[]⟩
  | '/' :: rest => resolve [] (Text.splitOn '/' rest)
  | cs => resolve [] (Text.splitOn '/' cs)

def toText (p : Path) : List Char := p.segments.flatMap ('/' :: ·)

/-- The bytes of a path in a file system, if the path has a slash. -/
def bytes? (p : Path) : Option (List UInt8) :=
  if p.segments.isEmpty then none else some (percentDecoded p.toText)

end Path

end SessionAuth.Url
