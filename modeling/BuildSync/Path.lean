/-!
# Slash-separated paths

A path is a root (none, one slash, or exactly two) and its segments. Three leading slashes or more
count as one; empty segments and `.` are no segments; `..` is kept. A relative path without
segments is written `.`.
-/

set_option autoImplicit false

namespace BuildSync

inductive Root
  | relative
  | slash
  | doubleSlash
  deriving DecidableEq, Repr

def Root.text : Root → List Char
  | .relative => []
  | .slash => ['/']
  | .doubleSlash => ['/', '/']

structure Path where
  root : Root
  segments : List (List Char)
  deriving DecidableEq, Repr

namespace Path

/-- The pieces between slashes; there is one more than there are slashes. -/
def pieces : List Char → List (List Char)
  | [] => [[]]
  | c :: cs =>
    if c = '/' then [] :: pieces cs
    else
      match pieces cs with
      | [] => [[c]]
      | p :: ps => (c :: p) :: ps

def isSegment (piece : List Char) : Bool := piece != [] && piece != ['.']

def segmentsOf (cs : List Char) : List (List Char) := (pieces cs).filter isSegment

def rootOf : List Char → Root
  | '/' :: '/' :: '/' :: _ => .slash
  | '/' :: '/' :: _ => .doubleSlash
  | '/' :: _ => .slash
  | _ => .relative

def ofList (cs : List Char) : Path := ⟨rootOf cs, segmentsOf cs⟩

def ofString (s : String) : Path := ofList s.toList

def slashed : List (List Char) → List Char
  | [] => []
  | [s] => s
  | s :: t :: rest => s ++ '/' :: slashed (t :: rest)

def toList (p : Path) : List Char :=
  match p.root, p.segments with
  | .relative, [] => ['.']
  | root, segments => root.text ++ slashed segments

def toString (p : Path) : String := String.ofList p.toList

def append (p : Path) (segments : List (List Char)) : Path := ⟨p.root, p.segments ++ segments⟩

/-- The directory a path lies in; a path without segments is its own. -/
def parent (p : Path) : Path := ⟨p.root, p.segments.dropLast⟩

/-- The normal form of a path text. The empty text stays empty. -/
def normalize (path : String) : String :=
  if path = "" then "" else (ofString path).toString

def withoutLeadingSlashes (path : String) : String :=
  String.ofList (path.toList.dropWhile (· == '/'))

def withoutTrailingSlashes (path : String) : String :=
  String.ofList (path.toList.reverse.dropWhile (· == '/')).reverse

/-- `path` under the directory `dir`. A leading slash of `path` does not discard the directory. -/
def join (dir path : String) : String :=
  ((ofString dir).append (segmentsOf path.toList)).toString

/-- What follows `lead` in `cs`, where there is a whole number of segments after it. -/
def afterDirectory (lead cs : List Char) : Option (List Char) :=
  if lead.isPrefixOf cs then
    match cs.drop lead.length with
    | [] => some []
    | '/' :: rest => some rest
    | _ => none
  else none

/-- `path` without the leading directory `dir`, which matches whole segments only. -/
def withoutDirectory (path dir : String) : String :=
  let lead := (withoutTrailingSlashes dir).toList
  if lead = [] then path
  else
    match afterDirectory lead path.toList with
    | some rest => String.ofList rest
    | none => path

/-- `path` seen from the context directory, both in normal form. -/
def fromContext (path contextDir : String) : String :=
  let path := normalize path
  let dir := normalize contextDir
  if dir = "/" then withoutLeadingSlashes path else withoutDirectory path dir

end Path

end BuildSync
