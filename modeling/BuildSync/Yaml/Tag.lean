/-!
# Tags

What a node says it is, as far as it is known.
-/

set_option autoImplicit false

namespace BuildSync.Yaml

inductive Tag
  | null
  | bool
  | int
  | float
  | binary
  | timestamp
  | text
  | merge
  | value
  | ordered
  | pairs
  | set
  | sequence
  | mapping
  | unknown
  deriving DecidableEq, Repr

namespace Tag

def space : String := "tag:yaml.org,2002:"

def names : List (String × Tag) :=
  [("null", null), ("bool", bool), ("int", int), ("float", float), ("binary", binary),
    ("timestamp", timestamp), ("str", text), ("merge", merge), ("value", value), ("omap", ordered),
    ("pairs", pairs), ("set", set), ("seq", sequence), ("map", mapping)]

def ofName (name : String) : Tag :=
  ((names.map fun e => (space ++ e.1, e.2)).lookup name).getD unknown

def isCollection : Tag → Bool
  | ordered | pairs | set | sequence | mapping => true
  | _ => false

end Tag

end BuildSync.Yaml
