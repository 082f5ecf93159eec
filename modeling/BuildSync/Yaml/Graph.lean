import BuildSync.Yaml.Conversion

/-!
# Graphs

A document as a graph of tagged nodes. A node may be reached along several paths, also from itself.
A mapping may inherit the entries of other mappings under the key `<<`.
-/

set_option autoImplicit false

namespace BuildSync.Yaml

abbrev NodeId := Nat

inductive Shape
  | scalar (codes : List Nat)
  | sequence (items : List NodeId)
  | mapping (entries : List (NodeId × NodeId))

structure Node where
  tag : Tag
  shape : Shape
  /-- Whether entries of other mappings stand in front of its own. -/
  inherits : Bool

abbrev Graph := Array Node

namespace Graph

def tag (g : Graph) (id : NodeId) : Tag := (g[id]?.map Node.tag).getD .unknown

def shape (g : Graph) (id : NodeId) : Shape := (g[id]?.map Node.shape).getD (.scalar [])

def entries (g : Graph) (id : NodeId) : List (NodeId × NodeId) :=
  match g.shape id with
  | .mapping entries => entries
  | _ => []

def setShape (g : Graph) (id : NodeId) (shape : Shape) : Graph :=
  g.modify id fun node => { node with shape := shape }

/-- The code points of a scalar. A mapping with the key `=` stands for the scalar under it, which is
found in `fuel` steps. -/
def codes? (g : Graph) : Nat → NodeId → Option (List Nat)
  | 0, _ => none
  | fuel + 1, id =>
    match g.shape id with
    | .scalar codes => some codes
    | .sequence _ => none
    | .mapping entries =>
      (entries.find? fun e => g.tag e.1 == .value).bind fun e => codes? g fuel e.2

def isMerge (g : Graph) (entry : NodeId × NodeId) : Bool := g.tag entry.1 == .merge

def mergeCount (g : Graph) : Nat :=
  g.toList.foldl
    (fun n node =>
      match node.shape with
      | .mapping entries => n + entries.countP g.isMerge
      | _ => n)
    0

/-- Makes the keys `=` of a mapping texts, and puts inherited entries in front of its own. -/
def inherit (g : Graph) (id : NodeId) (inherited : List (NodeId × NodeId)) : Graph :=
  let own := g.entries id
  let g := own.foldl
    (fun g e =>
      if g.tag e.1 == .value then g.modify e.1 fun key => { key with tag := .text } else g)
    g
  if inherited.isEmpty then g
  else g.modify id fun node => { node with shape := .mapping (inherited ++ own), inherits := true }

/-- Resolves what a mapping inherits, with what it has inherited so far: from a mapping, or from a
sequence of mappings, of which the first one wins. Once it inherits an entry it must inherit from
nothing else. Every step takes the entry of one `<<` away, of which `fuel` are left at most. -/
def flatten : Nat → Graph → NodeId → List (NodeId × NodeId) → Option Graph
  | 0, g, id, inherited => some (g.inherit id inherited)
  | fuel + 1, g, id, inherited =>
    match (g.entries id).span fun e => !g.isMerge e with
    | (_, []) => some (g.inherit id inherited)
    | (before, (_, source) :: after) => do
      if !inherited.isEmpty then none
      else
        let g := g.setShape id (.mapping (before ++ after))
        match g.shape source with
        | .scalar _ => none
        | .mapping _ => do
          let g ← flatten fuel g source []
          flatten fuel g id (g.entries source)
        | .sequence items => do
          let (g, inherited) ← items.foldlM
            (fun (g, found) item =>
              match g.shape item with
              | .mapping _ => do
                let g ← flatten fuel g item []
                some (g, g.entries item ++ found)
              | _ => none)
            (g, [])
          flatten fuel g id inherited

end Graph

end BuildSync.Yaml
