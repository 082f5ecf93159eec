import BuildSync.Value
import BuildSync.Yaml.Graph

/-!
# Objects

What the nodes of a graph stand for. Scalars are made at once. Collections are made empty, and
filled in the order in which they were made; only a key is read as soon as its mapping is filled,
and a list that is not filled by then is an empty key. A mapping that inherits nothing must not
repeat a key.
-/

set_option autoImplicit false

namespace BuildSync.Yaml

inductive Object
  | scalar (s : Scalar)
  /-- A collection that is not filled yet. -/
  | empty
  | list (items : List NodeId)
  | map (entries : List (Key × NodeId))
  | pairs (items : List (NodeId × NodeId))
  | set (items : List Key)
  | ordered (entries : List (Key × NodeId))

/-- The objects made so far, and the collections among them in the order in which they are
filled. -/
structure Objects where
  version : Version
  graph : Graph
  /-- At least as many as the entries of the graph that say what is inherited. -/
  merges : Nat
  made : Array (Option Object)
  collections : Array NodeId

/-- A step that makes or fills objects, unless the document is refused. -/
abbrev Making := StateT Objects Option

/-- Puts a value under a key, in the place of the same key if there is one. -/
def putSame (entries : List (Key × NodeId)) (entry : Key × NodeId) : List (Key × NodeId) :=
  match entries with
  | [] => [entry]
  | (k, v) :: rest =>
    if k.same entry.1 then (k, entry.2) :: rest else (k, v) :: putSame rest entry

def repeatsKey : List (Key × NodeId) → Bool
  | [] => false
  | (k, _) :: rest => rest.any (fun e => k.same e.1) || repeatsKey rest

namespace Objects

def object? (o : Objects) (id : NodeId) : Option Object := (o.made[id]?).join

def put (o : Objects) (id : NodeId) (object : Object) : Objects :=
  { o with made := o.made.setIfInBounds id (some object) }

/-- The scalar of a node. A timestamp must be written as one. -/
def scalar? (o : Objects) (id : NodeId) : Option Scalar :=
  let tag := o.graph.tag id
  match o.graph.shape id with
  | .scalar codes => scalarOf o.version codes tag
  | _ =>
    if tag = .timestamp then none
    else (o.graph.codes? (o.graph.size + 1) id).bind fun codes => scalarOf o.version codes tag

def addNull (o : Objects) : NodeId × Objects :=
  (o.made.size,
    { o with
      graph := o.graph.push ⟨.null, .scalar [], false⟩
      made := o.made.push (some (.scalar .null)) })

def make (id : NodeId) : Making Unit := do
  let o ← get
  if (o.object? id).isNone then
    if (o.graph.tag id).isCollection then
      StateT.set { o.put id .empty with collections := o.collections.push id }
    else
      let s ← o.scalar? id
      StateT.set (o.put id (.scalar s))

/-- The scalar that a node stands for; no collection can be part of a key. -/
def keyScalar (id : NodeId) : Making Scalar := do
  make id
  match (← get).object? id with
  | some (.scalar s) => return s
  | _ => failure

def onlyEntry (id : NodeId) : Making (NodeId × NodeId) := do
  match (← get).graph.shape id with
  | .mapping [entry] => return entry
  | _ => failure

/-- A part of a key, null where the key would contain itself. -/
def keyPart (key part : NodeId) : Making NodeId := do
  if part = key then
    let (id, o) := (← get).addNull
    StateT.set o
    return id
  else
    let _ ← keyScalar part
    return part

def makeKey (id : NodeId) : Making Unit := do
  let o ← get
  match o.graph.tag id, o.graph.shape id with
  | .sequence, .sequence items => do
    let items ← items.mapM (keyPart id)
    modify fun o => o.put id (.list items)
  | .pairs, .sequence items => do
    let items ← items.mapM fun item => do
      let (k, v) ← onlyEntry item
      return (← keyPart id k, ← keyPart id v)
    modify fun o => o.put id (.pairs items)
  | _, _ => failure

/-- The key that a node stands for: a scalar, or a list of scalars or pairs of them. -/
def keyOf (id : NodeId) : Making Key := do
  let o ← get
  let tag := o.graph.tag id
  if (o.object? id).isNone then
    if tag.isCollection then makeKey id else make id
  match (← get).object? id with
  | some (.scalar s) => return .scalar s
  | some (.list items) => return .tuple (← items.mapM keyScalar)
  | some (.pairs items) =>
    return .ofPairs (← items.mapM fun pair => return (← keyScalar pair.1, ← keyScalar pair.2))
  | some .empty => if tag = .sequence ∨ tag = .pairs then return .tuple [] else failure
  | _ => failure

/-- The entries of a mapping with those that it inherits. The last entry of a key wins. -/
def mapEntries (id : NodeId) : Making (List (Key × NodeId)) := do
  let o ← get
  match o.graph.shape id with
  | .mapping _ => do
    let graph ← o.graph.flatten o.merges id []
    StateT.set { o with graph := graph }
    let entries ← (graph.entries id).mapM fun e => do
      let key ← keyOf e.1
      make e.2
      return (key, e.2)
    if (graph[id]?.map Node.inherits).getD false then return entries.foldl putSame []
    else if repeatsKey entries then failure
    else return entries
  | _ => failure

def singleEntries (id : NodeId) : Making (List (NodeId × NodeId)) := do
  match (← get).graph.shape id with
  | .sequence items => items.mapM onlyEntry
  | _ => failure

def content (id : NodeId) : Making Object := do
  let o ← get
  match o.graph.tag id, o.graph.shape id with
  | .sequence, .sequence items => do
    items.forM make
    return .list items
  | .mapping, _ => return .map (← mapEntries id)
  | .set, _ => return .set ((← mapEntries id).map Prod.fst)
  | .pairs, _ => do
    let items ← singleEntries id
    items.forM fun pair => do
      make pair.1
      make pair.2
    return .pairs items
  | .ordered, _ => do
    let entries ← (← singleEntries id).mapM fun e => do
      let key ← keyScalar e.1
      make e.2
      return (Key.scalar key, e.2)
    if repeatsKey entries then failure else return .ordered entries
  | _, _ => failure

/-- Fills the collections from a position on, of which `fuel` are left at most. -/
def fillFrom : Nat → Nat → Making Unit
  | 0, _ => return ()
  | fuel + 1, position => do
    match (← get).collections[position]? with
    | some id => do
      let object ← content id
      modify fun o => o.put id object
      fillFrom fuel (position + 1)
    | none => return ()

/-- The value of an object, with loops to the collections around it. -/
def value (o : Objects) : Nat → List NodeId → NodeId → Value
  | 0, _, _ => .null
  | fuel + 1, around, id =>
    match around.idxOf? id with
    | some up => .loop up
    | none =>
      let part := value o fuel (id :: around)
      match o.object? id with
      | some (.scalar s) => .scalar s
      | some (.list items) => .list (items.map part)
      | some (.map entries) => .map (entries.map fun e => (e.1, part e.2))
      | some (.pairs items) => .pairs (items.map fun pair => (part pair.1, part pair.2))
      | some (.set items) => .set items
      | some (.ordered entries) => .ordered (entries.map fun e => (e.1, part e.2))
      | _ => .null

end Objects

def Graph.value? (g : Graph) (version : Version) (root : NodeId) : Option Value := do
  let start : Objects := ⟨version, g, g.mergeCount, Array.replicate g.size none, #[]⟩
  let filling : Making Unit := do
    Objects.make root
    Objects.fillFrom (g.size + 1) 0
  let (_, objects) ← filling.run start
  some (objects.value (objects.graph.size + 1) [] root)

end BuildSync.Yaml
