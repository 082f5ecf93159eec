import BuildSync.Yaml.Lexer
import BuildSync.Yaml.Object

/-!
# Documents

The graph of a document, read from its tokens, and the value of a text. A text holds one document at
most. Where a node may be left out, an empty one stands for null.
-/

set_option autoImplicit false

namespace BuildSync.Yaml

/-- What the directives of a document decide: the minor version of the rules, and what the handles
of tags stand for. -/
structure Directives where
  minor : Nat
  handles : List (String × String)

namespace Directives

def default : Directives := ⟨2, [("!", "!"), ("!!", Tag.space)]⟩

/-- The version of the rules for plain scalars, if there are such rules. -/
def version? (d : Directives) : Option Version :=
  if d.minor = 1 then some .v11 else if d.minor = 2 then some .v12 else none

def version (d : Directives) : Version := d.version?.getD .v12

def tagName? (d : Directives) (tag : WrittenTag) : Option String :=
  match tag.handle with
  | none => some tag.suffix
  | some handle => (d.handles.lookup handle).map fun lead => lead ++ tag.suffix

end Directives

/-- The tokens still to read, the nodes read and named so far, and the number of collections around
the next one. -/
structure Reader where
  tokens : List Token
  graph : Graph
  anchors : List (String × NodeId)
  depth : Nat

def maxDepth : Nat := 480

namespace Reader

def start (tokens : List Token) : Reader := ⟨tokens, #[], [], 0⟩

def peek (r : Reader) : TokenKind :=
  match r.tokens with
  | [] => .streamEnd
  | token :: _ => token.kind

def advance (r : Reader) : Reader := { r with tokens := r.tokens.drop 1 }

def add (r : Reader) (anchor : Option String) (tag : Tag) (shape : Shape) : NodeId × Reader :=
  let id := r.graph.size
  let anchors :=
    match anchor with
    | some name => (name, id) :: r.anchors
    | none => r.anchors
  (id, { r with graph := r.graph.push ⟨tag, shape, false⟩, anchors := anchors })

/-- Adds a collection with nothing in it yet, so that its content may name it. -/
def openCollection (r : Reader) (anchor : Option String) (tag : Tag) : Option (NodeId × Reader) :=
  if r.depth ≥ maxDepth then none
  else
    let (id, r) := r.add anchor tag (.sequence [])
    some (id, { r with depth := r.depth + 1 })

def close (r : Reader) (id : NodeId) (shape : Shape) : NodeId × Reader :=
  (id, { r with graph := r.graph.setShape id shape, depth := r.depth - 1 })

end Reader

/-- What may stand in front of a node: its name and the name of its tag. -/
structure NodeProperties where
  anchor : Option String
  tag : Option String

namespace NodeProperties

def isEmpty (p : NodeProperties) : Bool := p.anchor.isNone && p.tag.isNone

def collectionTag (p : NodeProperties) (default : Tag) : Tag :=
  match p.tag with
  | none | some "!" => default
  | some name => .ofName name

end NodeProperties

section

variable (d : Directives)

def readTag (r : Reader) : Option (Option String × Reader) :=
  match r.peek with
  | .tag written => (d.tagName? written).map fun name => (some name, r.advance)
  | _ => some (none, r)

def readAnchor (r : Reader) : Option String × Reader :=
  match r.peek with
  | .anchor name => (some name, r.advance)
  | _ => (none, r)

def readProperties (r : Reader) : Option (NodeProperties × Reader) :=
  match readAnchor r with
  | (some anchor, r) => (readTag d r).map fun (tag, r) => (⟨some anchor, tag⟩, r)
  | (none, r) => do
    let (tag, r) ← readTag d r
    match tag with
    | none => some (⟨none, none⟩, r)
    | some tag =>
      let (anchor, r) := readAnchor r
      some (⟨anchor, some tag⟩, r)

/-- The tag of a scalar without a tag of its own that has no quotes. -/
def plainTag? (codes : List Nat) : Option Tag :=
  d.version?.map fun version =>
    match Text.ofCodes? codes with
    | some s => plainTag version s
    | none => .text

def scalarTag? (p : NodeProperties) (codes : List Nat) (plain : Bool) : Option Tag :=
  match p.tag with
  | some "!" => plainTag? d codes
  | some name => some (.ofName name)
  | none => if plain then plainTag? d codes else some .text

def readScalar (r : Reader) (p : NodeProperties) (codes : List Nat) (plain : Bool) :
    Option (NodeId × Reader) :=
  (scalarTag? d p codes plain).map fun tag => r.add p.anchor tag (.scalar codes)

def emptyNode? (r : Reader) : Option (NodeId × Reader) := readScalar d r ⟨none, none⟩ [] true

/-- Where a node may stand: in a block, and in front of a dash at the indentation of its mapping. -/
inductive Place
  | flow
  | block
  | blockOrDash
  deriving DecidableEq, Repr

mutual

def readNode : Nat → Place → Reader → Option (NodeId × Reader)
  | 0, _, _ => none
  | fuel + 1, place, r =>
    match r.peek with
    | .alias name => (r.anchors.lookup name).map fun id => (id, r.advance)
    | _ => do
      let (p, r) ← readProperties d r
      match r.peek with
      | .scalar codes plain => readScalar d r.advance p codes plain
      | .flowSequenceStart => do
        let (id, r) ← r.advance.openCollection p.anchor (p.collectionTag .sequence)
        let (items, r) ← readFlowItems fuel true r
        some (r.close id (.sequence items))
      | .flowMappingStart => do
        let (id, r) ← r.advance.openCollection p.anchor (p.collectionTag .mapping)
        let (entries, r) ← readFlowEntries fuel true r
        some (r.close id (.mapping entries))
      | .blockSequenceStart =>
        if place = .flow then none
        else do
          let (id, r) ← r.advance.openCollection p.anchor (p.collectionTag .sequence)
          let (items, r) ← readBlockItems fuel r
          some (r.close id (.sequence items))
      | .blockMappingStart =>
        if place = .flow then none
        else do
          let (id, r) ← r.advance.openCollection p.anchor (p.collectionTag .mapping)
          let (entries, r) ← readBlockEntries fuel r
          some (r.close id (.mapping entries))
      | .blockEntry =>
        if place = .blockOrDash then do
          let (id, r) ← r.openCollection p.anchor (p.collectionTag .sequence)
          let (items, r) ← readDashItems fuel r
          some (r.close id (.sequence items))
        else if p.isEmpty then none
        else readScalar d r p [] true
      | _ => if p.isEmpty then none else readScalar d r p [] true

/-- Reads a node, or an empty one in front of a token that ends it. -/
def readNodeBefore : Nat → Place → List TokenKind → Reader → Option (NodeId × Reader)
  | 0, _, _, _ => none
  | fuel + 1, place, ends, r =>
    if ends.contains r.peek then emptyNode? d r else readNode fuel place r

/-- Reads the value of an entry, which may be left out with its colon. -/
def readEntryValue : Nat → Place → List TokenKind → Reader → Option (NodeId × Reader)
  | 0, _, _, _ => none
  | fuel + 1, place, ends, r =>
    if r.peek = .value then readNodeBefore fuel place ends r.advance else emptyNode? d r

/-- Reads an entry from its key on, which may be left out. -/
def readEntry : Nat → Place → List TokenKind → Reader → Option ((NodeId × NodeId) × Reader)
  | 0, _, _, _ => none
  | fuel + 1, place, ends, r => do
    let (key, r) ← readNodeBefore fuel place (.value :: ends) r
    let (value, r) ← readEntryValue fuel place ends r
    some ((key, value), r)

def readBlockItems : Nat → Reader → Option (List NodeId × Reader)
  | 0, _ => none
  | fuel + 1, r =>
    match r.peek with
    | .blockEntry => do
      let (item, r) ← readNodeBefore fuel .block [.blockEntry, .blockEnd] r.advance
      let (rest, r) ← readBlockItems fuel r
      some (item :: rest, r)
    | .blockEnd => some ([], r.advance)
    | _ => none

/-- Reads the items of a sequence that has no block of its own. -/
def readDashItems : Nat → Reader → Option (List NodeId × Reader)
  | 0, _ => none
  | fuel + 1, r =>
    if r.peek = .blockEntry then do
      let (item, r) ← readNodeBefore fuel .block [.blockEntry, .key, .value, .blockEnd] r.advance
      let (rest, r) ← readDashItems fuel r
      some (item :: rest, r)
    else some ([], r)

def readBlockEntries : Nat → Reader → Option (List (NodeId × NodeId) × Reader)
  | 0, _ => none
  | fuel + 1, r =>
    match r.peek with
    | .blockEnd => some ([], r.advance)
    | .key => do
      let (entry, r) ← readEntry fuel .blockOrDash [.key, .value, .blockEnd] r.advance
      let (rest, r) ← readBlockEntries fuel r
      some (entry :: rest, r)
    | .value =>
      if d.minor > 1 then do
        let (entry, r) ← readEntry fuel .blockOrDash [.key, .value, .blockEnd] r
        let (rest, r) ← readBlockEntries fuel r
        some (entry :: rest, r)
      else none
    | _ => none

/-- Reads the items of a flow sequence, of which one may be a single entry. -/
def readFlowItems : Nat → Bool → Reader → Option (List NodeId × Reader)
  | 0, _, _ => none
  | fuel + 1, first, r =>
    if r.peek = .flowSequenceEnd then some ([], r.advance)
    else if !first && r.peek != .flowEntry then none
    else
      let r := if first then r else r.advance
      match r.peek with
      | .flowSequenceEnd => some ([], r.advance)
      | .key => do
        let (id, r) ← r.advance.openCollection none .mapping
        let (entry, r) ← readEntry fuel .flow [.flowEntry, .flowSequenceEnd] r
        let (id, r) := r.close id (.mapping [entry])
        let (rest, r) ← readFlowItems fuel false r
        some (id :: rest, r)
      | _ => do
        let (item, r) ← readNode fuel .flow r
        let (rest, r) ← readFlowItems fuel false r
        some (item :: rest, r)

def readFlowEntries : Nat → Bool → Reader → Option (List (NodeId × NodeId) × Reader)
  | 0, _, _ => none
  | fuel + 1, first, r =>
    if r.peek = .flowMappingEnd then some ([], r.advance)
    else if !first && r.peek != .flowEntry then none
    else
      let r := if first then r else r.advance
      match r.peek with
      | .flowMappingEnd => some ([], r.advance)
      | .key => do
        let (entry, r) ← readEntry fuel .flow [.flowEntry, .flowMappingEnd] r.advance
        let (rest, r) ← readFlowEntries fuel false r
        some (entry :: rest, r)
      | kind => do
        let (entry, r) ←
          if kind = .value ∧ d.minor > 1 then
            readEntry fuel .flow [.flowEntry, .flowMappingEnd] r
          else do
            let (key, r) ← readNode fuel .flow r
            let (value, r) ← emptyNode? d r
            some ((key, value), r)
        let (rest, r) ← readFlowEntries fuel false r
        some (entry :: rest, r)

end

end

/-- Reads directives; none may be given twice. -/
def readDirectives :
    List Token → Option Nat → List (String × String) → Option (Directives × List Token)
  | ⟨.versionDirective major minor, _⟩ :: rest, version, handles =>
    if version.isSome || major != 1 then none else readDirectives rest (some minor) handles
  | ⟨.tagDirective handle lead, _⟩ :: rest, version, handles =>
    if (handles.lookup handle).isSome then none
    else readDirectives rest version ((handle, lead) :: handles)
  | ⟨.otherDirective, _⟩ :: rest, version, handles => readDirectives rest version handles
  | rest, version, handles =>
    some (⟨version.getD Directives.default.minor, handles ++ Directives.default.handles⟩, rest)

def endsDocument (d : Directives) : List Token → Bool
  | [⟨.streamEnd, _⟩] => true
  | ⟨.documentEnd, line⟩ :: rest =>
    match rest with
    | [⟨.streamEnd, _⟩] => true
    | next :: _ =>
      d.minor == 1 && next.line != line &&
        (rest.dropWhile fun token => token.kind = .documentEnd).map Token.kind == [.streamEnd]
    | [] => false
  | _ => false

/-- Reads the document that starts at the first token, as a graph and its root. -/
def readContent (d : Directives) (tokens : List Token) : Option (NodeId × Graph) := do
  let (root, r) ← readNode d (6 * tokens.length + 6) .block (.start tokens)
  if endsDocument d r.tokens then some (root, r.graph) else none

/-- Reads the document behind its start, of which the node may be left out. -/
def readExplicit (d : Directives) (tokens : List Token) : Option (NodeId × Graph) := do
  let r := Reader.start tokens
  match r.peek with
  | .versionDirective _ _ | .tagDirective _ _ | .otherDirective | .documentStart | .documentEnd
  | .streamEnd =>
    let (root, r) ← emptyNode? d r
    if endsDocument d tokens then some (root, r.graph) else none
  | _ => readContent d tokens

def Directives.value? (d : Directives) (document : NodeId × Graph) : Option Value :=
  document.2.value? d.version document.1

/-- The value of the document in a list of tokens; null where there is no document. -/
def valueOfTokens (tokens : List Token) : Option Value :=
  match tokens with
  | [⟨.streamEnd, _⟩] => some .null
  | ⟨.versionDirective _ _, _⟩ :: _ | ⟨.tagDirective _ _, _⟩ :: _ | ⟨.otherDirective, _⟩ :: _
  | ⟨.documentStart, _⟩ :: _ => do
    let (d, rest) ← readDirectives tokens none []
    match rest with
    | ⟨.documentStart, _⟩ :: rest => (readExplicit d rest).bind d.value?
    | _ => none
  | _ => (readContent .default tokens).bind Directives.default.value?

def readValue (cs : List Char) : Option Value := (tokens? cs).bind valueOfTokens

end BuildSync.Yaml
