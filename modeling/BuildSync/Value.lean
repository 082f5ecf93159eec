import BuildSync.Scalar

/-!
# Document values

A document value is a scalar or a collection: a list, a map with its entries in the order of the
document, and the rarer lists of pairs, sets and ordered maps. A collection may contain itself; a
loop then stands where it would start over.
-/

set_option autoImplicit false

namespace BuildSync

/-- A key is a scalar, or a list of scalars or of pairs of them. -/
inductive Key
  | scalar (s : Scalar)
  | tuple (items : List Scalar)
  | pairs (items : List (Scalar × Scalar))
  deriving DecidableEq, Repr

/-- No key occurs twice in a map, an ordered map or a set. A loop leads back to the collection that
is so many collections up from the one around it. -/
inductive Value
  | scalar (s : Scalar)
  | list (items : List Value)
  | map (entries : List (Key × Value))
  | pairs (items : List (Value × Value))
  | set (items : List Key)
  | ordered (entries : List (Key × Value))
  | loop (up : Nat)

/-- The entries of a map, and the fields of a model that are carried along. -/
abbrev Entries := List (Key × Value)

def bracketed (opening closing : String) (items : List String) : String :=
  opening ++ String.intercalate ", " items ++ closing

/-- The text of a tuple; one alone has a comma behind it. -/
def tupleText : List String → String
  | [item] => "(" ++ item ++ ",)"
  | items => bracketed "(" ")" items

namespace Key

@[match_pattern] abbrev text (s : String) : Key := .scalar (.text s)

def text? : Key → Option String
  | .text s => some s
  | _ => none

def listed : Key → String
  | .scalar s => s.listed
  | .tuple items => tupleText (items.map Scalar.listed)
  | .pairs items => tupleText (items.map fun pair => tupleText [pair.1.listed, pair.2.listed])

def same : Key → Key → Bool
  | .scalar a, .scalar b => a.same b
  | .tuple as, .tuple bs => sameItems as bs
  | .pairs as, .pairs bs =>
    sameItems (as.map Prod.fst) (bs.map Prod.fst) && sameItems (as.map Prod.snd) (bs.map Prod.snd)
  | _, _ => false
where
  /-- Equality of lists of scalars. -/
  sameItems (as bs : List Scalar) : Bool :=
    as.length == bs.length && (as.zip bs).all fun p => p.1.same p.2

def scalarText : Scalar → String
  | .bool b => if b then "true" else "false"
  | .timestamp t => t.iso
  | .bytes bs => (Text.ofUtf8? bs).getD ""
  | s => s.display

def plainText : Key → String
  | .scalar s => scalarText s
  | .tuple items => String.intercalate "," (items.map scalarText)
  | .pairs items =>
    String.intercalate "," (items.map fun pair => scalarText pair.1 ++ "," ++ scalarText pair.2)

def ofPairs (items : List (Scalar × Scalar)) : Key :=
  if items.isEmpty then .tuple [] else .pairs items

/-- The value that a key is where it stands in a list. -/
def value : Key → Value
  | .scalar s => .scalar s
  | .tuple items => .list (items.map Value.scalar)
  | .pairs items => .list (items.map fun pair => .list [.scalar pair.1, .scalar pair.2])

end Key

namespace Value

@[match_pattern] abbrev null : Value := .scalar .null
@[match_pattern] abbrev bool (b : Bool) : Value := .scalar (.bool b)
@[match_pattern] abbrev text (s : String) : Value := .scalar (.text s)

def optionalText (s : Option String) : Value :=
  match s with
  | some s => .text s
  | none => .null

instance : Inhabited Value := ⟨.null⟩

def isNull : Value → Bool
  | .null => true
  | _ => false

mutual

/-- The text of a value inside the text of a collection; `around` holds what stands for each
collection around it where that starts over. -/
def listed (around : List String) : Value → String
  | .scalar s => s.listed
  | .list items => bracketed "[" "]" (listedItems ("[...]" :: around) items)
  | .map entries =>
    bracketed "\x7b" "\x7d" ((listedEntries ("\x7b...\x7d" :: around) entries).map fun e =>
      e.1 ++ ": " ++ e.2)
  | .pairs items => bracketed "[" "]" (listedPairs ("[...]" :: around) items)
  | .set items =>
    if items.isEmpty then "set()" else bracketed "\x7b" "\x7d" (items.map Key.listed)
  | .ordered entries =>
    if entries.isEmpty then "ordereddict()"
    else
      bracketed "ordereddict([" "])" ((listedEntries ("..." :: around) entries).map fun e =>
        tupleText [e.1, e.2])
  | .loop up => (around[up]?).getD ""

def listedItems (around : List String) : List Value → List String
  | [] => []
  | v :: rest => listed around v :: listedItems around rest

def listedEntries (around : List String) : List (Key × Value) → List (String × String)
  | [] => []
  | (k, v) :: rest => (k.listed, listed around v) :: listedEntries around rest

def listedPairs (around : List String) : List (Value × Value) → List String
  | [] => []
  | (a, b) :: rest => tupleText [listed around a, listed around b] :: listedPairs around rest

end

/-- The text of a value in a message, a text as it stands. -/
def display : Value → String
  | .scalar s => s.display
  | v => v.listed []

mutual

/-- Puts a collection in the place of the loops that lead `depth` collections up. -/
def graft (whole : Value) (depth : Nat) : Value → Value
  | .scalar s => .scalar s
  | .list items => .list (graftItems whole (depth + 1) items)
  | .map entries => .map (graftEntries whole (depth + 1) entries)
  | .pairs items => .pairs (graftPairs whole (depth + 1) items)
  | .set items => .set items
  | .ordered entries => .ordered (graftEntries whole (depth + 1) entries)
  | .loop up => if up = depth then whole else .loop up

def graftItems (whole : Value) (depth : Nat) : List Value → List Value
  | [] => []
  | v :: rest => graft whole depth v :: graftItems whole depth rest

def graftEntries (whole : Value) (depth : Nat) : List (Key × Value) → List (Key × Value)
  | [] => []
  | (k, v) :: rest => (k, graft whole depth v) :: graftEntries whole depth rest

def graftPairs (whole : Value) (depth : Nat) : List (Value × Value) → List (Value × Value)
  | [] => []
  | (a, b) :: rest => (graft whole depth a, graft whole depth b) :: graftPairs whole depth rest

end

/-- The entries of a map, ordered or not. A loop to the map is opened once. -/
def entries? (v : Value) : Option Entries :=
  match v with
  | .map entries => some (graftEntries v 0 entries)
  | .ordered entries => some (graftEntries v 0 entries)
  | _ => none

/-- The items of a list, a list of pairs or a set. A loop to the list is opened once. -/
def items? (v : Value) : Option (List Value) :=
  match v with
  | .list items => some (graftItems v 0 items)
  | .pairs items => some ((graftPairs v 0 items).map fun pair => .list [pair.1, pair.2])
  | .set items => some (items.map Key.value)
  | _ => none

end Value

/-- Puts a value under a key, in the place of an equal key if there is one. -/
def Entries.put (entries : Entries) (key : Key) (value : Value) : Entries :=
  match entries with
  | [] => [(key, value)]
  | (k, v) :: rest =>
    if k = key then (k, value) :: rest else (k, v) :: Entries.put rest key value

def Entries.get? (entries : Entries) (key : Key) : Option Value :=
  match entries with
  | [] => none
  | (k, v) :: rest => if k = key then some v else Entries.get? rest key

def Entries.has (entries : Entries) (key : Key) : Bool := entries.any fun e => e.1 == key

/-- The scalar as it is written: bytes and timestamps are texts. -/
def Scalar.plain : Scalar → Scalar
  | .timestamp t => .text t.iso
  | .bytes bs => .text ((Text.ofUtf8? bs).getD "")
  | s => s

def Key.plainValue : Key → Value
  | .scalar s => .scalar s.plain
  | .tuple items => .list (items.map fun s => .scalar s.plain)
  | .pairs items => .list (items.map fun pair => .list [.scalar pair.1.plain, .scalar pair.2.plain])

mutual

/-- The value as it is written: all collections are lists and maps, and all keys are texts. -/
def Value.plain : Value → Value
  | .scalar s => .scalar s.plain
  | .list items => .list (Value.plainItems items)
  | .map entries => .map (Value.plainEntries entries [])
  | .pairs items => .list (Value.plainPairs items)
  | .set items => .list (items.map Key.plainValue)
  | .ordered entries => .map (Value.plainEntries entries [])
  | .loop _ => .null

def Value.plainItems : List Value → List Value
  | [] => []
  | v :: rest => v.plain :: Value.plainItems rest

/-- `done` holds the entries before, where a later equal key wins. -/
def Value.plainEntries : List (Key × Value) → Entries → Entries
  | [], done => done
  | (k, v) :: rest, done => Value.plainEntries rest (done.put (.text k.plainText) v.plain)

def Value.plainPairs : List (Value × Value) → List Value
  | [] => []
  | (a, b) :: rest => .list [a.plain, b.plain] :: Value.plainPairs rest

end

end BuildSync
