import BuildSync.Value

/-!
# Writing records

A full dump of a record holds every field, null where it is absent. A manifest dump leaves out the
fields and carried entries that are null; nulls further down in a carried entry stay. Some values
cannot be written: those that contain themselves, those that are nested too deep, and those whose
bytes or keys are no texts.
-/

set_option autoImplicit false

namespace BuildSync

inductive DumpStyle
  | full
  | manifest
  deriving DecidableEq, Repr

def DumpStyle.keeps : DumpStyle → Value → Bool
  | .full, _ => true
  | .manifest, v => !v.isNull

/-- A record with its fields in front of the entries it carries along. -/
def dumpRecord (style : DumpStyle) (fields : List (String × Value)) (extras : Entries) : Value :=
  .map ((fields.map (fun f => (Key.text f.1, f.2)) ++ Value.plainEntries extras []).filter
    fun e => style.keeps e.2)

def dumpOptional {α : Type} (dump : α → Value) (part : Option α) : Value :=
  match part with
  | some a => dump a
  | none => .null

inductive DumpFault
  | circular
  | tooDeep
  | undecodable (fault : Text.Utf8Fault)
  /-- A key with surrogates; `first` of them at a position is followed by more up to a length. -/
  | surrogates (first start length : Nat)
  deriving DecidableEq, Repr

namespace DumpFault

def message : DumpFault → String
  | .circular => "Circular reference detected (id repeated)"
  | .tooDeep => "Maximum serialization depth exceeded"
  | .undecodable fault => fault.message
  | .surrogates first start length =>
    let place :=
      if length = 1 then s!" '{String.ofList (Text.codeEscape first)}' in position {start}"
      else s!"s in position {start}-{start + length - 1}"
    s!"'utf-8' codec can't encode character{place}: surrogates not allowed"

def ofCodes? (codes : List Nat) : Option DumpFault :=
  let (lead, rest) := codes.span (!Text.isSurrogate ·)
  match rest with
  | [] => none
  | first :: _ => some (.surrogates first lead.length (rest.takeWhile Text.isSurrogate).length)

def ofBytes? (bytes : List UInt8) : Option DumpFault :=
  (Text.utf8Fault 0 bytes).map fun fault =>
    .undecodable { fault with length := 1, reason := .invalid }

end DumpFault

/-- The most values around one another in what a record carries along. -/
def maxDumpDepth : Nat := 254

def depthFault? (depth : Nat) : Option DumpFault :=
  if maxDumpDepth ≤ depth then some .tooDeep else none

/-- The first reason why a scalar with so many values around it cannot be written. -/
def Scalar.dumpFault? (depth : Nat) : Scalar → Option DumpFault
  | .bytes bs => depthFault? depth <|> DumpFault.ofBytes? bs
  | _ => depthFault? depth

def Scalar.keyFault? : Scalar → Option DumpFault
  | .bytes bs => DumpFault.ofBytes? bs
  | .brokenText codes => DumpFault.ofCodes? codes
  | _ => none

namespace Key

def keyFault? : Key → Option DumpFault
  | .scalar s => s.keyFault?
  | .tuple items => items.findSome? Scalar.keyFault?
  | .pairs items => items.findSome? fun pair => pair.1.keyFault? <|> pair.2.keyFault?

/-- Why a key cannot be written as an item of a set. -/
def dumpFault? (depth : Nat) : Key → Option DumpFault
  | .scalar s => s.dumpFault? depth
  | .tuple items => depthFault? depth <|> items.findSome? (Scalar.dumpFault? (depth + 1))
  | .pairs items =>
    depthFault? depth <|> items.findSome? fun pair =>
      depthFault? (depth + 1) <|> pair.1.dumpFault? (depth + 2) <|> pair.2.dumpFault? (depth + 2)

end Key

namespace Value

mutual

/-- The first reason why a value with so many values around it cannot be written. -/
def dumpFault? (depth : Nat) : Value → Option DumpFault
  | .loop _ => some .circular
  | .scalar s => s.dumpFault? depth
  | .list items => depthFault? depth <|> itemsFault? (depth + 1) items
  | .map entries => depthFault? depth <|> entriesFault? (depth + 1) entries
  | .pairs items => depthFault? depth <|> pairsFault? (depth + 1) items
  | .set items => depthFault? depth <|> items.findSome? (Key.dumpFault? (depth + 1))
  | .ordered entries => depthFault? depth <|> entriesFault? (depth + 1) entries

def itemsFault? (depth : Nat) : List Value → Option DumpFault
  | [] => none
  | v :: rest => dumpFault? depth v <|> itemsFault? depth rest

def entriesFault? (depth : Nat) : List (Key × Value) → Option DumpFault
  | [] => none
  | (k, v) :: rest => k.keyFault? <|> dumpFault? depth v <|> entriesFault? depth rest

def pairsFault? (depth : Nat) : List (Value × Value) → Option DumpFault
  | [] => none
  | (a, b) :: rest =>
    depthFault? depth <|> dumpFault? (depth + 1) a <|> dumpFault? (depth + 1) b <|>
      pairsFault? depth rest

end

end Value

/-- The first reason why what a record carries along cannot be written. -/
def Entries.dumpFault? (entries : Entries) : Option DumpFault := Value.entriesFault? 0 entries

end BuildSync
