import BuildSync.Value

/-!
# Validation

A check of a document value gives a result or all the issues found. A field may be spelled in
camel case or in snake case; the camel spelling wins where a record holds both, and the other one is
then a key like any other.
-/

set_option autoImplicit false

namespace BuildSync

inductive Fault
  | missing
  | notText
  | notUnicode
  | emptyText
  | notBool
  | boolText
  | notModel (model : String)
  | notVariant
  | tagMissing
  | tagUnknown (tag : String) (expected : List String)
  | notLiteral (expected : String)
  | notSequence
  | notDictionary
  | extraKey
  | nonTextKey
  | frozen
  deriving DecidableEq, Repr

namespace Fault

def code : Fault → String
  | .missing => "missing"
  | .notText => "string_type"
  | .notUnicode => "string_unicode"
  | .emptyText => "string_too_short"
  | .notBool => "bool_type"
  | .boolText => "bool_parsing"
  | .notModel _ => "model_type"
  | .notVariant => "model_attributes_type"
  | .tagMissing => "union_tag_not_found"
  | .tagUnknown _ _ => "union_tag_invalid"
  | .notLiteral _ => "literal_error"
  | .notSequence => "tuple_type"
  | .notDictionary => "dict_type"
  | .extraKey => "extra_forbidden"
  | .nonTextKey => "invalid_key"
  | .frozen => "frozen_instance"

def message : Fault → String
  | .missing => "Field required"
  | .notText => "Input should be a valid string"
  | .notUnicode =>
    "Input should be a valid string, unable to parse raw data as a unicode string"
  | .emptyText => "String should have at least 1 character"
  | .notBool => "Input should be a valid boolean"
  | .boolText => "Input should be a valid boolean, unable to interpret input"
  | .notModel model => "Input should be a valid dictionary or instance of " ++ model
  | .notVariant => "Input should be a valid dictionary or object to extract fields from"
  | .tagMissing => "Unable to extract tag using discriminator 'kind'"
  | .tagUnknown tag expected =>
    "Input tag '" ++ tag ++ "' found using 'kind' does not match any of the expected tags: " ++
      String.intercalate ", " (expected.map fun t => "'" ++ t ++ "'")
  | .notLiteral expected => "Input should be '" ++ expected ++ "'"
  | .notSequence => "Input should be a valid tuple"
  | .notDictionary => "Input should be a valid dictionary"
  | .extraKey => "Extra inputs are not permitted"
  | .nonTextKey => "Keys should be strings"
  | .frozen => "Instance is frozen"

end Fault

inductive Step
  | key (name : String)
  | index (i : Int)
  deriving DecidableEq, Repr

structure Issue where
  location : List Step
  fault : Fault
  deriving DecidableEq, Repr

inductive Checked (α : Type) where
  | ok (a : α)
  | invalid (issues : List Issue)

namespace Checked

variable {α β : Type}

def fail (fault : Fault) : Checked α := .invalid [⟨[], fault⟩]

def map (f : α → β) : Checked α → Checked β
  | .ok a => .ok (f a)
  | .invalid issues => .invalid issues

/-- Applies a checked function to a checked argument and keeps the issues of both. -/
def ap (f : Checked (α → β)) (a : Checked α) : Checked β :=
  match f, a with
  | .ok f, .ok a => .ok (f a)
  | .ok _, .invalid issues => .invalid issues
  | .invalid issues, .ok _ => .invalid issues
  | .invalid issues, .invalid more => .invalid (issues ++ more)

def bind (a : Checked α) (f : α → Checked β) : Checked β :=
  match a with
  | .ok a => f a
  | .invalid issues => .invalid issues

instance : Functor Checked where
  map := Checked.map

instance : Seq Checked where
  seq f a := f.ap (a ())

instance : Pure Checked where
  pure := .ok

def under (step : Step) : Checked α → Checked α
  | .ok a => .ok a
  | .invalid issues => .invalid (issues.map fun i => { i with location := step :: i.location })

def toOption : Checked α → Option α
  | .ok a => some a
  | .invalid _ => none

/-- Checks the items of a list, each under its position from `start` on. -/
def items (check : Value → Checked α) : Nat → List Value → Checked (List α)
  | _, [] => .ok []
  | start, v :: rest =>
    List.cons <$> (check v).under (.index start) <*> items check (start + 1) rest

end Checked

structure Spelling where
  camel : String
  snake : String
  deriving DecidableEq, Repr

def Spelling.word (name : String) : Spelling := ⟨name, name⟩

namespace Entries

/-- The spelling that a record uses for a field, and the value under it. -/
def field? (entries : Entries) (field : Spelling) : Option (String × Value) :=
  match entries.get? (.text field.camel) with
  | some v => some (field.camel, v)
  | none => (entries.get? (.text field.snake)).map fun v => (field.snake, v)

def usedKeys (entries : Entries) (fields : List Spelling) : List String :=
  fields.filterMap fun field => (entries.field? field).map Prod.fst

def unknown (entries : Entries) (fields : List Spelling) : Entries :=
  entries.filter fun e =>
    match e.1.text? with
    | some name => !(entries.usedKeys fields).contains name
    | none => true

def required {α : Type} (entries : Entries) (field : Spelling) (check : Value → Checked α) :
    Checked α :=
  match entries.field? field with
  | some (key, v) => (check v).under (.key key)
  | none => (Checked.fail .missing).under (.key field.camel)

def defaulted {α : Type} (entries : Entries) (field : Spelling) (default : α)
    (check : Value → Checked α) : Checked α :=
  match entries.field? field with
  | some (key, v) => (check v).under (.key key)
  | none => .ok default

def optional {α : Type} (entries : Entries) (field : Spelling) (check : Value → Checked α) :
    Checked (Option α) :=
  entries.defaulted field none fun v => if v.isNull then .ok none else some <$> check v

/-- Integers of 64 bits lie below it. -/
def wordBound : Int := 0x8000000000000000

def keyStep : Key → Step
  | .scalar (.bool b) => .index (if b then 1 else 0)
  | .scalar (.int i) =>
    if -wordBound ≤ i ∧ i < wordBound then .index i else .key (Scalar.int i).listed
  | .scalar (.text s) => .key s
  | .scalar (.brokenText codes) => .key (Scalar.brokenText codes).display
  | k => .key k.listed

/-- One issue for each entry that `fault` refuses. -/
def refuse (entries : Entries) (fault : Key → Option Fault) : Checked Unit :=
  match entries.filterMap fun e => (fault e.1).map fun f => (⟨[keyStep e.1], f⟩ : Issue) with
  | [] => .ok ()
  | issues => .invalid issues

def extras (entries : Entries) (fields : List Spelling) : Checked Entries :=
  let rest := entries.unknown fields
  (fun _ => rest) <$> rest.refuse fun k => if k.text?.isSome then none else some .nonTextKey

def noExtras (entries : Entries) (fields : List Spelling) : Checked Unit :=
  (entries.unknown fields).refuse fun k =>
    some (if k.text?.isSome then .extraKey else .nonTextKey)

end Entries

def Scalar.checkText : Scalar → Checked String
  | .text s => .ok s
  | .brokenText _ => .fail .notUnicode
  | .bytes bs =>
    match Text.ofUtf8? bs with
    | some s => .ok s
    | none => .fail .notUnicode
  | _ => .fail .notText

def Key.checkText : Key → Checked String
  | .scalar s => s.checkText
  | _ => .fail .notText

namespace Value

def record {α : Type} (model : String) (check : Entries → Checked α) (v : Value) : Checked α :=
  match v.entries? with
  | some entries => check entries
  | none => .fail (.notModel model)

def checkText : Value → Checked String
  | .scalar s => s.checkText
  | _ => .fail .notText

def checkNonemptyText (v : Value) : Checked String :=
  v.checkText.bind fun s => if s = "" then .fail .emptyText else .ok s

def checkLiteral (expected : String) : Value → Checked Unit
  | .text s => if s = expected then .ok () else .fail (.notLiteral expected)
  | _ => .fail (.notLiteral expected)

/-- What the texts that stand for a boolean, in any ASCII case, stand for. -/
def boolOfText? (s : String) : Option Bool :=
  let s := String.ofList (s.toList.map Char.toLower)
  if ["0", "off", "f", "false", "n", "no"].contains s then some false
  else if ["1", "on", "t", "true", "y", "yes"].contains s then some true
  else none

def boolOfText (s : Option String) : Checked Bool :=
  match s.bind boolOfText? with
  | some b => .ok b
  | none => .fail .boolText

def boolOfInt (i : Int) : Checked Bool :=
  if i = 0 then .ok false else if i = 1 then .ok true else .fail .boolText

/-- A boolean, a text or bytes that stand for one, or a number of 64 bits that is zero or one. -/
def checkBool : Value → Checked Bool
  | .bool b => .ok b
  | .text s => boolOfText (some s)
  | .scalar (.bytes bs) => boolOfText (Text.ofUtf8? bs)
  | .scalar (.brokenText _) => .fail .notUnicode
  | .scalar (.int i) => if -Entries.wordBound ≤ i ∧ i < Entries.wordBound then boolOfInt i else .fail .notBool
  | .scalar (.double d) =>
    match d.toInt? with
    | some i => if -Entries.wordBound < i ∧ i < Entries.wordBound then boolOfInt i else .fail .notBool
    | none => .fail .notBool
  | _ => .fail .notBool

def checkList {α : Type} (check : Value → Checked α) (v : Value) : Checked (List α) :=
  match v.items? with
  | some items => Checked.items check 0 items
  | none => .fail .notSequence

/-- Reads a variant named by the field `kind`, with the tag in front of its issues. -/
def variant {α : Type} (tags : List String) (check : String → Value → Checked α) (v : Value) :
    Checked α :=
  match v.entries? with
  | some entries =>
    match entries.get? (.text "kind") with
    | none => .fail .tagMissing
    | some (.text tag) =>
      if tags.contains tag then (check tag v).under (.key tag) else .fail (.tagUnknown tag tags)
    | some tag => .fail (.tagUnknown tag.display tags)
  | none => .fail .notVariant

end Value

structure ValidationError where
  model : String
  issues : List Issue
  deriving DecidableEq, Repr

namespace ValidationError

def headline (e : ValidationError) : String :=
  let n := e.issues.length
  let noun := if n = 1 then "error" else "errors"
  s!"{n} validation {noun} for {e.model}"

end ValidationError

/-- A checked document of the named model as a result or an error. -/
def Checked.toExcept {α : Type} (model : String) : Checked α → Except ValidationError α
  | .ok a => .ok a
  | .invalid issues => .error ⟨model, issues⟩

end BuildSync
