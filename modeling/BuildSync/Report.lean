import BuildSync.Sync.Reconcile
import BuildSync.Text.Lines

/-!
# Reports

What the command line prints about changes, definitions and failures. A style may colour a text;
colours are written as terminal escapes.
-/

set_option autoImplicit false

namespace BuildSync.Report

inductive Colour
  | red
  | yellow
  deriving DecidableEq, Repr

structure Style where
  colour : Option Colour
  bold : Bool
  deriving DecidableEq, Repr

def escapeOpen (code : String) : String := "\x1b[" ++ code ++ "m"

def Colour.code : Colour → String
  | .red => "31"
  | .yellow => "33"

def styled (color : Bool) (style : Style) (text : String) : String :=
  if color then
    let colour := (style.colour.map fun c => escapeOpen c.code).getD ""
    let bold := if style.bold then escapeOpen "1" else ""
    colour ++ bold ++ text ++ escapeOpen "0"
  else text

def updateStyle : Style := ⟨some .yellow, false⟩

/-- What follows the parameters and the final letter of an escape sequence, if there is one. -/
def skipSequence (cs : List Char) : Option (List Char) :=
  match cs with
  | '\x1b' :: '[' :: rest =>
    match rest.dropWhile (fun c => c == ';' || c == '?' || c.isDigit) with
    | c :: rest => if c.isAlpha then some rest else none
    | [] => none
  | _ => none

/-- The text without its escape sequences, read in `fuel` steps. -/
def plainChars : Nat → List Char → List Char
  | 0, cs => cs
  | _, [] => []
  | fuel + 1, c :: cs =>
    match skipSequence (c :: cs) with
    | some rest => plainChars fuel rest
    | none => c :: plainChars fuel cs

def plain (s : String) : String := String.ofList (plainChars s.length s.toList)

def padRight (width : Nat) (key : String) : String :=
  key ++ String.ofList (List.replicate (width - key.length) ' ')

def widest (keys : List String) : Nat := keys.foldl (fun width key => max width key.length) 0

def align (rows : List (String × String)) : List (String × String) :=
  let width := widest (rows.map Prod.fst)
  rows.map fun row => (padRight width row.1, row.2)

/-- A list of rows where a repeated key keeps its first place and its last value. -/
def collect {β : Type} (rows : List (String × β)) : List (String × β) :=
  rows.foldl put []
where
  /-- Sets the value of a key. -/
  put (rows : List (String × β)) (row : String × β) : List (String × β) :=
    if rows.any fun r => r.1 == row.1 then
      rows.map fun r => if r.1 == row.1 then row else r
    else rows ++ [row]

/-- A value in a report: a text of several lines as their number, any other text in quotes. -/
def valueText : Value → String
  | .text s =>
    if s.toList.contains '\n' then
      let n := Text.lineCount s
      s!"<{n} lines>"
    else "\"" ++ s ++ "\""
  | .null => "null"
  | v => v.display

structure Change where
  path : String
  before : Value
  after : Value

def Change.ofField (change : TrackedChange) : Change :=
  ⟨change.field.path, .optionalText change.before, .optionalText change.after⟩

/-- Reads a change; entries that belong to no field are ignored. -/
def Change.check : Value → Checked Change :=
  Value.record "FieldChange" fun r =>
    Change.mk <$> r.required (.word "path") Value.checkText
      <*> r.defaulted (.word "before") .null Checked.ok
      <*> r.defaulted (.word "after") .null Checked.ok

def byPath (changes : List Change) : List (String × Value × Value) :=
  collect (changes.map fun change => (change.path, change.before, change.after))

def changeRows (changes : List Change) : List (String × String) :=
  align (collect (changes.map fun change =>
    (change.path, valueText change.before ++ " -> " ++ valueText change.after)))

def changeLines (color : Bool) (name : String) (changes : List Change) : List String :=
  let update := styled color updateStyle
  styled color { updateStyle with bold := true }
      ("  # BuildConfig " ++ name ++ " will be updated in-place") ::
    update ("  ~ resource \"BuildConfig\" \"" ++ name ++ "\" \x7b") ::
    ((changeRows changes).map fun row => update ("      ~ " ++ row.1 ++ " = " ++ row.2)) ++
    [update "    \x7d"]

def changes (color : Bool) (name : String) (list : List Change) : String :=
  if list.isEmpty then s!"No changes. BuildConfig {name} is up-to-date with its job."
  else String.intercalate "\n" (changeLines color name list)

def summary (color : Bool) (count : Nat) : String :=
  let noun := if count = 1 then "field" else "fields"
  let text := s!"{count} {noun} to change"
  let text := if count = 0 then text else styled color updateStyle text
  "Reconcile: " ++ text ++ "."

def header (color : Bool) (definition : Option Definition) : String :=
  let text :=
    match definition with
    | some (.inline _ _) => "Inline pipeline script"
    | some (.scm _ scriptPath) => "Pipeline script " ++ scriptPath ++ " from checkout"
    | _ => "Unsupported pipeline definition"
  styled color ⟨none, true⟩ ("# " ++ text)

inductive FailureKind
  | configuration
  | sync
  | inputOutput
  | other
  deriving DecidableEq, Repr

def FailureKind.lead : FailureKind → String
  | .configuration => "Configuration error: "
  | .sync => "Sync error: "
  | .inputOutput => "I/O error: "
  | .other => "Error: "

/-- A failure in red, or without a colour; styles are reset behind it either way. -/
def failure (color : Bool) (kind : FailureKind) (text : String) : String :=
  let colour := if color then escapeOpen Colour.red.code else ""
  colour ++ kind.lead ++ text ++ escapeOpen "0"

def failureCode : Nat := 1

end BuildSync.Report
