import BuildSync.Text.Blank
import BuildSync.Text.Lines

/-!
# Environment files

A file of assignments, one to a line. A value stands bare, or between quotes where it may span
lines. A statement that does not read is skipped with its line. In a value, `${NAME}` and
`${NAME:-default}` are replaced.
-/

set_option autoImplicit false

namespace BuildSync.EnvFile

inductive Statement
  | assignment (name : String) (value : Option String)
  | comment
  | malformed
  deriving DecidableEq, Repr

def isInnerBlank (c : Char) : Bool := Text.isBlank c && c != '\n'

def skipBlanks (cs : List Char) : List Char := cs.dropWhile isInnerBlank

def isLineEnd (c : Char) : Bool := c == '\n'

def afterLine (cs : List Char) : List Char := (cs.dropWhile (!isLineEnd ·)).drop 1

/-- Skips the word `export` with the blanks behind it. -/
def skipExport (cs : List Char) : List Char :=
  match cs with
  | 'e' :: 'x' :: 'p' :: 'o' :: 'r' :: 't' :: c :: rest =>
    if isInnerBlank c then skipBlanks rest else cs
  | _ => cs

def isNameChar (c : Char) : Bool := c != '=' && c != '#' && !Text.isBlank c

/-- The name in front of a text, bare or between single quotes, and the rest. -/
def readName (cs : List Char) : Option (List Char × List Char) :=
  match cs with
  | '\'' :: rest =>
    match rest.span (· != '\'') with
    | ([], _) => none
    | (_, []) => none
    | (name, _ :: rest) => some (name, rest)
  | _ =>
    match cs.span isNameChar with
    | ([], _) => none
    | (name, rest) => some (name, rest)

/-- Splits a text behind an opening quote at the closing one, which does not stand behind a
backslash that no other one escapes. -/
def splitQuoted (quote : Char) : List Char → Option (List Char × List Char)
  | [] => none
  | '\\' :: c :: rest => (splitQuoted quote rest).map fun r => ('\\' :: c :: r.1, r.2)
  | c :: rest =>
    if c = quote then some ([], rest)
    else (splitQuoted quote rest).map fun r => (c :: r.1, r.2)

def unescape (table : List (Char × Char)) : List Char → List Char
  | '\\' :: c :: rest =>
    match table.lookup c with
    | some d => d :: unescape table rest
    | none => '\\' :: unescape table (c :: rest)
  | c :: rest => c :: unescape table rest
  | [] => []

def singleEscapes : List (Char × Char) := [('\\', '\\'), ('\'', '\'')]

def doubleEscapes : List (Char × Char) :=
  [('\\', '\\'), ('\'', '\''), ('"', '"'), ('a', '\x07'), ('b', '\x08'), ('f', '\x0c'),
    ('n', '\n'), ('r', '\r'), ('t', '\t'), ('v', '\x0b')]

/-- A bare value up to the blanks in front of a comment. -/
def withoutComment : List Char → List Char
  | [] => []
  | c :: rest =>
    if Text.isBlank c && (rest.dropWhile Text.isBlank).head? == some '#' then []
    else c :: withoutComment rest

/-- The value behind an equal sign, and the rest. A number sign right behind the sign is no
comment. -/
def readValue (cs : List Char) : Option (List Char × List Char) :=
  match skipBlanks cs with
  | '\'' :: rest => (splitQuoted '\'' rest).map fun r => (unescape singleEscapes r.1, r.2)
  | '"' :: rest => (splitQuoted '"' rest).map fun r => (unescape doubleEscapes r.1, r.2)
  | _ =>
    let (line, rest) := cs.span (!isLineEnd ·)
    some (Text.trimLeft (Text.trimRight (withoutComment line)), rest)

/-- Skips a comment, then what is left of the line, which must be blank. -/
def endLine (cs : List Char) : Option (List Char) :=
  let rest :=
    match skipBlanks cs with
    | '#' :: comment => comment.dropWhile (!isLineEnd ·)
    | _ => cs
  match skipBlanks rest with
  | [] => some []
  | c :: rest => if isLineEnd c then some rest else none

/-- Reads one statement from a text that starts with no blank, and what follows it. -/
def readStatement (cs : List Char) : Statement × List Char :=
  let start := skipExport cs
  if start.head? = some '#' then (.comment, afterLine start)
  else
    match readName start with
    | none => (.malformed, afterLine start)
    | some (name, rest) =>
      match skipBlanks rest with
      | '=' :: afterSign =>
        match readValue afterSign with
        | none => (.malformed, afterLine afterSign)
        | some (text, rest) => finish name (some text) rest
      | rest => finish name none rest
where
  /-- An assignment, if nothing but a comment follows it on its line. -/
  finish (name : List Char) (value : Option (List Char)) (rest : List Char) :
      Statement × List Char :=
    match endLine rest with
    | some rest => (.assignment (String.ofList name) (value.map String.ofList), rest)
    | none => (.malformed, afterLine rest)

def statementsOf (cs : List Char) : List Statement :=
  match cs.dropWhile Text.isBlank with
  | [] => []
  | c :: start =>
    let (statement, rest) := readStatement (c :: start)
    if rest.length < cs.length then statement :: statementsOf rest else [statement]
termination_by cs.length

/-- The statements of a file. A byte order mark in front is skipped. -/
def statements (text : String) : List Statement :=
  let cs :=
    match text.toList with
    | '\uFEFF' :: cs => cs
    | cs => cs
  statementsOf (Text.unixBreaks cs)

/-- The reference that a text starts with, as name and default, and the rest. -/
def readReference : List Char → Option ((List Char × Option (List Char)) × List Char)
  | '$' :: '\x7b' :: rest =>
    match rest.span (fun c => c != '\x7d' && c != ':') with
    | (name, '\x7d' :: rest) => some ((name, none), rest)
    | (name, ':' :: '-' :: rest) =>
      match rest.span (· != '\x7d') with
      | (default, _ :: rest) => some ((name, some default), rest)
      | _ => none
    | _ => none
  | _ => none

/-- Replaces the references in a text, which is consumed in `fuel` steps. -/
def expand (value : String → Option String) : Nat → List Char → List Char
  | 0, cs => cs
  | _, [] => []
  | fuel + 1, c :: cs =>
    match readReference (c :: cs) with
    | some ((name, default), rest) =>
      let text := (value (String.ofList name)).getD (String.ofList (default.getD []))
      text.toList ++ expand value fuel rest
    | none => c :: expand value fuel cs

/-- The names that a file sets, the last assignment of a name in front; `known` holds those set
before. A reference takes an earlier assignment, where a name without a value counts as empty, then
the environment, then its default. -/
def resolve (env : String → Option String) :
    List Statement → List (String × Option String) → List (String × Option String)
  | [], known => known
  | .assignment name value :: rest, known =>
    let lookUp (n : String) : Option String :=
      match known.lookup n with
      | some set => some (set.getD "")
      | none => env n
    let text := value.map fun v => String.ofList (expand lookUp v.length v.toList)
    resolve env rest ((name, text) :: known)
  | _ :: rest, known => resolve env rest known

def values (env : String → Option String) (text : String) : List (String × Option String) :=
  resolve env (statements text) []

theorem values_empty (env : String → Option String) : values env "" = [] := by
  have hNone : statements "" = [] := by
    change statementsOf [] = []
    rw [statementsOf]
    rfl
  rw [values, hNone, resolve]

end BuildSync.EnvFile
