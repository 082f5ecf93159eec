import BuildSync.Yaml.Cursor

/-!
# The text of scalars

Reading a scalar in each of its five forms: plain, single-quoted, double-quoted, literal and folded.
Every reader is given `fuel`, which the number of characters left bounds.
-/

set_option autoImplicit false

namespace BuildSync.Yaml.ScalarText

/-- The breaks of empty lines in quoted text, backwards, and the cursor behind them and behind the
blanks of the next line. There must be no document mark. -/
def quotedBreaks : Nat → Cursor → List Char → Option (List Char × Cursor)
  | 0, _, _ => none
  | fuel + 1, p, found =>
    if p.atDocumentMark then none
    else
      let p := p.skipWhile fun c => c == ' ' || c == '\t'
      match p.lineBreak with
      | some (c, p) => quotedBreaks fuel p (c :: found)
      | none => some (found.reverse, p)

/-- A line break in text: one alone counts as a blank, and the further ones as they are. -/
def foldedBreaks (first : Char) (breaks : List Char) : List Char :=
  if first != '\n' then first :: breaks else if breaks.isEmpty then [' '] else breaks

/-- The blanks or the line breaks at a cursor in quoted text. -/
def quotedSpaces (fuel : Nat) (p : Cursor) : Option (List Char × Cursor) :=
  let (blanks, p) := p.span fun c => c == ' ' || c == '\t'
  if p.atEnd then none
  else
    match p.lineBreak with
    | some (first, p) => do
      let (breaks, p) ← quotedBreaks fuel p []
      some (foldedBreaks first breaks, p)
    | none => some (blanks, p)

def isQuotedStop (c : Char) : Bool :=
  c == ' ' || c == '\'' || c == '"' || c == '\\' || c == '\t' || isLineEnd c

/-- Reads single-quoted text behind its quote, with what was read before, backwards. -/
def single : Nat → Cursor → List Char → Option (List Char × Cursor)
  | 0, _, _ => none
  | fuel + 1, p, done =>
    let c := p.head
    if c == '\'' then
      if p.peek 1 == '\'' then single fuel (p.skip 2) ('\'' :: done)
      else some (done.reverse, p.next)
    else if c == '"' || c == '\\' then single fuel p.next (c :: done)
    else if isQuotedStop c then do
      let (spaces, p) ← quotedSpaces fuel p
      single fuel p (spaces.reverse ++ done)
    else
      let (run, p) := p.span (!isQuotedStop ·)
      single fuel p (run.reverse ++ done)

def letterEscapes : List (Char × Char) :=
  [('0', '\x00'), ('a', '\x07'), ('b', '\x08'), ('t', '\t'), ('\t', '\t'), ('n', '\n'),
    ('v', '\x0b'), ('f', '\x0c'), ('r', '\r'), ('e', '\x1b'), (' ', ' '), ('"', '"'), ('/', '/'),
    ('\\', '\\'), ('N', '\x85'), ('_', '\xa0'), ('L', '\u2028'), ('P', '\u2029')]

def hexValue (c : Char) : Option Nat :=
  if '0' ≤ c ∧ c ≤ '9' then some (c.toNat - '0'.toNat)
  else if 'a' ≤ c ∧ c ≤ 'f' then some (c.toNat - 'a'.toNat + 10)
  else if 'A' ≤ c ∧ c ≤ 'F' then some (c.toNat - 'A'.toNat + 10)
  else none

/-- The code point with a number of `width` hexadecimal digits at the cursor. -/
def hexCode (width : Nat) (p : Cursor) : Option Nat := do
  let digits ← (p.rest.take width).mapM hexValue
  if digits.length < width then none
  else
    let n := digits.foldl (fun n d => 16 * n + d) 0
    if n < 0x110000 then some n else none

def hexWidth (c : Char) : Option Nat :=
  if c == 'x' then some 2 else if c == 'u' then some 4 else if c == 'U' then some 8 else none

/-- Reads double-quoted text behind its quote as code points, with what was read before,
backwards. -/
def double : Nat → Cursor → List Nat → Option (List Nat × Cursor)
  | 0, _, _ => none
  | fuel + 1, p, done =>
    let c := p.head
    if c == '"' then some (done.reverse, p.next)
    else if c == '\'' then double fuel p.next (c.toNat :: done)
    else if c == '\\' then
      let p := p.next
      match letterEscapes.lookup p.head with
      | some d => double fuel p.next (d.toNat :: done)
      | none =>
        match hexWidth p.head with
        | some width => do
          let n ← hexCode width p.next
          double fuel (p.skip (width + 1)) (n :: done)
        | none =>
          match p.lineBreak with
          | some (_, p) => do
            let (breaks, p) ← quotedBreaks fuel p []
            double fuel p ((breaks.map Char.toNat).reverse ++ done)
          | none => none
    else if isQuotedStop c then do
      let (spaces, p) ← quotedSpaces fuel p
      double fuel p ((spaces.map Char.toNat).reverse ++ done)
    else
      let (run, p) := p.span (!isQuotedStop ·)
      double fuel p ((run.map Char.toNat).reverse ++ done)

/-- How plain text is read: inside a flow collection or not, and by the rules before version 1.2. -/
structure PlainRules where
  inFlow : Bool
  oldRules : Bool

def isFlowMark (c : Char) : Bool := [',', ':', '?', '[', ']', '{', '}'].contains c

/-- Whether plain text goes on with a character that has another one behind it. -/
def plainGoesOn (rules : PlainRules) (c after : Char) : Bool :=
  if c == ':' && !endsWord after then true
  else if c == '?' && !rules.oldRules then true
  else !(endsWord c || (!rules.inFlow && c == ':') || (rules.inFlow && isFlowMark c))

/-- The run of plain text without blanks in front of a text. -/
def plainRun (rules : PlainRules) : List Char → List Char
  | [] => []
  | c :: rest =>
    if plainGoesOn rules c (rest.headD '\x00') then c :: plainRun rules rest else []

/-- The breaks of empty lines in plain text, backwards, up to a document mark or the next text. None
in front of a document mark. -/
def plainBreaks : Nat → Cursor → List Char → Option (List Char) × Cursor
  | 0, p, found => (some found.reverse, p)
  | fuel + 1, p, found =>
    if p.head == ' ' then plainBreaks fuel p.next found
    else
      match p.lineBreak with
      | some (c, p) =>
        if p.atDocumentMark then (none, p) else plainBreaks fuel p (c :: found)
      | none => (some found.reverse, p)

/-- The blanks or the line breaks behind a run of plain text, empty where the text ends there, and
whether there was a line break. -/
def plainSpaces (fuel : Nat) (p : Cursor) : List Char × Bool × Cursor :=
  let (blanks, p) := p.span (· == ' ')
  match p.lineBreak with
  | some (first, p) =>
    if p.atDocumentMark then ([], true, p)
    else
      match plainBreaks fuel p [] with
      | (some breaks, p) => (foldedBreaks first breaks, true, p)
      | (none, p) => ([], true, p)
  | none => (blanks, false, p)

/-- Plain text with the cursor behind it, and whether a line break stands behind its last run. -/
structure PlainText where
  text : List Char
  broke : Bool
  cursor : Cursor

/-- Reads plain text that is indented by `indent`; `done` is what was read before, backwards, and
`spaces` what stands in between. -/
def plain (rules : PlainRules) (indent : Nat) : Nat → Cursor → List Char → List Char → Bool →
    PlainText
  | 0, p, done, _, broke => ⟨done.reverse, broke, p⟩
  | fuel + 1, p, done, spaces, broke =>
    if p.head == '#' then ⟨done.reverse, broke, p⟩
    else
      let run := plainRun rules p.rest
      if run.isEmpty then ⟨done.reverse, broke, p⟩
      else
        let done := run.reverse ++ spaces.reverse ++ done
        let (spaces, broke, p) := plainSpaces fuel (p.skip run.length)
        if spaces.isEmpty || p.head == '#' || (!rules.inFlow && p.column < indent) then
          ⟨done.reverse, broke, p⟩
        else plain rules indent fuel p done spaces broke

/-- What becomes of the line breaks at the end of a block. -/
inductive Chomping
  | strip
  | clip
  | keep
  deriving DecidableEq, Repr

structure BlockHeader where
  chomping : Chomping
  increment : Option Nat

def chomping? (c : Char) : Option Chomping :=
  if c == '+' then some .keep else if c == '-' then some .strip else none

def increment (p : Cursor) : Option (Option Nat × Cursor) :=
  let c := p.head
  if '0' ≤ c ∧ c ≤ '9' then
    if c = '0' then none else some (some (c.toNat - '0'.toNat), p.next)
  else some (none, p)

/-- Reads the header of a block up to the end of its line. -/
def blockHeader (p : Cursor) : Option (BlockHeader × Cursor) := do
  let (header, p) ←
    match chomping? p.head with
    | some chomping => do
      let (n, p) ← increment p.next
      some (BlockHeader.mk chomping n, p)
    | none => do
      let (n, p) ← increment p
      match n, chomping? p.head with
      | some n, some chomping => some (⟨chomping, some n⟩, p.next)
      | n, _ => some (⟨.clip, n⟩, p)
  if !(p.head == ' ' || isLineEnd p.head) then none
  else
    let p := p.skipWhile (· == ' ')
    let p := if p.head == '#' then p.skipWhile (!isLineEnd ·) else p
    if !isLineEnd p.head then none
    else
      match p.lineBreak with
      | some (_, p) => some (header, p)
      | none => some (header, p)

/-- The empty lines in front of a block, backwards, with the widest indentation of one and the
column of the first. -/
def blockIndentation : Nat → Cursor → List Char → Nat → Option Nat →
    (List Char × Nat × Option Nat × Cursor)
  | 0, p, found, widest, first => (found.reverse, widest, first, p)
  | fuel + 1, p, found, widest, first =>
    if p.head == ' ' then
      let p := p.next
      blockIndentation fuel p found (max widest p.column) first
    else
      match p.lineBreak with
      | some (c, next) =>
        blockIndentation fuel next (c :: found) widest (first <|> some p.column)
      | none => (found.reverse, widest, first, p)

def skipIndent (indent : Nat) : Nat → Cursor → Cursor
  | 0, p => p
  | fuel + 1, p => if p.column < indent && p.head == ' ' then skipIndent indent fuel p.next else p

/-- The empty lines in a block, backwards, and the cursor behind the indentation of the next one. -/
def blockBreaks (indent : Nat) : Nat → Cursor → List Char → List Char × Cursor
  | 0, p, found => (found.reverse, p)
  | fuel + 1, p, found =>
    let p := skipIndent indent fuel p
    match p.lineBreak with
    | some (c, p) => blockBreaks indent fuel p (c :: found)
    | none => (found.reverse, p)

/-- A block is read line by line, with the break behind the last line and the breaks of the empty
lines behind that. -/
structure BlockState where
  done : List Char
  lineBreak : List Char
  breaks : List Char
  cursor : Cursor

/-- Reads the lines of a block. In folded text, a break between two lines that start with no blank
counts as a blank unless empty lines follow it. -/
def blockLines (folded stopsAtMark : Bool) (indent : Nat) : Nat → BlockState → BlockState
  | 0, s => s
  | fuel + 1, s =>
    let p := s.cursor
    if p.column != indent || p.atEnd then s
    else
      let opensWithText := p.head != ' ' && p.head != '\t'
      let (line, p) := p.span (!isLineEnd ·)
      let done := line.reverse ++ s.breaks.reverse ++ s.done
      let (lineBreak, p) :=
        match p.lineBreak with
        | some (c, p) => ([c], p)
        | none => ([], p)
      let (breaks, p) := blockBreaks indent fuel p []
      if stopsAtMark && p.column == 0 && p.atDocumentMark then ⟨done, lineBreak, breaks, p⟩
      else if p.column == indent && !p.atEnd then
        let joined :=
          if folded && lineBreak == ['\n'] && opensWithText && p.head != ' ' && p.head != '\t' then
            if breaks.isEmpty then ' ' :: done else done
          else lineBreak ++ done
        blockLines folded stopsAtMark indent fuel ⟨joined, lineBreak, breaks, p⟩
      else ⟨done, lineBreak, breaks, p⟩

/-- Reads a block behind its mark; `parent` is the column that its lines must exceed. -/
def block (folded : Bool) (minimum : Nat) (fuel : Nat) (p : Cursor) :
    Option (List Char × Cursor) := do
  let (header, p) ← blockHeader p
  let (breaks, indent, p) ←
    match header.increment with
    | none =>
      let (breaks, widest, first, p) := blockIndentation fuel p [] 0 none
      match first with
      | some n => if 0 < n && n < widest then none else some (breaks, max minimum widest, p)
      | none => some (breaks, max minimum widest, p)
    | some n =>
      let indent := max minimum 1 + n - 1
      let (breaks, p) := blockBreaks indent fuel p []
      some (breaks, indent, p)
  let s := blockLines folded (minimum == 0) indent fuel ⟨[], [], breaks, p⟩
  let ending :=
    match header.chomping with
    | .strip => []
    | .clip => s.lineBreak
    | .keep => s.lineBreak ++ s.breaks
  some (s.done.reverse ++ ending, s.cursor)

end BuildSync.Yaml.ScalarText
