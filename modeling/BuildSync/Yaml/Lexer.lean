import BuildSync.Yaml.ScalarText
import BuildSync.Yaml.Token

/-!
# Reading tokens

The tokens of a text, or nothing if it is no document. A node on one line may turn out to be the key
of a colon behind it; it is kept as a candidate until then, and the tokens of a key are put in front
of it.
-/

set_option autoImplicit false

namespace BuildSync.Yaml

structure KeyCandidate where
  /-- The flow collections around it. -/
  depth : Nat
  /-- The number of tokens in front of it. -/
  position : Nat
  /-- Whether a key must stand there. -/
  required : Bool
  index : Nat
  line : Nat
  column : Nat

inductive FlowKind
  | sequence
  | mapping
  deriving DecidableEq, Repr

structure Lexer where
  cursor : Cursor
  /-- What bounds the characters left. -/
  fuel : Nat
  /-- The tokens read, the last one in front, and their number. -/
  tokens : List Token
  count : Nat
  /-- The column of the innermost block, -1 outside of blocks, and those of the blocks around. -/
  indent : Int
  outer : List Int
  /-- The flow collections around, the innermost one in front, and their number. -/
  flow : List FlowKind
  depth : Nat
  allowKey : Bool
  candidates : List KeyCandidate
  /-- The minor version of the rules in force. -/
  minor : Nat
  done : Bool

namespace Lexer

def start (cs : List Char) : Lexer :=
  { cursor := .start cs, fuel := cs.length + 1, tokens := [], count := 0, indent := -1, outer := [],
    flow := [], depth := 0, allowKey := true, candidates := [], minor := 2, done := false }

def inFlow (s : Lexer) : Bool := !s.flow.isEmpty

def oldRules (s : Lexer) : Bool := s.minor == 1

def push (s : Lexer) (kind : TokenKind) : Lexer :=
  { s with tokens := ⟨kind, s.cursor.line⟩ :: s.tokens, count := s.count + 1 }

/-- Reads a token of `n` characters. -/
def pushMark (s : Lexer) (n : Nat) (kind : TokenKind) : Lexer :=
  { s.push kind with cursor := s.cursor.skip n }

/-- Puts a token in front of the one with `position` tokens before it. -/
def insert (s : Lexer) (position line : Nat) (kind : TokenKind) : Lexer :=
  { s with
    tokens := s.tokens.insertIdx (s.count - position) ⟨kind, line⟩
    count := s.count + 1 }

/-- A candidate lies on the line of the cursor and at most 1024 characters before it. -/
def KeyCandidate.isFresh (p : Cursor) (key : KeyCandidate) : Bool :=
  key.line == p.line && p.index - key.index ≤ 1024

/-- Drops the candidates that lie too far back; one that is required must not. -/
def dropStale (s : Lexer) : Option Lexer :=
  if s.candidates.any fun key => key.required && !KeyCandidate.isFresh s.cursor key then none
  else some { s with candidates := s.candidates.filter (KeyCandidate.isFresh s.cursor) }

/-- Drops the candidate of the current depth; it must not be required. -/
def dropCandidate (s : Lexer) : Option Lexer :=
  if s.candidates.any fun key => key.required && key.depth == s.depth then none
  else some { s with candidates := s.candidates.filter fun key => key.depth != s.depth }

def saveCandidate (s : Lexer) : Option Lexer :=
  let required := !s.inFlow && s.indent == s.cursor.column
  if s.allowKey then do
    let s ← s.dropCandidate
    let key : KeyCandidate :=
      ⟨s.depth, s.count, required, s.cursor.index, s.cursor.line, s.cursor.column⟩
    some { s with candidates := key :: s.candidates }
  else some s

def closeBlocks (column : Int) (s : Lexer) : List Int → Lexer
  | [] => if s.indent > column then { s.push .blockEnd with indent := -1, outer := [] } else s
  | around :: outer =>
    if s.indent > column then
      closeBlocks column { s.push .blockEnd with indent := around, outer := outer } outer
    else s

/-- Closes the blocks indented deeper than a column; flow collections ignore indentation. -/
def unwind (s : Lexer) (column : Int) : Lexer :=
  if s.inFlow then s else s.closeBlocks column s.outer

/-- Opens a block at a column that is deeper than the current one. -/
def openBlock (s : Lexer) (column : Nat) : Option Lexer :=
  if s.indent < column then some { s with outer := s.indent :: s.outer, indent := column } else none

def skipToToken : Nat → Lexer → Lexer
  | 0, s => s
  | fuel + 1, s =>
    let p := s.cursor.skipWhile fun c => c == ' ' || (s.inFlow && c == '\t')
    let p := if p.head == '#' then p.skipWhile (!isLineEnd ·) else p
    match p.lineBreak with
    | some (_, p) =>
      skipToToken fuel { s with cursor := p, allowKey := s.allowKey || !s.inFlow }
    | none => { s with cursor := p }

def isNameChar (c : Char) : Bool :=
  c.isAlphanum || c == '-' || c == '_'

def isDirectiveChar (c : Char) : Bool := isNameChar c || c == ':' || c == '.'

def endsField (c : Char) : Bool := c == ' ' || isLineEnd c

def number (p : Cursor) : Option (Nat × Cursor) :=
  let (digits, p) := p.span Char.isDigit
  if digits.isEmpty then none
  else some (digits.foldl (fun n c => 10 * n + (c.toNat - '0'.toNat)) 0, p)

def tagHandle (p : Cursor) : Option (String × Cursor) :=
  if p.head != '!' then none
  else if p.peek 1 == ' ' then some ("!", p.next)
  else
    let (name, q) := p.next.span isNameChar
    if q.head == '!' then some (String.ofList ('!' :: name ++ ['!']), q.next) else none

def isUriMark (c : Char) : Bool := "-;/?:@&=+$,_.!~*'()[]".toList.contains c

def uriEscapes : Nat → Cursor → List UInt8 → Option (List UInt8 × Cursor)
  | 0, p, done => some (done.reverse, p)
  | fuel + 1, p, done =>
    if p.head == '%' then do
      let high ← ScalarText.hexValue (p.peek 1)
      let low ← ScalarText.hexValue (p.peek 2)
      uriEscapes fuel (p.skip 3) (UInt8.ofNat (16 * high + low) :: done)
    else some (done.reverse, p)

def uriChars (oldRules : Bool) : Nat → Cursor → List Char → Option (List Char × Cursor)
  | 0, p, done => some (done.reverse, p)
  | fuel + 1, p, done =>
    let c := p.head
    if c == '%' then do
      let (bytes, p) ← uriEscapes fuel p []
      let text ← String.fromUTF8? (ByteArray.mk bytes.toArray)
      uriChars oldRules fuel p (text.toList.reverse ++ done)
    else if c.isAlphanum || isUriMark c || (!oldRules && c == '#') then
      uriChars oldRules fuel p.next (c :: done)
    else some (done.reverse, p)

def tagUri (oldRules : Bool) (p : Cursor) : Option (String × Cursor) := do
  let (cs, p) ← uriChars oldRules (p.rest.length + 1) p []
  if cs.isEmpty then none else some (String.ofList cs, p)

/-- The rest of the line of a directive, which holds nothing but a comment. -/
def endDirective (p : Cursor) : Option Cursor :=
  let p := p.skipWhile (· == ' ')
  let p := if p.head == '#' then p.skipWhile (!isLineEnd ·) else p
  if !isLineEnd p.head then none
  else
    match p.lineBreak with
    | some (_, p) => some p
    | none => some p

/-- Reads a directive; one for the version changes the rules in force. -/
def directive (s : Lexer) : Option Lexer := do
  let s := s.unwind (-1)
  let s ← s.dropCandidate
  let s := { s with allowKey := false }
  let (name, p) := s.cursor.next.span isDirectiveChar
  if name.isEmpty || !endsField p.head then none
  else
    let name := String.ofList name
    if name == "YAML" then
      let (major, p) ← number (p.skipWhile (· == ' '))
      if p.head != '.' then none
      else
        let (minor, p) ← number p.next
        if !endsField p.head then none
        else
          let p ← endDirective p
          some { s.push (.versionDirective major minor) with cursor := p, minor := minor }
    else if name == "TAG" then
      let (handle, p) ← tagHandle (p.skipWhile (· == ' '))
      if p.head != ' ' then none
      else
        let (lead, p) ← tagUri s.oldRules (p.skipWhile (· == ' '))
        if !endsField p.head then none
        else
          let p ← endDirective p
          some { s.push (.tagDirective handle lead) with cursor := p }
    else
      let p ← endDirective (p.skipWhile (!isLineEnd ·))
      some { s.push .otherDirective with cursor := p }

def documentMark (s : Lexer) (kind : TokenKind) : Option Lexer := do
  let s := s.unwind (-1)
  let s ← s.dropCandidate
  some ({ s with allowKey := false }.pushMark 3 kind)

def openFlow (s : Lexer) (flow : FlowKind) (kind : TokenKind) : Option Lexer := do
  let s ← s.saveCandidate
  some ({ s with flow := flow :: s.flow, depth := s.depth + 1, allowKey := true }.pushMark 1 kind)

def closeFlow (s : Lexer) (kind : TokenKind) : Option Lexer := do
  let s ← s.dropCandidate
  some ({ s with flow := s.flow.drop 1, depth := s.depth - 1, allowKey := false }.pushMark 1 kind)

def flowEntry (s : Lexer) : Option Lexer := do
  let s ← { s with allowKey := true }.dropCandidate
  some (s.pushMark 1 .flowEntry)

/-- Opens a block where the cursor is deeper than the current one. -/
def startBlock (s : Lexer) (kind : TokenKind) : Lexer :=
  match s.openBlock s.cursor.column with
  | some opened => opened.push kind
  | none => s

def blockEntry (s : Lexer) : Option Lexer := do
  if !s.inFlow && !s.allowKey then none
  else
    let s := if s.inFlow then s else s.startBlock .blockSequenceStart
    let s ← { s with allowKey := true }.dropCandidate
    some (s.pushMark 1 .blockEntry)

def explicitKey (s : Lexer) : Option Lexer := do
  if !s.inFlow && !s.allowKey then none
  else
    let s := if s.inFlow then s else s.startBlock .blockMappingStart
    let s ← { s with allowKey := !s.inFlow }.dropCandidate
    some (s.pushMark 1 .key)

def acceptKey (s : Lexer) (key : KeyCandidate) : Lexer :=
  let s := { s with candidates := s.candidates.filter fun k => k.depth != s.depth }
  let s := s.insert key.position key.line .key
  if s.inFlow then s
  else
    match s.openBlock key.column with
    | some opened => opened.insert key.position key.line .blockMappingStart
    | none => s

def colon (s : Lexer) : Option Lexer :=
  match s.candidates.find? fun key => key.depth == s.depth with
  | some key => some ({ s.acceptKey key with allowKey := false }.pushMark 1 .value)
  | none => do
    if !s.inFlow && !s.allowKey then none
    else
      let s := if s.inFlow then s else s.startBlock .blockMappingStart
      let s ← { s with allowKey := !s.inFlow }.dropCandidate
      some (s.pushMark 1 .value)

def isAnchorChar (c : Char) : Bool :=
  let n := c.toNat
  ((0x21 ≤ n && n ≤ 0x7E) || (0xA0 ≤ n && n ≤ 0xD7FF) ||
      (0xE000 ≤ n && n ≤ 0xFFFD && n != 0xFEFF) ||
    0x10000 ≤ n) && !(['[', ']', '{', '}', ','].contains c)

def endsName (c : Char) : Bool :=
  endsWord c || ['?', ':', ',', '[', ']', '{', '}', '%', '@', '\x60'].contains c

def name (s : Lexer) (kind : String → TokenKind) : Option Lexer := do
  let s ← s.saveCandidate
  let s := { s with allowKey := false }
  let (name, p) := s.cursor.next.span isAnchorChar
  if name.isEmpty || !endsName p.head then none
  else some { s.push (kind (String.ofList name)) with cursor := p }

/-- Whether an exclamation mark closes the handle of a tag before the end of its field. -/
def hasHandle : List Char → Bool
  | [] => false
  | c :: rest => if endsField c then false else c == '!' || hasHandle rest

/-- A tag at a cursor. Behind two exclamation marks, the first one only changes the handle that is
meant where no other one is given. -/
def writtenTag (oldRules : Bool) (p : Cursor) : Option (WrittenTag × Cursor) := do
  let (short, p) := if p.peek 1 == '!' then ("!!", p.next) else ("!", p)
  let c := p.peek 1
  if c == '<' then
    let (suffix, p) ← tagUri oldRules (p.skip 2)
    if p.head == '>' then some (⟨none, suffix⟩, p.next) else none
  else if endsWord c then some (⟨none, "!"⟩, p.next)
  else if hasHandle (p.rest.drop 1) then
    let (handle, p) ← tagHandle p
    let (suffix, p) ← tagUri oldRules p
    some (⟨some handle, suffix⟩, p)
  else
    let (suffix, p) ← tagUri oldRules p.next
    some (⟨some short, suffix⟩, p)

def tag (s : Lexer) : Option Lexer := do
  let s ← s.saveCandidate
  let s := { s with allowKey := false }
  let (written, p) ← writtenTag s.oldRules s.cursor
  if endsField p.head then some { s.push (.tag written) with cursor := p } else none

def blockScalar (s : Lexer) (folded : Bool) : Option Lexer := do
  let s ← { s with allowKey := true }.dropCandidate
  let (text, p) ← ScalarText.block folded (s.indent + 1).toNat s.fuel s.cursor.next
  some { s.push (.scalar (text.map Char.toNat) false) with cursor := p }

def quotedScalar (s : Lexer) (isDouble : Bool) : Option Lexer := do
  let s ← s.saveCandidate
  let s := { s with allowKey := false }
  let p := s.cursor.next
  let (codes, p) ←
    if isDouble then ScalarText.double s.fuel p []
    else (ScalarText.single s.fuel p []).map fun (text, p) => (text.map Char.toNat, p)
  some { s.push (.scalar codes false) with cursor := p }

def plainScalar (s : Lexer) : Option Lexer := do
  let s ← s.saveCandidate
  let rules : ScalarText.PlainRules := ⟨s.inFlow, s.oldRules⟩
  let read := ScalarText.plain rules (s.indent + 1).toNat s.fuel s.cursor [] [] false
  some { s.push (.scalar (read.text.map Char.toNat) true) with
    cursor := read.cursor, allowKey := read.broke }

/-- Whether a colon at the cursor stands behind a key. Under the old rules any colon in a flow
collection does; under the new ones not one in front of a word in a flow sequence, nor right behind
another colon, of which `unread` tells whether its token still waits. -/
def isColon (s : Lexer) (unread : Bool) : Bool :=
  let separated := endsWord (s.cursor.peek 1)
  match s.flow with
  | [] => separated
  | innermost :: _ =>
    if s.oldRules then true
    else if innermost == .sequence then separated
    else
      match s.tokens with
      | ⟨.value, _⟩ :: _ => !unread || separated
      | _ => true

def isPlainStop (c : Char) : Bool :=
  endsWord c ||
    ['-', '?', ':', ',', '[', ']', '{', '}', '#', '&', '*', '!', '|', '>', '\'', '"', '%', '@',
      '\x60'].contains c

def startsPlain (s : Lexer) : Bool :=
  let c := s.cursor.head
  let after := s.cursor.peek 1
  let separated := endsWord after
  !isPlainStop c ||
    !separated && (c == '-' || (c == ':' && s.inFlow && !s.oldRules) ||
      (!s.inFlow && (c == '?' || c == ':')))

/-- Reads the next token, with the tokens of structure in front of it. -/
def step (s : Lexer) : Option Lexer := do
  let fresh ← s.dropStale
  let unread := !fresh.candidates.isEmpty
  let s ← (skipToToken fresh.fuel fresh).dropStale
  let s := s.unwind s.cursor.column
  let p := s.cursor
  let c := p.head
  if p.atEnd then
    let s := s.unwind (-1)
    let s ← s.dropCandidate
    some { s.push .streamEnd with allowKey := false, candidates := [], done := true }
  else if c == '%' && p.column == 0 then s.directive
  else if p.column == 0 && p.marks '-' then s.documentMark .documentStart
  else if p.column == 0 && p.marks '.' then s.documentMark .documentEnd
  else if c == '[' then s.openFlow .sequence .flowSequenceStart
  else if c == '{' then s.openFlow .mapping .flowMappingStart
  else if c == ']' then s.closeFlow .flowSequenceEnd
  else if c == '}' then s.closeFlow .flowMappingEnd
  else if c == ',' then s.flowEntry
  else if c == '-' && endsWord (p.peek 1) then s.blockEntry
  else if c == '?' && (s.inFlow || endsWord (p.peek 1)) then s.explicitKey
  else if c == ':' && s.isColon unread then s.colon
  else if c == '*' then s.name .alias
  else if c == '&' then s.name .anchor
  else if c == '!' then s.tag
  else if c == '|' && !s.inFlow then s.blockScalar false
  else if c == '>' && !s.inFlow then s.blockScalar true
  else if c == '\'' then s.quotedScalar false
  else if c == '"' then s.quotedScalar true
  else if s.startsPlain then s.plainScalar
  else none

def run : Nat → Lexer → Option (List Token)
  | 0, _ => none
  | fuel + 1, s => if s.done then some s.tokens.reverse else s.step.bind (run fuel)

end Lexer

def isPrintable (c : Char) : Bool :=
  let n := c.toNat
  n == 9 || n == 10 || n == 13 || (0x20 ≤ n && n ≤ 0x7E) || n == 0x85 ||
    (0xA0 ≤ n && n ≤ 0xD7FF) || (0xE000 ≤ n && n ≤ 0xFFFD) || 0x10000 ≤ n

/-- The tokens of a text. A byte order mark in front is skipped. -/
def tokens? (cs : List Char) : Option (List Token) :=
  if cs.all isPrintable then
    let s := Lexer.start cs
    let p := s.cursor
    let s := if p.head == '\uFEFF' then { s with cursor := p.next } else s
    s.run (cs.length + 2)
  else none

end BuildSync.Yaml
