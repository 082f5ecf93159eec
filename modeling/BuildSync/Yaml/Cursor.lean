/-!
# Cursors

A place in a text with what follows it. Line feeds and carriage returns end lines; a byte order mark
takes no column. Behind the end stands a NUL, which no document holds.
-/

set_option autoImplicit false

namespace BuildSync.Yaml

structure Cursor where
  rest : List Char
  index : Nat
  line : Nat
  column : Nat

/-- A break of lines, of which some count as content in plain text. -/
def isAnyBreak (c : Char) : Bool :=
  c == '\r' || c == '\n' || c == '\x85' || c == '\u2028' || c == '\u2029'

def isLineEnd (c : Char) : Bool := c == '\x00' || isAnyBreak c

def endsWord (c : Char) : Bool := c == ' ' || c == '\t' || isLineEnd c

namespace Cursor

def start (cs : List Char) : Cursor := ⟨cs, 0, 0, 0⟩

def peek (p : Cursor) (n : Nat) : Char := (p.rest.drop n).headD '\x00'

def head (p : Cursor) : Char := p.peek 0

def atEnd (p : Cursor) : Bool := p.rest.isEmpty

def next (p : Cursor) : Cursor :=
  match p.rest with
  | [] => p
  | c :: rest =>
    if c == '\n' || (c == '\r' && rest.head? != some '\n') then ⟨rest, p.index + 1, p.line + 1, 0⟩
    else if c == '\uFEFF' then ⟨rest, p.index + 1, p.line, p.column⟩
    else ⟨rest, p.index + 1, p.line, p.column + 1⟩

def skip (p : Cursor) : Nat → Cursor
  | 0 => p
  | n + 1 => p.next.skip n

/-- The longest run of characters in a class, and the cursor behind it. -/
def span (p : Cursor) (inClass : Char → Bool) : List Char × Cursor :=
  let run := p.rest.takeWhile inClass
  (run, p.skip run.length)

def skipWhile (p : Cursor) (inClass : Char → Bool) : Cursor := (p.span inClass).2

def lineBreak (p : Cursor) : Option (Char × Cursor) :=
  let c := p.head
  if c == '\r' && p.peek 1 == '\n' then some ('\n', p.skip 2)
  else if c == '\r' || c == '\n' || c == '\x85' then some ('\n', p.next)
  else if c == '\u2028' || c == '\u2029' then some (c, p.next)
  else none

/-- Three of one mark in front of the end of a word. -/
def marks (p : Cursor) (mark : Char) : Bool :=
  p.peek 0 == mark && p.peek 1 == mark && p.peek 2 == mark && endsWord (p.peek 3)

def atDocumentMark (p : Cursor) : Bool := p.marks '-' || p.marks '.'

end Cursor

end BuildSync.Yaml
