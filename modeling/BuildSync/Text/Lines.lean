/-!
# Line boundaries

A text is cut after every line break, where a carriage return and the line feed after it are one
break. A break at the end starts no further line, so the empty text has no line.
-/

set_option autoImplicit false

namespace BuildSync.Text

def isLineBreak (c : Char) : Bool :=
  let n := c.toNat
  (10 ≤ n && n ≤ 13) || (28 ≤ n && n ≤ 30) || n == 0x85 || n == 0x2028 || n == 0x2029

/-- The lines of a text, without their breaks; `pending` is the line begun, read backwards. -/
def linesFrom : List Char → List Char → List (List Char)
  | [], [] => []
  | [], pending => [pending.reverse]
  | '\r' :: '\n' :: rest, pending => pending.reverse :: linesFrom rest []
  | c :: rest, pending =>
    if isLineBreak c then pending.reverse :: linesFrom rest [] else linesFrom rest (c :: pending)

def lines (s : String) : List (List Char) := linesFrom s.toList []

def lineCount (s : String) : Nat := (lines s).length

def unixBreaks : List Char → List Char
  | [] => []
  | '\r' :: '\n' :: rest => '\n' :: unixBreaks rest
  | c :: rest => (if c = '\r' then '\n' else c) :: unixBreaks rest

end BuildSync.Text
