/-!
# Blank characters

The characters a trim removes: the Unicode white space and the four information separators.
-/

set_option autoImplicit false

namespace BuildSync.Text

def blankCode (n : Nat) : Bool :=
  (9 ≤ n && n ≤ 13) || (28 ≤ n && n ≤ 32) || n == 0x85 || n == 0xA0 || n == 0x1680 ||
    (0x2000 ≤ n && n ≤ 0x200A) || n == 0x2028 || n == 0x2029 || n == 0x202F || n == 0x205F ||
    n == 0x3000

def isBlank (c : Char) : Bool := blankCode c.toNat

def trimLeft (cs : List Char) : List Char := cs.dropWhile isBlank

def trimRight : List Char → List Char
  | [] => []
  | c :: cs =>
    match trimRight cs with
    | [] => if isBlank c then [] else [c]
    | rest => c :: rest

def trim (s : String) : String := String.ofList (trimRight (trimLeft s.toList))

/-- A text of blanks only; the empty text is one. -/
def allBlank (s : String) : Bool := s.toList.all isBlank

end BuildSync.Text
