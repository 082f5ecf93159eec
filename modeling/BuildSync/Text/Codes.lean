/-!
# Code points

A text is a list of code points without surrogates. Escapes can name a surrogate, and then what they
stand for is no text.
-/

set_option autoImplicit false

namespace BuildSync.Text

def codes (s : String) : List Nat := s.toList.map Char.toNat

def isSurrogate (n : Nat) : Bool := 0xD800 ≤ n && n ≤ 0xDFFF

/-- The text with given code points, if none of them is a surrogate. -/
def ofCodes? (codes : List Nat) : Option String :=
  if codes.any isSurrogate then none else some (String.ofList (codes.map Char.ofNat))

/-- A text for code points, with three replacement characters for a surrogate: one for each of the
bytes that would encode it. -/
def replaced (codes : List Nat) : String :=
  String.ofList (codes.flatMap fun n =>
    if isSurrogate n then ['\uFFFD', '\uFFFD', '\uFFFD'] else [Char.ofNat n])

end BuildSync.Text
