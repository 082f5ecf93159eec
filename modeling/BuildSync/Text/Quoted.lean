import BuildSync.Text.Codes
import BuildSync.Text.Printable

/-!
# Quoted text

A text between single quotes, or between double quotes when it holds a single quote and no double
one. The quote in use, the backslash and everything not printable are escaped. Bytes are quoted in
the same way, with everything escaped that is not printable ASCII.
-/

set_option autoImplicit false

namespace BuildSync.Text

def hexDigit (n : Nat) : Char := (Nat.digitChar n)

/-- The last `width` hexadecimal digits of a number. -/
def hexDigits (width n : Nat) : List Char :=
  (List.range width).reverse.map fun i => hexDigit (n / Nat.pow 16 i % 16)

/-- A code point in the shortest of the forms `\x41`, `\u0041` and `\U00000041`. -/
def codeEscape (n : Nat) : List Char :=
  if n < 0x100 then '\\' :: 'x' :: hexDigits 2 n
  else if n < 0x10000 then '\\' :: 'u' :: hexDigits 4 n
  else '\\' :: 'U' :: hexDigits 8 n

def quotedChar (quote c : Char) : List Char :=
  if c = quote ∨ c = '\\' then ['\\', c]
  else if c = '\n' then ['\\', 'n']
  else if c = '\r' then ['\\', 'r']
  else if c = '\t' then ['\\', 't']
  else if isPrintable c then [c]
  else codeEscape c.toNat

def quoteFor (cs : List Char) : Char := if cs.contains '\'' && !cs.contains '"' then '"' else '\''

def quoted (s : String) : String :=
  let cs := s.toList
  let quote := quoteFor cs
  String.ofList (quote :: cs.flatMap (quotedChar quote) ++ [quote])

def quotedCodes (codes : List Nat) : String :=
  let quote := quoteFor (codes.map Char.ofNat)
  let piece (n : Nat) : List Char :=
    if isSurrogate n then codeEscape n else quotedChar quote (Char.ofNat n)
  String.ofList (quote :: codes.flatMap piece ++ [quote])

def quotedByte (quote : Char) (b : UInt8) : List Char :=
  if b < 0x7F then quotedChar quote (Char.ofUInt8 b) else codeEscape b.toNat

def quotedBytes (bytes : List UInt8) : String :=
  let quote := quoteFor (bytes.map Char.ofUInt8)
  String.ofList ('b' :: quote :: bytes.flatMap (quotedByte quote) ++ [quote])

end BuildSync.Text
