import BuildSync.Text.Encoding
import BuildSync.Timestamp

/-!
# Scalars

The values of a document that hold no other value: null, booleans, integers, doubles, texts, bytes
and timestamps. A text may be broken by surrogates; it then stands as its code points.
-/

set_option autoImplicit false

namespace BuildSync

inductive Scalar
  | null
  | bool (b : Bool)
  | int (i : Int)
  | double (d : Double)
  | text (s : String)
  | brokenText (codes : List Nat)
  | bytes (bs : List UInt8)
  | timestamp (t : Timestamp)
  deriving DecidableEq, Repr

namespace Scalar

/-- The text of code points, broken where a surrogate is among them. -/
def ofCodes (codes : List Nat) : Scalar :=
  match Text.ofCodes? codes with
  | some s => .text s
  | none => .brokenText codes

def listed : Scalar → String
  | .null => "None"
  | .bool b => if b then "True" else "False"
  | .int i => toString i
  | .double d => d.text
  | .text s => Text.quoted s
  | .brokenText codes => Text.quotedCodes codes
  | .bytes bs => Text.quotedBytes bs
  | .timestamp t => t.listed

/-- The text of a scalar in a message, a text as it stands. -/
def display : Scalar → String
  | .text s => s
  | .brokenText codes => Text.replaced codes
  | .timestamp t => t.spaced
  | s => s.listed

/-- An integer times a power of two, for a boolean or a finite number. -/
def number? : Scalar → Option (Int × Int)
  | .bool b => some (Double.dyadic (if b then 1 else 0) 0)
  | .int i => some (Double.dyadic i 0)
  | .double d => d.dyadic?
  | _ => none

def same (a b : Scalar) : Bool :=
  match a, b with
  | .timestamp s, .timestamp t => s.same t
  | a, b =>
    match a.number?, b.number? with
    | some m, some n => m == n
    | _, _ => a == b

end Scalar

end BuildSync
