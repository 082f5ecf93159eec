/-!
# Doubles

Numbers of 64 bits in binary. A decimal stands for the nearest double; of two equally near ones it
is the one with the even mantissa.
-/

set_option autoImplicit false

namespace BuildSync

/-- A double is `mantissa · 2 ^ exponent` where it is finite. Its exponent is the least one that
leaves room for the mantissa. -/
inductive Double
  | finite (negative : Bool) (mantissa : Nat) (exponent : Int)
  | infinite (negative : Bool)
  | notANumber
  deriving DecidableEq, Repr

namespace Double

def precision : Nat := 53

def leastExponent : Int := -1074

def greatestExponent : Int := 971

def zero (negative : Bool) : Double := .finite negative 0 leastExponent

/-- A quotient rounded to the nearest natural number, a half to the even one. -/
def roundDiv (n d : Nat) : Nat :=
  let rest := 2 * (n % d)
  if rest < d ∨ rest = d ∧ n / d % 2 = 0 then n / d else n / d + 1

/-- The exponent of the greatest power of two below a quotient of positive numbers. -/
def binaryOrder (n d : Nat) : Int :=
  let order : Int := (n.log2 : Int) - d.log2
  if d * Nat.pow 2 order.toNat ≤ n * Nat.pow 2 (-order).toNat then order else order - 1

def ofQuotient (negative : Bool) (n d : Nat) : Double :=
  if n = 0 ∨ d = 0 then zero negative
  else
    let exponent := max leastExponent (binaryOrder n d - (precision - 1 : Nat))
    let mantissa := roundDiv (n * Nat.pow 2 (-exponent).toNat) (d * Nat.pow 2 exponent.toNat)
    let (mantissa, exponent) :=
      if mantissa = Nat.pow 2 precision then (Nat.pow 2 (precision - 1), exponent + 1)
      else (mantissa, exponent)
    if exponent > greatestExponent then .infinite negative
    else .finite negative mantissa exponent

/-- The decimal exponents between which a number that is not zero is finite and does not vanish. -/
def leastOrder : Int := -330

def greatestOrder : Int := 310

/-- The double nearest to `digits · 10 ^ exponent`. -/
def ofDecimal (negative : Bool) (digits : Nat) (exponent : Int) : Double :=
  let order := exponent + digits.repr.length
  if digits = 0 ∨ order < leastOrder then zero negative
  else if order > greatestOrder then .infinite negative
  else ofQuotient negative (digits * Nat.pow 10 exponent.toNat) (Nat.pow 10 (-exponent).toNat)

/-- The double nearest to `n · 2 ^ exponent`. -/
def ofScaled (n : Int) (exponent : Int) : Double :=
  ofQuotient (decide (n < 0)) (n.natAbs * Nat.pow 2 exponent.toNat) (Nat.pow 2 (-exponent).toNat)

def toInt? : Double → Option Int
  | .finite negative mantissa exponent =>
    let unit := Nat.pow 2 (-exponent).toNat
    if mantissa % unit = 0 then
      let n : Int := (mantissa / unit * Nat.pow 2 exponent.toNat : Nat)
      some (if negative then -n else n)
    else none
  | _ => none

def withoutTwos : Nat → Nat → Int → Nat × Int
  | 0, n, exponent => (n, exponent)
  | fuel + 1, n, exponent =>
    if n % 2 = 0 then withoutTwos fuel (n / 2) (exponent + 1) else (n, exponent)

/-- An integer times a power of two in its one form: an odd integer, or zero with exponent zero. -/
def dyadic (n : Int) (exponent : Int) : Int × Int :=
  if n = 0 then (0, 0)
  else
    let (m, exponent) := withoutTwos n.natAbs.log2 n.natAbs exponent
    (if n < 0 then -(m : Int) else m, exponent)

def signed (negative : Bool) (mantissa : Nat) : Int :=
  if negative then -(mantissa : Int) else mantissa

def dyadic? : Double → Option (Int × Int)
  | .finite negative mantissa exponent => some (dyadic (signed negative mantissa) exponent)
  | _ => none

def neg : Double → Double
  | .finite negative mantissa exponent => .finite (!negative) mantissa exponent
  | .infinite negative => .infinite (!negative)
  | .notANumber => .notANumber

def add : Double → Double → Double
  | .finite s m e, .finite t n f =>
    let least := min e f
    let scaled (s : Bool) (m : Nat) (e : Int) : Int := signed s m * Nat.pow 2 (e - least).toNat
    if m = 0 ∧ n = 0 then zero (s && t) else ofScaled (scaled s m e + scaled t n f) least
  | .infinite s, .infinite t => if s = t then .infinite s else .notANumber
  | .infinite s, .finite _ _ _ => .infinite s
  | .finite _ _ _, .infinite t => .infinite t
  | _, _ => .notANumber

def mul : Double → Double → Double
  | .finite s m e, .finite t n f =>
    if m * n = 0 then zero (s != t) else ofScaled (signed (s != t) (m * n)) (e + f)
  | .infinite s, .finite t n _ => if n = 0 then .notANumber else .infinite (s != t)
  | .finite s m _, .infinite t => if m = 0 then .notANumber else .infinite (s != t)
  | .infinite s, .infinite t => .infinite (s != t)
  | _, _ => .notANumber

end Double

end BuildSync
