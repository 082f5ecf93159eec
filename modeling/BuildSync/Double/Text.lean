import BuildSync.Double.Basic

/-!
# The text of doubles

A double is written with the fewest digits that read back as it, and of those with the nearest.
-/

set_option autoImplicit false

namespace BuildSync

def padded (width n : Nat) : String :=
  let digits := n.repr
  String.ofList (List.replicate (width - digits.length) '0') ++ digits

namespace Double

/-- Compares `a · 10 ^ i` with `n · 2 ^ j`. -/
def compareScaled (a : Nat) (i : Int) (n : Nat) (j : Int) : Ordering :=
  compare (a * Nat.pow 10 i.toNat * Nat.pow 2 (-j).toNat)
    (n * Nat.pow 2 j.toNat * Nat.pow 10 (-i).toNat)

/-- Whether `digits · 10 ^ scale` lies among the numbers that round to a double. These reach half
way to its neighbours; the ends are among them where the mantissa is even. -/
def readsBack (mantissa : Nat) (exponent : Int) (digits : Nat) (scale : Int) : Bool :=
  let isNarrow := mantissa = Nat.pow 2 (precision - 1) ∧ exponent ≠ leastExponent
  let low := if isNarrow then 4 * mantissa - 1 else 4 * mantissa - 2
  let isEven := mantissa % 2 == 0
  let below := compareScaled digits scale low (exponent - 2)
  let above := compareScaled digits scale (4 * mantissa + 2) (exponent - 2)
  (below == .gt || isEven && below == .eq) && (above == .lt || isEven && above == .eq)

/-- The number of digits in front of the point of a quotient; for a quotient below one tenth, the
zeros behind the point, counted down. -/
def decimalOrder (n d : Nat) : Int :=
  if d ≤ n then (n / d).repr.length
  else if (d - 1) / n = 0 then 1
  else 1 - ((d - 1) / n).repr.length

/-- The decimal of so many digits next to a double that reads back as it, as digits and scale. -/
def decimalOf? (mantissa : Nat) (exponent : Int) (count : Nat) : Option (Nat × Int) :=
  let n := mantissa * Nat.pow 2 exponent.toNat
  let d := Nat.pow 2 (-exponent).toNat
  let scale := decimalOrder n d - count
  let below := n * Nat.pow 10 (-scale).toNat / (d * Nat.pow 10 scale.toNat)
  let isLow := readsBack mantissa exponent below scale
  let isHigh := readsBack mantissa exponent (below + 1) scale
  let half := compareScaled (2 * below + 1) scale (2 * mantissa) exponent
  let isNearLow := half == .gt || half == .eq && below % 2 == 0
  if isLow && (isNearLow || !isHigh) then some (below, scale)
  else if isHigh then some (below + 1, scale)
  else none

def stripped (digits : Nat) (scale : Int) : Nat → Nat × Int
  | 0 => (digits, scale)
  | fuel + 1 =>
    if digits % 10 = 0 then stripped (digits / 10) (scale + 1) fuel else (digits, scale)

def maxDigits : Nat := 17

def shortest (mantissa : Nat) (exponent : Int) : Nat × Int :=
  if mantissa = 0 then (0, 0)
  else
    match (List.range maxDigits).findSome? fun i => decimalOf? mantissa exponent (i + 1) with
    | some (digits, scale) => stripped digits scale maxDigits
    | none => (mantissa * Nat.pow 2 exponent.toNat * Nat.pow 5 (-exponent).toNat, min exponent 0)

/-- Positional from `0.0001` up to sixteen digits before the point, with an exponent otherwise. -/
def decimalText (digits : Nat) (scale : Int) : List Char :=
  let ds := digits.repr.toList
  let point : Int := scale + ds.length
  if -4 < point ∧ point ≤ 16 then
    if scale ≥ 0 then ds ++ List.replicate scale.toNat '0' ++ ['.', '0']
    else if point ≤ 0 then '0' :: '.' :: List.replicate (-point).toNat '0' ++ ds
    else ds.take point.toNat ++ '.' :: ds.drop point.toNat
  else
    let x := point - 1
    ds.take 1 ++ (if ds.length > 1 then '.' :: ds.drop 1 else []) ++
      ['e', if x < 0 then '-' else '+'] ++ (padded 2 x.natAbs).toList

def text : Double → String
  | .notANumber => "nan"
  | .infinite negative => if negative then "-inf" else "inf"
  | .finite negative mantissa exponent =>
    let (digits, scale) := shortest mantissa exponent
    (if negative then "-" else "") ++ String.ofList (decimalText digits scale)

end Double

end BuildSync
