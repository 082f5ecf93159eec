import BuildSync.Double.Basic
import BuildSync.Text.Blank
import BuildSync.Text.Digit
import BuildSync.Yaml.Plain

/-!
# Numbers

The integer and the double that a text stands for. The text of a plain scalar is a number by its
form; a text whose tag says so may also have blanks around it and digits of any script.
-/

set_option autoImplicit false

namespace BuildSync.Yaml.Number

/-- The blanks around a number: of ASCII the space and the tab up to the carriage return, and every
other blank. -/
def isOuterBlank (c : Char) : Bool :=
  c == ' ' || ('\t' ≤ c && c ≤ '\r') || (128 ≤ c.toNat && Text.isBlank c)

def trimmed (cs : List Char) : List Char :=
  ((cs.dropWhile isOuterBlank).reverse.dropWhile isOuterBlank).reverse

def latin (cs : List Char) : List Char :=
  cs.map fun c => ((Text.digitValue? c).map Nat.digitChar).getD c

def withoutUnderscores (cs : List Char) : List Char := cs.filter (· != '_')

def isNegative (cs : List Char) : Bool := cs.head? == some '-'

/-- The value of a digit; letters count from ten. -/
def digitValue (c : Char) : Nat :=
  if Plain.isDigit c then c.toNat - '0'.toNat
  else if 'a' ≤ c && c ≤ 'z' then c.toNat - 'a'.toNat + 10
  else c.toNat - 'A'.toNat + 10

/-- A number in a base, if there is a digit and nothing but digits of the base. -/
def natural? (base : Nat) (cs : List Char) : Option Nat :=
  if cs != [] && cs.all (fun c => c.isAlphanum && digitValue c < base) then
    some (cs.foldl (fun n c => base * n + digitValue c) 0)
  else none

def maxDigits : Nat := 4300

def baseMark : Nat → Option Char
  | 2 => some 'b'
  | 8 => some 'o'
  | 16 => some 'x'
  | _ => none

/-- The digits behind the mark of a base, which may be left out. -/
def withoutMark (base : Nat) (cs : List Char) : List Char :=
  match cs with
  | '0' :: mark :: rest => if baseMark base == some mark.toLower then rest else cs
  | _ => cs

/-- An integer in a base, with a sign and the mark of the base if it likes. -/
def integer? (base : Nat) (cs : List Char) : Option Int :=
  let cs := latin (trimmed cs)
  let digits := withoutMark base (Plain.withoutSign cs)
  if base == 10 && maxDigits < digits.length then none
  else (natural? base digits).map fun n => if isNegative cs then -(n : Int) else n

def colonParts : List Char → List (List Char)
  | [] => [[]]
  | c :: cs =>
    if c = ':' then [] :: colonParts cs
    else
      match colonParts cs with
      | [] => [[c]]
      | p :: ps => (c :: p) :: ps

def unsigned? (version : Version) (cs : List Char) : Option Int :=
  match version, cs with
  | _, '0' :: 'b' :: rest => integer? 2 rest
  | _, '0' :: 'x' :: rest => integer? 16 rest
  | _, '0' :: 'o' :: rest => integer? 8 rest
  | _, ['0'] => some 0
  | .v11, '0' :: rest => integer? 8 ('0' :: rest)
  | .v11, rest =>
    if rest.contains ':' then
      (colonParts rest).foldl (fun n part => do return 60 * (← n) + (← integer? 10 part)) (some 0)
    else integer? 10 rest
  | .v12, rest => integer? 10 rest

/-- The integer that a text stands for; underscores do not count. -/
def int? (version : Version) (s : String) : Option Int :=
  let cs := withoutUnderscores s.toList
  (unsigned? version (Plain.withoutSign cs)).map fun n => if isNegative cs then -n else n

/-- Splits a decimal into the digits before and behind its point and its exponent. -/
def decimalParts? (cs : List Char) : Option (List Char × List Char × Int) := do
  let (whole, cs) := cs.span Plain.isDigit
  let (fraction, cs) :=
    match cs with
    | '.' :: rest => rest.span Plain.isDigit
    | cs => ([], cs)
  if whole.isEmpty && fraction.isEmpty then none
  else
    match cs with
    | [] => some (whole, fraction, 0)
    | e :: rest =>
      if e == 'e' then
        (natural? 10 (Plain.withoutSign rest)).map fun n =>
          (whole, fraction, if isNegative rest then -(n : Int) else n)
      else none

/-- A decimal without a sign, or a word for one of the values that are no numbers. -/
def magnitude? (negative : Bool) (cs : List Char) : Option Double :=
  let word := String.ofList cs
  if word == "inf" || word == "infinity" then some (.infinite negative)
  else if word == "nan" then some .notANumber
  else do
    let (whole, fraction, exponent) ← decimalParts? cs
    let digits ← natural? 10 (whole ++ fraction)
    some (.ofDecimal negative digits (exponent - fraction.length))

def double? (cs : List Char) : Option Double :=
  let cs := latin (trimmed cs)
  magnitude? (isNegative cs) (Plain.withoutSign cs)

/-- The sum of parts in base sixty, from the last one up, of which `unit` is the unit of the first
and must be a double. -/
def sixties? (unit : Nat) (sum : Double) : List (List Char) → Option Double
  | [] => some sum
  | part :: rest => do
    let digit ← double? part
    match Double.ofDecimal false unit 0 with
    | .infinite _ => none
    | unitDouble => sixties? (60 * unit) (sum.add (digit.mul unitDouble)) rest

/-- The double that a text stands for; underscores do not count. -/
def float? (version : Version) (s : String) : Option Double :=
  let cs := (withoutUnderscores s.toList).map Char.toLower
  let rest := Plain.withoutSign cs
  let signed (d : Double) : Double := if isNegative cs then d.neg else d
  if rest == ['.', 'i', 'n', 'f'] then some (.infinite (isNegative cs))
  else if rest == ['.', 'n', 'a', 'n'] then some .notANumber
  else if version == .v11 && rest.contains ':' then
    (sixties? 1 (.zero false) (colonParts rest).reverse).map signed
  else (double? rest).map signed

end BuildSync.Yaml.Number
