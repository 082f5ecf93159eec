import BuildSync.Yaml.Tag

/-!
# Plain scalars

The tag of a scalar without quotes by its form, under the rules of YAML 1.2 or 1.1. The first rule
that matches wins; a scalar that no rule matches is a text.
-/

set_option autoImplicit false

namespace BuildSync.Yaml

inductive Version
  | v11
  | v12
  deriving DecidableEq, Repr

namespace Plain

def isDigit (c : Char) : Bool := '0' ≤ c && c ≤ '9'

def isHexDigit (c : Char) : Bool :=
  isDigit c || ('a' ≤ c && c ≤ 'f') || ('A' ≤ c && c ≤ 'F')

def isOctalDigit (c : Char) : Bool := '0' ≤ c && c ≤ '7'

def isBinaryDigit (c : Char) : Bool := c == '0' || c == '1'

/-- A run of one digit or underscore at least, and nothing else. -/
def isRun (digit : Char → Bool) (cs : List Char) : Bool :=
  cs != [] && cs.all fun c => digit c || c == '_'

def withoutSign : List Char → List Char
  | '-' :: cs => cs
  | '+' :: cs => cs
  | cs => cs

/-- The rest of a text behind a digit and the digits and underscores that follow. -/
def afterNumber (cs : List Char) : Option (List Char) :=
  match cs with
  | c :: rest => if isDigit c then some (rest.dropWhile fun c => isDigit c || c == '_') else none
  | [] => none

/-- An exponent with a sign, which may be left out unless it is `required`. -/
def isExponent (required : Bool) : List Char → Bool
  | e :: rest =>
    (e == 'e' || e == 'E') &&
      match rest with
      | s :: digits =>
        if s == '-' || s == '+' then digits != [] && digits.all isDigit
        else !required && (s :: digits).all isDigit
      | [] => false
  | [] => false

/-- Parts of at most two digits, each behind a colon and below sixty; what follows them. -/
def afterSixties : List Char → Option (List Char)
  | ':' :: a :: b :: rest =>
    if isDigit a && isDigit b then
      if a ≤ '5' then some ((afterSixties rest).getD rest) else none
    else if isDigit a then some ((afterSixties (b :: rest)).getD (b :: rest))
    else none
  | [':', a] => if isDigit a then some [] else none
  | _ => none

def isSixtiesInt (cs : List Char) : Bool :=
  match cs with
  | c :: _ => '1' ≤ c && c ≤ '9' && (afterNumber cs).bind afterSixties == some []
  | [] => false

def isSixtiesFloat (cs : List Char) : Bool :=
  match (afterNumber cs).bind afterSixties with
  | some ('.' :: rest) => rest.all fun c => isDigit c || c == '_'
  | _ => false

def isInt (version : Version) (cs : List Char) : Bool :=
  match cs with
  | c :: _ =>
    (isDigit c || c == '-' || c == '+') &&
      match version, withoutSign cs with
      | _, '0' :: 'b' :: rest => isRun isBinaryDigit rest
      | _, '0' :: 'x' :: rest => isRun isHexDigit rest
      | .v12, '0' :: 'o' :: rest => isRun isOctalDigit rest
      | .v12, rest => isRun isDigit rest
      | .v11, rest =>
        isRun isOctalDigit rest || isSixtiesInt rest ||
          match rest with
          | c :: _ => '1' ≤ c && c ≤ '9' && isRun isDigit rest
          | [] => false
  | [] => false

def isInfinity (cs : List Char) : Bool :=
  cs == ['.', 'i', 'n', 'f'] || cs == ['.', 'I', 'n', 'f'] || cs == ['.', 'I', 'N', 'F']

def isNotANumber (cs : List Char) : Bool :=
  cs == ['.', 'n', 'a', 'n'] || cs == ['.', 'N', 'a', 'N'] || cs == ['.', 'N', 'A', 'N']

/-- A float that starts with a digit: one with a point, with an exponent, or with both. -/
def isNumberFloat (cs : List Char) : Bool :=
  match afterNumber cs with
  | some ('.' :: rest) =>
    match rest.dropWhile fun c => isDigit c || c == '_' with
    | [] => true
    | rest => isExponent false rest
  | some rest => isExponent false rest
  | none => false

def isPointFloat : List Char → Bool
  | '.' :: rest =>
    let (fraction, rest) := rest.span fun c => isDigit c || c == '_'
    fraction != [] && (rest == [] || isExponent true rest)
  | _ => false

def isFloat (version : Version) (cs : List Char) : Bool :=
  let rest := withoutSign cs
  isNumberFloat rest || isInfinity rest || isNotANumber cs ||
    match version with
    | .v12 => isPointFloat rest
    | .v11 => isPointFloat cs || isSixtiesFloat rest

def boolNames : Version → List String
  | .v12 => ["true", "True", "TRUE", "false", "False", "FALSE"]
  | .v11 =>
    ["y", "Y", "yes", "Yes", "YES", "n", "N", "no", "No", "NO", "true", "True", "TRUE", "false",
      "False", "FALSE", "on", "On", "ON", "off", "Off", "OFF"]

def isBool (version : Version) (cs : List Char) : Bool :=
  (boolNames version).contains (String.ofList cs)

def isNull (cs : List Char) : Bool := ["", "~", "null", "Null", "NULL"].contains (String.ofList cs)

/-- Reads from `least` to `most` digits greedily, and the rest. -/
def digits (least most : Nat) (cs : List Char) : Option (List Char × List Char) :=
  let taken := (cs.take most).takeWhile isDigit
  if taken.length < least then none else some (taken, cs.drop taken.length)

def literal (c : Char) : List Char → Option (List Char)
  | d :: rest => if c = d then some rest else none
  | [] => none

structure TimestampParts where
  year : List Char
  month : List Char
  day : List Char
  clock : Option (List Char × List Char × List Char)
  fraction : List Char
  /-- Sign, hours and minutes; without a sign it is universal time. -/
  zone : Option (Option (Char × List Char × List Char))

def zone? (cs : List Char) : Option (Option (Option (Char × List Char × List Char))) :=
  match cs.dropWhile (fun c => c == ' ' || c == '\t') with
  | [] => if cs.isEmpty then some none else none
  | ['Z'] => some (some none)
  | sign :: rest =>
    if sign == '-' || sign == '+' then do
      let (hours, rest) ← digits 1 2 rest
      match rest with
      | [] => some (some (some (sign, hours, [])))
      | ':' :: rest =>
        let (minutes, rest) ← digits 2 2 rest
        if rest.isEmpty then some (some (some (sign, hours, minutes))) else none
      | _ => none
    else none

/-- The rest of a text behind what separates a date from a time. -/
def afterDate : List Char → Option (List Char)
  | c :: rest =>
    if c == 'T' || c == 't' then some rest
    else if c == ' ' || c == '\t' then some (rest.dropWhile fun c => c == ' ' || c == '\t')
    else none
  | [] => none

/-- Splits a timestamp: a date, or a date and a time. -/
def timestampParts? (cs : List Char) : Option TimestampParts := do
  let (year, cs) ← digits 4 4 cs
  let cs ← literal '-' cs
  let (month, cs) ← digits 1 2 cs
  let cs ← literal '-' cs
  let (day, cs) ← digits 1 2 cs
  if cs.isEmpty then some ⟨year, month, day, none, [], none⟩
  else
    let cs ← afterDate cs
    let (hour, cs) ← digits 1 2 cs
    let cs ← literal ':' cs
    let (minute, cs) ← digits 2 2 cs
    let cs ← literal ':' cs
    let (second, cs) ← digits 2 2 cs
    let (fraction, cs) :=
      match cs with
      | '.' :: rest => rest.span isDigit
      | cs => ([], cs)
    let zone ← zone? cs
    some ⟨year, month, day, some (hour, minute, second), fraction, zone⟩

/-- A timestamp; a date alone has two digits for month and day. -/
def isTimestamp (cs : List Char) : Bool :=
  match timestampParts? cs with
  | some parts => parts.clock.isSome || parts.month.length == 2 && parts.day.length == 2
  | none => false

/-- The text without a line feed at its end, unless there is nothing else. -/
def withoutLastBreak (cs : List Char) : List Char :=
  if 1 < cs.length && cs.getLast? == some '\n' then cs.dropLast else cs

end Plain

/-- The tag of a plain scalar. A line feed at its end does not count. -/
def plainTag (version : Version) (s : String) : Tag :=
  let cs := Plain.withoutLastBreak s.toList
  if Plain.isBool version cs then .bool
  else if Plain.isFloat version cs then .float
  else if Plain.isInt version cs then .int
  else if cs == ['<', '<'] then .merge
  else if Plain.isNull cs then .null
  else if Plain.isTimestamp cs then .timestamp
  else if cs == ['='] then .value
  else if cs == ['!'] || cs == ['&'] || cs == ['*'] then .unknown
  else .text

end BuildSync.Yaml
