import BuildSync.Scalar
import BuildSync.Text.Base64
import BuildSync.Yaml.Number

/-!
# Conversions

The scalar that a text stands for under a tag, if the tag accepts it.
-/

set_option autoImplicit false

namespace BuildSync.Yaml

namespace Conversion

def bool? (s : String) : Option Bool :=
  let s := String.ofList (s.toList.map Char.toLower)
  if ["yes", "y", "true", "on"].contains s then some true
  else if ["no", "n", "false", "off"].contains s then some false
  else none

def natOf (cs : List Char) : Nat := cs.foldl (fun n c => 10 * n + (c.toNat - '0'.toNat)) 0

def micros (fraction : List Char) : Nat :=
  let six := natOf ((fraction ++ List.replicate 6 '0').take 6)
  match fraction.drop 6 with
  | c :: _ => if c > '4' then six + 1 else six
  | [] => six

def zoneOf : Option (Char × List Char × List Char) → Zone
  | none => ⟨0, "Z"⟩
  | some (sign, hours, minutes) =>
    let n : Int := 60 * natOf hours + natOf minutes
    let behind := if minutes.isEmpty then [] else ':' :: minutes
    ⟨if sign == '-' then -n else n, String.ofList (sign :: hours ++ behind)⟩

/-- The timestamp that a text stands for, if its date, time and zone exist. -/
def timestamp? (s : String) : Option Timestamp := do
  let parts ← Plain.timestampParts? (Plain.withoutLastBreak s.toList)
  let date : Date := ⟨natOf parts.year, natOf parts.month, natOf parts.day⟩
  if !date.isValid then none
  else
    match parts.clock with
    | none => some ⟨date, none⟩
    | some (hour, minute, second) =>
      let fraction := micros parts.fraction
      let zone := parts.zone.map zoneOf
      let time : ClockTime := ⟨natOf hour, natOf minute, natOf second, fraction % 1000000, zone⟩
      if time.hour ≤ 23 ∧ time.minute ≤ 59 ∧ time.second ≤ 59 ∧
          (zone.map fun z => z.minutes.natAbs).getD 0 < 1440 then
        let (date, time) :=
          if fraction < 1000000 then (date, time) else Timestamp.nextSecond date time
        if date.year ≤ 9999 then some ⟨date, some time⟩ else none
      else none

/-- The bytes that ASCII text in base 64 stands for. -/
def bytes? (s : String) : Option (List UInt8) :=
  if s.toList.all fun c => c.toNat < 128 then Text.Base64.decode? s.toList else none

end Conversion

/-- The scalar that code points stand for under a tag. Only null and text accept those that are no
text. -/
def scalarOf (version : Version) (codes : List Nat) (tag : Tag) : Option Scalar :=
  match tag, Text.ofCodes? codes with
  | .null, _ => some .null
  | .text, _ => some (.ofCodes codes)
  | .bool, some s => (Conversion.bool? s).map .bool
  | .int, some s => (Number.int? version s).map .int
  | .float, some s => (Number.float? version s).map .double
  | .timestamp, some s => (Conversion.timestamp? s).map .timestamp
  | .binary, some s => (Conversion.bytes? s).map .bytes
  | _, _ => none

end BuildSync.Yaml
