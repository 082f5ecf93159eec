import BuildSync.Double.Text
import BuildSync.Text.Quoted

/-!
# Timestamps

Dates, and dates with a time of the day. A time may say its zone, which then keeps its spelling.
-/

set_option autoImplicit false

namespace BuildSync

structure Date where
  year : Nat
  month : Nat
  day : Nat
  deriving DecidableEq, Repr

/-- A zone, by its distance from universal time in minutes and the way it was spelled. -/
structure Zone where
  minutes : Int
  spelling : String
  deriving DecidableEq, Repr

structure ClockTime where
  hour : Nat
  minute : Nat
  second : Nat
  micros : Nat
  zone : Option Zone
  deriving DecidableEq, Repr

structure Timestamp where
  date : Date
  time : Option ClockTime
  deriving DecidableEq, Repr

namespace Date

def isLeapYear (year : Nat) : Bool := year % 4 == 0 && (year % 100 != 0 || year % 400 == 0)

def daysIn (year month : Nat) : Nat :=
  if month = 2 then if isLeapYear year then 29 else 28
  else if [4, 6, 9, 11].contains month then 30
  else 31

def isValid (d : Date) : Bool :=
  1 ≤ d.year && 1 ≤ d.month && d.month ≤ 12 && 1 ≤ d.day && d.day ≤ daysIn d.year d.month

def next (d : Date) : Date :=
  if d.day < daysIn d.year d.month then { d with day := d.day + 1 }
  else if d.month < 12 then ⟨d.year, d.month + 1, 1⟩
  else ⟨d.year + 1, 1, 1⟩

/-- The number of a day, counted from the start of the calendar. -/
def number (d : Date) : Nat :=
  let years := d.year - 1
  let months := (List.range (d.month - 1)).map fun month => daysIn d.year (month + 1)
  365 * years + years / 4 - years / 100 + years / 400 + months.foldl (· + ·) 0 + d.day

def text (d : Date) : String := s!"{padded 4 d.year}-{padded 2 d.month}-{padded 2 d.day}"

end Date

namespace Timestamp

def nextSecond (d : Date) (t : ClockTime) : Date × ClockTime :=
  if t.second < 59 then (d, { t with second := t.second + 1 })
  else if t.minute < 59 then (d, { t with second := 0, minute := t.minute + 1 })
  else if t.hour < 23 then (d, { t with second := 0, minute := 0, hour := t.hour + 1 })
  else (d.next, { t with second := 0, minute := 0, hour := 0 })

/-- The microseconds from the start of the calendar to a time of a day. -/
def elapsed (d : Date) (t : ClockTime) : Int :=
  let minutes : Int := (d.number * 24 + t.hour) * 60 + t.minute
  let minutes := minutes - (t.zone.map Zone.minutes).getD 0
  (minutes * 60 + t.second) * 1000000 + t.micros

/-- Whether two timestamps are the same: with a zone on both sides, they are the same instant. -/
def same (a b : Timestamp) : Bool :=
  match a.time, b.time with
  | none, none => a.date == b.date
  | some s, some t => s.zone.isSome == t.zone.isSome && elapsed a.date s == elapsed b.date t
  | _, _ => false

def offsetText (minutes : Int) : String :=
  let sign := if minutes < 0 then "-" else "+"
  let n := minutes.natAbs
  s!"{sign}{padded 2 (n / 60)}:{padded 2 (n % 60)}"

def clockText (t : ClockTime) : String :=
  let micros := if t.micros = 0 then "" else "." ++ padded 6 t.micros
  s!"{padded 2 t.hour}:{padded 2 t.minute}:{padded 2 t.second}{micros}"

/-- The text of a timestamp in a document, with `Z` for universal time. -/
def iso (t : Timestamp) : String :=
  match t.time with
  | none => t.date.text
  | some clock =>
    let zone :=
      match clock.zone with
      | none => ""
      | some zone => if zone.minutes = 0 then "Z" else offsetText zone.minutes
    s!"{t.date.text}T{clockText clock}{zone}"

def spaced (t : Timestamp) : String :=
  match t.time with
  | none => t.date.text
  | some clock =>
    let zone := (clock.zone.map fun zone => offsetText zone.minutes).getD ""
    s!"{t.date.text} {clockText clock}{zone}"

/-- A distance from universal time by its parts; days make it negative, seconds never are. -/
def distanceParts (minutes : Int) : String :=
  let days := Int.fdiv minutes 1440
  let seconds := 60 * Int.fmod minutes 1440
  let parts := (if days = 0 then [] else [s!"days={days}"]) ++
    if seconds = 0 then [] else [s!"seconds={seconds}"]
  if parts.isEmpty then "0" else String.intercalate ", " parts

def zoneParts (zone : Zone) : String :=
  let distance := distanceParts zone.minutes
  s!"datetime.timezone(datetime.timedelta({distance}), {Text.quoted zone.spelling})"

/-- The parts of a clock time; zeros at the end, behind the minute, are left out. -/
def clockParts (t : ClockTime) : List Nat :=
  [t.hour, t.minute] ++
    if t.micros ≠ 0 then [t.second, t.micros] else if t.second ≠ 0 then [t.second] else []

/-- The text of a timestamp inside the text of a collection: its parts by name. -/
def listed (t : Timestamp) : String :=
  let date := [t.date.year, t.date.month, t.date.day]
  let numbers (ns : List Nat) : String := String.intercalate ", " (ns.map toString)
  match t.time with
  | none => s!"datetime.date({numbers date})"
  | some clock =>
    let zone := (clock.zone.map fun zone => ", tzinfo=" ++ zoneParts zone).getD ""
    s!"datetime.datetime({numbers (date ++ clockParts clock)}{zone})"

end Timestamp

end BuildSync
