/-!
# Encodings

The text of a file: UTF-8, or UTF-16 where a byte order mark says so. A byte order mark stays in
the text. Bytes that are not UTF-8 have a first fault, with a place and a reason.
-/

set_option autoImplicit false

namespace BuildSync.Text

/-- The unit of two bytes, the `big` one in front where the order says so. -/
def unit16 (bigEndian : Bool) (a b : UInt8) : Nat :=
  if bigEndian then 256 * a.toNat + b.toNat else 256 * b.toNat + a.toNat

def units16? (bigEndian : Bool) : List UInt8 → Option (List Nat)
  | [] => some []
  | [_] => none
  | a :: b :: rest => (units16? bigEndian rest).map (unit16 bigEndian a b :: ·)

def isHighSurrogate (n : Nat) : Bool := 0xD800 ≤ n && n ≤ 0xDBFF

def isLowSurrogate (n : Nat) : Bool := 0xDC00 ≤ n && n ≤ 0xDFFF

/-- The characters of units; a surrogate must stand in a pair. -/
def charsOfUnits16? : List Nat → Option (List Char)
  | [] => some []
  | n :: rest =>
    if isHighSurrogate n then
      match rest with
      | m :: rest =>
        if isLowSurrogate m then
          (charsOfUnits16? rest).map
            (Char.ofNat (0x10000 + 0x400 * (n - 0xD800) + (m - 0xDC00)) :: ·)
        else none
      | [] => none
    else if isLowSurrogate n then none
    else (charsOfUnits16? rest).map (Char.ofNat n :: ·)

def decodeUtf16 (bigEndian : Bool) (bytes : List UInt8) : Option String :=
  ((units16? bigEndian bytes).bind charsOfUnits16?).map String.ofList

def decode (bytes : ByteArray) : Option String :=
  match bytes.toList.take 2 with
  | [0xFF, 0xFE] => decodeUtf16 false bytes.toList
  | [0xFE, 0xFF] => decodeUtf16 true bytes.toList
  | _ => String.fromUTF8? bytes

inductive Utf8Reason
  | startByte
  | continuationByte
  | endOfData
  /-- No nearer reason. -/
  | invalid
  deriving DecidableEq, Repr

def Utf8Reason.text : Utf8Reason → String
  | .startByte => "invalid start byte"
  | .continuationByte => "invalid continuation byte"
  | .endOfData => "unexpected end of data"
  | .invalid => "invalid utf-8"

/-- A character that cannot be read: its first byte, where it starts, and how many of its bytes
were there. -/
structure Utf8Fault where
  byte : UInt8
  start : Nat
  length : Nat
  reason : Utf8Reason
  deriving DecidableEq, Repr

def hexText (n : Nat) : String :=
  String.ofList (List.replicate (2 - (Nat.toDigits 16 n).length) '0' ++ Nat.toDigits 16 n)

def Utf8Fault.message (fault : Utf8Fault) : String :=
  let place :=
    if fault.length = 1 then s!"byte 0x{hexText fault.byte.toNat} in position {fault.start}"
    else s!"bytes in position {fault.start}-{fault.start + fault.length - 1}"
  s!"'utf-8' codec can't decode {place}: {fault.reason.text}"

def isContinuation (b : UInt8) : Bool := 0x80 ≤ b && b ≤ 0xBF

/-- Whether a byte may stand second: no character has two encodings, none is a surrogate, and none
lies beyond the last one. -/
def isSecond (a b : UInt8) : Bool :=
  isContinuation b && (a != 0xE0 || 0xA0 ≤ b) && (a != 0xED || b < 0xA0) &&
    (a != 0xF0 || 0x90 ≤ b) && (a != 0xF4 || b < 0x90)

/-- The bytes that follow a first byte; none for a byte that is no first byte. -/
def following (a : UInt8) : Nat :=
  if 0xC2 ≤ a && a ≤ 0xDF then 1
  else if 0xE0 ≤ a && a ≤ 0xEF then 2
  else if 0xF0 ≤ a && a ≤ 0xF4 then 3
  else 0

def utf8Fault (start : Nat) : List UInt8 → Option Utf8Fault
  | [] => none
  | a :: rest =>
    if a < 0x80 then utf8Fault (start + 1) rest
    else if following a = 0 then some ⟨a, start, 1, .startByte⟩
    else
      match rest with
      | [] => some ⟨a, start, 1, .endOfData⟩
      | b :: rest =>
        if !isSecond a b then some ⟨a, start, 1, .continuationByte⟩
        else if following a = 1 then utf8Fault (start + 2) rest
        else
          match rest with
          | [] => some ⟨a, start, 2, .endOfData⟩
          | c :: rest =>
            if !isContinuation c then some ⟨a, start, 2, .continuationByte⟩
            else if following a = 2 then utf8Fault (start + 3) rest
            else
              match rest with
              | [] => some ⟨a, start, 3, .endOfData⟩
              | d :: rest =>
                if !isContinuation d then some ⟨a, start, 3, .continuationByte⟩
                else utf8Fault (start + 4) rest

/-- The text that bytes are in UTF-8, or the first fault. -/
def decodeUtf8 (bytes : ByteArray) : Except Utf8Fault String :=
  match utf8Fault 0 bytes.toList, String.fromUTF8? bytes with
  | some fault, _ => .error fault
  | none, text => .ok (text.getD "")

/-- The text that a list of bytes is in UTF-8. -/
def ofUtf8? (bytes : List UInt8) : Option String := String.fromUTF8? (ByteArray.mk bytes.toArray)

def withoutMark (bytes : ByteArray) : ByteArray :=
  if bytes.toList.take 3 = [0xEF, 0xBB, 0xBF] then bytes.extract 3 bytes.size else bytes

end BuildSync.Text
