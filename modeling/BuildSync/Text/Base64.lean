/-!
# Base 64

Four letters of six bits stand for three bytes. Characters outside of the alphabet are skipped, and
the text ends at the padding of its last group.
-/

set_option autoImplicit false

namespace BuildSync.Text.Base64

def sextet? (c : Char) : Option Nat :=
  if 'A' ≤ c ∧ c ≤ 'Z' then some (c.toNat - 'A'.toNat)
  else if 'a' ≤ c ∧ c ≤ 'z' then some (c.toNat - 'a'.toNat + 26)
  else if '0' ≤ c ∧ c ≤ '9' then some (c.toNat - '0'.toNat + 52)
  else if c = '+' then some 62
  else if c = '/' then some 63
  else none

/-- A group that is not complete yet: the bits of its letters and their number. -/
structure Group where
  bits : Nat
  letters : Nat

def Group.empty : Group := ⟨0, 0⟩

/-- Adds a letter to a group, with the byte that it completes. -/
def Group.add (group : Group) (sextet : Nat) : Group × List UInt8 :=
  let bits := 64 * group.bits + sextet
  match group.letters with
  | 0 => (⟨bits, 1⟩, [])
  | 1 => (⟨bits % 16, 2⟩, [UInt8.ofNat (bits / 16)])
  | 2 => (⟨bits % 4, 3⟩, [UInt8.ofNat (bits / 4)])
  | _ => (.empty, [UInt8.ofNat bits])

/-- Decodes text behind a group; `pads` padding characters stand in front of it. The last group must
be complete or padded. -/
def decodeFrom (group : Group) (pads : Nat) : List Char → Option (List UInt8)
  | [] => if group.letters = 0 then some [] else none
  | c :: rest =>
    if c = '=' then
      if 2 ≤ group.letters then
        if 4 ≤ group.letters + (pads + 1) then some [] else decodeFrom group (pads + 1) rest
      else decodeFrom group pads rest
    else
      match sextet? c with
      | none => decodeFrom group pads rest
      | some sextet =>
        let (group, bytes) := group.add sextet
        (decodeFrom group 0 rest).map (bytes ++ ·)

def decode? (cs : List Char) : Option (List UInt8) := decodeFrom .empty 0 cs

end BuildSync.Text.Base64
