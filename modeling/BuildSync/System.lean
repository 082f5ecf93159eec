import BuildSync.Path
import BuildSync.Text.Quoted

/-!
# What a system does to a run

A run meets links that it does not make and files that are devices, and the system may refuse what
it asks for. A file that has been opened for writing holds what was written of it when a write
fails.
-/

set_option autoImplicit false

namespace BuildSync

/-- The names of the directories from the root to a file or a directory, and its own. -/
abbrev Location := List (List Char)

inductive FileFault
  | missing
  | alreadyThere
  | notDirectory
  | isDirectory
  | nameTooLong
  | tooManyLinks
  | nulInName
  | other (number : Nat) (text : String)
  deriving DecidableEq, Repr

namespace FileFault

def number? : FileFault → Option Nat
  | .missing => some 2
  | .alreadyThere => some 17
  | .notDirectory => some 20
  | .isDirectory => some 21
  | .nameTooLong => some 36
  | .tooManyLinks => some 40
  | .nulInName => none
  | .other number _ => some number

def text : FileFault → String
  | .missing => "No such file or directory"
  | .alreadyThere => "File exists"
  | .notDirectory => "Not a directory"
  | .isDirectory => "Is a directory"
  | .nameTooLong => "File name too long"
  | .tooManyLinks => "Too many levels of symbolic links"
  | .nulInName => "embedded null byte"
  | .other _ text => text

/-- A path that fails so counts as leading to nothing where a file is only looked for. -/
def meansAbsence : FileFault → Bool
  | .missing | .notDirectory | .tooManyLinks | .nulInName => true
  | _ => false

end FileFault

structure FileError where
  fault : FileFault
  /-- The path that was asked for, where the fault has not come up later than that. -/
  path : Option Path
  deriving DecidableEq, Repr

def FileError.message (e : FileError) : String :=
  match e.fault.number?, e.path with
  | some n, some path => s!"[Errno {n}] {e.fault.text}: {Text.quoted path.toString}"
  | some n, none => s!"[Errno {n}] {e.fault.text}"
  | none, _ => e.fault.text

inductive Access
  | read
  | makeDirectory
  | write

/-- What becomes of the bytes that are written to a file which has been opened for it. -/
inductive Sink
  | whole
  /-- As many bytes are taken before the fault comes up. -/
  | cut (taken : Nat) (fault : FileFault)

structure System where
  /-- Where the link at a location leads. A file with several names lies at one of them, and the
  others are links to it. -/
  link : Location → Option Path
  /-- Whether a device stands at a location. It keeps nothing of what is written to it. -/
  device : Location → Bool
  /-- Why the system does not allow what is possible otherwise. -/
  refusal : Access → Location → Option FileFault
  sink : Location → ByteArray → Sink

/-- There are no links and no devices, and nothing fails that is possible. -/
def System.plain : System :=
  ⟨fun _ => none, fun _ => false, fun _ _ => none, fun _ _ => .whole⟩

/-- The most bytes of a name, and of a path with its end. -/
def maxNameBytes : Nat := 255

def maxPathBytes : Nat := 4096

/-- The most links that are followed on the way along a path. -/
def maxLinks : Nat := 40

end BuildSync
