/-!
# Command line options

The options of a command and its operands. A long option takes its value behind an equal sign or
from the next argument; short options may share a dash, and the last of them may have its value
behind it. Two dashes end the options.
-/

set_option autoImplicit false

namespace BuildSync.Command

structure OptionRule where
  long : String
  short : Option Char
  takesValue : Bool
  deriving DecidableEq, Repr

/-- An option that was given, by its long name; a flag has the empty value. -/
structure GivenOption where
  name : String
  value : String
  deriving DecidableEq, Repr

structure Arguments where
  options : List GivenOption
  operands : List String
  deriving DecidableEq, Repr

namespace Arguments

def has (a : Arguments) (name : String) : Bool := a.options.any fun option => option.name == name

def count (a : Arguments) (name : String) : Nat :=
  a.options.countP fun option => option.name == name

def last? (a : Arguments) (name : String) : Option String :=
  (a.options.reverse.find? fun option => option.name == name).map GivenOption.value

end Arguments

def splitAtEqual (cs : List Char) : List Char × Option (List Char) :=
  match cs.span (· != '=') with
  | (name, _ :: value) => (name, some value)
  | (name, []) => (name, none)

/-- The options that share a dash. The last one may take the next argument, then consumed. -/
def readShort (rules : List OptionRule) :
    List Char → Option String → Option (List GivenOption × Bool)
  | [], _ => some ([], false)
  | c :: rest, next =>
    match rules.find? fun rule => rule.short == some c with
    | none => none
    | some rule =>
      if !rule.takesValue then
        (readShort rules rest next).map fun r => (⟨rule.long, ""⟩ :: r.1, r.2)
      else if rest != [] then some ([⟨rule.long, String.ofList rest⟩], false)
      else next.map fun value => ([⟨rule.long, value⟩], true)

/-- The options in an argument that starts with a dash, and whether it takes the next argument. -/
def readOption (rules : List OptionRule) (argument : List Char) (next : Option String) :
    Option (List GivenOption × Bool) :=
  let (name, value) := splitAtEqual argument
  match rules.find? fun rule => rule.long == String.ofList name with
  | some rule =>
    if rule.takesValue then
      match value with
      | some value => some ([⟨rule.long, String.ofList value⟩], false)
      | none => next.map fun value => ([⟨rule.long, value⟩], true)
    else if value.isSome then none
    else some ([⟨rule.long, ""⟩], false)
  | none =>
    match argument with
    | '-' :: '-' :: _ => none
    | _ => readShort rules (argument.drop 1) next

/-- Reads arguments. Unless operands may be mixed with options, the first operand ends the options.
None for an option that no rule knows, that lacks its value, or that takes none and has one. -/
def readArguments (rules : List OptionRule) (mixed : Bool) : List String → Option Arguments
  | [] => some ⟨[], []⟩
  | argument :: rest =>
    match argument.toList with
    | ['-', '-'] => some ⟨[], rest⟩
    | '-' :: c :: cs => do
      let (options, consumed) ← readOption rules ('-' :: c :: cs) rest.head?
      if consumed then
        match rest with
        | _ :: rest =>
          let more ← readArguments rules mixed rest
          some { more with options := options ++ more.options }
        | [] => none
      else
        let more ← readArguments rules mixed rest
        some { more with options := options ++ more.options }
    | _ =>
      if mixed then (readArguments rules mixed rest).map fun more =>
        { more with operands := argument :: more.operands }
      else some ⟨[], argument :: rest⟩

end BuildSync.Command
