import BuildSync.Command.Options
import BuildSync.Path

/-!
# Requests

What a command line asks for. Options that concern the whole program stand in front of the command.
-/

set_option autoImplicit false

namespace BuildSync.Command

structure MapRequest where
  buildConfig : Path
  noColor : Bool
  deriving DecidableEq, Repr

structure ReconcileRequest where
  job : Path
  buildConfig : Path
  out : Option Path
  noSyncRemote : Bool
  noColor : Bool
  deriving DecidableEq, Repr

inductive Request
  | help
  | map (request : MapRequest)
  | reconcile (request : ReconcileRequest)
  deriving DecidableEq, Repr

inductive Verb
  | map
  | reconcile
  deriving DecidableEq, Repr

inductive Opening
  | misuse
  | help
  | version
  | verb (verbosity : Nat) (verb : Verb) (arguments : List String)
  deriving DecidableEq, Repr

def flagRule (long : String) : OptionRule := ⟨long, none, false⟩

def helpRule : OptionRule := flagRule "--help"
def versionRule : OptionRule := ⟨"--version", some 'V', false⟩
def verboseRule : OptionRule := ⟨"--verbose", some 'v', false⟩
def noColorRule : OptionRule := flagRule "--no-color"
def noSyncRemoteRule : OptionRule := flagRule "--no-sync-remote"
def outRule : OptionRule := ⟨"--out", some 'o', true⟩

def programRules : List OptionRule := [versionRule, verboseRule, helpRule]

def Verb.rules : Verb → List OptionRule
  | .map => [noColorRule, helpRule]
  | .reconcile => [outRule, noSyncRemoteRule, noColorRule, helpRule]

def Verb.ofName : String → Option Verb
  | "map" => some .map
  | "reconcile" => some .reconcile
  | _ => none

/-- Reads the start of a command line. The first option that asks for the version or for help is
answered before anything else. -/
def readOpening (arguments : List String) : Opening :=
  match readArguments programRules false arguments with
  | none => .misuse
  | some given =>
    match given.options.find? fun option =>
      option.name == versionRule.long || option.name == helpRule.long with
    | some option => if option.name = versionRule.long then .version else .help
    | none =>
      match given.operands with
      | [] => .misuse
      | name :: rest =>
        match Verb.ofName name with
        | some verb => .verb (given.count verboseRule.long) verb rest
        | none => .misuse

/-- Reads the arguments of a command; none for a misuse. -/
def readRequest (verb : Verb) (arguments : List String) : Option Request := do
  let given ← readArguments verb.rules true arguments
  let noColor := given.has noColorRule.long
  if given.has helpRule.long then some .help
  else
    match verb, given.operands with
    | .map, [buildConfig] => some (.map ⟨Path.ofString buildConfig, noColor⟩)
    | .reconcile, [job, buildConfig] =>
      some (.reconcile
        { job := Path.ofString job
          buildConfig := Path.ofString buildConfig
          out := (given.last? outRule.long).map Path.ofString
          noSyncRemote := given.has noSyncRemoteRule.long
          noColor := noColor })
    | _, _ => none

end BuildSync.Command
