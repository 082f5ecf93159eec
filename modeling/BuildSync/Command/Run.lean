import BuildSync.Command.Logging
import BuildSync.Command.Request
import BuildSync.Loading
import BuildSync.Sync.Journal

/-!
# Runs

What a command line does: what it prints, how it exits, and the disk it leaves behind. Only
`reconcile` with an output path writes a file. A text that cannot be printed ends the run.
-/

set_option autoImplicit false

namespace BuildSync.Command

structure Start where
  env : Environment
  disk : Disk
  /-- Whether what is printed keeps its colours. -/
  keepsColor : Bool

/-- What a run meets besides its disk and its environment. -/
structure World where
  system : System
  /-- What stands against printing a text: it cannot be encoded, or the output takes no more. -/
  objection : String → Option String

/-- Every text can be printed. -/
def World.plain : World := ⟨.plain, fun _ => none⟩

structure Printed where
  text : String
  objection : Option String

/-- Prints texts one after the other, up to the first one that cannot be printed. -/
def World.print (world : World) : List String → Printed
  | [] => ⟨"", none⟩
  | text :: rest =>
    match world.objection text with
    | some objection => ⟨"", some objection⟩
    | none =>
      let printed := world.print rest
      ⟨text ++ printed.text, printed.objection⟩

inductive Failure
  | load (e : LoadError)
  | save (e : SaveError)
  | print (objection : String)

namespace Failure

def kind : Failure → Report.FailureKind
  | .load (.undecodable _) => .other
  | .load (.refused _) => .inputOutput
  | .load _ => .configuration
  | .save (.file _) => .inputOutput
  | .save (.dump _) | .print _ => .other

def text : Failure → String
  | .load e => e.message
  | .save e => e.message
  | .print objection => objection

end Failure

structure Run where
  exitCode : Nat
  output : String
  /-- What is written to the error stream in front of the failure. -/
  notes : String
  failure : Option Failure
  /-- Whether a failure is printed in red. -/
  color : Bool
  level : Option Level
  disk : Disk

def programName : String := "pipeline-sync"

def programVersion : String := "0.1.0"

def usage : String :=
  String.intercalate "\n"
    ["Usage: " ++ programName ++ " [--version] [-v | -vv] COMMAND",
      "",
      "Commands:",
      "  map [--no-color] BUILD_CONFIG",
      "  reconcile [--out FILE] [--no-sync-remote] [--no-color] JOB BUILD_CONFIG\n"]

def echoed (keepsColor : Bool) (text : String) : String :=
  if keepsColor then text else Report.plain text

def echoedLine (keepsColor : Bool) (text : String) : String := echoed keepsColor text ++ "\n"

namespace Run

def failureLine (run : Run) (keepsColor : Bool) : String :=
  match run.failure with
  | some failure => echoedLine keepsColor (Report.failure run.color failure.kind failure.text)
  | none => ""

def errors (run : Run) (keepsColor : Bool) : String := run.notes ++ run.failureLine keepsColor

end Run

def misuseCode : Nat := 2

def changedCode : Nat := 2

def idle (start : Start) (exitCode : Nat) (output notes : String) : Run :=
  ⟨exitCode, output, notes, none, false, none, start.disk⟩

def usesColor (env : Environment) (noColor : Bool) : Bool :=
  !noColor && ((env.get? "NO_COLOR").getD "") == ""

structure Noted (α : Type) where
  events : List Event
  result : Except LoadError α

namespace Noted

variable {α β : Type}

def bind (a : Noted α) (f : α → Noted β) : Noted β :=
  match a.result with
  | .ok x =>
    let b := f x
    ⟨a.events ++ b.events, b.result⟩
  | .error e => ⟨a.events, .error e⟩

instance : Monad Noted where
  pure x := ⟨[], .ok x⟩
  bind := bind

def ofResult (result : Except LoadError α) (event : α → Event) : Noted α :=
  match result with
  | .ok x => ⟨[event x], .ok x⟩
  | .error e => ⟨[], .error e⟩

end Noted

def notedBuildConfig (disk : Disk) (path : Path) (system : System) : Noted BuildConfig :=
  .ofResult (BuildConfig.load disk path system) (loadedBuildConfigEvent path)

def notedJob (disk : Disk) (path : Path) (system : System) : Noted Job :=
  .ofResult (Job.load disk path system) (loadedJobEvent path)

def notedSettings (start : Start) (manifest : Path) (overrides : Entries) (system : System) :
    Noted Settings :=
  ⟨[], Settings.load start.disk start.env manifest.parent overrides system⟩

/-- The bridge of the command line: ids are derived from secret names. -/
def secretBridge (settings : Settings) : Bridge :=
  SecretNames.bridge ⟨settings.prefixNamespace, none⟩

structure MapResult where
  bc : BuildConfig
  definition : Option Definition

def computeMap (start : Start) (request : MapRequest) (system : System) : Noted MapResult := do
  let bc ← notedBuildConfig start.disk request.buildConfig system
  let settings ← notedSettings start request.buildConfig [] system
  let bridge := some (secretBridge settings)
  ⟨mapEvents bridge bc,
    .ok ⟨bc, (mapDefinition settings bridge bc).definition⟩⟩

def runMap (start : Start) (level : Option Level) (request : MapRequest) (world : World) : Run :=
  let color := usesColor start.env request.noColor
  let computed := computeMap start request world.system
  let notes := logLines level computed.events
  match computed.result with
  | .error e => ⟨Report.failureCode, "", notes, some (.load e), color, level, start.disk⟩
  | .ok ⟨bc, none⟩ =>
    let note := s!"BuildConfig {bc.fullName} does not map to a pipeline job."
    ⟨1, "", notes ++ echoedLine start.keepsColor note, none, color, level, start.disk⟩
  | .ok ⟨_, some definition⟩ =>
    let printed := world.print
      [echoedLine start.keepsColor (Report.header color (some definition)),
        echoed start.keepsColor (writeDefinition definition)]
    match printed.objection with
    | some objection =>
      ⟨Report.failureCode, printed.text, notes, some (.print objection), color, level, start.disk⟩
    | none => ⟨0, printed.text, notes, none, color, level, start.disk⟩

/-- The overrides of the settings that a request stands for. -/
def ReconcileRequest.overrides (request : ReconcileRequest) : Entries :=
  if request.noSyncRemote then [(.text Settings.syncRemoteField.snake, .bool false)] else []

def computeReconcile (start : Start) (request : ReconcileRequest) (system : System) :
    Noted Outcome := do
  let job ← notedJob start.disk request.job system
  let bc ← notedBuildConfig start.disk request.buildConfig system
  let settings ← notedSettings start request.buildConfig request.overrides system
  ⟨reconcileEvents settings job bc, .ok (reconcile settings job bc)⟩

/-- The texts that tell how a BuildConfig must change, one for each time that something is
printed. -/
def outcomeTexts (start : Start) (request : ReconcileRequest) (outcome : Outcome) : List String :=
  let color := usesColor start.env request.noColor
  let changes := outcome.changes.map Report.Change.ofField
  let block :=
    echoedLine start.keepsColor (Report.changes color outcome.updated.fullName changes)
  if outcome.changed then
    [block, "\n", echoedLine start.keepsColor (Report.summary color changes.length)]
  else [block]

def savedText (start : Start) (out : Path) : String :=
  echoedLine start.keepsColor s!"\nBuildConfig saved to {out.toString}"

/-- Prints how a BuildConfig must change to match its job, and saves it where asked to. -/
def runReconcile (start : Start) (level : Option Level) (request : ReconcileRequest)
    (world : World) : Run :=
  let computed := computeReconcile start request world.system
  let ended (exitCode : Nat) (output : String) (failure : Option Failure) (disk : Disk) : Run :=
    ⟨exitCode, output, logLines level computed.events, failure,
      usesColor start.env request.noColor, level, disk⟩
  match computed.result with
  | .error e => ended Report.failureCode "" (some (.load e)) start.disk
  | .ok outcome =>
    let printed := world.print (outcomeTexts start request outcome)
    match printed.objection with
    | some objection =>
      ended Report.failureCode printed.text (some (.print objection)) start.disk
    | none =>
      if !outcome.changed then ended 0 printed.text none start.disk
      else
        match request.out with
        | none => ended changedCode printed.text none start.disk
        | some out =>
          let saved := BuildConfig.save start.disk out outcome.updated world.system
          match saved.error with
          | some e => ended Report.failureCode printed.text (some (.save e)) saved.disk
          | none =>
            let last := world.print [savedText start out]
            match last.objection with
            | some objection =>
              ended Report.failureCode printed.text (some (.print objection)) saved.disk
            | none => ended changedCode (printed.text ++ last.text) none saved.disk

/-- Puts the complaint about the level in front of what a run notes down. -/
def withComplaint (keepsColor : Bool) (setting : LogSetting) (run : Run) : Run :=
  match setting.complaint with
  | some text => { run with notes := echoedLine keepsColor text ++ run.notes }
  | none => run

/-- Runs a command line. The level is set once the command is known. -/
def run (start : Start) (arguments : List String) (world : World := .plain) : Run :=
  match readOpening arguments with
  | .misuse => idle start misuseCode "" usage
  | .help => idle start 0 usage ""
  | .version => idle start 0 (programName ++ " " ++ programVersion ++ "\n") ""
  | .verb verbosity verb rest =>
    let setting := logSetting start.env verbosity
    withComplaint start.keepsColor setting <|
      match readRequest verb rest with
      | none => { idle start misuseCode "" usage with level := setting.level }
      | some .help => { idle start 0 usage "" with level := setting.level }
      | some (.map request) => runMap start setting.level request world
      | some (.reconcile request) => runReconcile start setting.level request world

end BuildSync.Command
