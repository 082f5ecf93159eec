import BuildSync.Disk
import BuildSync.Event
import BuildSync.Job.Check
import BuildSync.Job.Dump
import BuildSync.Manifest.Check
import BuildSync.Manifest.Dump
import BuildSync.Settings.Resolve
import BuildSync.Text.Encoding
import BuildSync.Yaml.Document
import BuildSync.Yaml.Writer

/-!
# Loading and saving documents

Manifests and job snapshots are YAML documents on a disk. The settings that go with a manifest may
be set in a file `.env` in its directory.
-/

set_option autoImplicit false

namespace BuildSync

inductive LoadError
  | unreadable (path : Path) (cause : Option FileError)
  /-- An environment file that cannot be looked for or opened. -/
  | refused (e : FileError)
  | notMapping (path : Path)
  | wrongKind (path : Path) (kind : Value)
  | invalid (e : ValidationError)
  | undecodable (fault : Text.Utf8Fault)

def locationText (location : List Step) : String :=
  String.intercalate "." (location.map fun step =>
    match step with
    | .key name => name
    | .index i => toString i)

def Issue.text (issue : Issue) : String :=
  locationText issue.location ++ "\n  " ++ issue.fault.message ++ " [" ++ issue.fault.code ++ "]"

namespace LoadError

/-- What is wrong, in one line where no name or value holds a line break. -/
def headline : LoadError → String
  | .unreadable path cause =>
    let reason :=
      match cause with
      | some e => if e.fault.number?.isSome then ": " ++ e.message else ""
      | none => ""
    s!"Failed to read {path.toString}{reason}"
  | .refused e => e.message
  | .notMapping path => s!"{path.toString} does not contain a YAML mapping"
  | .wrongKind path kind =>
    s!"{path.toString}: expected kind {BuildConfig.model}, got {kind.display}"
  | .invalid e => e.headline
  | .undecodable fault => fault.message

def details : LoadError → String
  | .unreadable _ (some e) => if e.fault.number?.isSome then "" else ": " ++ e.message
  | .unreadable _ none => ": not a YAML document"
  | .invalid e => String.join (e.issues.map fun issue => "\n" ++ issue.text)
  | _ => ""

def message (e : LoadError) : String := e.headline ++ e.details

end LoadError

def readMapping (disk : Disk) (path : Path) (system : System := .plain) :
    Except LoadError Entries :=
  match disk.read path system with
  | .error e => .error (.unreadable path (some e))
  | .ok bytes =>
    match (Text.decode bytes).bind fun text => Yaml.readValue text.toList with
    | none => .error (.unreadable path none)
    | some v =>
      match v.entries? with
      | some entries => .ok entries
      | none => .error (.notMapping path)

/-- A BuildConfig from the mapping of a document, which may leave its kind out. -/
def buildConfigOf (path : Path) (entries : Entries) : Except LoadError BuildConfig :=
  match (entries.get? (.text "kind")).getD (.text BuildConfig.model) with
  | .text kind =>
    if kind = BuildConfig.model then (BuildConfig.ofValue (.map entries)).mapError .invalid
    else .error (.wrongKind path (.text kind))
  | kind => .error (.wrongKind path kind)

def BuildConfig.load (disk : Disk) (path : Path) (system : System := .plain) :
    Except LoadError BuildConfig := do
  buildConfigOf path (← readMapping disk path system)

def Job.load (disk : Disk) (path : Path) (system : System := .plain) : Except LoadError Job := do
  (Job.ofValue (.map (← readMapping disk path system))).mapError .invalid

def loadedBuildConfigEvent (path : Path) (bc : BuildConfig) : Event :=
  .loadedBuildConfig bc.fullName path.toString

def loadedJobEvent (path : Path) (job : Job) : Event := .loadedJob job.fullName path.toString

def envFileName : List Char := ".env".toList

/-- The text of the environment file of a directory, empty where there is none or a device. -/
def envFileText (disk : Disk) (dir : Path) (system : System := .plain) :
    Except LoadError String :=
  let path := dir.append [envFileName]
  match disk.locate path system with
  | .ok (location, some (.file _)) =>
    if system.device location then .ok ""
    else
      match disk.read path system with
      | .ok bytes => (Text.decodeUtf8 (Text.withoutMark bytes)).mapError .undecodable
      | .error e => .error (.refused e)
  | .ok _ => .ok ""
  | .error fault => if fault.meansAbsence then .ok "" else .error (.refused ⟨fault, path⟩)

/-- Settings from overrides, the environment and the environment file of a directory. -/
def Settings.load (disk : Disk) (env : Environment) (dir : Path) (overrides : Entries)
    (system : System := .plain) : Except LoadError Settings := do
  let text ← envFileText disk dir system
  (Settings.resolve overrides env (EnvFile.values env.get? text)).mapError .invalid

/-- The manifest of a BuildConfig; fields without a value are left out. -/
def writeBuildConfig (bc : BuildConfig) : String :=
  match bc.dump .manifest with
  | .map entries => Yaml.write entries
  | _ => ""

def writeDefinition (definition : Definition) : String :=
  match definition.dump .manifest with
  | .map entries => Yaml.write entries
  | _ => ""

inductive SaveError
  | file (e : FileError)
  | dump (fault : DumpFault)

def SaveError.message : SaveError → String
  | .file e => e.message
  | .dump fault => fault.message

structure Saving where
  disk : Disk
  error : Option SaveError

/-- Saves the manifest of a BuildConfig. The directories it lies in are made before it is dumped. -/
def BuildConfig.save (disk : Disk) (path : Path) (bc : BuildConfig) (system : System := .plain) :
    Saving :=
  match bc.dumpFault? with
  | none =>
    let saved := disk.save path (writeBuildConfig bc).toUTF8 system
    ⟨saved.disk, saved.error.map .file⟩
  | some fault =>
    let made := disk.makeDirectories path.parent system
    ⟨made.disk, some ((made.error.map .file).getD (.dump fault))⟩

end BuildSync
