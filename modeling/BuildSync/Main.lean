import BuildSync.Command.Run

/-!
# The command line program

Takes the part of the file system that a command line names, runs the command line on it, and
applies what the run changed.
-/

set_option autoImplicit false

namespace BuildSync.Command

/-- The paths that a request names, and those of the environment files. -/
def Request.paths : Request → List Path
  | .help => []
  | .map r => [r.buildConfig, r.buildConfig.parent.append [envFileName]]
  | .reconcile r =>
    [r.job, r.buildConfig, r.buildConfig.parent.append [envFileName]] ++ r.out.toList

def pathsOf (arguments : List String) : List Path :=
  match readOpening arguments with
  | .verb _ verb rest => ((readRequest verb rest).map Request.paths).getD []
  | _ => []

def locationsFrom : Location → List (List Char) → List Location
  | _, [] => []
  | here, segment :: rest =>
    let there := if segment = ['.', '.'] then here.dropLast else here ++ [segment]
    there :: locationsFrom there rest

def locationPath (location : Location) : String :=
  String.ofList ('/' :: Path.slashed location)

def probe (location : Location) : IO (Option Item) := do
  let path := (← IO.currentDir) / locationPath location
  if ← path.isDir then return some .directory
  else if ← path.pathExists then return some (.file (← IO.FS.readBinFile path))
  else return none

def takeDisk (paths : List Path) : IO Disk := do
  let home := Path.segmentsOf (← IO.currentDir).toString.toList
  let mut disk : Disk := ⟨home, []⟩
  for path in paths do
    let start := if path.root = .relative then home else []
    for location in locationsFrom start path.segments do
      if let some item ← probe location then disk := disk.put location item
  return disk

def applyDisk (before after : Disk) : IO Unit := do
  for (location, item) in (after.newSince before).reverse do
    match item with
    | .directory => IO.FS.createDirAll (locationPath location)
    | .file bytes => IO.FS.writeBinFile (locationPath location) bytes

def variablesOf (block : String) : Environment :=
  (block.splitOn "\x00").filterMap fun assignment =>
    match splitAtEqual assignment.toList with
    | (name, some value) => some (String.ofList name, String.ofList value)
    | (_, none) => none

def takeEnvironment : IO Environment := do
  let bytes ← IO.FS.readBinFile "/proc/self/environ"
  return variablesOf ((String.fromUTF8? bytes).getD "")

end BuildSync.Command

def main (arguments : List String) : IO UInt32 := do
  let out ← IO.getStdout
  let disk ← BuildSync.Command.takeDisk (BuildSync.Command.pathsOf arguments)
  let keepsColor ← out.isTty
  let run := BuildSync.Command.run ⟨← BuildSync.Command.takeEnvironment, disk, keepsColor⟩ arguments
  BuildSync.Command.applyDisk disk run.disk
  out.putStr run.output
  (← IO.getStderr).putStr (run.errors keepsColor)
  return run.exitCode.toUInt32
