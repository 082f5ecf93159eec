import BuildSync.System

/-!
# Disks

The files and directories that a run sees, and what reading and writing them does on a system that
has links and devices among them. A path is walked from the working directory or from the root, one
segment at a time. A write that fails may leave directories behind, and a file that is cut off.
-/

set_option autoImplicit false

namespace BuildSync

inductive Item
  | directory
  | file (bytes : ByteArray)

instance : DecidableEq Item
  | .directory, .directory => isTrue rfl
  | .directory, .file _ => isFalse nofun
  | .file _, .directory => isFalse nofun
  | .file a, .file b =>
    match ByteArray.decEq a b with
    | isTrue h => isTrue (congrArg Item.file h)
    | isFalse h => isFalse fun hFile => h (Item.file.inj hFile)

structure Disk where
  /-- The working directory. -/
  home : Location
  items : List (Location × Item)

namespace Disk

/-- What lies at a location. The directories down to the working directory are always there. -/
def item? (disk : Disk) (location : Location) : Option Item :=
  if location.isPrefixOf disk.home then some .directory else disk.items.lookup location

def put (disk : Disk) (location : Location) (item : Item) : Disk :=
  { disk with items := (location, item) :: disk.items.filter fun e => e.1 != location }

/-- Where the walk along a path starts, from a directory. -/
def origin (here : Location) (root : Root) : Location := if root = .relative then here else []

/-- Walks segments down from a directory, to a location and what lies there. All segments but the
last one must lead to directories. Where one leads to a link, `follow` takes over. -/
def walkWith
    (follow : Location → List (List Char) → Except FileFault (Location × Option Item))
    (disk : Disk) (system : System) :
    Location → List (List Char) → Except FileFault (Location × Option Item)
  | here, [] => .ok (here, some .directory)
  | here, segment :: rest =>
    if segment = ['.', '.'] then walkWith follow disk system here.dropLast rest
    else if (String.ofList segment).utf8ByteSize > maxNameBytes then .error .nameTooLong
    else
      match system.link (here ++ [segment]) with
      | some target => follow (origin here target.root) (target.segments ++ rest)
      | none =>
        match disk.item? (here ++ [segment]) with
        | some .directory => walkWith follow disk system (here ++ [segment]) rest
        | some (.file bytes) =>
          if rest = [] then .ok (here ++ [segment], some (.file bytes)) else .error .notDirectory
        | none => if rest = [] then .ok (here ++ [segment], none) else .error .missing

/-- Walks segments down and follows as many links. -/
def walk (disk : Disk) (system : System) :
    Nat → Location → List (List Char) → Except FileFault (Location × Option Item)
  | 0 => walkWith (fun _ _ => .error .tooManyLinks) disk system
  | links + 1 => walkWith (walk disk system links) disk system

def locate (disk : Disk) (path : Path) (system : System := .plain) :
    Except FileFault (Location × Option Item) :=
  if path.toList.contains '\x00' then .error .nulInName
  else if path.toString.utf8ByteSize ≥ maxPathBytes then .error .nameTooLong
  else disk.walk system maxLinks (origin disk.home path.root) path.segments

/-- Whether a path ends with the name of a link. -/
def isLink (disk : Disk) (path : Path) (system : System := .plain) : Bool :=
  match path.segments.getLast?, disk.locate path.parent system with
  | some name, .ok (dir, some .directory) =>
    name != ['.', '.'] && (system.link (dir ++ [name])).isSome
  | _, _ => false

def isDirectory (disk : Disk) (path : Path) (system : System := .plain) : Bool :=
  match disk.locate path system with
  | .ok (_, some .directory) => true
  | _ => false

def read (disk : Disk) (path : Path) (system : System := .plain) : Except FileError ByteArray :=
  match disk.locate path system with
  | .ok (location, some (.file bytes)) =>
    match system.refusal .read location with
    | some fault => .error ⟨fault, path⟩
    | none => .ok bytes
  | .ok (_, some .directory) => .error ⟨.isDirectory, path⟩
  | .ok (_, none) => .error ⟨.missing, path⟩
  | .error fault => .error ⟨fault, path⟩

structure Attempt where
  disk : Disk
  error : Option FileError

def makeDirectory (disk : Disk) (path : Path) (system : System := .plain) : Attempt :=
  if disk.isLink path system then ⟨disk, some ⟨.alreadyThere, path⟩⟩
  else
    match disk.locate path system with
    | .ok (location, none) =>
      match system.refusal .makeDirectory location with
      | some fault => ⟨disk, some ⟨fault, path⟩⟩
      | none => ⟨disk.put location .directory, none⟩
    | .ok (_, some _) => ⟨disk, some ⟨.alreadyThere, path⟩⟩
    | .error fault => ⟨disk, some ⟨fault, path⟩⟩

def Attempt.forgive (attempt : Attempt) (path : Path) (system : System) : Attempt :=
  if attempt.disk.isDirectory path system then { attempt with error := none } else attempt

/-- Makes a directory, given by its segments from the last one up, and those it lies in. -/
def makeDirectoriesUp (system : System) (root : Root) (disk : Disk) : List (List Char) → Attempt
  | [] => (disk.makeDirectory ⟨root, []⟩ system).forgive ⟨root, []⟩ system
  | segment :: above =>
    let path : Path := ⟨root, (segment :: above).reverse⟩
    let attempt := disk.makeDirectory path system
    if attempt.error.map FileError.fault = some .missing then
      let outer := makeDirectoriesUp system root disk above
      if outer.error.isSome then outer
      else (outer.disk.makeDirectory path system).forgive path system
    else attempt.forgive path system

/-- Makes a directory and those it lies in, unless it is there. -/
def makeDirectories (disk : Disk) (path : Path) (system : System := .plain) : Attempt :=
  makeDirectoriesUp system path.root disk path.segments.reverse

/-- Leaves bytes in a file, which is made where there is none. A device keeps nothing. -/
def leave (disk : Disk) (location : Location) (bytes : ByteArray) (system : System) : Disk :=
  if system.device location then disk else disk.put location (.file bytes)

/-- Opens a file, which is made or emptied by that, and writes to it. -/
def write (disk : Disk) (path : Path) (bytes : ByteArray) (system : System := .plain) : Attempt :=
  match disk.locate path system with
  | .ok (_, some .directory) => ⟨disk, some ⟨.isDirectory, path⟩⟩
  | .ok (location, _) =>
    match system.refusal .write location with
    | some fault => ⟨disk, some ⟨fault, path⟩⟩
    | none =>
      match system.sink location bytes with
      | .whole => ⟨disk.leave location bytes system, none⟩
      | .cut taken fault =>
        ⟨disk.leave location (bytes.extract 0 taken) system, some ⟨fault, none⟩⟩
  | .error fault => ⟨disk, some ⟨fault, path⟩⟩

/-- Writes to a file, and makes the directories it lies in first. -/
def save (disk : Disk) (path : Path) (bytes : ByteArray) (system : System := .plain) : Attempt :=
  let made := disk.makeDirectories path.parent system
  if made.error.isSome then made else made.disk.write path bytes system

/-- The items of a disk that an earlier one did not hold. -/
def newSince (disk before : Disk) : List (Location × Item) :=
  disk.items.filter fun e => before.item? e.1 != some e.2

end Disk

end BuildSync
