import BuildSync.Event
import BuildSync.Report
import BuildSync.Settings.Resolve
import BuildSync.Text.Blank
import BuildSync.Text.Case

/-!
# Logging

Which events a run writes, and how. Until a level is set, warnings are written as bare texts.
-/

set_option autoImplicit false

namespace BuildSync.Command

def levelVariable : String := "PIPELINE_SYNC_LOG"

/-- The level set, if any, and the complaint about a name that is no level's. -/
structure LogSetting where
  level : Option Level
  complaint : Option String
  deriving DecidableEq, Repr

def levelComplaint (name : String) : String :=
  "WARNING: invalid " ++ levelVariable ++ " level '" ++ name ++ "', expected one of " ++
    String.intercalate ", " (Level.all.map Level.name) ++ "; using INFO"

/-- The level that the environment or else the number of verbose flags sets. -/
def logSetting (env : Environment) (verbosity : Nat) : LogSetting :=
  let name := Text.upper (Text.trim ((env.get? levelVariable).getD ""))
  if name = "" then
    ⟨if verbosity ≥ 2 then some .debug else if verbosity = 1 then some .info else none, none⟩
  else
    match Level.all.find? fun level => level.name == name with
    | some level => ⟨some level, none⟩
    | none => ⟨some .info, some (levelComplaint name)⟩

def isWritten (setting : Option Level) (event : Event) : Bool :=
  (setting.getD .warning).number ≤ event.level.number

def logLine (setting : Option Level) (event : Event) : String :=
  let lead :=
    if setting.isSome then s!"{event.level.name} pipeline_sync.{event.channel}: " else ""
  lead ++ event.text ++ "\n"

def logLines (setting : Option Level) (events : List Event) : String :=
  String.join ((events.filter (isWritten setting)).map (logLine setting))

end BuildSync.Command
