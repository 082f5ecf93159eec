import BuildSync.Settings.Basic
import BuildSync.Settings.EnvFile
import BuildSync.Text.Case

/-!
# Resolving settings

An override that is not null comes first, then the environment variable of exactly the right name,
then the environment file, then a variable whose name differs in letter case only, then the default.
-/

set_option autoImplicit false

namespace BuildSync

abbrev Environment := List (String × String)

namespace Environment

def get? (env : Environment) (name : String) : Option String := env.lookup name

/-- The value of the last variable with a name, up to letter case. -/
def getAnyCase? (env : Environment) (name : String) : Option String :=
  (env.reverse.find? fun v => Text.lower v.1 == Text.lower name).map Prod.snd

end Environment

namespace Settings

def variableName (field : String) : String := "PIPELINE_SYNC_" ++ Text.upper field

/-- The fields that a list of arguments or else the environment sets. -/
def withEnvironment (env : Environment) (arguments : Entries) : Entries :=
  let ambient := fields.filterMap fun field =>
    if Entries.has arguments (.text field.snake) then none
    else
      (env.getAnyCase? (variableName field.snake)).map fun v => (Key.text field.snake, Value.text v)
  arguments ++ ambient

def ofArguments (env : Environment) (arguments : Entries) : Except ValidationError Settings :=
  (check (.map (withEnvironment env arguments))).toExcept model

def ambient (env : Environment) : Except ValidationError Settings := ofArguments env []

def orAmbient (env : Environment) : Option Settings → Except ValidationError Settings
  | some settings => .ok settings
  | none => ambient env

/-- The value of a field from the overrides, the environment or the environment file. -/
def resolveField (overrides : Entries) (env : Environment) (file : List (String × Option String))
    (field : String) : Option Value :=
  match (Entries.get? overrides (.text field)).filter (!·.isNull) with
  | some v => some v
  | none =>
    let name := variableName field
    match env.get? name with
    | some v => some (.text v)
    | none => (file.lookup name).join.map Value.text

/-- Settings from overrides, the environment and an environment file. Overrides that are null or
name no field are ignored. -/
def resolve (overrides : Entries) (env : Environment) (file : List (String × Option String)) :
    Except ValidationError Settings :=
  ofArguments env (fields.filterMap fun field =>
    (resolveField overrides env file field.snake).map fun v => (Key.text field.snake, v))

end Settings

end BuildSync
