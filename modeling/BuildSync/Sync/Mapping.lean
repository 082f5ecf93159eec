import BuildSync.Path
import BuildSync.Settings.Basic
import BuildSync.Sync.Checkout

/-!
# Mapping a BuildConfig to a definition

An inline script always wins; otherwise the script is read from the git source.
-/

set_option autoImplicit false

namespace BuildSync

structure Mapped where
  definition : Option Definition
  lookups : List Lookup

def currentScriptPath (settings : Settings) (strategy : PipelineStrategy) : String :=
  (nonempty strategy.scriptPath).getD settings.defaultScriptPath

def underContext (contextDir : Option String) (path : String) : String :=
  match nonempty contextDir with
  | some dir => Path.join dir path
  | none => path

def BuildConfig.contextDir (bc : BuildConfig) : Option String :=
  bc.source.bind BuildSource.contextDir

def mappedScriptPath (settings : Settings) (bc : BuildConfig) (strategy : PipelineStrategy) :
    String :=
  underContext bc.contextDir (currentScriptPath settings strategy)

/-- The definition that a job for a BuildConfig runs. None unless it is a pipeline build with an
inline script or a repository. -/
def mapDefinition (settings : Settings) (bridge : Option Bridge) (bc : BuildConfig) : Mapped :=
  match bc.pipeline with
  | none => ⟨none, []⟩
  | some strategy =>
    match nonempty strategy.script with
    | some script => ⟨some (.inline script settings.sandbox), []⟩
    | none =>
      let built := buildCheckout bridge bc
      { definition :=
          built.scm.map fun scm => .scm (.git scm) (mappedScriptPath settings bc strategy)
        lookups := built.lookups }

/-- Maps with settings that may not resolve; they are needed for a pipeline build only. -/
def mapResolved {ε : Type} (settings : Except ε Settings) (bridge : Option Bridge)
    (bc : BuildConfig) : Except ε Mapped :=
  if bc.pipeline.isNone then .ok ⟨none, []⟩
  else settings.map fun settings => mapDefinition settings bridge bc

end BuildSync
