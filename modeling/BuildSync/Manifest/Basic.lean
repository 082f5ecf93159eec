import BuildSync.Text.Case
import BuildSync.Value

/-!
# BuildConfig manifests

The part of a BuildConfig that the sync reads or writes. Every block keeps its other entries.
-/

set_option autoImplicit false

namespace BuildSync

structure GitSource where
  uri : Option String
  ref : Option String
  extras : Entries

structure SecretReference where
  name : String
  extras : Entries

structure BuildSource where
  type : Option String
  git : Option GitSource
  contextDir : Option String
  sourceSecret : Option SecretReference
  extras : Entries

/-- The pipeline strategy block: an inline script, or the path of a script in the checkout. -/
structure PipelineStrategy where
  script : Option String
  scriptPath : Option String
  extras : Entries

structure BuildStrategy where
  type : Option String
  pipeline : Option PipelineStrategy
  extras : Entries

structure BuildSpec where
  source : Option BuildSource
  strategy : Option BuildStrategy
  extras : Entries

structure ObjectMeta where
  space : String
  name : String
  extras : Entries

structure BuildConfig where
  apiVersion : String
  kind : String
  metadata : ObjectMeta
  spec : Option BuildSpec
  extras : Entries

def nonempty (s : Option String) : Option String :=
  match s with
  | some "" => none
  | s => s

theorem nonempty_some_iff {s : Option String} {t : String} :
    nonempty s = some t ↔ s = some t ∧ t ≠ "" := by
  unfold nonempty
  split
  · simp
  · rename_i h
    constructor
    · intro hs
      subst hs
      exact ⟨rfl, fun ht => h (by rw [ht])⟩
    · exact And.left

def GitSource.empty : GitSource := ⟨none, none, []⟩

def BuildSource.empty : BuildSource := ⟨none, none, none, none, []⟩

def BuildSpec.empty : BuildSpec := ⟨none, none, []⟩

def gitSourceType : String := "Git"

def pipelineStrategyType : String := "JenkinsPipeline"

/-- A strategy whose type, if it has one, names pipelines in any letter case. -/
def BuildStrategy.isPipeline (strategy : BuildStrategy) : Bool :=
  match nonempty strategy.type with
  | none => true
  | some type => Text.lower type == Text.lower pipelineStrategyType

namespace BuildConfig

def fullName (bc : BuildConfig) : String := bc.metadata.space ++ "/" ++ bc.metadata.name

def source (bc : BuildConfig) : Option BuildSource := bc.spec.bind BuildSpec.source

def git (bc : BuildConfig) : Option GitSource := bc.source.bind BuildSource.git

def pipeline (bc : BuildConfig) : Option PipelineStrategy :=
  (bc.spec.bind BuildSpec.strategy).bind fun strategy =>
    if strategy.isPipeline then strategy.pipeline else none

def sourceOrEmpty (bc : BuildConfig) : BuildSource := bc.source.getD .empty

def withSource (bc : BuildConfig) (source : BuildSource) : BuildConfig :=
  { bc with spec := some { bc.spec.getD .empty with source := some source } }

def ensureSource (bc : BuildConfig) : BuildConfig := bc.withSource bc.sourceOrEmpty

/-- Points the git source at a repository, and creates it where there is none. -/
def withRemote (bc : BuildConfig) (uri : String) (ref : Option String) : BuildConfig :=
  let source := bc.sourceOrEmpty
  let git := source.git.getD .empty
  bc.withSource { source with git := some { git with uri := some uri, ref := ref } }

def modifyPipeline (bc : BuildConfig) (f : PipelineStrategy → PipelineStrategy) : BuildConfig :=
  { bc with
    spec := bc.spec.map fun spec =>
      { spec with
        strategy := spec.strategy.map fun strategy =>
          if strategy.isPipeline then { strategy with pipeline := strategy.pipeline.map f }
          else strategy } }

end BuildConfig

end BuildSync
