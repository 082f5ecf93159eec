import BuildSync.Manifest.Basic

/-!
# Replacing blocks of a BuildConfig

The source and the pipeline strategy are written apart from each other, and writing what is there
already changes nothing.
-/

set_option autoImplicit false

namespace BuildSync

@[simp]
theorem nonempty_none : nonempty none = none := rfl

theorem nonempty_of_ne {s : String} (h : s ≠ "") : nonempty (some s) = some s :=
  nonempty_some_iff.mpr ⟨rfl, h⟩

@[simp]
theorem nonempty_nonempty (s : Option String) : nonempty (nonempty s) = nonempty s := by
  cases h : nonempty s with
  | none => rfl
  | some t => exact nonempty_of_ne (nonempty_some_iff.mp h).2

namespace BuildConfig

variable (bc : BuildConfig)

def sourceSecret : Option SecretReference := bc.source.bind BuildSource.sourceSecret

/-! ### The source -/

@[simp]
theorem pipeline_withSource (source : BuildSource) :
    (bc.withSource source).pipeline = bc.pipeline := by
  unfold pipeline withSource
  cases bc.spec <;> rfl

@[simp]
theorem withSource_withSource (source other : BuildSource) :
    (bc.withSource source).withSource other = bc.withSource other := rfl

theorem withSource_eq_self {source : BuildSource} (h : bc.source = some source) :
    bc.withSource source = bc := by
  obtain ⟨apiVersion, kind, metadata, spec, extras⟩ := bc
  cases spec with
  | none => cases h
  | some spec =>
    obtain ⟨source', strategy, extras'⟩ := spec
    cases h
    rfl

theorem sourceOrEmpty_of_source {source : BuildSource} (h : bc.source = some source) :
    bc.sourceOrEmpty = source := by
  rw [sourceOrEmpty, h]
  rfl

@[simp]
theorem git_sourceOrEmpty : bc.sourceOrEmpty.git = bc.git := by
  unfold sourceOrEmpty git
  cases bc.source <;> rfl

@[simp]
theorem pipeline_ensureSource : bc.ensureSource.pipeline = bc.pipeline :=
  bc.pipeline_withSource bc.sourceOrEmpty

@[simp]
theorem sourceOrEmpty_ensureSource : bc.ensureSource.sourceOrEmpty = bc.sourceOrEmpty := rfl

/-! ### The pipeline strategy -/

section Pipeline

variable (f : PipelineStrategy → PipelineStrategy)

@[simp]
theorem source_modifyPipeline : (bc.modifyPipeline f).source = bc.source := by
  unfold source modifyPipeline
  cases bc.spec <;> rfl

@[simp]
theorem git_modifyPipeline : (bc.modifyPipeline f).git = bc.git := by
  rw [git, source_modifyPipeline, git]

@[simp]
theorem sourceOrEmpty_modifyPipeline : (bc.modifyPipeline f).sourceOrEmpty = bc.sourceOrEmpty := by
  rw [sourceOrEmpty, source_modifyPipeline, sourceOrEmpty]

@[simp]
theorem pipeline_modifyPipeline : (bc.modifyPipeline f).pipeline = bc.pipeline.map f := by
  obtain ⟨apiVersion, kind, metadata, spec, extras⟩ := bc
  cases spec with
  | none => rfl
  | some spec =>
    obtain ⟨source, strategy, extras'⟩ := spec
    cases strategy with
    | none => rfl
    | some strategy =>
      by_cases h : strategy.isPipeline = true
      · have hKeep : ∀ p, BuildStrategy.isPipeline { strategy with pipeline := p } = true :=
          fun _ => h
        simp [pipeline, modifyPipeline, h, hKeep]
      · simp [pipeline, modifyPipeline, h]

theorem withSource_modifyPipeline (source : BuildSource) :
    (bc.modifyPipeline f).withSource source = (bc.withSource source).modifyPipeline f := by
  obtain ⟨apiVersion, kind, metadata, spec, extras⟩ := bc
  cases spec <;> rfl

end Pipeline

theorem modifyPipeline_congr {strategy : PipelineStrategy}
    {f g : PipelineStrategy → PipelineStrategy} (h : bc.pipeline = some strategy)
    (hfg : f strategy = g strategy) : bc.modifyPipeline f = bc.modifyPipeline g := by
  obtain ⟨apiVersion, kind, metadata, spec, extras⟩ := bc
  cases spec with
  | none => rfl
  | some spec =>
    obtain ⟨source, block, extras'⟩ := spec
    cases block with
    | none => rfl
    | some block =>
      by_cases hPipeline : block.isPipeline = true
      · have hBlock : block.pipeline = some strategy := by simpa [pipeline, hPipeline] using h
        simp [modifyPipeline, hBlock, hfg]
      · simp [modifyPipeline, hPipeline]

theorem modifyPipeline_id : bc.modifyPipeline id = bc := by
  obtain ⟨apiVersion, kind, metadata, spec, extras⟩ := bc
  cases spec with
  | none => rfl
  | some spec =>
    obtain ⟨source, block, extras'⟩ := spec
    cases block <;> simp [modifyPipeline]

theorem modifyPipeline_eq_self {strategy : PipelineStrategy}
    {f : PipelineStrategy → PipelineStrategy} (h : bc.pipeline = some strategy)
    (hf : f strategy = strategy) : bc.modifyPipeline f = bc :=
  (bc.modifyPipeline_congr h hf).trans bc.modifyPipeline_id

end BuildConfig

end BuildSync
