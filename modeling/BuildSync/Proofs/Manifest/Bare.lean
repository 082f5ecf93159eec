import BuildSync.Proofs.Document.Same
import BuildSync.Proofs.Manifest.Reload

/-!
# The fields of a BuildConfig alone

From two documents that hold the same, BuildConfigs are read that differ at most in the order of
what they carry along: they are the same once it is stripped.
-/

set_option autoImplicit false

namespace BuildSync

def GitSource.bare (git : GitSource) : GitSource := { git with extras := [] }

def SecretReference.bare (secret : SecretReference) : SecretReference :=
  { secret with extras := [] }

def BuildSource.bare (source : BuildSource) : BuildSource :=
  { source with
    git := source.git.map GitSource.bare
    sourceSecret := source.sourceSecret.map SecretReference.bare
    extras := [] }

def PipelineStrategy.bare (strategy : PipelineStrategy) : PipelineStrategy :=
  { strategy with extras := [] }

def BuildStrategy.bare (strategy : BuildStrategy) : BuildStrategy :=
  { strategy with pipeline := strategy.pipeline.map PipelineStrategy.bare, extras := [] }

def BuildSpec.bare (spec : BuildSpec) : BuildSpec :=
  { source := spec.source.map BuildSource.bare
    strategy := spec.strategy.map BuildStrategy.bare
    extras := [] }

def ObjectMeta.bare (metadata : ObjectMeta) : ObjectMeta := { metadata with extras := [] }

/-- The BuildConfig without what its blocks carry along. -/
def BuildConfig.bare (bc : BuildConfig) : BuildConfig :=
  { bc with
    metadata := bc.metadata.bare
    spec := bc.spec.map BuildSpec.bare
    extras := [] }

/-! ### Nulls are carried along -/

theorem BuildSource.bare_withoutNulls (source : BuildSource) :
    source.withoutNulls.bare = source.bare := by
  simp only [bare, withoutNulls, Option.map_map]
  rfl

theorem BuildStrategy.bare_withoutNulls (strategy : BuildStrategy) :
    strategy.withoutNulls.bare = strategy.bare := by
  simp only [bare, withoutNulls, Option.map_map]
  rfl

theorem BuildSpec.bare_withoutNulls (spec : BuildSpec) : spec.withoutNulls.bare = spec.bare := by
  have hSource : BuildSource.bare ∘ BuildSource.withoutNulls = BuildSource.bare :=
    funext BuildSource.bare_withoutNulls
  have hStrategy : BuildStrategy.bare ∘ BuildStrategy.withoutNulls = BuildStrategy.bare :=
    funext BuildStrategy.bare_withoutNulls
  simp only [bare, withoutNulls, Option.map_map, hSource, hStrategy]

theorem BuildConfig.bare_withoutNulls (bc : BuildConfig) : bc.withoutNulls.bare = bc.bare := by
  have hSpec : BuildSpec.bare ∘ BuildSpec.withoutNulls = BuildSpec.bare :=
    funext BuildSpec.bare_withoutNulls
  simp only [bare, withoutNulls, Option.map_map, hSpec]
  rfl

/-! ### Reading the same fields -/

theorem GitSource.respects_check : Respects check bare :=
  respects_record fun _ other git hR hOther hSame h => by
    obtain ⟨hUri, hRef, _⟩ := (check_eq_ok_iff hR).mp h
    refine ⟨{ git with extras := other.unknown fields }, (check_eq_ok_iff hOther).mpr ?_, rfl⟩
    exact ⟨hSame.optionalText hR hOther hUri, hSame.optionalText hR hOther hRef, rfl⟩

theorem SecretReference.respects_check : Respects check bare :=
  respects_record fun _ other secret hR hOther hSame h => by
    obtain ⟨hName, _⟩ := (check_eq_ok_iff hR).mp h
    obtain ⟨name, hOtherName, hText⟩ :=
      hSame.required hR hOther respects_checkNonemptyText hName
    obtain rfl : name = secret.name := hText
    exact ⟨⟨secret.name, other.unknown fields⟩, (check_eq_ok_iff hOther).mpr ⟨hOtherName, rfl⟩, rfl⟩

theorem BuildSource.respects_check : Respects check bare :=
  respects_record fun _ other source hR hOther hSame h => by
    obtain ⟨hType, hGit, hDir, hSecret, _⟩ := (check_eq_ok_iff hR).mp h
    obtain ⟨git, hOtherGit, hGitBare⟩ := hSame.optional hR hOther GitSource.respects_check hGit
    obtain ⟨secret, hOtherSecret, hSecretBare⟩ :=
      hSame.optional hR hOther SecretReference.respects_check hSecret
    refine ⟨⟨source.type, git, source.contextDir, secret, other.unknown fields⟩,
      (check_eq_ok_iff hOther).mpr ⟨hSame.optionalText hR hOther hType, hOtherGit,
        hSame.optionalText hR hOther hDir, hOtherSecret, rfl⟩, ?_⟩
    rw [bare, bare, hGitBare, hSecretBare]

theorem PipelineStrategy.respects_check : Respects check bare :=
  respects_record fun _ other strategy hR hOther hSame h => by
    obtain ⟨hScript, hPath, _⟩ := (check_eq_ok_iff hR).mp h
    refine ⟨{ strategy with extras := other.unknown fields }, (check_eq_ok_iff hOther).mpr ?_, rfl⟩
    exact ⟨hSame.optionalText hR hOther hScript, hSame.optionalText hR hOther hPath, rfl⟩

theorem BuildStrategy.respects_check : Respects check bare :=
  respects_record fun _ other strategy hR hOther hSame h => by
    obtain ⟨hType, hPipeline, _⟩ := (check_eq_ok_iff hR).mp h
    obtain ⟨pipeline, hOtherPipeline, hBare⟩ :=
      hSame.optional hR hOther PipelineStrategy.respects_check hPipeline
    refine ⟨⟨strategy.type, pipeline, other.unknown fields⟩, (check_eq_ok_iff hOther).mpr
      ⟨hSame.optionalText hR hOther hType, hOtherPipeline, rfl⟩, ?_⟩
    rw [bare, bare, hBare]

theorem BuildSpec.respects_check : Respects check bare :=
  respects_record fun _ other spec hR hOther hSame h => by
    obtain ⟨hSource, hStrategy, _⟩ := (check_eq_ok_iff hR).mp h
    obtain ⟨source, hOtherSource, hSourceBare⟩ :=
      hSame.optional hR hOther BuildSource.respects_check hSource
    obtain ⟨strategy, hOtherStrategy, hStrategyBare⟩ :=
      hSame.optional hR hOther BuildStrategy.respects_check hStrategy
    refine ⟨⟨source, strategy, other.unknown fields⟩, (check_eq_ok_iff hOther).mpr
      ⟨hOtherSource, hOtherStrategy, rfl⟩, ?_⟩
    rw [bare, bare, hSourceBare, hStrategyBare]

theorem ObjectMeta.respects_check : Respects check bare :=
  respects_record fun _ other metadata hR hOther hSame h => by
    obtain ⟨hSpace, hName, _⟩ := (check_eq_ok_iff hR).mp h
    obtain ⟨space, hOtherSpace, hSpaceText⟩ := hSame.defaulted hR hOther respects_checkText hSpace
    obtain ⟨name, hOtherName, hNameText⟩ :=
      hSame.required hR hOther respects_checkNonemptyText hName
    obtain rfl : space = metadata.space := hSpaceText
    obtain rfl : name = metadata.name := hNameText
    exact ⟨⟨metadata.space, metadata.name, other.unknown fields⟩,
      (check_eq_ok_iff hOther).mpr ⟨hOtherSpace, hOtherName, rfl⟩, rfl⟩

theorem BuildConfig.respects_check : Respects check bare :=
  respects_record fun _ other bc hR hOther hSame h => by
    obtain ⟨hApiVersion, hKind, hMetadata, hSpec, _⟩ := (check_eq_ok_iff hR).mp h
    obtain ⟨apiVersion, hOtherVersion, hVersionText⟩ :=
      hSame.defaulted hR hOther respects_checkText hApiVersion
    obtain ⟨kind, hOtherKind, hKindText⟩ := hSame.defaulted hR hOther respects_checkText hKind
    obtain rfl : apiVersion = bc.apiVersion := hVersionText
    obtain rfl : kind = bc.kind := hKindText
    obtain ⟨metadata, hOtherMetadata, hMetadataBare⟩ :=
      hSame.required hR hOther ObjectMeta.respects_check hMetadata
    obtain ⟨spec, hOtherSpec, hSpecBare⟩ := hSame.optional hR hOther BuildSpec.respects_check hSpec
    refine ⟨⟨bc.apiVersion, bc.kind, metadata, spec, other.unknown fields⟩,
      (check_eq_ok_iff hOther).mpr ⟨hOtherVersion, hOtherKind, hOtherMetadata, hOtherSpec, rfl⟩, ?_⟩
    rw [bare, bare, hMetadataBare, hSpecBare]

end BuildSync
