import BuildSync.Manifest.Check
import BuildSync.Proofs.Document.Reading

/-!
# What is read into a BuildConfig

A block is read from a JSON object exactly where each of its fields is. The block carries along what
gives no field.
-/

set_option autoImplicit false

namespace BuildSync

variable {r : Entries} (h : r.IsJson)

include h

theorem GitSource.check_eq_ok_iff {git : GitSource} :
    GitSource.check (.map r) = .ok git ↔
      r.optional uriField Value.checkText = .ok git.uri ∧
        r.optional refField Value.checkText = .ok git.ref ∧ r.unknown fields = git.extras := by
  obtain ⟨uri, ref, extras⟩ := git
  rw [check, Value.record_of_isJson h]
  simp [Entries.extras_eq_ok_iff h.toIsObject]

theorem SecretReference.check_eq_ok_iff {secret : SecretReference} :
    SecretReference.check (.map r) = .ok secret ↔
      r.required nameField Value.checkNonemptyText = .ok secret.name ∧
        r.unknown fields = secret.extras := by
  obtain ⟨name, extras⟩ := secret
  rw [check, Value.record_of_isJson h]
  simp [Entries.extras_eq_ok_iff h.toIsObject]

theorem BuildSource.check_eq_ok_iff {source : BuildSource} :
    BuildSource.check (.map r) = .ok source ↔
      r.optional typeField Value.checkText = .ok source.type ∧
        r.optional gitField GitSource.check = .ok source.git ∧
        r.optional contextDirField Value.checkText = .ok source.contextDir ∧
        r.optional sourceSecretField SecretReference.check = .ok source.sourceSecret ∧
        r.unknown fields = source.extras := by
  obtain ⟨type, git, contextDir, sourceSecret, extras⟩ := source
  rw [check, Value.record_of_isJson h]
  simp [Entries.extras_eq_ok_iff h.toIsObject, and_assoc]

theorem PipelineStrategy.check_eq_ok_iff {strategy : PipelineStrategy} :
    PipelineStrategy.check (.map r) = .ok strategy ↔
      r.optional scriptField Value.checkText = .ok strategy.script ∧
        r.optional scriptPathField Value.checkText = .ok strategy.scriptPath ∧
        r.unknown fields = strategy.extras := by
  obtain ⟨script, scriptPath, extras⟩ := strategy
  rw [check, Value.record_of_isJson h]
  simp [Entries.extras_eq_ok_iff h.toIsObject]

theorem BuildStrategy.check_eq_ok_iff {strategy : BuildStrategy} :
    BuildStrategy.check (.map r) = .ok strategy ↔
      r.optional typeField Value.checkText = .ok strategy.type ∧
        r.optional pipelineField PipelineStrategy.check = .ok strategy.pipeline ∧
        r.unknown fields = strategy.extras := by
  obtain ⟨type, pipeline, extras⟩ := strategy
  rw [check, Value.record_of_isJson h]
  simp [Entries.extras_eq_ok_iff h.toIsObject]

theorem BuildSpec.check_eq_ok_iff {spec : BuildSpec} :
    BuildSpec.check (.map r) = .ok spec ↔
      r.optional sourceField BuildSource.check = .ok spec.source ∧
        r.optional strategyField BuildStrategy.check = .ok spec.strategy ∧
        r.unknown fields = spec.extras := by
  obtain ⟨source, strategy, extras⟩ := spec
  rw [check, Value.record_of_isJson h]
  simp [Entries.extras_eq_ok_iff h.toIsObject]

theorem ObjectMeta.check_eq_ok_iff {metadata : ObjectMeta} :
    ObjectMeta.check (.map r) = .ok metadata ↔
      r.defaulted spaceField "" Value.checkText = .ok metadata.space ∧
        r.required nameField Value.checkNonemptyText = .ok metadata.name ∧
        r.unknown fields = metadata.extras := by
  obtain ⟨space, name, extras⟩ := metadata
  rw [check, Value.record_of_isJson h]
  simp [Entries.extras_eq_ok_iff h.toIsObject]

theorem BuildConfig.check_eq_ok_iff {bc : BuildConfig} :
    BuildConfig.check (.map r) = .ok bc ↔
      r.defaulted apiVersionField defaultApiVersion Value.checkText = .ok bc.apiVersion ∧
        r.defaulted kindField model Value.checkText = .ok bc.kind ∧
        r.required metadataField ObjectMeta.check = .ok bc.metadata ∧
        r.optional specField BuildSpec.check = .ok bc.spec ∧ r.unknown fields = bc.extras := by
  obtain ⟨apiVersion, kind, metadata, spec, extras⟩ := bc
  rw [check, Value.record_of_isJson h]
  simp [Entries.extras_eq_ok_iff h.toIsObject, and_assoc]

end BuildSync
