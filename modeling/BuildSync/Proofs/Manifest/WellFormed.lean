import BuildSync.Manifest.Dump
import BuildSync.Proofs.Manifest.Reading

/-!
# Well-formed BuildConfigs

Reading a JSON manifest gives names that are not empty, and blocks that carry along JSON entries
under other keys than their fields are written with. Such a BuildConfig is written as JSON, unless
something that it carries along is nested too deep.
-/

set_option autoImplicit false

namespace BuildSync

structure GitSource.WellFormed (git : GitSource) : Prop where
  foreign : git.extras.Foreign fields

structure SecretReference.WellFormed (secret : SecretReference) : Prop where
  name : secret.name ≠ ""
  foreign : secret.extras.Foreign fields

structure BuildSource.WellFormed (source : BuildSource) : Prop where
  git : ∀ git ∈ source.git, git.WellFormed
  sourceSecret : ∀ secret ∈ source.sourceSecret, secret.WellFormed
  foreign : source.extras.Foreign fields

structure PipelineStrategy.WellFormed (strategy : PipelineStrategy) : Prop where
  foreign : strategy.extras.Foreign fields

structure BuildStrategy.WellFormed (strategy : BuildStrategy) : Prop where
  pipeline : ∀ pipeline ∈ strategy.pipeline, pipeline.WellFormed
  foreign : strategy.extras.Foreign fields

structure BuildSpec.WellFormed (spec : BuildSpec) : Prop where
  source : ∀ source ∈ spec.source, source.WellFormed
  strategy : ∀ strategy ∈ spec.strategy, strategy.WellFormed
  foreign : spec.extras.Foreign fields

structure ObjectMeta.WellFormed (metadata : ObjectMeta) : Prop where
  name : metadata.name ≠ ""
  foreign : metadata.extras.Foreign fields

structure BuildConfig.WellFormed (bc : BuildConfig) : Prop where
  metadata : bc.metadata.WellFormed
  spec : ∀ spec ∈ bc.spec, spec.WellFormed
  foreign : bc.extras.Foreign fields

/-! ### What is read is well-formed -/

theorem GitSource.ensures_wellFormed : Ensures check WellFormed := by
  intro v git hJson h
  obtain ⟨r, rfl, hR⟩ := Value.exists_map_of_record hJson h
  obtain ⟨_, _, hExtras⟩ := (check_eq_ok_iff hR).mp h
  exact ⟨hExtras ▸ hR.unknown fields⟩

theorem SecretReference.ensures_wellFormed : Ensures check WellFormed := by
  intro v secret hJson h
  obtain ⟨r, rfl, hR⟩ := Value.exists_map_of_record hJson h
  obtain ⟨hName, hExtras⟩ := (check_eq_ok_iff hR).mp h
  exact ⟨hR.ensured_of_required ensures_checkNonemptyText hName, hExtras ▸ hR.unknown fields⟩

theorem BuildSource.ensures_wellFormed : Ensures check WellFormed := by
  intro v source hJson h
  obtain ⟨r, rfl, hR⟩ := Value.exists_map_of_record hJson h
  obtain ⟨_, hGit, _, hSecret, hExtras⟩ := (check_eq_ok_iff hR).mp h
  exact ⟨hR.ensured_of_optional GitSource.ensures_wellFormed hGit,
    hR.ensured_of_optional SecretReference.ensures_wellFormed hSecret, hExtras ▸ hR.unknown fields⟩

theorem PipelineStrategy.ensures_wellFormed : Ensures check WellFormed := by
  intro v strategy hJson h
  obtain ⟨r, rfl, hR⟩ := Value.exists_map_of_record hJson h
  obtain ⟨_, _, hExtras⟩ := (check_eq_ok_iff hR).mp h
  exact ⟨hExtras ▸ hR.unknown fields⟩

theorem BuildStrategy.ensures_wellFormed : Ensures check WellFormed := by
  intro v strategy hJson h
  obtain ⟨r, rfl, hR⟩ := Value.exists_map_of_record hJson h
  obtain ⟨_, hPipeline, hExtras⟩ := (check_eq_ok_iff hR).mp h
  exact ⟨hR.ensured_of_optional PipelineStrategy.ensures_wellFormed hPipeline,
    hExtras ▸ hR.unknown fields⟩

theorem BuildSpec.ensures_wellFormed : Ensures check WellFormed := by
  intro v spec hJson h
  obtain ⟨r, rfl, hR⟩ := Value.exists_map_of_record hJson h
  obtain ⟨hSource, hStrategy, hExtras⟩ := (check_eq_ok_iff hR).mp h
  exact ⟨hR.ensured_of_optional BuildSource.ensures_wellFormed hSource,
    hR.ensured_of_optional BuildStrategy.ensures_wellFormed hStrategy, hExtras ▸ hR.unknown fields⟩

theorem ObjectMeta.ensures_wellFormed : Ensures check WellFormed := by
  intro v metadata hJson h
  obtain ⟨r, rfl, hR⟩ := Value.exists_map_of_record hJson h
  obtain ⟨_, hName, hExtras⟩ := (check_eq_ok_iff hR).mp h
  exact ⟨hR.ensured_of_required ensures_checkNonemptyText hName, hExtras ▸ hR.unknown fields⟩

theorem BuildConfig.ensures_wellFormed : Ensures check WellFormed := by
  intro v bc hJson h
  obtain ⟨r, rfl, hR⟩ := Value.exists_map_of_record hJson h
  obtain ⟨_, _, hMetadata, hSpec, hExtras⟩ := (check_eq_ok_iff hR).mp h
  exact ⟨hR.ensured_of_required ObjectMeta.ensures_wellFormed hMetadata,
    hR.ensured_of_optional BuildSpec.ensures_wellFormed hSpec, hExtras ▸ hR.unknown fields⟩

/-! ### Writing well-formed blocks -/

/-- What is written for the fields. -/
def GitSource.values (git : GitSource) : List (String × Value) :=
  [("uri", .optionalText git.uri), ("ref", .optionalText git.ref)]

def SecretReference.values (secret : SecretReference) : List (String × Value) :=
  [("name", .text secret.name)]

def BuildSource.values (source : BuildSource) : List (String × Value) :=
  [("type", .optionalText source.type),
    ("git", dumpOptional (GitSource.dump .manifest) source.git),
    ("contextDir", .optionalText source.contextDir),
    ("sourceSecret", dumpOptional (SecretReference.dump .manifest) source.sourceSecret)]

def PipelineStrategy.values (strategy : PipelineStrategy) : List (String × Value) :=
  [("jenkinsfile", .optionalText strategy.script),
    ("jenkinsfilePath", .optionalText strategy.scriptPath)]

def BuildStrategy.values (strategy : BuildStrategy) : List (String × Value) :=
  [("type", .optionalText strategy.type),
    ("jenkinsPipelineStrategy", dumpOptional (PipelineStrategy.dump .manifest) strategy.pipeline)]

def BuildSpec.values (spec : BuildSpec) : List (String × Value) :=
  [("source", dumpOptional (BuildSource.dump .manifest) spec.source),
    ("strategy", dumpOptional (BuildStrategy.dump .manifest) spec.strategy)]

def ObjectMeta.values (metadata : ObjectMeta) : List (String × Value) :=
  [("namespace", .text metadata.space), ("name", .text metadata.name)]

def BuildConfig.values (bc : BuildConfig) : List (String × Value) :=
  [("apiVersion", .text bc.apiVersion), ("kind", .text bc.kind),
    ("metadata", bc.metadata.dump .manifest),
    ("spec", dumpOptional (BuildSpec.dump .manifest) bc.spec)]

namespace GitSource.WellFormed

variable {git : GitSource} (h : git.WellFormed)

include h

theorem isRecord : IsRecord fields git.values git.extras := ⟨rfl, by decide, h.foreign⟩

theorem isJson_dump : (git.dump .manifest).IsJson :=
  h.isRecord.isJson_dumpRecord (by simp [values])

end GitSource.WellFormed

namespace SecretReference.WellFormed

variable {secret : SecretReference} (h : secret.WellFormed)

include h

theorem isRecord : IsRecord fields secret.values secret.extras := ⟨rfl, by decide, h.foreign⟩

theorem isJson_dump : (secret.dump .manifest).IsJson :=
  h.isRecord.isJson_dumpRecord (by simp [values])

end SecretReference.WellFormed

namespace BuildSource.WellFormed

variable {source : BuildSource} (h : source.WellFormed)

include h

theorem isRecord : IsRecord fields source.values source.extras := ⟨rfl, by decide, h.foreign⟩

theorem isJson_dump : (source.dump .manifest).IsJson := by
  have hGit := isJson_dumpOptional fun git hGit => (h.git git hGit).isJson_dump
  have hSecret := isJson_dumpOptional fun secret hSecret =>
    (h.sourceSecret secret hSecret).isJson_dump
  exact h.isRecord.isJson_dumpRecord (by simp [values, hGit, hSecret])

end BuildSource.WellFormed

namespace PipelineStrategy.WellFormed

variable {strategy : PipelineStrategy} (h : strategy.WellFormed)

include h

theorem isRecord : IsRecord fields strategy.values strategy.extras := ⟨rfl, by decide, h.foreign⟩

theorem isJson_dump : (strategy.dump .manifest).IsJson :=
  h.isRecord.isJson_dumpRecord (by simp [values])

end PipelineStrategy.WellFormed

namespace BuildStrategy.WellFormed

variable {strategy : BuildStrategy} (h : strategy.WellFormed)

include h

theorem isRecord : IsRecord fields strategy.values strategy.extras := ⟨rfl, by decide, h.foreign⟩

theorem isJson_dump : (strategy.dump .manifest).IsJson := by
  have hPipeline := isJson_dumpOptional fun pipeline hPipeline =>
    (h.pipeline pipeline hPipeline).isJson_dump
  exact h.isRecord.isJson_dumpRecord (by simp [values, hPipeline])

end BuildStrategy.WellFormed

namespace BuildSpec.WellFormed

variable {spec : BuildSpec} (h : spec.WellFormed)

include h

theorem isRecord : IsRecord fields spec.values spec.extras := ⟨rfl, by decide, h.foreign⟩

theorem isJson_dump : (spec.dump .manifest).IsJson := by
  have hSource := isJson_dumpOptional fun source hSource => (h.source source hSource).isJson_dump
  have hStrategy := isJson_dumpOptional fun strategy hStrategy =>
    (h.strategy strategy hStrategy).isJson_dump
  exact h.isRecord.isJson_dumpRecord (by simp [values, hSource, hStrategy])

end BuildSpec.WellFormed

namespace ObjectMeta.WellFormed

variable {metadata : ObjectMeta} (h : metadata.WellFormed)

include h

theorem isRecord : IsRecord fields metadata.values metadata.extras := ⟨rfl, by decide, h.foreign⟩

theorem isJson_dump : (metadata.dump .manifest).IsJson :=
  h.isRecord.isJson_dumpRecord (by simp [values])

end ObjectMeta.WellFormed

namespace BuildConfig

/-- Nothing that is carried along is nested too deep to be written. -/
def Shallow (bc : BuildConfig) : Prop :=
  ∀ extras ∈ bc.carried, ∀ e ∈ extras, e.2.levels ≤ maxDumpDepth

instance (bc : BuildConfig) : Decidable bc.Shallow :=
  inferInstanceAs (Decidable (∀ extras ∈ bc.carried, ∀ e ∈ extras, e.2.levels ≤ maxDumpDepth))

/-- The manifest that is saved, or why there is none. -/
def manifest (bc : BuildConfig) : Except DumpFault Value :=
  match bc.dumpFault? with
  | some fault => .error fault
  | none => .ok (bc.dump .manifest)

namespace WellFormed

variable {bc : BuildConfig} (h : bc.WellFormed)

include h

theorem isRecord : IsRecord fields bc.values bc.extras := ⟨rfl, by decide, h.foreign⟩

theorem isJson_dump : (bc.dump .manifest).IsJson := by
  have hSpec := isJson_dumpOptional fun spec hSpec => (h.spec spec hSpec).isJson_dump
  exact h.isRecord.isJson_dumpRecord (by simp [values, h.metadata.isJson_dump, hSpec])

theorem source {source : BuildSource} (hSource : bc.source = some source) : source.WellFormed := by
  obtain ⟨spec, hSpec, hSource⟩ := Option.bind_eq_some_iff.mp hSource
  exact (h.spec spec hSpec).source source hSource

theorem strategy {strategy : BuildStrategy}
    (hStrategy : bc.spec.bind BuildSpec.strategy = some strategy) : strategy.WellFormed := by
  obtain ⟨spec, hSpec, hStrategy⟩ := Option.bind_eq_some_iff.mp hStrategy
  exact (h.spec spec hSpec).strategy strategy hStrategy

theorem isJson_carried {extras : Entries} (hCarried : extras ∈ bc.carried) : extras.IsJson := by
  simp only [carried, List.cons_append, List.nil_append, List.append_assoc, List.mem_cons,
    List.mem_append, List.mem_flatMap, Option.mem_toList, Option.map_eq_some_iff, List.mem_map,
    List.not_mem_nil, or_false] at hCarried
  rcases hCarried with rfl | ⟨source, hSource, git, hGit, rfl⟩ |
    ⟨source, hSource, secret, hSecret, rfl⟩ | ⟨source, hSource, rfl⟩ |
    ⟨strategy, hStrategy, pipeline, hPipeline, rfl⟩ | ⟨strategy, hStrategy, rfl⟩ |
    ⟨spec, hSpec, rfl⟩ | rfl
  · exact h.metadata.foreign.toIsJson
  · exact ((h.source hSource).git git hGit).foreign.toIsJson
  · exact ((h.source hSource).sourceSecret secret hSecret).foreign.toIsJson
  · exact (h.source hSource).foreign.toIsJson
  · exact ((h.strategy hStrategy).pipeline pipeline hPipeline).foreign.toIsJson
  · exact (h.strategy hStrategy).foreign.toIsJson
  · exact (h.spec spec hSpec).foreign.toIsJson
  · exact h.foreign.toIsJson

/-- Only the nesting of what is carried along can stand in the way of a manifest. -/
theorem manifest_eq :
    bc.manifest = if bc.Shallow then .ok (bc.dump .manifest) else .error .tooDeep :=
  dumpCarrying_eq (fun _ hCarried => h.isJson_carried hCarried) (bc.dump .manifest)

end WellFormed

/-! ### One value that is carried along -/

/-- A document with a name and one more value. -/
def carrierDocument (extra : Value) : Value :=
  .object [("metadata", .object [("name", .text "app")]), ("status", extra)]

def carrier (extra : Value) : BuildConfig :=
  ⟨defaultApiVersion, model, ⟨"", "app", []⟩, none, [(.text "status", extra)]⟩

variable {extra : Value}

theorem isJson_carrierDocument (h : extra.IsJson) : (carrierDocument extra).IsJson := by
  simp [carrierDocument, h]

theorem check_carrierDocument (h : extra.IsJson) :
    check (carrierDocument extra) = .ok (carrier extra) := by
  have hJson := isJson_carrierDocument h
  rw [carrierDocument, Value.object, Value.isJson_map_iff] at hJson
  exact (check_eq_ok_iff hJson).mpr ⟨rfl, rfl, rfl, rfl, rfl⟩

theorem manifest_carrier_of_deep (h : extra.IsJson) (hDeep : maxDumpDepth < extra.levels) :
    (carrier extra).manifest = .error .tooDeep := by
  have hNotShallow : ¬(carrier extra).Shallow := by
    intro hShallow
    have hLevels := hShallow [(.text "status", extra)] (by simp [carried, carrier])
      (.text "status", extra) List.mem_cons_self
    exact Nat.not_lt.mpr hLevels hDeep
  have hWellFormed := ensures_wellFormed _ _ (isJson_carrierDocument h) (check_carrierDocument h)
  rw [hWellFormed.manifest_eq, if_neg hNotShallow]

end BuildConfig

end BuildSync
