import BuildSync.Proofs.Manifest.WellFormed

/-!
# Reading a saved BuildConfig

A manifest is read as the BuildConfig that it was written from, without the null entries that were
carried along. A field without a value leaves no trace in the manifest, so nothing that is carried
along may have the snake spelling of such a field: it would be read as the field.
-/

set_option autoImplicit false

namespace BuildSync

/-! ### Without nulls -/

def GitSource.withoutNulls (git : GitSource) : GitSource := { git with extras := git.extras.given }

def SecretReference.withoutNulls (secret : SecretReference) : SecretReference :=
  { secret with extras := secret.extras.given }

def BuildSource.withoutNulls (source : BuildSource) : BuildSource :=
  { source with
    git := source.git.map GitSource.withoutNulls
    sourceSecret := source.sourceSecret.map SecretReference.withoutNulls
    extras := source.extras.given }

def PipelineStrategy.withoutNulls (strategy : PipelineStrategy) : PipelineStrategy :=
  { strategy with extras := strategy.extras.given }

def BuildStrategy.withoutNulls (strategy : BuildStrategy) : BuildStrategy :=
  { strategy with
    pipeline := strategy.pipeline.map PipelineStrategy.withoutNulls
    extras := strategy.extras.given }

def BuildSpec.withoutNulls (spec : BuildSpec) : BuildSpec :=
  { source := spec.source.map BuildSource.withoutNulls
    strategy := spec.strategy.map BuildStrategy.withoutNulls
    extras := spec.extras.given }

def ObjectMeta.withoutNulls (metadata : ObjectMeta) : ObjectMeta :=
  { metadata with extras := metadata.extras.given }

/-- The BuildConfig without the null entries that its blocks carry along. Nulls further down in what
is carried along stay. -/
def BuildConfig.withoutNulls (bc : BuildConfig) : BuildConfig :=
  { bc with
    metadata := bc.metadata.withoutNulls
    spec := bc.spec.map BuildSpec.withoutNulls
    extras := bc.extras.given }

/-! ### Shadows -/

/-- No field without a value would be read from what is carried along. -/
structure BuildSource.Unshadowed (source : BuildSource) : Prop where
  contextDir : source.contextDir = none → source.extras.SilentOn contextDirField
  sourceSecret : source.sourceSecret = none → source.extras.SilentOn sourceSecretField

structure PipelineStrategy.Unshadowed (strategy : PipelineStrategy) : Prop where
  scriptPath : strategy.scriptPath = none → strategy.extras.SilentOn scriptPathField

structure BuildStrategy.Unshadowed (strategy : BuildStrategy) : Prop where
  absent : strategy.pipeline = none → strategy.extras.SilentOn pipelineField
  pipeline : ∀ pipeline ∈ strategy.pipeline, pipeline.Unshadowed

structure BuildSpec.Unshadowed (spec : BuildSpec) : Prop where
  source : ∀ source ∈ spec.source, source.Unshadowed
  strategy : ∀ strategy ∈ spec.strategy, strategy.Unshadowed

def BuildConfig.Unshadowed (bc : BuildConfig) : Prop := ∀ spec ∈ bc.spec, spec.Unshadowed

/-! ### Reading the blocks again -/

theorem GitSource.WellFormed.check_dump {git : GitSource} (h : git.WellFormed) :
    GitSource.check (git.dump .manifest) = .ok git.withoutNulls := by
  have hSavable := h.isRecord.isSavable_of_words (by decide)
  have hJson := h.isJson_dump
  rw [dump, dumpRecord_manifest _ h.foreign.toIsJson] at hJson ⊢
  exact (check_eq_ok_iff (Value.isJson_map_iff.mp hJson)).mpr
    ⟨hSavable.optionalText_written (by decide) (.head _),
      hSavable.optionalText_written (by decide) (.tail _ (.head _)),
      hSavable.unknown_written⟩

theorem SecretReference.WellFormed.check_dump {secret : SecretReference} (h : secret.WellFormed) :
    SecretReference.check (secret.dump .manifest) = .ok secret.withoutNulls := by
  have hSavable := h.isRecord.isSavable_of_words (by decide)
  have hJson := h.isJson_dump
  rw [dump, dumpRecord_manifest _ h.foreign.toIsJson] at hJson ⊢
  exact (check_eq_ok_iff (Value.isJson_map_iff.mp hJson)).mpr
    ⟨hSavable.nonemptyText_written (by decide) (.head _) h.name, hSavable.unknown_written⟩

theorem BuildSource.WellFormed.isSavable {source : BuildSource} (h : source.WellFormed)
    (hUnshadowed : source.Unshadowed) :
    IsSavable fields source.values source.extras := by
  refine ⟨h.isRecord, fun field hField v hValue hNull => ?_⟩
  simp only [fields, List.mem_cons, List.not_mem_nil, or_false] at hField
  rcases hField with rfl | rfl | rfl | rfl
  · exact h.foreign.silentOn_word (by decide) rfl
  · exact h.foreign.silentOn_word (by decide) rfl
  · obtain rfl : v = .optionalText source.contextDir := by
      simpa [values, contextDirField] using hValue
    exact hUnshadowed.contextDir (isNull_optionalText.mp hNull)
  · obtain rfl : v = dumpOptional (SecretReference.dump .manifest) source.sourceSecret := by
      simpa [values, sourceSecretField] using hValue
    exact hUnshadowed.sourceSecret (eq_none_of_isNull_dumpOptional (fun _ => rfl) hNull)

theorem BuildSource.WellFormed.check_dump {source : BuildSource} (h : source.WellFormed)
    (hUnshadowed : source.Unshadowed) :
    BuildSource.check (source.dump .manifest) = .ok source.withoutNulls := by
  have hSavable := h.isSavable hUnshadowed
  have hJson := h.isJson_dump
  rw [dump, dumpRecord_manifest _ h.foreign.toIsJson] at hJson ⊢
  exact (check_eq_ok_iff (Value.isJson_map_iff.mp hJson)).mpr
    ⟨hSavable.optionalText_written (by decide) (.head _),
      hSavable.optional_written (by decide) (.tail _ (.head _)) (fun _ => rfl)
        fun git hGit => (h.git git hGit).check_dump,
      hSavable.optionalText_written (by decide) (.tail _ (.tail _ (.head _))),
      hSavable.optional_written (by decide) (.tail _ (.tail _ (.tail _ (.head _)))) (fun _ => rfl)
        fun secret hSecret => (h.sourceSecret secret hSecret).check_dump,
      hSavable.unknown_written⟩

theorem PipelineStrategy.WellFormed.isSavable {strategy : PipelineStrategy}
    (h : strategy.WellFormed) (hUnshadowed : strategy.Unshadowed) :
    IsSavable fields strategy.values strategy.extras := by
  refine ⟨h.isRecord, fun field hField v hValue hNull => ?_⟩
  simp only [fields, List.mem_cons, List.not_mem_nil, or_false] at hField
  rcases hField with rfl | rfl
  · exact h.foreign.silentOn_word (by decide) rfl
  · obtain rfl : v = .optionalText strategy.scriptPath := by
      simpa [values, scriptPathField] using hValue
    exact hUnshadowed.scriptPath (isNull_optionalText.mp hNull)

theorem PipelineStrategy.WellFormed.check_dump {strategy : PipelineStrategy}
    (h : strategy.WellFormed) (hUnshadowed : strategy.Unshadowed) :
    PipelineStrategy.check (strategy.dump .manifest) = .ok strategy.withoutNulls := by
  have hSavable := h.isSavable hUnshadowed
  have hJson := h.isJson_dump
  rw [dump, dumpRecord_manifest _ h.foreign.toIsJson] at hJson ⊢
  exact (check_eq_ok_iff (Value.isJson_map_iff.mp hJson)).mpr
    ⟨hSavable.optionalText_written (by decide) (.head _),
      hSavable.optionalText_written (by decide) (.tail _ (.head _)),
      hSavable.unknown_written⟩

theorem BuildStrategy.WellFormed.isSavable {strategy : BuildStrategy} (h : strategy.WellFormed)
    (hUnshadowed : strategy.Unshadowed) :
    IsSavable fields strategy.values strategy.extras := by
  refine ⟨h.isRecord, fun field hField v hValue hNull => ?_⟩
  simp only [fields, List.mem_cons, List.not_mem_nil, or_false] at hField
  rcases hField with rfl | rfl
  · exact h.foreign.silentOn_word (by decide) rfl
  · obtain rfl : v = dumpOptional (PipelineStrategy.dump .manifest) strategy.pipeline := by
      simpa [values, pipelineField] using hValue
    exact hUnshadowed.absent (eq_none_of_isNull_dumpOptional (fun _ => rfl) hNull)

theorem BuildStrategy.WellFormed.check_dump {strategy : BuildStrategy} (h : strategy.WellFormed)
    (hUnshadowed : strategy.Unshadowed) :
    BuildStrategy.check (strategy.dump .manifest) = .ok strategy.withoutNulls := by
  have hSavable := h.isSavable hUnshadowed
  have hJson := h.isJson_dump
  rw [dump, dumpRecord_manifest _ h.foreign.toIsJson] at hJson ⊢
  exact (check_eq_ok_iff (Value.isJson_map_iff.mp hJson)).mpr
    ⟨hSavable.optionalText_written (by decide) (.head _),
      hSavable.optional_written (by decide) (.tail _ (.head _)) (fun _ => rfl)
        fun pipeline hPipeline =>
          (h.pipeline pipeline hPipeline).check_dump (hUnshadowed.pipeline pipeline hPipeline),
      hSavable.unknown_written⟩

theorem BuildSpec.WellFormed.check_dump {spec : BuildSpec} (h : spec.WellFormed)
    (hUnshadowed : spec.Unshadowed) :
    BuildSpec.check (spec.dump .manifest) = .ok spec.withoutNulls := by
  have hSavable := h.isRecord.isSavable_of_words (by decide)
  have hJson := h.isJson_dump
  rw [dump, dumpRecord_manifest _ h.foreign.toIsJson] at hJson ⊢
  exact (check_eq_ok_iff (Value.isJson_map_iff.mp hJson)).mpr
    ⟨hSavable.optional_written (by decide) (.head _) (fun _ => rfl) fun source hSource =>
        (h.source source hSource).check_dump (hUnshadowed.source source hSource),
      hSavable.optional_written (by decide) (.tail _ (.head _)) (fun _ => rfl)
        fun strategy hStrategy =>
          (h.strategy strategy hStrategy).check_dump (hUnshadowed.strategy strategy hStrategy),
      hSavable.unknown_written⟩

theorem ObjectMeta.WellFormed.check_dump {metadata : ObjectMeta} (h : metadata.WellFormed) :
    ObjectMeta.check (metadata.dump .manifest) = .ok metadata.withoutNulls := by
  have hSavable := h.isRecord.isSavable_of_words (by decide)
  have hJson := h.isJson_dump
  rw [dump, dumpRecord_manifest _ h.foreign.toIsJson] at hJson ⊢
  exact (check_eq_ok_iff (Value.isJson_map_iff.mp hJson)).mpr
    ⟨hSavable.defaulted_written (by decide) (.head _) rfl rfl,
      hSavable.nonemptyText_written (by decide) (.tail _ (.head _)) h.name,
      hSavable.unknown_written⟩

namespace BuildConfig.WellFormed

variable {bc : BuildConfig} (h : bc.WellFormed)

include h

theorem isSavable : IsSavable fields bc.values bc.extras := by
  refine ⟨h.isRecord, fun field hField v hValue hNull => ?_⟩
  simp only [fields, List.mem_cons, List.not_mem_nil, or_false] at hField
  rcases hField with rfl | rfl | rfl | rfl
  · obtain rfl : v = .text bc.apiVersion := by simpa [values, apiVersionField] using hValue
    cases hNull
  · exact h.foreign.silentOn_word (by decide) rfl
  · exact h.foreign.silentOn_word (by decide) rfl
  · exact h.foreign.silentOn_word (by decide) rfl

theorem check_dump (hUnshadowed : bc.Unshadowed) :
    check (bc.dump .manifest) = .ok bc.withoutNulls := by
  have hSavable := h.isSavable
  have hJson := h.isJson_dump
  rw [dump, dumpRecord_manifest _ h.foreign.toIsJson] at hJson ⊢
  exact (check_eq_ok_iff (Value.isJson_map_iff.mp hJson)).mpr
    ⟨hSavable.defaulted_written (by decide) (.head _) rfl rfl,
      hSavable.defaulted_written (by decide) (.tail _ (.head _)) rfl rfl,
      hSavable.required_written (by decide) (.tail _ (.tail _ (.head _))) rfl
        h.metadata.check_dump,
      hSavable.optional_written (by decide) (.tail _ (.tail _ (.tail _ (.head _)))) (fun _ => rfl)
        fun spec hSpec => (h.spec spec hSpec).check_dump (hUnshadowed spec hSpec),
      hSavable.unknown_written⟩

end BuildConfig.WellFormed

/-- A BuildConfig that was read from a document is the same after it was saved and read again, but
for the null entries that it carried along. It can be saved unless something that it carries along
is nested too deep. -/
theorem check_manifest {doc : Value} {bc : BuildConfig} (hJson : doc.IsJson)
    (hCheck : BuildConfig.check doc = .ok bc) (hUnshadowed : bc.Unshadowed) :
    (bc.Shallow → ∃ v, bc.manifest = .ok v ∧ BuildConfig.check v = .ok bc.withoutNulls) ∧
      (¬bc.Shallow → bc.manifest = .error .tooDeep) := by
  have hWellFormed := BuildConfig.ensures_wellFormed doc bc hJson hCheck
  rw [hWellFormed.manifest_eq]
  constructor
  · intro hShallow
    rw [if_pos hShallow]
    exact ⟨_, rfl, hWellFormed.check_dump hUnshadowed⟩
  · intro hDeep
    rw [if_neg hDeep]

/-- The spelling of a field that has a value is free. -/
theorem check_manifest_free_spelling :
    let doc : Value := .object
      [("metadata", .object [("name", .text "app"), ("labels", .object [("tier", .null)])]),
        ("spec", .object [("source",
          .object [("contextDir", .text "src"), ("context_dir", .text "old"), ("git", .null)])]),
        ("status", .null)]
    ∃ bc v, BuildConfig.check doc = .ok bc ∧ bc.manifest = .ok v ∧
      BuildConfig.check v = .ok bc.withoutNulls := by
  intro doc
  have hJson : doc.IsJson := by simp [doc]
  obtain ⟨bc, hCheck, hShallow, hUnshadowed⟩ :
      ∃ bc, BuildConfig.check doc = .ok bc ∧ bc.Shallow ∧ bc.Unshadowed := by
    refine ⟨_, rfl, by decide +kernel, ?_⟩
    rintro spec ⟨⟩
    refine ⟨?_, nofun⟩
    rintro source ⟨⟩
    exact ⟨nofun, fun _ => rfl⟩
  obtain ⟨v, hManifest, hAgain⟩ := (check_manifest hJson hCheck hUnshadowed).1 hShallow
  exact ⟨bc, v, hCheck, hManifest, hAgain⟩

/-- A null field is read from what was carried along under its snake spelling, and a value that is
nested too deep cannot be saved. -/
theorem check_manifest_shadowed :
    (let doc : Value := .object
      [("metadata", .object [("name", .text "app")]),
        ("spec", .object [("source",
          .object [("contextDir", .null), ("context_dir", .text "b")])])]
    ∃ bc v again, doc.IsJson ∧ BuildConfig.check doc = .ok bc ∧ bc.manifest = .ok v ∧
      BuildConfig.check v = .ok again ∧ bc.source.bind BuildSource.contextDir = none ∧
      again.source.bind BuildSource.contextDir = some "b") ∧
    ∃ doc bc, Value.IsJson doc ∧ BuildConfig.check doc = .ok bc ∧
      bc.manifest = .error .tooDeep := by
  refine ⟨⟨_, _, _, by simp, rfl, rfl, rfl, rfl, rfl⟩, ?_⟩
  have hNested := Value.isJson_nested 300
  refine ⟨_, _, BuildConfig.isJson_carrierDocument hNested,
    BuildConfig.check_carrierDocument hNested, ?_⟩
  exact BuildConfig.manifest_carrier_of_deep hNested (by rw [Value.levels_nested]; decide)

end BuildSync
