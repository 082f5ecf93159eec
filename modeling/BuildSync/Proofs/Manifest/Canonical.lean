import BuildSync.Proofs.Document.Faithful
import BuildSync.Proofs.Manifest.WellFormed

/-!
# Canonical manifests

The manifest of a BuildConfig that is read from a document is the canonical form of that document:
fields in camel case, no null in a block, defaults filled in, and everything that is carried along
as it was.
-/

set_option autoImplicit false

namespace BuildSync

namespace GitSource

def parts : List Part := [.plain uriField, .plain refField]

def canonical : Value → Value := Value.canonical parts

theorem isJson_canonical : ∀ v : Value, v.IsJson → (canonical v).IsJson :=
  Value.isJson_canonical (by decide) (by simp [parts])

theorem faithful : Faithful check (dump .manifest) canonical :=
  faithful_record (by decide) fun _ _ hR h => by
    obtain ⟨hUri, hRef, hExtras⟩ := (check_eq_ok_iff hR).mp h
    exact ⟨.cons ⟨rfl, rel_optionalText hR hUri⟩ (.cons ⟨rfl, rel_optionalText hR hRef⟩ .nil),
      hExtras⟩

end GitSource

namespace SecretReference

def parts : List Part := [.plain nameField]

def canonical : Value → Value := Value.canonical parts

theorem isJson_canonical : ∀ v : Value, v.IsJson → (canonical v).IsJson :=
  Value.isJson_canonical (by decide) (by simp [parts])

theorem faithful : Faithful check (dump .manifest) canonical :=
  faithful_record (by decide) fun _ _ hR h => by
    obtain ⟨hName, hExtras⟩ := (check_eq_ok_iff hR).mp h
    exact ⟨.cons ⟨rfl, faithful_checkNonemptyText.rel_required hR hName⟩ .nil, hExtras⟩

end SecretReference

namespace BuildSource

def parts : List Part :=
  [.plain typeField, .block gitField GitSource.canonical, .plain contextDirField,
    .block sourceSecretField SecretReference.canonical]

def canonical : Value → Value := Value.canonical parts

theorem isJson_canonical : ∀ v : Value, v.IsJson → (canonical v).IsJson :=
  Value.isJson_canonical (by decide)
    (by simp [parts, Part.KeepsJson.block _ GitSource.isJson_canonical,
      Part.KeepsJson.block _ SecretReference.isJson_canonical])

theorem faithful : Faithful check (dump .manifest) canonical :=
  faithful_record (by decide) fun _ _ hR h => by
    obtain ⟨hType, hGit, hContextDir, hSecret, hExtras⟩ := (check_eq_ok_iff hR).mp h
    exact ⟨.cons ⟨rfl, rel_optionalText hR hType⟩
      (.cons ⟨rfl, GitSource.faithful.rel_optional hR hGit⟩
        (.cons ⟨rfl, rel_optionalText hR hContextDir⟩
          (.cons ⟨rfl, SecretReference.faithful.rel_optional hR hSecret⟩ .nil))), hExtras⟩

end BuildSource

namespace PipelineStrategy

def parts : List Part := [.plain scriptField, .plain scriptPathField]

def canonical : Value → Value := Value.canonical parts

theorem isJson_canonical : ∀ v : Value, v.IsJson → (canonical v).IsJson :=
  Value.isJson_canonical (by decide) (by simp [parts])

theorem faithful : Faithful check (dump .manifest) canonical :=
  faithful_record (by decide) fun _ _ hR h => by
    obtain ⟨hScript, hScriptPath, hExtras⟩ := (check_eq_ok_iff hR).mp h
    exact ⟨.cons ⟨rfl, rel_optionalText hR hScript⟩
      (.cons ⟨rfl, rel_optionalText hR hScriptPath⟩ .nil), hExtras⟩

end PipelineStrategy

namespace BuildStrategy

def parts : List Part := [.plain typeField, .block pipelineField PipelineStrategy.canonical]

def canonical : Value → Value := Value.canonical parts

theorem isJson_canonical : ∀ v : Value, v.IsJson → (canonical v).IsJson :=
  Value.isJson_canonical (by decide)
    (by simp [parts, Part.KeepsJson.block _ PipelineStrategy.isJson_canonical])

theorem faithful : Faithful check (dump .manifest) canonical :=
  faithful_record (by decide) fun _ _ hR h => by
    obtain ⟨hType, hPipeline, hExtras⟩ := (check_eq_ok_iff hR).mp h
    exact ⟨.cons ⟨rfl, rel_optionalText hR hType⟩
      (.cons ⟨rfl, PipelineStrategy.faithful.rel_optional hR hPipeline⟩ .nil), hExtras⟩

end BuildStrategy

namespace BuildSpec

def parts : List Part :=
  [.block sourceField BuildSource.canonical, .block strategyField BuildStrategy.canonical]

def canonical : Value → Value := Value.canonical parts

theorem isJson_canonical : ∀ v : Value, v.IsJson → (canonical v).IsJson :=
  Value.isJson_canonical (by decide)
    (by simp [parts, Part.KeepsJson.block _ BuildSource.isJson_canonical,
      Part.KeepsJson.block _ BuildStrategy.isJson_canonical])

theorem faithful : Faithful check (dump .manifest) canonical :=
  faithful_record (by decide) fun _ _ hR h => by
    obtain ⟨hSource, hStrategy, hExtras⟩ := (check_eq_ok_iff hR).mp h
    exact ⟨.cons ⟨rfl, BuildSource.faithful.rel_optional hR hSource⟩
      (.cons ⟨rfl, BuildStrategy.faithful.rel_optional hR hStrategy⟩ .nil), hExtras⟩

end BuildSpec

namespace ObjectMeta

def parts : List Part := [.defaulted spaceField "", .plain nameField]

def canonical : Value → Value := Value.canonical parts

theorem isJson_canonical : ∀ v : Value, v.IsJson → (canonical v).IsJson :=
  Value.isJson_canonical (by decide) (by simp [parts])

theorem faithful : Faithful check (dump .manifest) canonical :=
  faithful_record (by decide) fun _ _ hR h => by
    obtain ⟨hSpace, hName, hExtras⟩ := (check_eq_ok_iff hR).mp h
    exact ⟨.cons ⟨rfl, rel_defaulted hR hSpace⟩
      (.cons ⟨rfl, faithful_checkNonemptyText.rel_required hR hName⟩ .nil), hExtras⟩

end ObjectMeta

namespace BuildConfig

def parts : List Part :=
  [.defaulted apiVersionField defaultApiVersion, .defaulted kindField model,
    .block metadataField ObjectMeta.canonical, .block specField BuildSpec.canonical]

def canonical : Value → Value := Value.canonical parts

theorem isJson_canonical : ∀ v : Value, v.IsJson → (canonical v).IsJson :=
  Value.isJson_canonical (by decide)
    (by simp [parts, Part.KeepsJson.block _ ObjectMeta.isJson_canonical,
      Part.KeepsJson.block _ BuildSpec.isJson_canonical])

theorem faithful : Faithful check (dump .manifest) canonical :=
  faithful_record (by decide) fun _ _ hR h => by
    obtain ⟨hApiVersion, hKind, hMetadata, hSpec, hExtras⟩ := (check_eq_ok_iff hR).mp h
    exact ⟨.cons ⟨rfl, rel_defaulted hR hApiVersion⟩
      (.cons ⟨rfl, rel_defaulted hR hKind⟩
        (.cons ⟨rfl, ObjectMeta.faithful.rel_required hR hMetadata⟩
          (.cons ⟨rfl, BuildSpec.faithful.rel_optional hR hSpec⟩ .nil))), hExtras⟩

end BuildConfig

/-- The manifest of what was read from a document is the document in canonical form. There is one
unless something that is carried along is nested too deep. -/
theorem manifest_of_document {doc : Value} {bc : BuildConfig} (hJson : doc.IsJson)
    (hCheck : BuildConfig.check doc = .ok bc) :
    (BuildConfig.canonical doc).IsJson ∧
      (bc.Shallow →
        ∃ v, bc.manifest = .ok v ∧ v.IsJson ∧ v.SameJson (BuildConfig.canonical doc)) ∧
      (¬bc.Shallow → bc.manifest = .error .tooDeep) := by
  have hWellFormed := BuildConfig.ensures_wellFormed doc bc hJson hCheck
  rw [hWellFormed.manifest_eq]
  refine ⟨BuildConfig.isJson_canonical doc hJson, ?_, ?_⟩
  · intro hShallow
    rw [if_pos hShallow]
    exact ⟨_, rfl, hWellFormed.isJson_dump, BuildConfig.faithful.sameJson doc bc hJson hCheck⟩
  · intro hDeep
    rw [if_neg hDeep]

theorem manifest_of_document_snake :
    let doc : Value := .object
      [("metadata", .object [("name", .text "app"), ("labels", .object [("tier", .null)])]),
        ("spec", .object [("source", .object [("context_dir", .text "src"), ("git", .null)])]),
        ("status", .null)]
    let manifest : Value := .object
      [("metadata", .object
          [("name", .text "app"), ("labels", .object [("tier", .null)]), ("namespace", .text "")]),
        ("spec", .object [("source", .object [("contextDir", .text "src")])]),
        ("apiVersion", .text "build.openshift.io/v1"), ("kind", .text "BuildConfig")]
    ∃ bc v, BuildConfig.check doc = .ok bc ∧ bc.manifest = .ok v ∧ v.SameJson manifest := by
  intro doc manifest
  have hJson : doc.IsJson := by simp [doc]
  obtain ⟨bc, hCheck, hShallow⟩ : ∃ bc, BuildConfig.check doc = .ok bc ∧ bc.Shallow :=
    ⟨_, rfl, by decide +kernel⟩
  have hCanonical : BuildConfig.canonical doc = manifest := rfl
  obtain ⟨v, hManifest, _, hSame⟩ := (manifest_of_document hJson hCheck).2.1 hShallow
  exact ⟨bc, v, hCheck, hManifest, hCanonical ▸ hSame⟩

theorem manifest_of_deep_document :
    ∃ doc bc, Value.IsJson doc ∧ BuildConfig.check doc = .ok bc ∧
      ¬∃ v, bc.manifest = .ok v ∧ v.SameJson (BuildConfig.canonical doc) := by
  have hNested := Value.isJson_nested 300
  refine ⟨_, _, BuildConfig.isJson_carrierDocument hNested,
    BuildConfig.check_carrierDocument hNested, ?_⟩
  rw [BuildConfig.manifest_carrier_of_deep hNested (by rw [Value.levels_nested]; decide)]
  exact nofun

end BuildSync
