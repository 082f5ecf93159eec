import BuildSync.Manifest.Check
import BuildSync.Proofs.Document.RespelledReading

/-!
# BuildConfigs in another spelling

Reading a BuildConfig ignores how its blocks spell their fields.
-/

set_option autoImplicit false

namespace BuildSync

open Respelling (record plain ignoredBy_plain ignoredBy_record)

namespace GitSource

def layout : Layout := ⟨[(uriField, plain), (refField, plain)], by decide, by decide⟩

theorem ignores_spelling : (record layout).IgnoredBy check := ignoredBy_record fun h => by
  simp only [Checked.relocate_seq, Checked.relocate_map]
  rw [← h.optional_eq (.head _) (ignoredBy_plain _),
    ← h.optional_eq (.tail _ (.head _)) (ignoredBy_plain _),
    show fields = layout.fields from rfl, ← h.extras_eq]

end GitSource

namespace SecretReference

def layout : Layout := ⟨[(nameField, plain)], by decide, by decide⟩

theorem ignores_spelling : (record layout).IgnoredBy check := ignoredBy_record fun h => by
  simp only [Checked.relocate_seq, Checked.relocate_map]
  rw [← h.required_eq (.head _) (ignoredBy_plain _),
    show fields = layout.fields from rfl, ← h.extras_eq]

end SecretReference

namespace BuildSource

def layout : Layout :=
  ⟨[(typeField, plain), (gitField, record GitSource.layout), (contextDirField, plain),
    (sourceSecretField, record SecretReference.layout)], by decide, by decide⟩

theorem ignores_spelling : (record layout).IgnoredBy check := ignoredBy_record fun h => by
  simp only [Checked.relocate_seq, Checked.relocate_map]
  rw [← h.optional_eq (.head _) (ignoredBy_plain _),
    ← h.optional_eq (.tail _ (.head _)) GitSource.ignores_spelling,
    ← h.optional_eq (.tail _ (.tail _ (.head _))) (ignoredBy_plain _),
    ← h.optional_eq (.tail _ (.tail _ (.tail _ (.head _)))) SecretReference.ignores_spelling,
    show fields = layout.fields from rfl, ← h.extras_eq]

end BuildSource

namespace PipelineStrategy

def layout : Layout := ⟨[(scriptField, plain), (scriptPathField, plain)], by decide, by decide⟩

theorem ignores_spelling : (record layout).IgnoredBy check := ignoredBy_record fun h => by
  simp only [Checked.relocate_seq, Checked.relocate_map]
  rw [← h.optional_eq (.head _) (ignoredBy_plain _),
    ← h.optional_eq (.tail _ (.head _)) (ignoredBy_plain _),
    show fields = layout.fields from rfl, ← h.extras_eq]

end PipelineStrategy

namespace BuildStrategy

def layout : Layout :=
  ⟨[(typeField, plain), (pipelineField, record PipelineStrategy.layout)], by decide, by decide⟩

theorem ignores_spelling : (record layout).IgnoredBy check := ignoredBy_record fun h => by
  simp only [Checked.relocate_seq, Checked.relocate_map]
  rw [← h.optional_eq (.head _) (ignoredBy_plain _),
    ← h.optional_eq (.tail _ (.head _)) PipelineStrategy.ignores_spelling,
    show fields = layout.fields from rfl, ← h.extras_eq]

end BuildStrategy

namespace BuildSpec

def layout : Layout :=
  ⟨[(sourceField, record BuildSource.layout), (strategyField, record BuildStrategy.layout)],
    by decide, by decide⟩

theorem ignores_spelling : (record layout).IgnoredBy check := ignoredBy_record fun h => by
  simp only [Checked.relocate_seq, Checked.relocate_map]
  rw [← h.optional_eq (.head _) BuildSource.ignores_spelling,
    ← h.optional_eq (.tail _ (.head _)) BuildStrategy.ignores_spelling,
    show fields = layout.fields from rfl, ← h.extras_eq]

end BuildSpec

namespace ObjectMeta

def layout : Layout := ⟨[(spaceField, plain), (nameField, plain)], by decide, by decide⟩

theorem ignores_spelling : (record layout).IgnoredBy check := ignoredBy_record fun h => by
  simp only [Checked.relocate_seq, Checked.relocate_map]
  rw [← h.defaulted_eq (.head _) (ignoredBy_plain _),
    ← h.required_eq (.tail _ (.head _)) (ignoredBy_plain _),
    show fields = layout.fields from rfl, ← h.extras_eq]

end ObjectMeta

namespace BuildConfig

def layout : Layout :=
  ⟨[(apiVersionField, plain), (kindField, plain), (metadataField, record ObjectMeta.layout),
    (specField, record BuildSpec.layout)], by decide, by decide⟩

theorem ignores_spelling : (record layout).IgnoredBy check := ignoredBy_record fun h => by
  simp only [Checked.relocate_seq, Checked.relocate_map]
  rw [← h.defaulted_eq (.head _) (ignoredBy_plain _),
    ← h.defaulted_eq (.tail _ (.head _)) (ignoredBy_plain _),
    ← h.required_eq (.tail _ (.tail _ (.head _))) ObjectMeta.ignores_spelling,
    ← h.optional_eq (.tail _ (.tail _ (.tail _ (.head _)))) BuildSpec.ignores_spelling,
    show fields = layout.fields from rfl, ← h.extras_eq]

/-- How a document may differ and still be read as the same BuildConfig. -/
def respelling : Respelling := record layout

end BuildConfig

end BuildSync
