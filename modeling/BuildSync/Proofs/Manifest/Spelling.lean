import BuildSync.Proofs.Manifest.Reload

/-!
# Documents that spell fields once

Where no object of a document has a field under both of its spellings, a BuildConfig that is read
from the document carries along no spelling of a field.
-/

set_option autoImplicit false

namespace BuildSync

/-- No object of the value holds both spellings of one of the fields. -/
inductive Value.SpellsOnce (fields : List Spelling) : Value → Prop
  | scalar (s : Scalar) : SpellsOnce fields (.scalar s)
  | list {items : List Value} (hItems : ∀ v ∈ items, SpellsOnce fields v) :
    SpellsOnce fields (.list items)
  | map {entries : List (Key × Value)}
    (hKeys : ∀ field ∈ fields, field.camel ≠ field.snake →
      Entries.get? entries (.text field.camel) = none ∨
        Entries.get? entries (.text field.snake) = none)
    (hValues : ∀ e ∈ entries, SpellsOnce fields e.2) : SpellsOnce fields (.map entries)

/-- The fields of all blocks. -/
def BuildConfig.allFields : List Spelling :=
  GitSource.fields ++ SecretReference.fields ++ BuildSource.fields ++ PipelineStrategy.fields ++
    BuildStrategy.fields ++ BuildSpec.fields ++ ObjectMeta.fields ++ BuildConfig.fields

/-- All that a check reads from JSON values that spell each field once has the property. -/
def EnsuresOnce {α : Type} (check : Value → Checked α) (P : α → Prop) : Prop :=
  ∀ v a, v.IsJson → v.SpellsOnce BuildConfig.allFields → check v = .ok a → P a

namespace Entries

variable {entries : Entries} {fields : List Spelling} {field : Spelling}

theorem silentOn_unknown (hField : field ∈ fields)
    (hOnce : entries.get? (.text field.camel) = none ∨ entries.get? (.text field.snake) = none) :
    (entries.unknown fields).SilentOn field := by
  have hNone : (entries.unknown fields).get? (.text field.snake) = none := by
    rw [get?_unknown]
    split
    · rfl
    · rename_i hUnknown
      rcases hOnce with hCamel | hSnake
      · -- without the camel spelling the snake spelling gives the field
        have hHas : entries.has (.text field.camel) = false := by rw [← isSome_get?, hCamel]; rfl
        exact absurd (List.any_eq_true.mpr ⟨field, hField, by simp [gives, hHas]⟩) hUnknown
      · exact hSnake
  rw [SilentOn, hNone, Option.bind_none]

section

variable (hOnce : (Value.map entries).SpellsOnce BuildConfig.allFields)

include hOnce

theorem silentOn_of_spellsOnce {extras : Entries} (hExtras : entries.unknown fields = extras)
    (field : Spelling) (hField : field ∈ fields) (hAll : field ∈ BuildConfig.allFields)
    (hTwo : field.camel ≠ field.snake) : extras.SilentOn field := by
  subst hExtras
  cases hOnce with
  | map hKeys _ => exact silentOn_unknown hField (hKeys field hAll hTwo)

theorem spellsOnce_of_value? {v : Value} (hValue : entries.value? field = some v) :
    v.SpellsOnce BuildConfig.allFields := by
  obtain ⟨⟨name, _⟩, hField, rfl⟩ := Option.map_eq_some_iff.mp hValue
  cases hOnce with
  | map _ hValues => exact hValues _ (mem_of_get? (field?_eq_some_iff.mp hField).2)

end

theorem IsJson.ensuredOnce_of_optional {α : Type} {check : Value → Checked α} {P : α → Prop}
    (hJson : entries.IsJson) (hOnce : (Value.map entries).SpellsOnce BuildConfig.allFields)
    (hCheck : EnsuresOnce check P) {a : Option α} (hRead : entries.optional field check = .ok a) :
    ∀ x ∈ a, P x := by
  obtain ⟨_, rfl⟩ | ⟨v, x, hGiven, hInner, rfl⟩ := optional_eq_ok_iff.mp hRead
  · exact nofun
  · rintro y ⟨⟩
    obtain ⟨w, hValue, hSome⟩ := Option.bind_eq_some_iff.mp hGiven
    obtain rfl := (Value.given?_eq_some_iff.mp hSome).1
    exact hCheck w x (hJson.value? hValue) (spellsOnce_of_value? hOnce hValue) hInner

end Entries

/-! ### What is read is unshadowed -/

theorem BuildSource.ensures_unshadowed : EnsuresOnce check Unshadowed := by
  intro v source hJson hOnce h
  obtain ⟨r, rfl, hR⟩ := Value.exists_map_of_record hJson h
  obtain ⟨_, _, _, _, hExtras⟩ := (check_eq_ok_iff hR).mp h
  have hSilent := Entries.silentOn_of_spellsOnce hOnce hExtras
  exact ⟨fun _ => hSilent contextDirField (by decide) (by decide) (by decide),
    fun _ => hSilent sourceSecretField (by decide) (by decide) (by decide)⟩

theorem PipelineStrategy.ensures_unshadowed : EnsuresOnce check Unshadowed := by
  intro v strategy hJson hOnce h
  obtain ⟨r, rfl, hR⟩ := Value.exists_map_of_record hJson h
  obtain ⟨_, _, hExtras⟩ := (check_eq_ok_iff hR).mp h
  have hSilent := Entries.silentOn_of_spellsOnce hOnce hExtras
  exact ⟨fun _ => hSilent scriptPathField (by decide) (by decide) (by decide)⟩

theorem BuildStrategy.ensures_unshadowed : EnsuresOnce check Unshadowed := by
  intro v strategy hJson hOnce h
  obtain ⟨r, rfl, hR⟩ := Value.exists_map_of_record hJson h
  obtain ⟨_, hPipeline, hExtras⟩ := (check_eq_ok_iff hR).mp h
  have hSilent := Entries.silentOn_of_spellsOnce hOnce hExtras
  exact ⟨fun _ => hSilent pipelineField (by decide) (by decide) (by decide),
    hR.ensuredOnce_of_optional hOnce PipelineStrategy.ensures_unshadowed hPipeline⟩

theorem BuildSpec.ensures_unshadowed : EnsuresOnce check Unshadowed := by
  intro v spec hJson hOnce h
  obtain ⟨r, rfl, hR⟩ := Value.exists_map_of_record hJson h
  obtain ⟨hSource, hStrategy, _⟩ := (check_eq_ok_iff hR).mp h
  exact ⟨hR.ensuredOnce_of_optional hOnce BuildSource.ensures_unshadowed hSource,
    hR.ensuredOnce_of_optional hOnce BuildStrategy.ensures_unshadowed hStrategy⟩

theorem BuildConfig.ensures_unshadowed : EnsuresOnce check Unshadowed := by
  intro v bc hJson hOnce h
  obtain ⟨r, rfl, hR⟩ := Value.exists_map_of_record hJson h
  obtain ⟨_, _, _, hSpec, _⟩ := (check_eq_ok_iff hR).mp h
  exact hR.ensuredOnce_of_optional hOnce BuildSpec.ensures_unshadowed hSpec

end BuildSync
