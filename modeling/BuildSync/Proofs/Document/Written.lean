import BuildSync.Proofs.Document.Record
import Mathlib.Data.List.Pairwise

/-!
# Written records

A manifest dump of a record holds its fields under their camel spellings and what it carries along,
without what is null. Read again it gives the same, but for an entry carried along that the
spelling of a null field uncovers.
-/

set_option autoImplicit false

namespace BuildSync

/-- No spelling of the one is a spelling of the other. -/
def Spelling.Apart (a b : Spelling) : Prop :=
  a.camel ≠ b.camel ∧ a.camel ≠ b.snake ∧ a.snake ≠ b.camel ∧ a.snake ≠ b.snake

instance : DecidableRel Spelling.Apart := fun _ _ =>
  inferInstanceAs (Decidable (_ ∧ _ ∧ _ ∧ _))

instance : Std.Symm Spelling.Apart :=
  ⟨fun _ _ h => ⟨h.1.symm, h.2.2.1.symm, h.2.1.symm, h.2.2.2.symm⟩⟩

theorem Spelling.eq_or_apart {fields : List Spelling} (h : fields.Pairwise Spelling.Apart)
    {a b : Spelling} (ha : a ∈ fields) (hb : b ∈ fields) : a = b ∨ a.Apart b := by
  by_cases hab : a = b
  · exact Or.inl hab
  · exact Or.inr (h.forall ha hb hab)

/-- The entries of a manifest dump. -/
def written (values : List (String × Value)) (extras : Entries) : Entries :=
  Entries.given (values.map (fun f => (Key.text f.1, f.2)) ++ extras)

theorem dumpRecord_manifest (values : List (String × Value)) {extras : Entries}
    (h : extras.IsJson) : dumpRecord .manifest values extras = .map (written values extras) := by
  rw [dumpRecord, h.plainEntries_eq]
  rfl

@[simp]
theorem isJson_optionalText (s : Option String) : (Value.optionalText s).IsJson := by
  cases s <;> exact .scalar trivial

theorem isJson_dumpOptional {α : Type} {dump : α → Value} {a : Option α}
    (h : ∀ x ∈ a, (dump x).IsJson) : (dumpOptional dump a).IsJson := by
  cases a with
  | none => exact .scalar trivial
  | some x => exact h x rfl

/-- The values of all fields of a record, and what it carries along. -/
structure IsRecord (fields : List Spelling) (values : List (String × Value)) (extras : Entries) :
    Prop where
  names : values.map Prod.fst = fields.map Spelling.camel
  apart : fields.Pairwise Spelling.Apart
  foreign : extras.Foreign fields

namespace IsRecord

variable {fields : List Spelling} {values : List (String × Value)} {extras : Entries}
  (h : IsRecord fields values extras)

include h

theorem mem_names {name : String} {v : Value} (hValue : (name, v) ∈ values) :
    ∃ field ∈ fields, field.camel = name := by
  have hName : name ∈ values.map Prod.fst := List.mem_map_of_mem hValue
  rw [h.names] at hName
  exact List.mem_map.mp hName

theorem exists_value {field : Spelling} (hField : field ∈ fields) :
    ∃ v, (field.camel, v) ∈ values := by
  have hName : field.camel ∈ values.map Prod.fst := h.names ▸ List.mem_map_of_mem hField
  obtain ⟨⟨name, v⟩, hValue, rfl⟩ := List.mem_map.mp hName
  exact ⟨v, hValue⟩

theorem keys_values :
    Entries.keys (values.map fun f => (Key.text f.1, f.2)) =
      fields.map fun field => Key.text field.camel := by
  have hNames := congrArg (List.map Key.text) h.names
  simpa [Entries.keys, Function.comp_def] using hNames

theorem nodup_names : (fields.map fun field => Key.text field.camel).Nodup := by
  rw [List.Nodup, List.pairwise_map]
  exact h.apart.imp fun hApart hKey => hApart.1 (by injection hKey with hScalar; injection hScalar)

theorem nodup_keys :
    (Entries.keys (values.map (fun f => (Key.text f.1, f.2)) ++ extras)).Nodup := by
  rw [Entries.keys, List.map_append, List.nodup_append]
  have hKeys := h.keys_values
  rw [Entries.keys] at hKeys
  rw [hKeys]
  refine ⟨h.nodup_names, h.foreign.nodup, ?_⟩
  · rintro key hKey _ hExtra rfl
    obtain ⟨field, hField, rfl⟩ := List.mem_map.mp hKey
    exact h.foreign.camel field hField hExtra

theorem get?_written_of_mem {name : String} {v : Value} (hValue : (name, v) ∈ values) :
    (written values extras).get? (.text name) = v.given? := by
  have hMem : (Key.text name, v) ∈ values.map (fun f => (Key.text f.1, f.2)) ++ extras :=
    List.mem_append_left _ (List.mem_map_of_mem (f := fun f => (Key.text f.1, f.2)) hValue)
  rw [written, Entries.get?_given h.nodup_keys, Entries.get?_of_mem h.nodup_keys hMem,
    Option.bind_some]

theorem get?_written_of_ne {key : Key} (hKey : ∀ field ∈ fields, key ≠ .text field.camel) :
    (written values extras).get? key = (extras.get? key).bind Value.given? := by
  have hNone : Entries.get? (values.map fun f => (Key.text f.1, f.2)) key = none := by
    rw [Entries.get?_eq_none_iff, h.keys_values]
    rintro hName
    obtain ⟨field, hField, rfl⟩ := List.mem_map.mp hName
    exact hKey field hField rfl
  rw [written, Entries.get?_given h.nodup_keys, Entries.get?_append, hNone, Option.none_or]

theorem isJson_written (hValues : ∀ f ∈ values, f.2.IsJson) :
    (written values extras).IsJson := by
  have hAll : Entries.IsJson (values.map (fun f => (Key.text f.1, f.2)) ++ extras) := by
    refine ⟨⟨h.nodup_keys, ?_⟩, ?_⟩
    · intro key hKey
      rw [Entries.keys, List.map_append, List.mem_append] at hKey
      rcases hKey with hName | hExtra
      · obtain ⟨_, hEntry, rfl⟩ := List.mem_map.mp hName
        obtain ⟨f, _, rfl⟩ := List.mem_map.mp hEntry
        exact ⟨f.1, rfl⟩
      · exact h.foreign.text key hExtra
    · intro e he
      rcases List.mem_append.mp he with hValue | hExtra
      · obtain ⟨f, hf, rfl⟩ := List.mem_map.mp hValue
        exact hValues f hf
      · exact h.foreign.value e hExtra
  exact hAll.sublist List.filter_sublist

theorem isJson_dumpRecord (hValues : ∀ f ∈ values, f.2.IsJson) :
    (dumpRecord .manifest values extras).IsJson := by
  rw [dumpRecord_manifest values h.foreign.toIsJson, Value.isJson_map_iff]
  exact h.isJson_written hValues

end IsRecord

/-! ### Reading a written record -/

/-- A record whose null fields are not given by what it carries along. -/
structure IsSavable (fields : List Spelling) (values : List (String × Value)) (extras : Entries) :
    Prop extends IsRecord fields values extras where
  silent : ∀ field ∈ fields, ∀ v, (field.camel, v) ∈ values → v.isNull = true →
    extras.SilentOn field

/-- A record that carries nothing along can be saved. -/
theorem IsSavable.of_fields {fields : List Spelling} {values : List (String × Value)}
    (hNames : values.map Prod.fst = fields.map Spelling.camel)
    (hApart : fields.Pairwise Spelling.Apart) : IsSavable fields values [] :=
  ⟨⟨hNames, hApart, Entries.foreign_nil fields⟩, fun _ _ _ _ _ => rfl⟩

theorem dumpRecord_nil (values : List (String × Value)) :
    dumpRecord .manifest values [] = .map (written values []) :=
  dumpRecord_manifest values (Entries.foreign_nil []).toIsJson

theorem Entries.Foreign.silentOn_word {fields : List Spelling} {extras : Entries}
    (h : extras.Foreign fields) {field : Spelling} (hField : field ∈ fields)
    (hWord : field.snake = field.camel) : extras.SilentOn field := by
  have hNone : extras.get? (.text field.snake) = none :=
    Entries.get?_eq_none_iff.mpr (hWord ▸ h.camel field hField)
  rw [Entries.SilentOn, hNone, Option.bind_none]

/-- Fields with one spelling cannot be given by anything else. -/
theorem IsRecord.isSavable_of_words {fields : List Spelling} {values : List (String × Value)}
    {extras : Entries} (h : IsRecord fields values extras)
    (hWords : ∀ field ∈ fields, field.snake = field.camel) : IsSavable fields values extras :=
  ⟨h, fun field hField _ _ _ => h.foreign.silentOn_word hField (hWords field hField)⟩

namespace IsSavable

variable {fields : List Spelling} {values : List (String × Value)} {extras : Entries}
  (h : IsSavable fields values extras)

include h

/-- A field is read as it was written. -/
theorem field?_written {field : Spelling} (hField : field ∈ fields) {v : Value}
    (hValue : (field.camel, v) ∈ values) :
    (written values extras).field? field = v.given?.map fun v => (field.camel, v) := by
  have hCamel := h.get?_written_of_mem hValue
  cases hNull : v.isNull with
  | false =>
    have hGiven : v.given? = some v := by simp [Value.given?, hNull]
    rw [hGiven] at hCamel
    simp only [Entries.field?, hCamel, hGiven, Option.map_some]
  | true =>
    have hGiven : v.given? = none := by simp [Value.given?, hNull]
    rw [hGiven] at hCamel
    -- a null field is not written, so its snake spelling is looked up as well
    have hSnake : (written values extras).get? (.text field.snake) = none := by
      by_cases hWord : field.snake = field.camel
      · rw [hWord, hCamel]
      · rw [h.get?_written_of_ne]
        · exact h.silent field hField v hValue hNull
        · intro other hOther hKey
          have hName : field.snake = other.camel := by simpa using hKey
          rcases Spelling.eq_or_apart h.apart hField hOther with rfl | hApart
          · exact hWord hName
          · exact hApart.2.2.1 hName
    rw [hGiven, Entries.field?_eq_none_iff.mpr ⟨hCamel, hSnake⟩, Option.map_none]

theorem gives_written_of_extra {field : Spelling} (hField : field ∈ fields) {e : Key × Value}
    (he : e ∈ extras.given) :
    (written values extras).gives field e.1 = false := by
  obtain ⟨v, hValue⟩ := h.exists_value hField
  obtain ⟨hExtra, hGiven⟩ := List.mem_filter.mp he
  have hCamel : e.1 ≠ .text field.camel := by
    intro hKey
    exact h.foreign.camel field hField (hKey ▸ List.mem_map_of_mem hExtra)
  rw [Entries.gives, beq_false_of_ne hCamel, Bool.false_or, ← Entries.isSome_get?,
    h.get?_written_of_mem hValue]
  cases hNull : v.isNull with
  | false => simp [Value.given?, hNull]
  | true =>
    have hSnake : e.1 ≠ .text field.snake := by
      intro hKey
      have hGet := Entries.get?_of_mem h.foreign.nodup hExtra
      have hSays : (extras.get? (.text field.snake)).bind Value.given? = some e.2 := by
        rw [← hKey, hGet, Option.bind_some, Value.given?, if_neg (by simpa using hGiven)]
      rw [h.silent field hField v hValue hNull] at hSays
      cases hSays
    rw [beq_false_of_ne hSnake, Bool.false_and]

/-- What is carried along is read again, but for what is null. -/
theorem unknown_written : (written values extras).unknown fields = extras.given := by
  have hSplit : written values extras =
      Entries.given (values.map fun f => (Key.text f.1, f.2)) ++ extras.given :=
    List.filter_append _ _
  have hNoField : (Entries.given (values.map fun f => (Key.text f.1, f.2))).filter
      (fun e => !fields.any fun field => (written values extras).gives field e.1) = [] := by
    rw [List.filter_eq_nil_iff]
    intro e he
    obtain ⟨⟨name, v⟩, hValue, rfl⟩ := List.mem_map.mp (List.mem_filter.mp he).1
    obtain ⟨field, hField, rfl⟩ := h.mem_names hValue
    have hGives : (fields.any fun field' =>
        (written values extras).gives field' (.text field.camel)) = true :=
      List.any_eq_true.mpr ⟨field, hField, by simp [Entries.gives]⟩
    simp [hGives]
  have hExtras : extras.given.filter
      (fun e => !fields.any fun field => (written values extras).gives field e.1) =
        extras.given := by
    rw [List.filter_eq_self]
    intro e he
    have hNone : (fields.any fun field => (written values extras).gives field e.1) = false := by
      rw [List.any_eq_false]
      intro field hField
      rw [h.gives_written_of_extra hField he]
      exact Bool.false_ne_true
    rw [hNone]
    rfl
  calc (written values extras).unknown fields
      = (written values extras).filter
          (fun e => !fields.any fun field => (written values extras).gives field e.1) :=
        Entries.unknown_eq _ _
    _ = [] ++ extras.given := by
        conv_lhs => arg 2; rw [hSplit]
        rw [List.filter_append, hNoField, hExtras]
    _ = extras.given := List.nil_append _

end IsSavable

end BuildSync
