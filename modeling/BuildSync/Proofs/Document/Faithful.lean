import BuildSync.Proofs.Document.Canonical

/-!
# Faithful dumps

A manifest dump holds the same as the canonical form of the document that was read, in an order of
its own: each field is written as what the document gives for it.
-/

set_option autoImplicit false

namespace BuildSync

namespace Entries

variable {entries : Entries} {parts : List Part} {part : Part}

/-- What is written for the fields of a record is what the canonical record has for them. -/
def Agree (entries : Entries) : List Part → List (String × Value) → Prop :=
  List.Forall₂ fun part f => f.1 = part.field.camel ∧
    Option.Rel Value.SameJson f.2.given? (entries.canonicalValue? part)

theorem Agree.names {values : List (String × Value)} (h : entries.Agree parts values) :
    values.map Prod.fst = (parts.map Part.field).map Spelling.camel := by
  induction h with
  | nil => rfl
  | cons hHead _ ih => simp [hHead.1, ih]

theorem Agree.exists_value {values : List (String × Value)} (h : entries.Agree parts values)
    (hPart : part ∈ parts) :
    ∃ v, (part.field.camel, v) ∈ values ∧
      Option.Rel Value.SameJson v.given? (entries.canonicalValue? part) := by
  obtain ⟨i, hi, rfl⟩ := List.mem_iff_getElem.mp hPart
  have hi' : i < values.length := h.length_eq ▸ hi
  obtain ⟨hName, hSame⟩ := h.get hi hi'
  refine ⟨values[i].2, ?_, hSame⟩
  rw [← show values[i].1 = parts[i].field.camel from hName]
  exact List.getElem_mem hi'

theorem IsJson.sameJson_dumpRecord {values : List (String × Value)} (h : entries.IsJson)
    (hApart : (parts.map Part.field).Pairwise Spelling.Apart)
    (hAgree : entries.Agree parts values) :
    (dumpRecord .manifest values (entries.unknown (parts.map Part.field))).SameJson
      (.map (entries.canonical parts)) := by
  have hForeign := h.unknown (parts.map Part.field)
  have hRecord : IsRecord (parts.map Part.field) values (entries.unknown (parts.map Part.field)) :=
    ⟨hAgree.names, hApart, hForeign⟩
  rw [dumpRecord_manifest values hForeign.toIsJson]
  refine .map fun key => ?_
  by_cases hField : ∃ part ∈ parts, key = .text part.field.camel
  · obtain ⟨part, hPart, rfl⟩ := hField
    obtain ⟨v, hValue, hSame⟩ := hAgree.exists_value hPart
    rw [get?_canonical hApart h.nodup hPart, hRecord.get?_written_of_mem hValue]
    exact hSame
  · have hKey : ∀ part ∈ parts, key ≠ .text part.field.camel :=
      fun part hPart hKey => hField ⟨part, hPart, hKey⟩
    rw [get?_canonical_of_ne h.nodup hKey, hRecord.get?_written_of_ne]
    · refine Value.rel_sameJson_self fun v hv => ?_
      obtain ⟨w, hGet, hGiven⟩ := Option.bind_eq_some_iff.mp hv
      rw [← (Value.given?_eq_some_iff.mp hGiven).1]
      exact (hForeign.get? hGet).sameJson_self
    · intro field hMem
      obtain ⟨part, hPart, rfl⟩ := List.mem_map.mp hMem
      exact hKey part hPart

end Entries

/-! ### Faithful readers -/

/-- What is read from a JSON value is written in its canonical form, and never as null. -/
structure Faithful {α : Type} (check : Value → Checked α) (dump : α → Value)
    (inner : Value → Value) : Prop where
  refusesNull : ∀ a, check .null ≠ .ok a
  writesSome : ∀ a, (dump a).isNull = false
  sameJson : ∀ v a, v.IsJson → check v = .ok a → (dump a).SameJson (inner v)

/-- A record is written in canonical form if each of its fields is. -/
theorem faithful_record {α : Type} {model : String} {read : Entries → Checked α}
    {values : α → List (String × Value)} {extras : α → Entries} {parts : List Part}
    (hApart : (parts.map Part.field).Pairwise Spelling.Apart)
    (hRead : ∀ (r : Entries) a, r.IsJson → Value.record model read (.map r) = .ok a →
      r.Agree parts (values a) ∧ r.unknown (parts.map Part.field) = extras a) :
    Faithful (Value.record model read) (fun a => dumpRecord .manifest (values a) (extras a))
      (Value.canonical parts) where
  refusesNull := nofun
  writesSome _ := rfl
  sameJson v a hJson h := by
    obtain ⟨r, rfl, hR⟩ := Value.exists_map_of_record hJson h
    obtain ⟨hAgree, hExtras⟩ := hRead r a hR h
    rw [← hExtras]
    exact hR.sameJson_dumpRecord hApart hAgree

theorem faithful_checkText : Faithful Value.checkText Value.text id where
  refusesNull := nofun
  writesSome _ := rfl
  sameJson v s h hCheck := by
    rw [(Value.checkText_eq_ok_iff h).mp hCheck]
    exact .scalar _

theorem faithful_checkNonemptyText : Faithful Value.checkNonemptyText Value.text id where
  refusesNull := nofun
  writesSome _ := rfl
  sameJson v s h hCheck := by
    rw [((Value.checkNonemptyText_eq_ok_iff h).mp hCheck).1]
    exact .scalar _

namespace Faithful

variable {α : Type} {check : Value → Checked α} {dump : α → Value} {inner : Value → Value}
  {entries : Entries} {field : Spelling} (h : Faithful check dump inner)

include h

theorem given?_dump (a : α) : (dump a).given? = some (dump a) :=
  Value.given?_eq_some_iff.mpr ⟨rfl, h.writesSome a⟩

theorem given?_of_check {v : Value} {a : α} (hCheck : check v = .ok a) : v.given? = some v := by
  refine Value.given?_eq_some_iff.mpr ⟨rfl, Bool.eq_false_iff.mpr fun hNull => ?_⟩
  exact h.refusesNull a (Value.isNull_iff.mp hNull ▸ hCheck)

theorem rel_optional (hJson : entries.IsJson) {a : Option α}
    (hRead : entries.optional field check = .ok a) :
    Option.Rel Value.SameJson (dumpOptional dump a).given?
      (entries.canonicalValue? (.block field inner)) := by
  rw [Entries.canonicalValue?_block]
  obtain ⟨hGiven, rfl⟩ | ⟨v, x, hGiven, hCheck, rfl⟩ := Entries.optional_eq_ok_iff.mp hRead
  · rw [hGiven]
    exact .none
  · rw [hGiven, dumpOptional, h.given?_dump]
    exact .some (h.sameJson v x (hJson.given? hGiven) hCheck)

theorem rel_required (hJson : entries.IsJson) {a : α}
    (hRead : entries.required field check = .ok a) :
    Option.Rel Value.SameJson (dump a).given? (entries.canonicalValue? (.block field inner)) := by
  obtain ⟨v, hValue, hCheck⟩ := Entries.required_eq_ok_iff.mp hRead
  rw [Entries.canonicalValue?_block, hValue, Option.bind_some, h.given?_dump,
    h.given?_of_check hCheck]
  exact .some (h.sameJson v a (hJson.value? hValue) hCheck)

end Faithful

section Texts

variable {entries : Entries} (hJson : entries.IsJson) {field : Spelling}

include hJson

theorem rel_optionalText {a : Option String}
    (hRead : entries.optional field Value.checkText = .ok a) :
    Option.Rel Value.SameJson (Value.optionalText a).given?
      (entries.canonicalValue? (.plain field)) := by
  have hText : Value.optionalText a = dumpOptional Value.text a := by cases a <;> rfl
  rw [hText]
  exact faithful_checkText.rel_optional hJson hRead

theorem rel_defaulted {default s : String}
    (hRead : entries.defaulted field default Value.checkText = .ok s) :
    Option.Rel Value.SameJson (Value.text s).given?
      (entries.canonicalValue? (.defaulted field default)) := by
  unfold Entries.canonicalValue? Part.defaulted
  obtain ⟨hValue, rfl⟩ | ⟨v, hValue, hCheck⟩ := Entries.defaulted_eq_ok_iff.mp hRead
  · rw [hValue]
    exact .some (.scalar _)
  · rw [hValue]
    cases (Value.checkText_eq_ok_iff (hJson.value? hValue)).mp hCheck
    exact .some (.scalar _)

end Texts

end BuildSync
