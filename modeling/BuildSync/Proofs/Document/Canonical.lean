import BuildSync.Proofs.Document.Reading

/-!
# Canonical documents

The canonical form of a record has its fields under their camel spellings and with their defaults,
and holds no null of its own. It is made from the document alone. What a record carries along stays
as it is. A manifest dump holds the same as the canonical form, in an order of its own.
-/

set_option autoImplicit false

namespace BuildSync

/-- The same scalars, lists with the same items, objects with the same under every key. -/
inductive Value.SameJson : Value → Value → Prop
  | scalar (s : Scalar) : SameJson (.scalar s) (.scalar s)
  | list {items others : List Value} (hItems : List.Forall₂ SameJson items others) :
    SameJson (.list items) (.list others)
  | map {entries others : List (Key × Value)}
    (hEntries : ∀ key,
      Option.Rel SameJson (Entries.get? entries key) (Entries.get? others key)) :
    SameJson (.map entries) (.map others)

theorem Value.rel_sameJson_self {o : Option Value} (h : ∀ v, o = some v → v.SameJson v) :
    Option.Rel SameJson o o := by
  cases o with
  | none => exact .none
  | some v => exact .some (h v rfl)

theorem Value.IsJson.sameJson_self {v : Value} (h : v.IsJson) : v.SameJson v := by
  induction h with
  | scalar => exact .scalar _
  | list _ ih => exact .list (List.forall₂_same.mpr ih)
  | map _ _ ih =>
    exact .map fun key => rel_sameJson_self fun v hGet => ih _ (Entries.mem_of_get? hGet)

/-- The order of keys does not matter. -/
theorem Entries.IsJson.sameJson_of_perm {entries others : Entries} (h : entries.IsJson)
    (hPerm : entries.Perm others) : (Value.map entries).SameJson (.map others) :=
  .map fun key => by
    rw [← Entries.get?_perm h.nodup hPerm key]
    exact Value.rel_sameJson_self fun v hGet => (h.get? hGet).sameJson_self

/-- A field in canonical records: how its value is rewritten, and what stands for it where a
document has none. -/
structure Part where
  field : Spelling
  inner : Value → Value
  default : Option Value

namespace Part

/-- A field with a text, which is rewritten to itself. -/
def plain (field : Spelling) : Part := ⟨field, id, none⟩

def block (field : Spelling) (inner : Value → Value) : Part := ⟨field, inner, none⟩

def defaulted (field : Spelling) (default : String) : Part := ⟨field, id, some (.text default)⟩

end Part

namespace Entries

variable (entries : Entries) (parts : List Part)

/-- The field that the entry under a key gives. -/
def partOf? (key : Key) : Option Part := parts.find? fun part => entries.gives part.field key

def rewrite (e : Key × Value) : Key × Value :=
  match entries.partOf? parts e.1 with
  | some part => (.text part.field.camel, part.inner e.2)
  | none => e

/-- The default of a field that is not there under either spelling. -/
def default? (part : Part) : Option (Key × Value) :=
  if entries.has (.text part.field.camel) || entries.has (.text part.field.snake) then none
  else part.default.map (Prod.mk (Key.text part.field.camel))

def canonical : Entries :=
  entries.given.map (entries.rewrite parts) ++ parts.filterMap entries.default?

/-- What stands for a field in the canonical record. -/
def canonicalValue? (part : Part) : Option Value :=
  match entries.value? part.field with
  | some v => v.given?.map part.inner
  | none => part.default

theorem default?_eq (part : Part) :
    entries.default? part =
      match entries.value? part.field with
      | some _ => none
      | none => part.default.map (Prod.mk (Key.text part.field.camel)) := by
  unfold default?
  rw [← isSome_get?, ← isSome_get?]
  cases hValue : entries.value? part.field with
  | none =>
    obtain ⟨hCamel, hSnake⟩ := field?_eq_none_iff.mp (Option.map_eq_none_iff.mp hValue)
    simp [hCamel, hSnake]
  | some v =>
    have hField : entries.field? part.field ≠ none := fun h => by simp [value?, h] at hValue
    refine if_pos (Bool.not_eq_false _ ▸ fun hAbsent => hField (field?_eq_none_iff.mpr ?_))
    simpa using hAbsent

theorem canonicalValue?_block (field : Spelling) (inner : Value → Value) :
    entries.canonicalValue? (.block field inner) =
      ((entries.value? field).bind Value.given?).map inner := by
  unfold canonicalValue? Part.block
  cases entries.value? field <;> rfl

end Entries

/-- Objects are rewritten; a value of another kind stays, as no record can be read from it. -/
def Value.canonical (parts : List Part) : Value → Value
  | .map entries => .map (Entries.canonical entries parts)
  | v => v

/-! ### The entries of a canonical record -/

instance : Std.Symm fun a b : Part => a.field.Apart b.field := ⟨fun _ _ => Std.Symm.symm _ _⟩

namespace Entries

variable {entries : Entries} {parts : List Part} {part : Part} {key : Key}

theorem not_gives_of_apart {a b : Spelling} (hApart : a.Apart b)
    (ha : entries.gives a key = true) : ¬entries.gives b key = true := by
  obtain ⟨hCamel, hCamelSnake, hSnakeCamel, hSnake⟩ := hApart
  simp only [gives, Bool.or_eq_true, Bool.and_eq_true, beq_iff_eq] at ha ⊢
  rcases ha with rfl | ⟨rfl, _⟩ <;> simp [*]

theorem mem_of_partOf? (h : entries.partOf? parts key = some part) :
    part ∈ parts ∧ entries.gives part.field key = true :=
  ⟨List.mem_of_find?_eq_some h,
    List.find?_some (p := fun part : Part => entries.gives part.field key) h⟩

theorem partOf?_eq_none_iff :
    entries.partOf? parts key = none ↔
      (parts.map Part.field).any (fun field => entries.gives field key) = false := by
  simp [partOf?]

section

variable (hApart : (parts.map Part.field).Pairwise Spelling.Apart)

include hApart

theorem apart_of_ne {a b : Part} (ha : a ∈ parts) (hb : b ∈ parts) (hNe : a ≠ b) :
    a.field.Apart b.field :=
  (List.pairwise_map.mp hApart).forall ha hb hNe

theorem partOf?_eq_some_iff (hPart : part ∈ parts) :
    entries.partOf? parts key = some part ↔ entries.gives part.field key = true := by
  refine ⟨fun h => (mem_of_partOf? h).2, fun hGives => ?_⟩
  cases hFound : entries.partOf? parts key with
  | none =>
    rw [partOf?_eq_none_iff, List.any_eq_false] at hFound
    exact absurd hGives (hFound _ (List.mem_map_of_mem hPart))
  | some other =>
    obtain ⟨hOther, hOtherGives⟩ := mem_of_partOf? hFound
    by_cases hSame : other = part
    · rw [hSame]
    · exact absurd hGives (not_gives_of_apart (apart_of_ne hApart hOther hPart hSame) hOtherGives)

/-- An entry gets the camel spelling of a field exactly where it gives the field. -/
theorem rewrite_key_iff (hPart : part ∈ parts) (e : Key × Value) :
    (entries.rewrite parts e).1 = .text part.field.camel ↔
      entries.gives part.field e.1 = true := by
  rw [← partOf?_eq_some_iff hApart hPart]
  unfold rewrite
  cases hFound : entries.partOf? parts e.1 with
  | none =>
    refine iff_of_false ?_ nofun
    intro hKey
    rw [partOf?_eq_none_iff, List.any_eq_false] at hFound
    exact hFound _ (List.mem_map_of_mem hPart) (by simp [gives, hKey])
  | some other =>
    rw [Option.some_inj]
    refine ⟨fun hKey => ?_, fun hSame => by rw [hSame]⟩
    have hCamel : other.field.camel = part.field.camel := by simpa using hKey
    by_contra hOther
    exact (apart_of_ne hApart (mem_of_partOf? hFound).1 hPart hOther).1 hCamel

/-- The value of a field stands under its camel spelling, if it is not null. -/
theorem get?_rewrite (hPart : part ∈ parts) (hNodup : entries.keys.Nodup) :
    Entries.get? (entries.given.map (entries.rewrite parts)) (.text part.field.camel) =
      ((entries.value? part.field).bind Value.given?).map part.inner := by
  unfold value?
  cases hField : entries.field? part.field with
  | none =>
    refine get?_map_eq_none fun e he hKey => ?_
    have hThere : e.1 ∈ entries.keys := List.mem_map_of_mem (List.mem_of_mem_filter he)
    have hGives := (rewrite_key_iff hApart hPart e).mp hKey
    obtain ⟨name, v, _, hFound⟩ := field?_of_gives hThere hGives
    cases hField.symm.trans hFound
  | some found =>
    obtain ⟨name, v⟩ := found
    obtain ⟨hGives, hGet⟩ := field?_eq_some_iff.mp hField
    -- no other entry gives the field, so no other one gets its camel spelling
    rw [get?_map (.text name) part.inner]
    · rw [get?_given hNodup, hGet]
      rfl
    · intro e he
      rw [rewrite_key_iff hApart hPart]
      have hThere : e.1 ∈ entries.keys := List.mem_map_of_mem (List.mem_of_mem_filter he)
      have hName : Key.text name ∈ entries.keys := List.mem_map_of_mem (mem_of_get? hGet)
      exact ⟨fun hEntry => eq_of_gives hThere hName hEntry hGives, fun hKey => hKey ▸ hGives⟩
    · intro e _ hKey
      rw [rewrite, (partOf?_eq_some_iff hApart hPart).mpr (hKey ▸ hGives)]

end

/-- Other entries stay, if they are not null. -/
theorem get?_rewrite_of_ne (hNodup : entries.keys.Nodup)
    (hKey : ∀ part ∈ parts, key ≠ .text part.field.camel) :
    Entries.get? (entries.given.map (entries.rewrite parts)) key =
      ((entries.unknown (parts.map Part.field)).get? key).bind Value.given? := by
  have hRewritten : ∀ e : Key × Value, (entries.rewrite parts e).1 = key ↔
      entries.partOf? parts e.1 = none ∧ e.1 = key := by
    intro e
    unfold rewrite
    cases hFound : entries.partOf? parts e.1 with
    | none => simp
    | some part => simpa using fun h => hKey part (mem_of_partOf? hFound).1 h.symm
  rw [get?_unknown]
  split
  · -- the key is the snake spelling of a field, so its entry has moved away
    rename_i hGives
    refine get?_map_eq_none fun e _ hNew => ?_
    obtain ⟨hNone, rfl⟩ := (hRewritten e).mp hNew
    rw [partOf?_eq_none_iff, hGives] at hNone
    cases hNone
  · rename_i hNone
    have hNone : entries.partOf? parts key = none :=
      partOf?_eq_none_iff.mpr (Bool.not_eq_true _ ▸ hNone)
    rw [get?_map key id, Option.map_id, get?_given hNodup]
    · rfl
    · intro e _
      rw [hRewritten]
      exact ⟨And.right, fun hSame => ⟨hSame ▸ hNone, hSame⟩⟩
    · rintro e _ rfl
      rw [rewrite, hNone]
      rfl

/-! ### Defaults -/

theorem key_of_default? {e : Key × Value} (h : entries.default? part = some e) :
    e.1 = .text part.field.camel := by
  rw [default?_eq] at h
  split at h
  · cases h
  · obtain ⟨_, _, rfl⟩ := Option.map_eq_some_iff.mp h
    rfl

theorem get?_defaults_of_ne (hKey : ∀ part ∈ parts, key ≠ .text part.field.camel) :
    Entries.get? (parts.filterMap entries.default?) key = none := by
  rw [get?_eq_none_iff]
  intro hThere
  obtain ⟨e, he, rfl⟩ := List.mem_map.mp hThere
  obtain ⟨part, hPart, hDefault⟩ := List.mem_filterMap.mp he
  exact hKey part hPart (key_of_default? hDefault)

section

variable (hApart : (parts.map Part.field).Pairwise Spelling.Apart)

include hApart

theorem nodup_defaults : (keys (parts.filterMap entries.default?)).Nodup := by
  rw [keys, List.Nodup, List.pairwise_map, List.pairwise_filterMap]
  refine (List.pairwise_map.mp hApart).imp fun hDiffer e he e' he' hKey => ?_
  rw [key_of_default? he, key_of_default? he'] at hKey
  exact hDiffer.1 (by simpa using hKey)

theorem get?_defaults (hPart : part ∈ parts) :
    Entries.get? (parts.filterMap entries.default?) (.text part.field.camel) =
      (entries.default? part).map Prod.snd := by
  cases hDefault : entries.default? part with
  | some e =>
    rw [← key_of_default? hDefault]
    exact get?_of_mem (nodup_defaults hApart) (List.mem_filterMap.mpr ⟨part, hPart, hDefault⟩)
  | none =>
    refine get?_eq_none_iff.mpr fun hThere => ?_
    obtain ⟨e, he, hKey⟩ := List.mem_map.mp hThere
    obtain ⟨other, hOther, hFound⟩ := List.mem_filterMap.mp he
    rw [key_of_default? hFound] at hKey
    have hCamel : other.field.camel = part.field.camel := by simpa using hKey
    have hOtherPart : other ≠ part := by
      rintro rfl
      cases hDefault.symm.trans hFound
    exact (apart_of_ne hApart hOther hPart hOtherPart).1 hCamel

end

/-! ### Looking up a key in a canonical record -/

theorem get?_canonical (hApart : (parts.map Part.field).Pairwise Spelling.Apart)
    (hNodup : entries.keys.Nodup) (hPart : part ∈ parts) :
    (entries.canonical parts).get? (.text part.field.camel) = entries.canonicalValue? part := by
  rw [canonical, get?_append, get?_rewrite hApart hPart hNodup, get?_defaults hApart hPart]
  rw [default?_eq]
  unfold canonicalValue?
  cases entries.value? part.field with
  | none => simp [Function.comp_def]
  | some v => simp

theorem get?_canonical_of_ne (hNodup : entries.keys.Nodup)
    (hKey : ∀ part ∈ parts, key ≠ .text part.field.camel) :
    (entries.canonical parts).get? key =
      ((entries.unknown (parts.map Part.field)).get? key).bind Value.given? := by
  rw [canonical, get?_append, get?_rewrite_of_ne hNodup hKey, get?_defaults_of_ne hKey,
    Option.or_none]

end Entries

/-! ### The canonical form is JSON -/

/-- JSON stays JSON where a field is rewritten or filled in. -/
structure Part.KeepsJson (part : Part) : Prop where
  inner : ∀ v, v.IsJson → (part.inner v).IsJson
  default : ∀ v ∈ part.default, v.IsJson

namespace Part.KeepsJson

@[simp]
theorem plain (field : Spelling) : (Part.plain field).KeepsJson := ⟨fun _ h => h, nofun⟩

@[simp]
theorem defaulted (field : Spelling) (s : String) : (Part.defaulted field s).KeepsJson :=
  ⟨fun _ h => h, by rintro v ⟨⟩; exact Value.isJson_text s⟩

theorem block (field : Spelling) {inner : Value → Value}
    (h : ∀ v, v.IsJson → (inner v).IsJson) : (Part.block field inner).KeepsJson :=
  ⟨h, nofun⟩

end Part.KeepsJson

namespace Entries

variable {entries : Entries} {parts : List Part} {part : Part}

/-- Entries stay apart. -/
theorem rewrite_injective (hApart : (parts.map Part.field).Pairwise Spelling.Apart)
    {e e' : Key × Value} (he : e.1 ∈ entries.keys) (he' : e'.1 ∈ entries.keys)
    (h : (entries.rewrite parts e).1 = (entries.rewrite parts e').1) : e.1 = e'.1 := by
  by_cases hField : ∃ part ∈ parts, (entries.rewrite parts e).1 = .text part.field.camel
  · obtain ⟨part, hPart, hKey⟩ := hField
    exact eq_of_gives he he' ((rewrite_key_iff hApart hPart e).mp hKey)
      ((rewrite_key_iff hApart hPart e').mp (h ▸ hKey))
  · have hKept : ∀ x : Key × Value, (entries.rewrite parts x).1 = (entries.rewrite parts e).1 →
        (entries.rewrite parts x).1 = x.1 := by
      intro x hx
      cases hFound : entries.partOf? parts x.1 with
      | none => rw [rewrite, hFound]
      | some part =>
        refine absurd ⟨part, (mem_of_partOf? hFound).1, ?_⟩ hField
        rw [← hx, rewrite, hFound]
    rw [← hKept e rfl, h, hKept e' h.symm]

theorem isJson_rewrite (h : entries.IsJson) (hParts : ∀ part ∈ parts, part.KeepsJson)
    {e : Key × Value} (he : e ∈ entries) :
    (∃ name, (entries.rewrite parts e).1 = .text name) ∧ (entries.rewrite parts e).2.IsJson := by
  unfold rewrite
  cases hFound : entries.partOf? parts e.1 with
  | none => exact ⟨h.text e.1 (List.mem_map_of_mem he), h.value e he⟩
  | some part =>
    exact ⟨⟨_, rfl⟩, (hParts part (mem_of_partOf? hFound).1).inner _ (h.value e he)⟩

theorem isJson_default? (hPart : part.KeepsJson) {e : Key × Value}
    (he : entries.default? part = some e) : (∃ name, e.1 = .text name) ∧ e.2.IsJson := by
  refine ⟨⟨_, key_of_default? he⟩, ?_⟩
  rw [default?_eq] at he
  split at he
  · cases he
  · obtain ⟨v, hv, rfl⟩ := Option.map_eq_some_iff.mp he
    exact hPart.default v hv

section

variable (h : entries.IsJson) (hApart : (parts.map Part.field).Pairwise Spelling.Apart)

include h hApart

theorem nodup_canonical : (entries.canonical parts).keys.Nodup := by
  have hGiven : ∀ e ∈ entries.given, e.1 ∈ entries.keys :=
    fun e he => List.mem_map_of_mem (List.mem_of_mem_filter he)
  rw [canonical, keys, List.map_append, List.nodup_append]
  refine ⟨?_, ?_, ?_⟩
  · have hNodup : entries.given.Pairwise fun e e' => e.1 ≠ e'.1 :=
      (List.pairwise_map.mp h.nodup).sublist List.filter_sublist
    rw [List.map_map, List.Nodup, List.pairwise_map]
    exact hNodup.imp_of_mem fun he he' hDiffer hSame =>
      hDiffer (rewrite_injective hApart (hGiven _ he) (hGiven _ he') hSame)
  · exact nodup_defaults hApart
  · -- a default is filled in only where no entry gives the field
    rintro _ hKey _ hDefault rfl
    obtain ⟨_, hEntry, rfl⟩ := List.mem_map.mp hKey
    obtain ⟨e, he, rfl⟩ := List.mem_map.mp hEntry
    obtain ⟨d, hd, hSame⟩ := List.mem_map.mp hDefault
    obtain ⟨part, hPart, hDefault⟩ := List.mem_filterMap.mp hd
    rw [key_of_default? hDefault] at hSame
    have hGives := (rewrite_key_iff hApart hPart e).mp hSame.symm
    obtain ⟨name, v, _, hField⟩ := field?_of_gives (hGiven e he) hGives
    have hValue : entries.value? part.field = some v := by rw [Entries.value?, hField]; rfl
    rw [default?_eq, hValue] at hDefault
    cases hDefault

/-- The canonical form of a JSON object is one. -/
theorem IsJson.canonical (hParts : ∀ part ∈ parts, part.KeepsJson) :
    (entries.canonical parts).IsJson := by
  have hEntry : ∀ e ∈ entries.canonical parts, (∃ name, e.1 = .text name) ∧ e.2.IsJson := by
    intro e he
    rcases List.mem_append.mp he with hRewritten | hDefault
    · obtain ⟨e', he', rfl⟩ := List.mem_map.mp hRewritten
      exact isJson_rewrite h hParts (List.mem_of_mem_filter he')
    · obtain ⟨part, hPart, hDefault⟩ := List.mem_filterMap.mp hDefault
      exact isJson_default? (hParts part hPart) hDefault
  refine ⟨⟨nodup_canonical h hApart, ?_⟩, fun e he => (hEntry e he).2⟩
  intro key hKey
  obtain ⟨e, he, rfl⟩ := List.mem_map.mp hKey
  exact (hEntry e he).1

end

end Entries

theorem Value.isJson_canonical {parts : List Part}
    (hApart : (parts.map Part.field).Pairwise Spelling.Apart)
    (hParts : ∀ part ∈ parts, part.KeepsJson) (v : Value) (h : v.IsJson) :
    (Value.canonical parts v).IsJson := by
  cases h with
  | scalar hScalar => exact .scalar hScalar
  | list hItems => exact .list hItems
  | map hObject hValues =>
    exact Value.isJson_map_iff.mpr (Entries.IsJson.canonical ⟨hObject, hValues⟩ hApart hParts)

end BuildSync
