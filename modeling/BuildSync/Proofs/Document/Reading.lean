import BuildSync.Proofs.Document.Written

/-!
# Reading records

A reading succeeds exactly when each of its parts does. Read from a written record, a field has the
value it was written with.
-/

set_option autoImplicit false

namespace BuildSync

namespace Checked

variable {α β : Type}

@[simp]
theorem map_eq_ok_iff {f : α → β} {a : Checked α} {b : β} :
    f <$> a = .ok b ↔ ∃ x, a = .ok x ∧ f x = b := by
  cases a <;> simp [Functor.map, Checked.map]

@[simp]
theorem seq_eq_ok_iff {f : Checked (α → β)} {a : Checked α} {b : β} :
    f <*> a = .ok b ↔ ∃ g x, f = .ok g ∧ a = .ok x ∧ g x = b := by
  cases f <;> cases a <;> simp [Seq.seq, Checked.ap]

theorem under_eq_ok_iff {step : Step} {a : Checked α} {x : α} :
    a.under step = .ok x ↔ a = .ok x := by
  cases a <;> simp [under]

theorem bind_eq_ok_iff {a : Checked α} {f : α → Checked β} {b : β} :
    a.bind f = .ok b ↔ ∃ x, a = .ok x ∧ f x = .ok b := by
  cases a <;> simp [Checked.bind]

/-- A list is checked item by item; the positions only name where issues are. -/
theorem items_eq_ok_iff {check : Value → Checked α} {start : Nat} {vs : List Value}
    {as : List α} :
    items check start vs = .ok as ↔ List.Forall₂ (fun v a => check v = .ok a) vs as := by
  induction vs generalizing start as with
  | nil => simp [items, eq_comm]
  | cons v vs ih =>
    simp only [items, seq_eq_ok_iff, map_eq_ok_iff, under_eq_ok_iff, ih]
    constructor
    · rintro ⟨_, rest, ⟨a, hHead, rfl⟩, hRest, rfl⟩
      exact .cons hHead hRest
    · rintro (_ | ⟨hHead, hRest⟩)
      exact ⟨_, _, ⟨_, hHead, rfl⟩, hRest, rfl⟩

end Checked

/-- All that a check reads from JSON values has the property. -/
def Ensures {α : Type} (check : Value → Checked α) (P : α → Prop) : Prop :=
  ∀ v a, v.IsJson → check v = .ok a → P a

namespace Entries

variable {α : Type} {entries : Entries} {field : Spelling} {check : Value → Checked α}

/-- The value of a field. -/
def value? (entries : Entries) (field : Spelling) : Option Value :=
  (entries.field? field).map Prod.snd

theorem value?_word (entries : Entries) (name : String) :
    entries.value? (.word name) = entries.get? (.text name) := by
  rw [value?, field?, Spelling.word]
  cases entries.get? (.text name) <;> rfl

theorem IsJson.value? (h : entries.IsJson) {v : Value} (hValue : entries.value? field = some v) :
    v.IsJson := by
  obtain ⟨⟨name, _⟩, hField, rfl⟩ := Option.map_eq_some_iff.mp hValue
  exact h.get? (field?_eq_some_iff.mp hField).2

theorem IsJson.given? (h : entries.IsJson) {v : Value}
    (hValue : (entries.value? field).bind Value.given? = some v) : v.IsJson := by
  obtain ⟨w, hValue, hGiven⟩ := Option.bind_eq_some_iff.mp hValue
  exact (Value.given?_eq_some_iff.mp hGiven).1 ▸ h.value? hValue

theorem required_eq_ok_iff {a : α} :
    entries.required field check = .ok a ↔
      ∃ v, entries.value? field = some v ∧ check v = .ok a := by
  unfold required value?
  cases entries.field? field with
  | none => simp [Checked.fail, Checked.under]
  | some found => simp [Checked.under_eq_ok_iff]

theorem defaulted_eq_ok_iff {default a : α} :
    entries.defaulted field default check = .ok a ↔
      entries.value? field = none ∧ a = default ∨
        ∃ v, entries.value? field = some v ∧ check v = .ok a := by
  unfold defaulted value?
  cases entries.field? field with
  | none => simp [eq_comm]
  | some found => simp [Checked.under_eq_ok_iff]

/-- A field that may be absent counts as absent where it is null. -/
theorem optional_eq_ok_iff {a : Option α} :
    entries.optional field check = .ok a ↔
      (entries.value? field).bind Value.given? = none ∧ a = none ∨
        ∃ v x, (entries.value? field).bind Value.given? = some v ∧ check v = .ok x ∧
          a = some x := by
  rw [optional, defaulted_eq_ok_iff]
  cases entries.value? field with
  | none => simp
  | some v =>
    cases hNull : v.isNull with
    | true => simp [Value.given?, hNull, eq_comm (a := a)]
    | false => simp [Value.given?, hNull, eq_comm (a := a)]

theorem IsJson.ensured_of_optional {P : α → Prop} (h : entries.IsJson) (hCheck : Ensures check P)
    {a : Option α} (hRead : entries.optional field check = .ok a) : ∀ x ∈ a, P x := by
  obtain ⟨_, rfl⟩ | ⟨v, x, hGiven, hInner, rfl⟩ := optional_eq_ok_iff.mp hRead
  · exact nofun
  · rintro y ⟨⟩
    exact hCheck v x (h.given? hGiven) hInner

theorem IsJson.ensured_of_required {P : α → Prop} (h : entries.IsJson) (hCheck : Ensures check P)
    {a : α} (hRead : entries.required field check = .ok a) : P a := by
  obtain ⟨v, hValue, hRead⟩ := required_eq_ok_iff.mp hRead
  exact hCheck v a (h.value? hValue) hRead

theorem IsJson.ensured_of_defaulted {P : α → Prop} (h : entries.IsJson) (hCheck : Ensures check P)
    {default a : α} (hDefault : P default) (hRead : entries.defaulted field default check = .ok a) :
    P a := by
  obtain ⟨_, rfl⟩ | ⟨v, hValue, hRead⟩ := defaulted_eq_ok_iff.mp hRead
  · exact hDefault
  · exact hCheck v a (h.value? hValue) hRead

theorem extras_eq_ok_iff {fields : List Spelling} {rest : Entries} (h : entries.IsObject) :
    entries.extras fields = .ok rest ↔ entries.unknown fields = rest := by
  -- only keys that are no texts are refused
  have hNone : (entries.unknown fields).filterMap (fun e =>
      (if e.1.text?.isSome then none else some Fault.nonTextKey).map fun f =>
        (⟨[keyStep e.1], f⟩ : Issue)) = [] := by
    rw [List.filterMap_eq_nil_iff]
    intro e he
    obtain ⟨name, hName⟩ := h.text e.1 (List.mem_map_of_mem (List.mem_of_mem_filter he))
    rw [hName]
    rfl
  simp only [extras, Checked.map_eq_ok_iff, refuse, hNone]
  simp

theorem noExtras_eq_ok_iff {entries : Entries} {fields : List Spelling} {u : Unit} :
    entries.noExtras fields = .ok u ↔ entries.unknown fields = [] := by
  unfold noExtras refuse
  cases entries.unknown fields <;> simp

/-- A field that can only have one value may be absent. -/
theorem defaulted_checkLiteral_eq_ok_iff {entries : Entries} {field : Spelling} {s : String}
    {u : Unit} :
    entries.defaulted field () (Value.checkLiteral s) = .ok u ↔
      ∀ v ∈ entries.value? field, v = .text s := by
  have hLiteral : ∀ v, Value.checkLiteral s v = .ok u ↔ v = .text s := by
    intro v
    unfold Value.checkLiteral
    split
    · rename_i other
      by_cases hOther : other = s <;> simp [hOther, Checked.fail]
    · rename_i hOther
      simpa [Checked.fail] using hOther s
  rw [defaulted_eq_ok_iff]
  cases entries.value? field <;> simp [hLiteral]

end Entries

/-! ### Texts -/

theorem Value.checkText_eq_ok_iff {v : Value} (h : v.IsJson) {s : String} :
    v.checkText = .ok s ↔ v = .text s := by
  cases h with
  | @scalar x hx =>
    cases x <;> simp [checkText, Scalar.checkText, Checked.fail]
    cases hx
  | list => simp [checkText, Checked.fail]
  | map => simp [checkText, Checked.fail]

theorem Value.checkNonemptyText_eq_ok_iff {v : Value} (h : v.IsJson) {s : String} :
    v.checkNonemptyText = .ok s ↔ v = .text s ∧ s ≠ "" := by
  rw [checkNonemptyText, Checked.bind_eq_ok_iff]
  simp only [checkText_eq_ok_iff h]
  constructor
  · rintro ⟨x, hx, hCheck⟩
    split at hCheck
    · cases hCheck
    · cases hCheck
      exact ⟨hx, by assumption⟩
  · rintro ⟨hs, hEmpty⟩
    exact ⟨s, hs, if_neg hEmpty⟩

theorem ensures_checkNonemptyText : Ensures Value.checkNonemptyText fun s => s ≠ "" :=
  fun _ _ h hCheck => ((Value.checkNonemptyText_eq_ok_iff h).mp hCheck).2

/-! ### Lists -/

theorem Value.checkList_eq_ok_iff {α : Type} {check : Value → Checked α} {v : Value} (h : v.IsJson)
    {as : List α} :
    checkList check v = .ok as ↔
      ∃ items, v = .list items ∧ List.Forall₂ (fun v a => check v = .ok a) items as := by
  cases h with
  | scalar => simp [checkList, items?, Checked.fail]
  | @list items hItems =>
    simp only [checkList, items?_list fun v hv => (hItems v hv).isDocument,
      Checked.items_eq_ok_iff]
    simp
  | map => simp [checkList, items?, Checked.fail]

theorem ensures_checkList {α : Type} {check : Value → Checked α} {P : α → Prop}
    (hCheck : Ensures check P) : Ensures (Value.checkList check) fun as => ∀ a ∈ as, P a := by
  intro v as hJson h
  obtain ⟨items, rfl, hItems⟩ := (Value.checkList_eq_ok_iff hJson).mp h
  rw [Value.isJson_list_iff] at hJson
  clear h
  induction hItems with
  | nil => exact nofun
  | @cons v a _ _ hHead _ ih =>
    obtain ⟨hFirst, hRest⟩ := List.forall_mem_cons.mp hJson
    exact List.forall_mem_cons.mpr ⟨hCheck v a hFirst hHead, ih hRest⟩

theorem Value.checkList_map {α : Type} {check : Value → Checked α} {dump : α → Value} {as : List α}
    (hJson : ∀ a ∈ as, (dump a).IsJson) (hReload : ∀ a ∈ as, check (dump a) = .ok a) :
    checkList check (.list (as.map dump)) = .ok as := by
  have hItems : (Value.list (as.map dump)).IsJson := .list (by simpa using hJson)
  refine (checkList_eq_ok_iff hItems).mpr ⟨_, rfl, ?_⟩
  rw [List.forall₂_map_left_iff]
  exact List.forall₂_same.mpr hReload

/-! ### JSON objects -/

section

variable {α : Type} {model : String} {check : Entries → Checked α}

theorem Value.record_of_isJson {entries : Entries} (h : entries.IsJson) :
    Value.record model check (.map entries) = check entries := by
  simp only [Value.record, h.entries?]

theorem Value.exists_map_of_record {v : Value} (h : v.IsJson) {a : α}
    (hRead : Value.record model check v = .ok a) : ∃ r : Entries, v = .map r ∧ r.IsJson := by
  cases h with
  | scalar => cases hRead
  | list => cases hRead
  | map hObject hValues => exact ⟨_, rfl, hObject, hValues⟩

theorem Value.variant_eq_ok_iff {tags : List String} {read : String → Value → Checked α}
    {r : Entries} (h : r.IsJson) {a : α} :
    variant tags read (.map r) = .ok a ↔
      ∃ tag ∈ tags, r.value? (.word "kind") = some (.text tag) ∧ read tag (.map r) = .ok a := by
  rw [r.value?_word "kind"]
  simp only [variant, h.entries?]
  cases hKind : r.get? (.text "kind") with
  | none => simp [Checked.fail]
  | some v =>
    by_cases hText : ∃ tag, v = .text tag
    · obtain ⟨tag, rfl⟩ := hText
      by_cases hTag : tag ∈ tags <;> simp [hTag, Checked.under_eq_ok_iff, Checked.fail]
    · split
      · simp_all
      · rename_i hSome
        cases hSome
        simp_all
      · simp_all [Checked.fail]

theorem Value.exists_map_of_variant {tags : List String} {read : String → Value → Checked α}
    {v : Value} (h : v.IsJson) {a : α} (hRead : variant tags read v = .ok a) :
    ∃ r : Entries, v = .map r ∧ r.IsJson := by
  cases h with
  | scalar => cases hRead
  | list => cases hRead
  | map hObject hValues => exact ⟨_, rfl, hObject, hValues⟩

end

/-! ### Reading what was written -/

theorem eq_none_of_isNull_dumpOptional {α : Type} {dump : α → Value}
    (hSome : ∀ a, (dump a).isNull = false) {a : Option α}
    (hNull : (dumpOptional dump a).isNull = true) : a = none := by
  cases a with
  | none => rfl
  | some x => exact absurd hNull (Bool.eq_false_iff.mp (hSome x))

@[simp]
theorem isNull_optionalText {s : Option String} :
    (Value.optionalText s).isNull = true ↔ s = none := by
  cases s <;> simp [Value.optionalText, Value.isNull]

namespace IsSavable

variable {fields : List Spelling} {values : List (String × Value)} {extras : Entries}
  (h : IsSavable fields values extras) {field : Spelling} (hField : field ∈ fields)

include h hField

theorem value?_written {v : Value} (hValue : (field.camel, v) ∈ values) :
    (written values extras).value? field = v.given? := by
  rw [Entries.value?, h.field?_written hField hValue]
  cases v.given? <;> rfl

variable {α : Type} {check : Value → Checked α} {dump : α → Value} {f : α → α}

theorem required_written {v : Value} {a : α} (hValue : (field.camel, v) ∈ values)
    (hSome : v.isNull = false) (hReload : check v = .ok a) :
    (written values extras).required field check = .ok a := by
  refine Entries.required_eq_ok_iff.mpr ⟨v, ?_, hReload⟩
  rw [h.value?_written hField hValue, Value.given?_eq_some_iff.mpr ⟨rfl, hSome⟩]

theorem nonemptyText_written {s : String} (hValue : (field.camel, Value.text s) ∈ values)
    (hName : s ≠ "") :
    (written values extras).required field Value.checkNonemptyText = .ok s :=
  h.required_written hField hValue rfl
    ((Value.checkNonemptyText_eq_ok_iff (Value.isJson_text s)).mpr ⟨rfl, hName⟩)

theorem defaulted_written {v : Value} {default a : α} (hValue : (field.camel, v) ∈ values)
    (hSome : v.isNull = false) (hReload : check v = .ok a) :
    (written values extras).defaulted field default check = .ok a := by
  refine Entries.defaulted_eq_ok_iff.mpr (.inr ⟨v, ?_, hReload⟩)
  rw [h.value?_written hField hValue, Value.given?_eq_some_iff.mpr ⟨rfl, hSome⟩]

theorem optional_written {a : Option α} (hValue : (field.camel, dumpOptional dump a) ∈ values)
    (hSome : ∀ x, (dump x).isNull = false) (hReload : ∀ x ∈ a, check (dump x) = .ok (f x)) :
    (written values extras).optional field check = .ok (a.map f) := by
  rw [Entries.optional_eq_ok_iff, h.value?_written hField hValue]
  cases a with
  | none => exact .inl ⟨rfl, rfl⟩
  | some x =>
    have hGiven : (dump x).given? = some (dump x) := Value.given?_eq_some_iff.mpr ⟨rfl, hSome x⟩
    refine .inr ⟨dump x, f x, ?_, hReload x rfl, rfl⟩
    rw [dumpOptional, hGiven, Option.bind_some, hGiven]

theorem optionalText_written {a : Option String}
    (hValue : (field.camel, Value.optionalText a) ∈ values) :
    (written values extras).optional field Value.checkText = .ok a := by
  rw [Entries.optional_eq_ok_iff, h.value?_written hField hValue]
  cases a with
  | none => exact .inl ⟨rfl, rfl⟩
  | some s => exact .inr ⟨.text s, s, rfl, rfl, rfl⟩

end IsSavable

end BuildSync
