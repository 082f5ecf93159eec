import BuildSync.Proofs.Document.Canonical

/-!
# Reading the same values

Values that hold the same are read alike, up to the order of what is carried along: a field of one
is read exactly as it is of the other.
-/

set_option autoImplicit false

namespace BuildSync

/-- The same under every key. -/
def Entries.Same (entries others : Entries) : Prop :=
  ∀ key, Option.Rel Value.SameJson (entries.get? key) (others.get? key)

namespace Value.SameJson

variable {v w : Value} {entries : Entries} {s : String}

theorem exists_map (h : SameJson (.map entries) w) :
    ∃ others, w = .map others ∧ entries.Same others := by
  cases h with
  | map hEntries => exact ⟨_, rfl, hEntries⟩

theorem isNull_eq (h : v.SameJson w) : v.isNull = w.isNull := by
  cases h <;> rfl

theorem eq_text (h : SameJson (.text s) w) : w = .text s := by
  cases h
  rfl

theorem given? (h : v.SameJson w) : Option.Rel SameJson v.given? w.given? := by
  unfold Value.given?
  rw [← h.isNull_eq]
  split
  · exact .none
  · exact .some h

end Value.SameJson

/-- From values that hold the same, related results are read. -/
def Relates {α : Type} (check : Value → Checked α) (R : α → α → Prop) : Prop :=
  ∀ v w a, v.IsJson → w.IsJson → v.SameJson w → check v = .ok a → ∃ b, check w = .ok b ∧ R a b

/-- From values that hold the same, results are read that are the same but for what is stripped. -/
def Respects {α β : Type} (check : Value → Checked α) (strip : α → β) : Prop :=
  ∀ v w a, v.IsJson → w.IsJson → v.SameJson w → check v = .ok a →
    ∃ b, check w = .ok b ∧ strip b = strip a

theorem respects_checkText : Respects Value.checkText id := by
  intro v w s hJson hOther hSame hRead
  obtain rfl := (Value.checkText_eq_ok_iff hJson).mp hRead
  exact ⟨s, (Value.checkText_eq_ok_iff hOther).mpr hSame.eq_text, rfl⟩

theorem respects_checkNonemptyText : Respects Value.checkNonemptyText id := by
  intro v w s hJson hOther hSame hRead
  obtain ⟨rfl, hNonempty⟩ := (Value.checkNonemptyText_eq_ok_iff hJson).mp hRead
  exact ⟨s, (Value.checkNonemptyText_eq_ok_iff hOther).mpr ⟨hSame.eq_text, hNonempty⟩, rfl⟩

theorem relates_of_scalar {α : Type} {check : Value → Checked α}
    (hScalar : ∀ v a, check v = .ok a → ∃ s, v = .scalar s) : Relates check Eq := by
  intro v w a _ _ hSame hRead
  obtain ⟨s, rfl⟩ := hScalar v a hRead
  cases hSame
  exact ⟨a, hRead, rfl⟩

theorem relates_checkText : Relates Value.checkText Eq := by
  refine relates_of_scalar fun v s hRead => ?_
  cases v <;> first | exact ⟨_, rfl⟩ | cases hRead

theorem relates_checkBool : Relates Value.checkBool Eq := by
  refine relates_of_scalar fun v b hRead => ?_
  cases v <;> first | exact ⟨_, rfl⟩ | cases hRead

section

variable {α : Type} {check : Value → Checked α} {R : α → α → Prop} (hCheck : Relates check R)

include hCheck

theorem Relates.exists_items {items others : List Value} {as : List α}
    (hItems : List.Forall₂ (fun v a => check v = .ok a) items as)
    (hSame : List.Forall₂ Value.SameJson items others) (hJson : ∀ v ∈ items, v.IsJson)
    (hOther : ∀ v ∈ others, v.IsJson) :
    ∃ bs, List.Forall₂ (fun v b => check v = .ok b) others bs ∧ List.Forall₂ R as bs := by
  induction hItems generalizing others with
  | nil =>
    cases hSame
    exact ⟨[], .nil, .nil⟩
  | @cons v a _ _ hHead _ ih =>
    cases hSame with
    | cons hHeadSame hRestSame =>
      obtain ⟨hValue, hValues⟩ := List.forall_mem_cons.mp hJson
      obtain ⟨hOtherValue, hOtherValues⟩ := List.forall_mem_cons.mp hOther
      obtain ⟨b, hB, hFirst⟩ := hCheck _ _ a hValue hOtherValue hHeadSame hHead
      obtain ⟨bs, hBs, hRest⟩ := ih hRestSame hValues hOtherValues
      exact ⟨b :: bs, .cons hB hBs, .cons hFirst hRest⟩

theorem relates_checkList : Relates (Value.checkList check) (List.Forall₂ R) := by
  intro v w as hJson hOther hSame hRead
  obtain ⟨items, rfl, hItems⟩ := (Value.checkList_eq_ok_iff hJson).mp hRead
  cases hSame with
  | @list _ others hItemsSame =>
    obtain ⟨bs, hBs, hRelated⟩ := hCheck.exists_items hItems hItemsSame
      (Value.isJson_list_iff.mp hJson) (Value.isJson_list_iff.mp hOther)
    exact ⟨bs, (Value.checkList_eq_ok_iff hOther).mpr ⟨others, rfl, hBs⟩, hRelated⟩

end

theorem exists_of_rel {v : Value} {o : Option Value} (h : Option.Rel Value.SameJson (some v) o) :
    ∃ w, o = some w ∧ v.SameJson w := by
  cases h with
  | some hSame => exact ⟨_, rfl, hSame⟩

theorem eq_none_of_rel {o : Option Value} (h : Option.Rel Value.SameJson none o) : o = none := by
  cases h
  rfl

namespace Entries.Same

variable {entries others : Entries} (h : entries.Same others)

include h

theorem value? (field : Spelling) :
    Option.Rel Value.SameJson (entries.value? field) (others.value? field) := by
  have hCamel := h (.text field.camel)
  have hSnake := h (.text field.snake)
  unfold Entries.value? field?
  generalize entries.get? (.text field.camel) = camel at hCamel
  generalize others.get? (.text field.camel) = otherCamel at hCamel
  generalize entries.get? (.text field.snake) = snake at hSnake
  generalize others.get? (.text field.snake) = otherSnake at hSnake
  cases hCamel with
  | some hValue => exact .some hValue
  | none =>
    cases hSnake with
    | some hValue => exact .some hValue
    | none => exact .none

theorem given? (field : Spelling) :
    Option.Rel Value.SameJson ((entries.value? field).bind Value.given?)
      ((others.value? field).bind Value.given?) := by
  have hValue := h.value? field
  generalize entries.value? field = v? at hValue
  generalize others.value? field = w? at hValue
  cases hValue with
  | none => exact .none
  | some hSame => exact hSame.given?

theorem value?_eq_text {field : Spelling} {s : String}
    (hText : ∀ v ∈ entries.value? field, v = .text s) : ∀ v ∈ others.value? field, v = .text s := by
  intro v hOther
  have hValue := h.value? field
  rw [Option.mem_def.mp hOther] at hValue
  generalize hGiven : entries.value? field = v? at hValue
  cases hValue with
  | some hSame =>
    rw [hText _ hGiven] at hSame
    exact hSame.eq_text

theorem has_eq (key : Key) : entries.has key = others.has key := by
  rw [← isSome_get?, ← isSome_get?]
  have hKey := h key
  generalize entries.get? key = v? at hKey
  generalize others.get? key = w? at hKey
  cases hKey <;> rfl

theorem unknown_eq_nil {fields : List Spelling} (hNone : entries.unknown fields = []) :
    others.unknown fields = [] := by
  rw [unknown_eq, List.filter_eq_nil_iff] at hNone ⊢
  intro e he
  -- the other entries have a key of the same text, which gives a field there
  have hHas : entries.has e.1 = true := by
    rw [h.has_eq]
    exact List.any_eq_true.mpr ⟨e, he, beq_self_eq_true e.1⟩
  obtain ⟨e', he', hKey⟩ := List.any_eq_true.mp hHas
  have hGives := hNone e' he'
  rw [eq_of_beq hKey] at hGives
  have hSame : ∀ field, others.gives field e.1 = entries.gives field e.1 := by
    intro field
    rw [gives, gives, h.has_eq]
  simpa only [hSame] using hGives

section

variable (hJson : entries.IsJson) (hOther : others.IsJson) {α : Type} {check : Value → Checked α}
  {R : α → α → Prop} (hCheck : Relates check R) {field : Spelling}

include hJson hOther hCheck

theorem required_related {a : α} (hRead : entries.required field check = .ok a) :
    ∃ b, others.required field check = .ok b ∧ R a b := by
  obtain ⟨v, hValue, hRead⟩ := required_eq_ok_iff.mp hRead
  obtain ⟨w, hOtherValue, hSame⟩ := exists_of_rel (hValue ▸ h.value? field)
  obtain ⟨b, hOtherRead, hRelated⟩ :=
    hCheck v w a (hJson.value? hValue) (hOther.value? hOtherValue) hSame hRead
  exact ⟨b, required_eq_ok_iff.mpr ⟨w, hOtherValue, hOtherRead⟩, hRelated⟩

theorem defaulted_related {default a : α} (hDefault : R default default)
    (hRead : entries.defaulted field default check = .ok a) :
    ∃ b, others.defaulted field default check = .ok b ∧ R a b := by
  obtain ⟨hNone, rfl⟩ | ⟨v, hValue, hRead⟩ := defaulted_eq_ok_iff.mp hRead
  · have hOtherNone := eq_none_of_rel (hNone ▸ h.value? field)
    exact ⟨a, defaulted_eq_ok_iff.mpr (.inl ⟨hOtherNone, rfl⟩), hDefault⟩
  · obtain ⟨w, hOtherValue, hSame⟩ := exists_of_rel (hValue ▸ h.value? field)
    obtain ⟨b, hOtherRead, hRelated⟩ :=
      hCheck v w a (hJson.value? hValue) (hOther.value? hOtherValue) hSame hRead
    exact ⟨b, defaulted_eq_ok_iff.mpr (.inr ⟨w, hOtherValue, hOtherRead⟩), hRelated⟩

theorem optional_related {a : Option α} (hRead : entries.optional field check = .ok a) :
    ∃ b, others.optional field check = .ok b ∧ Option.Rel R a b := by
  obtain ⟨hNone, rfl⟩ | ⟨v, x, hGiven, hInner, rfl⟩ := optional_eq_ok_iff.mp hRead
  · have hOtherNone := eq_none_of_rel (hNone ▸ h.given? field)
    exact ⟨none, optional_eq_ok_iff.mpr (.inl ⟨hOtherNone, rfl⟩), .none⟩
  · obtain ⟨w, hOtherGiven, hSame⟩ := exists_of_rel (hGiven ▸ h.given? field)
    obtain ⟨y, hOtherRead, hRelated⟩ :=
      hCheck v w x (hJson.given? hGiven) (hOther.given? hOtherGiven) hSame hInner
    exact ⟨some y, optional_eq_ok_iff.mpr (.inr ⟨w, y, hOtherGiven, hOtherRead, rfl⟩),
      .some hRelated⟩

end

section

variable (hJson : entries.IsJson) (hOther : others.IsJson) {α β : Type} {check : Value → Checked α}
  {strip : α → β} (hCheck : Respects check strip) {field : Spelling}

include hJson hOther hCheck

theorem required {a : α} (hRead : entries.required field check = .ok a) :
    ∃ b, others.required field check = .ok b ∧ strip b = strip a :=
  h.required_related hJson hOther (R := fun a b => strip b = strip a) hCheck hRead

theorem defaulted {default a : α} (hRead : entries.defaulted field default check = .ok a) :
    ∃ b, others.defaulted field default check = .ok b ∧ strip b = strip a :=
  h.defaulted_related hJson hOther (R := fun a b => strip b = strip a) hCheck rfl hRead

theorem optional {a : Option α} (hRead : entries.optional field check = .ok a) :
    ∃ b, others.optional field check = .ok b ∧ b.map strip = a.map strip := by
  obtain ⟨b, hOtherRead, hRelated⟩ :=
    h.optional_related hJson hOther (R := fun a b => strip b = strip a) hCheck hRead
  refine ⟨b, hOtherRead, ?_⟩
  cases hRelated with
  | none => rfl
  | some hStrip => exact congrArg some hStrip

end

end Entries.Same

theorem Entries.Same.optionalText {entries others : Entries} (h : entries.Same others)
    (hJson : entries.IsJson) (hOther : others.IsJson) {field : Spelling} {a : Option String}
    (hRead : entries.optional field Value.checkText = .ok a) :
    others.optional field Value.checkText = .ok a := by
  obtain ⟨b, hOtherRead, hText⟩ := h.optional hJson hOther respects_checkText hRead
  simp only [Option.map_id, id] at hText
  exact hText ▸ hOtherRead

theorem relates_record {α : Type} {model : String} {read : Entries → Checked α} {R : α → α → Prop}
    (hRecord : ∀ (r other : Entries) a, r.IsJson → other.IsJson → r.Same other →
      Value.record model read (.map r) = .ok a →
        ∃ b, Value.record model read (.map other) = .ok b ∧ R a b) :
    Relates (Value.record model read) R := by
  intro v w a hJson hOther hSame hRead
  obtain ⟨r, rfl, hR⟩ := Value.exists_map_of_record hJson hRead
  obtain ⟨other, rfl, hEntries⟩ := hSame.exists_map
  exact hRecord r other a hR (Value.isJson_map_iff.mp hOther) hEntries hRead

theorem respects_record {α β : Type} {model : String} {read : Entries → Checked α} {strip : α → β}
    (hRecord : ∀ (r other : Entries) a, r.IsJson → other.IsJson → r.Same other →
      Value.record model read (.map r) = .ok a →
        ∃ b, Value.record model read (.map other) = .ok b ∧ strip b = strip a) :
    Respects (Value.record model read) strip :=
  relates_record (R := fun a b => strip b = strip a) hRecord

theorem relates_variant {α : Type} {tags : List String} {read : String → Value → Checked α}
    {R : α → α → Prop} (hRead : ∀ tag ∈ tags, Relates (read tag) R) :
    Relates (Value.variant tags read) R := by
  intro v w a hJson hOther hSame hVariant
  obtain ⟨r, rfl, hR⟩ := Value.exists_map_of_variant hJson hVariant
  obtain ⟨other, rfl, hEntries⟩ := hSame.exists_map
  obtain ⟨tag, hTag, hKind, hInner⟩ := (Value.variant_eq_ok_iff hR).mp hVariant
  obtain ⟨kind, hOtherKind, hText⟩ := exists_of_rel (hKind ▸ hEntries.value? (.word "kind"))
  obtain ⟨b, hOtherRead, hRelated⟩ := hRead tag hTag _ _ a hJson hOther hSame hInner
  refine ⟨b, (Value.variant_eq_ok_iff (Value.isJson_map_iff.mp hOther)).mpr ?_, hRelated⟩
  exact ⟨tag, hTag, hText.eq_text ▸ hOtherKind, hOtherRead⟩

/-! ### Comparing values -/

namespace Value

mutual

/-- Whether two values are the same scalar, list or map. -/
def same : Value → Value → Bool
  | .scalar s, .scalar t => s == t
  | .list items, .list others => sameItems items others
  | .map entries, .map others => sameEntries entries others
  | _, _ => false

def sameItems : List Value → List Value → Bool
  | [], [] => true
  | v :: items, w :: others => same v w && sameItems items others
  | _, _ => false

def sameEntries : List (Key × Value) → List (Key × Value) → Bool
  | [], [] => true
  | (key, v) :: entries, (other, w) :: others =>
    key == other && same v w && sameEntries entries others
  | _, _ => false

end

mutual

theorem eq_of_same {v w : Value} (h : same v w = true) : v = w := by
  unfold same at h
  split at h
  · rw [eq_of_beq h]
  · rw [eq_of_sameItems h]
  · rw [eq_of_sameEntries h]
  · cases h

theorem eq_of_sameItems {items others : List Value} (h : sameItems items others = true) :
    items = others := by
  unfold sameItems at h
  split at h
  · rfl
  · rw [Bool.and_eq_true] at h
    rw [eq_of_same h.1, eq_of_sameItems h.2]
  · cases h

theorem eq_of_sameEntries {entries others : List (Key × Value)}
    (h : sameEntries entries others = true) : entries = others := by
  unfold sameEntries at h
  split at h
  · rfl
  · rw [Bool.and_eq_true, Bool.and_eq_true] at h
    rw [eq_of_beq h.1.1, eq_of_same h.1.2, eq_of_sameEntries h.2]
  · cases h

end

theorem eq_some_of_same {v? : Option Value} {v : Value} (h : v?.any (same · v) = true) :
    v? = some v := by
  obtain ⟨w, hSome, hSame⟩ := (Option.any_eq_true _ _).mp h
  rw [hSome, eq_of_same hSame]

end Value

end BuildSync
