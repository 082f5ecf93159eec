import BuildSync.Proofs.Document.Json
import BuildSync.Validation

/-!
# Records

A record gives a field under its camel spelling, and under its snake spelling where it has no camel
one. What gives no field is carried along.
-/

set_option autoImplicit false

namespace BuildSync

/-- The value, unless it is null. -/
def Value.given? (v : Value) : Option Value := if v.isNull then none else some v

theorem Value.isNull_iff {v : Value} : v.isNull = true ↔ v = .null := by
  unfold isNull
  split
  · simp
  · rename_i hOther
    exact iff_of_false Bool.false_ne_true hOther

theorem Value.given?_eq_some_iff {v w : Value} : v.given? = some w ↔ v = w ∧ w.isNull = false := by
  unfold given?
  cases hNull : v.isNull <;> grind

theorem Key.text?_eq_some_iff {key : Key} {name : String} :
    key.text? = some name ↔ key = .text name := by
  constructor
  · intro h
    unfold text? at h
    split at h
    · exact congrArg Key.text (Option.some_inj.mp h)
    · cases h
  · rintro rfl
    rfl

namespace Entries

variable {entries more : Entries} {key : Key} {v : Value}

/-! ### Looking up a key -/

theorem get?_cons (e : Key × Value) (entries : Entries) (key : Key) :
    Entries.get? (e :: entries) key = if e.1 = key then some e.2 else entries.get? key := rfl

theorem get?_eq_none_iff : entries.get? key = none ↔ key ∉ entries.keys := by
  induction entries with
  | nil => simp [get?, keys]
  | cons e entries ih =>
    rw [get?_cons]
    split
    · rename_i hKey
      simp [keys, hKey]
    · rename_i hKey
      have hHead : ¬key = e.1 := fun h => hKey h.symm
      rw [ih, keys, keys, List.map_cons, List.mem_cons]
      simp [hHead]

theorem mem_of_get? (h : entries.get? key = some v) : (key, v) ∈ entries := by
  induction entries with
  | nil => cases h
  | cons e entries ih =>
    rw [get?_cons] at h
    split at h
    · rename_i hKey
      cases h
      exact hKey ▸ List.mem_cons_self
    · exact List.mem_cons_of_mem _ (ih h)

theorem get?_of_mem (hNodup : entries.keys.Nodup) (h : (key, v) ∈ entries) :
    entries.get? key = some v := by
  induction entries with
  | nil => cases h
  | cons e entries ih =>
    obtain ⟨hHead, hTail⟩ := List.nodup_cons.mp hNodup
    rw [get?_cons]
    rcases List.mem_cons.mp h with rfl | hMem
    · exact if_pos rfl
    · have hKey : e.1 ≠ key := fun hKey => hHead (hKey ▸ List.mem_map_of_mem hMem)
      rw [if_neg hKey, ih hTail hMem]

theorem get?_perm {entries others : Entries} (hNodup : entries.keys.Nodup)
    (hPerm : entries.Perm others) (key : Key) : entries.get? key = others.get? key := by
  have hKeys : entries.keys.Perm others.keys := hPerm.map Prod.fst
  cases hGet : entries.get? key with
  | none =>
    refine (get?_eq_none_iff.mpr fun hKey => ?_).symm
    exact get?_eq_none_iff.mp hGet (hKeys.mem_iff.mpr hKey)
  | some v =>
    exact (get?_of_mem (hKeys.nodup_iff.mp hNodup) (hPerm.mem_iff.mp (mem_of_get? hGet))).symm

theorem get?_append (entries more : Entries) (key : Key) :
    Entries.get? (entries ++ more) key = (entries.get? key).or (more.get? key) := by
  induction entries with
  | nil => rfl
  | cons e entries ih =>
    rw [List.cons_append, get?_cons, get?_cons]
    split
    · rfl
    · exact ih

theorem get?_filter_key (keep : Key → Bool) (entries : Entries) (key : Key) :
    Entries.get? (entries.filter fun e => keep e.1) key =
      if keep key then entries.get? key else none := by
  induction entries with
  | nil => simp [get?]
  | cons e entries ih =>
    rw [List.filter_cons, get?_cons]
    by_cases hKey : e.1 = key
    · subst hKey
      split
      · simp [get?_cons]
      · rename_i hDrop
        rw [ih, if_neg hDrop]
    · split <;> simp [get?_cons, hKey, ih]

/-- The entries that are not null. -/
def given (entries : Entries) : Entries := entries.filter fun e => !e.2.isNull

theorem get?_given {entries : Entries} (hNodup : entries.keys.Nodup) (key : Key) :
    entries.given.get? key = (entries.get? key).bind Value.given? := by
  induction entries with
  | nil => rfl
  | cons e entries ih =>
    obtain ⟨hHead, hTail⟩ := List.nodup_cons.mp hNodup
    rw [given, List.filter_cons, get?_cons]
    by_cases hKey : e.1 = key
    · subst hKey
      have hNone : Entries.get? entries e.1 = none := get?_eq_none_iff.mpr hHead
      cases hNull : e.2.isNull with
      | true => simpa [Value.given?, hNull, hNone, given] using ih hTail
      | false => simp [Value.given?, hNull, get?_cons]
    · cases hNull : e.2.isNull <;> simpa [get?_cons, hKey, given] using ih hTail

/-- Entries that are renamed and rewritten so that those under one key get another one. -/
theorem get?_map {entries : Entries} {rewrite : Key × Value → Key × Value} (old : Key) {new : Key}
    (change : Value → Value) (hKey : ∀ e ∈ entries, (rewrite e).1 = new ↔ e.1 = old)
    (hValue : ∀ e ∈ entries, e.1 = old → (rewrite e).2 = change e.2) :
    Entries.get? (entries.map rewrite) new = (entries.get? old).map change := by
  induction entries with
  | nil => rfl
  | cons e entries ih =>
    have hHead := hKey e List.mem_cons_self
    rw [List.map_cons, get?_cons, get?_cons]
    by_cases hOld : e.1 = old
    · rw [if_pos hOld, if_pos (hHead.mpr hOld), hValue e List.mem_cons_self hOld, Option.map_some]
    · rw [if_neg hOld, if_neg (mt hHead.mp hOld)]
      exact ih (fun e he => hKey e (List.mem_cons_of_mem _ he))
        fun e he => hValue e (List.mem_cons_of_mem _ he)

theorem get?_map_eq_none {entries : Entries} {rewrite : Key × Value → Key × Value} {new : Key}
    (hKey : ∀ e ∈ entries, (rewrite e).1 ≠ new) :
    Entries.get? (entries.map rewrite) new = none := by
  rw [get?_eq_none_iff]
  intro hNew
  obtain ⟨e', he', rfl⟩ := List.mem_map.mp hNew
  obtain ⟨e, he, rfl⟩ := List.mem_map.mp he'
  exact hKey e he rfl

theorem isSome_get? (entries : Entries) (key : Key) :
    (entries.get? key).isSome = entries.has key := by
  induction entries with
  | nil => rfl
  | cons e entries ih =>
    rw [get?_cons]
    split
    · rename_i hKey
      simp [has, hKey]
    · rename_i hKey
      rw [ih, has, has, List.any_cons, beq_false_of_ne hKey, Bool.false_or]

/-! ### JSON objects -/

theorem IsJson.sublist (h : entries.IsJson) (hMore : more.Sublist entries) : more.IsJson where
  nodup := h.nodup.sublist (hMore.map Prod.fst)
  text key hKey := h.text key ((hMore.map Prod.fst).subset hKey)
  value e he := h.value e (hMore.subset he)

theorem IsJson.get? (h : entries.IsJson) (hGet : entries.get? key = some v) : v.IsJson :=
  h.value _ (mem_of_get? hGet)

/-! ### Fields -/

/-- The entry under a key gives a field. -/
def gives (entries : Entries) (field : Spelling) (key : Key) : Bool :=
  key == .text field.camel || (key == .text field.snake && !entries.has (.text field.camel))

theorem field?_eq_some_iff {field : Spelling} {name : String} :
    entries.field? field = some (name, v) ↔
      entries.gives field (.text name) = true ∧ entries.get? (.text name) = some v := by
  unfold field? gives
  rw [← isSome_get?]
  cases hCamel : entries.get? (.text field.camel) with
  | some w =>
    simp only [Option.some_inj, Prod.mk.injEq, Option.isSome_some]
    constructor
    · rintro ⟨rfl, rfl⟩
      simpa using hCamel
    · rintro ⟨hName, hGet⟩
      have hName : name = field.camel := by simpa using hName
      subst hName
      exact ⟨rfl, Option.some_inj.mp (hCamel.symm.trans hGet)⟩
  | none =>
    simp only [Option.map_eq_some_iff, Prod.mk.injEq]
    constructor
    · rintro ⟨w, hSnake, rfl, rfl⟩
      simpa using hSnake
    · rintro ⟨hName, hGet⟩
      have hName : name = field.camel ∨ name = field.snake := by simpa using hName
      rcases hName with rfl | rfl
      · rw [hCamel] at hGet
        cases hGet
      · exact ⟨v, hGet, rfl, rfl⟩

theorem field?_of_gives {field : Spelling} (hKey : key ∈ entries.keys)
    (hGives : entries.gives field key = true) :
    ∃ name v, key = .text name ∧ entries.field? field = some (name, v) := by
  obtain ⟨name, rfl⟩ : ∃ name, key = .text name := by
    simp only [gives, Bool.or_eq_true, Bool.and_eq_true, beq_iff_eq] at hGives
    rcases hGives with rfl | ⟨rfl, _⟩ <;> exact ⟨_, rfl⟩
  obtain ⟨v, hGet⟩ := Option.ne_none_iff_exists'.mp (mt get?_eq_none_iff.mp (not_not_intro hKey))
  exact ⟨name, v, rfl, field?_eq_some_iff.mpr ⟨hGives, hGet⟩⟩

/-- At most one entry gives a field. -/
theorem eq_of_gives {field : Spelling} {other : Key} (hKey : key ∈ entries.keys)
    (hOther : other ∈ entries.keys) (hKeyGives : entries.gives field key = true)
    (hOtherGives : entries.gives field other = true) : key = other := by
  obtain ⟨name, v, rfl, hField⟩ := field?_of_gives hKey hKeyGives
  obtain ⟨name', v', rfl, hField'⟩ := field?_of_gives hOther hOtherGives
  rw [hField] at hField'
  cases hField'
  rfl

theorem field?_eq_none_iff {field : Spelling} :
    entries.field? field = none ↔
      entries.get? (.text field.camel) = none ∧ entries.get? (.text field.snake) = none := by
  unfold field?
  cases entries.get? (.text field.camel) <;> simp

theorem mem_usedKeys_iff {fields : List Spelling} {name : String} :
    name ∈ entries.usedKeys fields ↔
      entries.has (.text name) = true ∧
        ∃ field ∈ fields, entries.gives field (.text name) = true := by
  simp only [usedKeys, List.mem_filterMap, Option.map_eq_some_iff]
  rw [← isSome_get?, Option.isSome_iff_exists]
  constructor
  · rintro ⟨field, hField, ⟨_, v⟩, hGiven, rfl⟩
    obtain ⟨hGives, hGet⟩ := field?_eq_some_iff.mp hGiven
    exact ⟨⟨v, hGet⟩, field, hField, hGives⟩
  · rintro ⟨⟨v, hGet⟩, field, hField, hGives⟩
    exact ⟨field, hField, (name, v), field?_eq_some_iff.mpr ⟨hGives, hGet⟩, rfl⟩

theorem gives_eq_false_of_not_text {field : Spelling} (h : key.text? = none) :
    entries.gives field key = false := by
  have hText : ∀ name, key ≠ .text name := by
    rintro name rfl
    cases h
  simp [gives, hText]

/-- What is carried along is what gives no field. -/
theorem unknown_eq (entries : Entries) (fields : List Spelling) :
    entries.unknown fields =
      entries.filter fun e => !fields.any fun field => entries.gives field e.1 := by
  apply List.filter_congr
  rintro ⟨key, v⟩ he
  cases hName : key.text? with
  | none => simp [gives_eq_false_of_not_text hName]
  | some name =>
    cases Key.text?_eq_some_iff.mp hName
    have hHas : entries.has (.text name) = true := List.any_eq_true.mpr ⟨_, he, by simp⟩
    have hUsed : name ∈ entries.usedKeys fields ↔
        (fields.any fun field => entries.gives field (.text name)) = true := by
      simp [mem_usedKeys_iff, hHas]
    exact congrArg not (Bool.eq_iff_iff.mpr (List.contains_iff_mem.trans hUsed))

theorem get?_unknown (entries : Entries) (fields : List Spelling) (key : Key) :
    (entries.unknown fields).get? key =
      if fields.any fun field => entries.gives field key then none else entries.get? key := by
  rw [unknown_eq, get?_filter_key fun key => !fields.any fun field => entries.gives field key]
  cases fields.any fun field => entries.gives field key <;> rfl

/-- Nothing but null stands under the snake spelling of a field. -/
def SilentOn (entries : Entries) (field : Spelling) : Prop :=
  (entries.get? (.text field.snake)).bind Value.given? = none

/-- JSON entries that a record with these fields can carry along. -/
structure Foreign (fields : List Spelling) (entries : Entries) : Prop extends entries.IsJson where
  camel : ∀ field ∈ fields, Key.text field.camel ∉ entries.keys

theorem foreign_nil (fields : List Spelling) : Foreign fields [] :=
  ⟨⟨⟨List.nodup_nil, nofun⟩, nofun⟩, fun _ _ => List.not_mem_nil⟩

theorem IsJson.unknown (h : entries.IsJson) (fields : List Spelling) :
    (entries.unknown fields).Foreign fields where
  toIsJson := by
    rw [unknown_eq]
    exact h.sublist List.filter_sublist
  camel field hField := by
    have hGives : (fields.any fun other => entries.gives other (.text field.camel)) = true :=
      List.any_eq_true.mpr ⟨field, hField, by simp [gives]⟩
    rw [← get?_eq_none_iff, get?_unknown, if_pos hGives]

end Entries

end BuildSync
