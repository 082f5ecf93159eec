import BuildSync.Dump
import Mathlib.Data.List.Nodup

/-!
# JSON values

What a JSON text can hold: no loops, no bytes or timestamps, only finite numbers, and objects whose
keys are distinct texts. Such a value has nothing to graft and is written as it is, unless it is
nested too deep. A document that is read may also have broken strings for keys and other scalars.
-/

set_option autoImplicit false

namespace BuildSync

namespace Entries

def keys (entries : Entries) : List Key := entries.map Prod.fst

/-- No key occurs twice, and all keys are texts. -/
structure IsObject (entries : Entries) : Prop where
  nodup : entries.keys.Nodup
  text : ∀ key ∈ entries.keys, ∃ name, key = .text name

end Entries

def Scalar.IsJson : Scalar → Prop
  | .bytes _ | .timestamp _ | .double (.infinite _) | .double .notANumber => False
  | _ => True

inductive Value.IsJson : Value → Prop
  | scalar {s : Scalar} (h : s.IsJson) : IsJson (.scalar s)
  | list {items : List Value} (hItems : ∀ v ∈ items, IsJson v) : IsJson (.list items)
  | map {entries : Entries} (hObject : entries.IsObject) (hValues : ∀ e ∈ entries, IsJson e.2) :
    IsJson (.map entries)

/-- The entries of a JSON object. -/
structure Entries.IsJson (entries : Entries) : Prop extends entries.IsObject where
  value : ∀ e ∈ entries, e.2.IsJson

/-- A text, or a string that is broken by surrogates. -/
def Key.IsString : Key → Prop
  | .text _ => True
  | .scalar (.brokenText codes) => codes.any Text.isSurrogate = true
  | _ => False

/-- No key occurs twice, and all keys are strings. -/
structure Entries.HasStringKeys (entries : Entries) : Prop where
  nodup : entries.keys.Nodup
  string : ∀ key ∈ entries.keys, key.IsString

/-- A value without loops that holds only lists and objects, with any scalars in them. -/
inductive Value.IsDocument : Value → Prop
  | scalar (s : Scalar) : IsDocument (.scalar s)
  | list {items : List Value} (hItems : ∀ v ∈ items, IsDocument v) : IsDocument (.list items)
  | map {entries : Entries} (hKeys : entries.HasStringKeys)
    (hValues : ∀ e ∈ entries, IsDocument e.2) : IsDocument (.map entries)

theorem Value.IsJson.isDocument {v : Value} (h : v.IsJson) : v.IsDocument := by
  induction h with
  | scalar => exact .scalar _
  | list _ ih => exact .list ih
  | map hObject _ ih =>
    refine .map ⟨hObject.nodup, fun key hKey => ?_⟩ ih
    obtain ⟨name, rfl⟩ := hObject.text key hKey
    exact trivial

theorem Value.isJson_map_iff {entries : Entries} : (Value.map entries).IsJson ↔ entries.IsJson :=
  ⟨fun h => by cases h with | map hObject hValues => exact ⟨hObject, hValues⟩,
    fun h => .map h.toIsObject h.value⟩

/-- An object with these names and values. -/
def Value.object (fields : List (String × Value)) : Value :=
  .map (fields.map fun f => (Key.text f.1, f.2))

@[simp]
theorem Value.isJson_text (s : String) : (Value.text s).IsJson := .scalar trivial

@[simp]
theorem Value.isJson_null : Value.null.IsJson := .scalar trivial

@[simp]
theorem Value.isJson_list_iff {items : List Value} :
    (Value.list items).IsJson ↔ ∀ v ∈ items, v.IsJson :=
  ⟨fun h => by cases h; assumption, .list⟩

@[simp]
theorem Value.isJson_object_iff {fields : List (String × Value)} :
    (Value.object fields).IsJson ↔ (fields.map Prod.fst).Nodup ∧ ∀ f ∈ fields, f.2.IsJson := by
  have hKeys : Entries.keys (fields.map fun f => (Key.text f.1, f.2)) =
      (fields.map Prod.fst).map Key.text := by
    simp [Entries.keys, Function.comp_def]
  have hText : Function.Injective Key.text := fun _ _ h => by simpa using h
  rw [Value.object, isJson_map_iff]
  constructor
  · intro h
    refine ⟨List.Nodup.of_map Key.text (hKeys ▸ h.nodup), fun f hf => ?_⟩
    exact h.value _ (List.mem_map_of_mem (f := fun f => (Key.text f.1, f.2)) hf)
  · rintro ⟨hNodup, hValues⟩
    refine ⟨⟨hKeys ▸ hNodup.map hText, ?_⟩, ?_⟩
    · rw [hKeys]
      intro key hKey
      obtain ⟨name, _, rfl⟩ := List.mem_map.mp hKey
      exact ⟨name, rfl⟩
    · intro e he
      obtain ⟨f, hf, rfl⟩ := List.mem_map.mp he
      exact hValues f hf

theorem Scalar.plain_of_isJson {s : Scalar} (h : s.IsJson) : s.plain = s := by
  cases s <;> first | rfl | cases h

/-! ### The functions on lists and entries -/

namespace Value

theorem graftItems_eq (whole : Value) (depth : Nat) (items : List Value) :
    graftItems whole depth items = items.map (graft whole depth) := by
  induction items with
  | nil => rfl
  | cons v items ih => rw [graftItems, ih, List.map_cons]

theorem graftEntries_eq (whole : Value) (depth : Nat) (entries : Entries) :
    graftEntries whole depth entries = entries.map fun e => (e.1, graft whole depth e.2) := by
  induction entries with
  | nil => rfl
  | cons e entries ih => rw [graftEntries, ih, List.map_cons]

theorem plainItems_eq (items : List Value) : plainItems items = items.map plain := by
  induction items with
  | nil => rfl
  | cons v items ih => rw [plainItems, ih, List.map_cons]

theorem put_eq_append {entries : Entries} {key : Key} (h : key ∉ entries.keys) (v : Value) :
    entries.put key v = entries ++ [(key, v)] := by
  induction entries with
  | nil => rfl
  | cons e entries ih =>
    have hHead : ¬e.1 = key := fun hKey => h (by simp [Entries.keys, hKey])
    have hTail : key ∉ Entries.keys entries := fun hKey => h (List.mem_cons_of_mem _ hKey)
    rw [Entries.put, if_neg hHead, ih hTail, List.cons_append]

/-- Entries under keys of their own are put behind those that are there. -/
theorem foldl_put_eq_append {entries : Entries} :
    ∀ done : Entries, (Entries.keys (done ++ entries)).Nodup →
      entries.foldl (fun done e => done.put e.1 e.2) done = done ++ entries := by
  induction entries with
  | nil => exact fun done _ => (List.append_nil done).symm
  | cons e entries ih =>
    intro done hNodup
    have hKey : e.1 ∉ done.keys := by
      rw [Entries.keys, List.map_append, List.nodup_append] at hNodup
      exact fun hDone => hNodup.2.2 e.1 hDone e.1 List.mem_cons_self rfl
    have hNext : done ++ [e] ++ entries = done ++ e :: entries := by simp
    rw [List.foldl_cons, put_eq_append hKey, ih _ (hNext ▸ hNodup), hNext]

theorem plainEntries_eq_foldl {entries : Entries}
    (hText : ∀ key ∈ entries.keys, ∃ name, key = .text name) :
    ∀ done : Entries, plainEntries entries done =
      (entries.map fun e => (e.1, e.2.plain)).foldl (fun done e => done.put e.1 e.2) done := by
  induction entries with
  | nil => exact fun _ => rfl
  | cons e entries ih =>
    intro done
    obtain ⟨key, v⟩ := e
    obtain ⟨name, rfl⟩ := hText key List.mem_cons_self
    have hPlain : Key.plainText (.text name) = name := rfl
    rw [plainEntries, hPlain, ih fun key h => hText key (List.mem_cons_of_mem _ h)]
    rfl

/-- The keys of an object stay apart and in place. -/
theorem plainEntries_eq {entries : Entries} (hObject : entries.IsObject) :
    plainEntries entries [] = entries.map fun e => (e.1, e.2.plain) := by
  have hKeys : Entries.keys (entries.map fun e => (e.1, e.2.plain)) = entries.keys := by
    simp [Entries.keys, Function.comp_def]
  rw [plainEntries_eq_foldl hObject.text, foldl_put_eq_append [] (hKeys ▸ hObject.nodup),
    List.nil_append]

theorem itemsFault?_eq (depth : Nat) (items : List Value) :
    itemsFault? depth items = items.findSome? (dumpFault? depth) := by
  induction items with
  | nil => rfl
  | cons v items ih =>
    rw [itemsFault?, ih, List.findSome?_cons]
    cases v.dumpFault? depth <;> rfl

/-- The keys of an object can always be written. -/
theorem entriesFault?_eq {entries : Entries} (hObject : entries.IsObject) (depth : Nat) :
    entriesFault? depth entries = entries.findSome? fun e => e.2.dumpFault? depth := by
  obtain ⟨hNodup, hText⟩ := hObject
  induction entries with
  | nil => rfl
  | cons e entries ih =>
    obtain ⟨key, v⟩ := e
    obtain ⟨name, rfl⟩ := hText key List.mem_cons_self
    have hKey : Key.keyFault? (.text name) = none := rfl
    rw [entriesFault?, hKey, List.findSome?_cons,
      ih (List.nodup_cons.mp hNodup).2 fun key h => hText key (List.mem_cons_of_mem _ h)]
    cases v.dumpFault? depth <;> rfl

/-! ### Nesting -/

theorem depthFault?_eq_none_iff {depth : Nat} :
    depthFault? depth = none ↔ depth + 1 ≤ maxDumpDepth := by
  unfold depthFault?
  split <;> simp <;> omega

mutual

/-- The most values around one another in a JSON value, itself among them. -/
def levels : Value → Nat
  | .list items => itemsLevels items + 1
  | .map entries => entriesLevels entries + 1
  | _ => 1

def itemsLevels : List Value → Nat
  | [] => 0
  | v :: rest => max (levels v) (itemsLevels rest)

def entriesLevels : List (Key × Value) → Nat
  | [] => 0
  | (_, v) :: rest => max (levels v) (entriesLevels rest)

end

theorem itemsLevels_le_iff {n : Nat} {items : List Value} :
    itemsLevels items ≤ n ↔ ∀ v ∈ items, v.levels ≤ n := by
  induction items with
  | nil => simp [itemsLevels]
  | cons v items ih => rw [itemsLevels, Nat.max_le, ih, List.forall_mem_cons]

theorem entriesLevels_le_iff {n : Nat} {entries : Entries} :
    entriesLevels entries ≤ n ↔ ∀ e ∈ entries, e.2.levels ≤ n := by
  induction entries with
  | nil => simp [entriesLevels]
  | cons e entries ih => rw [entriesLevels, Nat.max_le, ih, List.forall_mem_cons]

/-- A text inside so many lists. -/
def nested : Nat → Value
  | 0 => .text "end"
  | n + 1 => .list [nested n]

theorem isJson_nested (n : Nat) : (nested n).IsJson := by
  induction n with
  | zero => exact isJson_text _
  | succ n ih => exact .list (by simpa using ih)

theorem levels_nested (n : Nat) : (nested n).levels = n + 1 := by
  induction n with
  | zero => simp [nested, levels]
  | succ n ih => simp [nested, levels, itemsLevels, ih]

theorem eq_tooDeep_of_depthFault? {depth : Nat} {fault : DumpFault}
    (h : depthFault? depth = some fault) : fault = .tooDeep := by
  unfold depthFault? at h
  split at h
  · exact (Option.some_inj.mp h).symm
  · cases h

/-- A collection stays within a bound if it and all that it holds, one level below, do. -/
theorem below_iff {α : Type} {parts : List α} {level : α → Nat} {most depth bound : Nat}
    (hMost : ∀ n, most ≤ n ↔ ∀ a ∈ parts, level a ≤ n) :
    (depth + 1 ≤ bound ∧ ∀ a ∈ parts, depth + 1 + level a ≤ bound) ↔
      depth + (most + 1) ≤ bound := by
  constructor
  · rintro ⟨hDepth, hParts⟩
    have hBelow : most ≤ bound - (depth + 1) := by
      refine (hMost _).mpr fun a ha => ?_
      have hPart := hParts a ha
      omega
    omega
  · intro h
    refine ⟨by omega, fun a ha => ?_⟩
    have hPart := (hMost most).mp (Nat.le_refl most) a ha
    omega

end Value

/-! ### Reading and writing JSON values -/

/-- There is no loop in which something could be put. -/
theorem Value.IsDocument.graft_eq {v : Value} (h : v.IsDocument) (whole : Value) (depth : Nat) :
    graft whole depth v = v := by
  induction h generalizing depth with
  | scalar => rfl
  | @list items _ ih =>
    rw [graft, graftItems_eq, List.map_congr_left fun v hv => ih v hv (depth + 1)]
    exact congrArg Value.list items.map_id
  | @map entries _ _ ih =>
    rw [graft, graftEntries_eq,
      List.map_congr_left fun e he => congrArg (Prod.mk e.1) (ih e he (depth + 1))]
    exact congrArg Value.map entries.map_id

/-- A list is opened as it is. -/
theorem Value.items?_list {items : List Value} (h : ∀ v ∈ items, v.IsDocument) :
    (Value.list items).items? = some items := by
  rw [Value.items?, Value.graftItems_eq, List.map_congr_left fun v hv => (h v hv).graft_eq _ 0]
  exact congrArg some items.map_id

/-- An object is opened as it is. -/
theorem Value.entries?_map {entries : Entries} (h : ∀ e ∈ entries, e.2.IsDocument) :
    (Value.map entries).entries? = some entries := by
  rw [Value.entries?, Value.graftEntries_eq,
    List.map_congr_left fun e he => congrArg (Prod.mk e.1) ((h e he).graft_eq _ 0)]
  exact congrArg some entries.map_id

namespace Value.IsJson

variable {v : Value}

theorem plain_eq (h : v.IsJson) : v.plain = v := by
  induction h with
  | scalar hScalar => exact congrArg Value.scalar (Scalar.plain_of_isJson hScalar)
  | @list items _ ih =>
    rw [plain, plainItems_eq, List.map_congr_left ih]
    exact congrArg Value.list items.map_id
  | @map entries hObject _ ih =>
    rw [plain, plainEntries_eq hObject,
      List.map_congr_left fun e he => congrArg (Prod.mk e.1) (ih e he)]
    exact congrArg Value.map entries.map_id

/-- Only the nesting can stand in the way of writing. -/
theorem dumpFault?_eq_none_iff (h : v.IsJson) (depth : Nat) :
    v.dumpFault? depth = none ↔ depth + v.levels ≤ maxDumpDepth := by
  induction h generalizing depth with
  | @scalar s hScalar =>
    have hFault : s.dumpFault? depth = depthFault? depth := by
      cases s <;> first | rfl | cases hScalar
    have hLevels : levels (.scalar s) = 1 := by simp [levels]
    rw [dumpFault?, hFault, hLevels, depthFault?_eq_none_iff]
  | @list items _ ih =>
    simp only [dumpFault?, Option.orElse_eq_orElse, Option.orElse_eq_or, Option.or_eq_none_iff,
      depthFault?_eq_none_iff, itemsFault?_eq, List.findSome?_eq_none_iff, levels]
    rw [forall₂_congr fun v hv => ih v hv (depth + 1)]
    exact below_iff fun n => itemsLevels_le_iff
  | @map entries hObject _ ih =>
    simp only [dumpFault?, Option.orElse_eq_orElse, Option.orElse_eq_or, Option.or_eq_none_iff,
      depthFault?_eq_none_iff, entriesFault?_eq hObject, List.findSome?_eq_none_iff, levels]
    rw [forall₂_congr fun e he => ih e he (depth + 1)]
    exact below_iff fun n => entriesLevels_le_iff

theorem eq_tooDeep_of_dumpFault? (h : v.IsJson) {depth : Nat} {fault : DumpFault}
    (hFault : v.dumpFault? depth = some fault) : fault = .tooDeep := by
  induction h generalizing depth with
  | @scalar s hScalar =>
    have hDepth : s.dumpFault? depth = depthFault? depth := by
      cases s <;> first | rfl | cases hScalar
    rw [dumpFault?, hDepth] at hFault
    exact eq_tooDeep_of_depthFault? hFault
  | list _ ih =>
    rw [dumpFault?, Option.orElse_eq_orElse, Option.orElse_eq_or, Option.or_eq_some_iff,
      itemsFault?_eq] at hFault
    rcases hFault with hDepth | ⟨_, hItems⟩
    · exact eq_tooDeep_of_depthFault? hDepth
    · obtain ⟨v, hv, hPart⟩ := List.exists_of_findSome?_eq_some hItems
      exact ih v hv hPart
  | map hObject _ ih =>
    rw [dumpFault?, Option.orElse_eq_orElse, Option.orElse_eq_or, Option.or_eq_some_iff,
      entriesFault?_eq hObject] at hFault
    rcases hFault with hDepth | ⟨_, hEntries⟩
    · exact eq_tooDeep_of_depthFault? hDepth
    · obtain ⟨e, he, hPart⟩ := List.exists_of_findSome?_eq_some hEntries
      exact ih e he hPart

end Value.IsJson

namespace Entries.IsJson

variable {entries : Entries} (h : entries.IsJson)

include h

theorem entries? : (Value.map entries).entries? = some entries :=
  Value.entries?_map fun e he => (h.value e he).isDocument

theorem plainEntries_eq : Value.plainEntries entries [] = entries := by
  rw [Value.plainEntries_eq h.toIsObject,
    List.map_congr_left fun e he => congrArg (Prod.mk e.1) (h.value e he).plain_eq]
  exact entries.map_id

theorem dumpFault?_eq : entries.dumpFault? = entries.findSome? fun e => e.2.dumpFault? 0 :=
  Value.entriesFault?_eq h.toIsObject 0

theorem dumpFault?_eq_none_iff :
    entries.dumpFault? = none ↔ ∀ e ∈ entries, e.2.levels ≤ maxDumpDepth := by
  rw [h.dumpFault?_eq, List.findSome?_eq_none_iff]
  refine forall₂_congr fun e he => ?_
  rw [(h.value e he).dumpFault?_eq_none_iff, Nat.zero_add]

theorem eq_tooDeep_of_dumpFault? {fault : DumpFault} (hFault : entries.dumpFault? = some fault) :
    fault = .tooDeep := by
  rw [h.dumpFault?_eq] at hFault
  obtain ⟨e, he, hValue⟩ := List.exists_of_findSome?_eq_some hFault
  exact (h.value e he).eq_tooDeep_of_dumpFault? hValue

end Entries.IsJson

/-! ### Dumps of what is carried along -/

def AllJson (carried : List Entries) : Prop := ∀ extras ∈ carried, extras.IsJson

/-- Nothing that is carried along is nested too deep to be written. -/
def AllShallow (carried : List Entries) : Prop :=
  ∀ extras ∈ carried, ∀ e ∈ extras, e.2.levels ≤ maxDumpDepth

instance (carried : List Entries) : Decidable (AllShallow carried) :=
  inferInstanceAs (Decidable (∀ extras ∈ carried, ∀ e ∈ extras, e.2.levels ≤ maxDumpDepth))

/-- A dump of what carries all this along, or why there is none. -/
def dumpCarrying (carried : List Entries) (dump : Value) : Except DumpFault Value :=
  match carried.findSome? Entries.dumpFault? with
  | some fault => .error fault
  | none => .ok dump

/-- Only the nesting of what is carried along can stand in the way of a dump. -/
theorem dumpCarrying_eq {carried : List Entries} (h : AllJson carried) (dump : Value) :
    dumpCarrying carried dump = if AllShallow carried then .ok dump else .error .tooDeep := by
  have hShallow : carried.findSome? Entries.dumpFault? = none ↔ AllShallow carried := by
    rw [List.findSome?_eq_none_iff]
    exact forall₂_congr fun extras hExtras => (h extras hExtras).dumpFault?_eq_none_iff
  unfold dumpCarrying
  cases hFault : carried.findSome? Entries.dumpFault? with
  | none => rw [if_pos (hShallow.mp hFault)]
  | some fault =>
    have hDeep : ¬AllShallow carried := by
      rw [← hShallow, hFault]
      exact nofun
    obtain ⟨extras, hExtras, hPart⟩ := List.exists_of_findSome?_eq_some hFault
    rw [if_neg hDeep, (h extras hExtras).eq_tooDeep_of_dumpFault? hPart]

end BuildSync
