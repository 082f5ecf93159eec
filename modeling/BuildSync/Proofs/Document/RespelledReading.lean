import BuildSync.Proofs.Document.Respelling

/-!
# Reading documents in another spelling

A record takes each of its fields from the other spelling as well, and counts as unknown the same
entries. So a check that is put together from checks that ignore spelling ignores it too.
-/

set_option autoImplicit false

namespace BuildSync

theorem Entries.field?_eq_none_iff_names {entries : Entries} {field : Spelling} :
    entries.field? field = none ↔ ∀ e ∈ entries, ¬field.Names e.1 := by
  have hKey : ∀ key, key ∉ entries.keys ↔ ∀ e ∈ entries, e.1 ≠ key :=
    fun key => by simp only [keys, List.mem_map, not_exists, not_and, ne_eq]
  rw [field?_eq_none_iff, get?_eq_none_iff, get?_eq_none_iff, hKey, hKey, ← forall₂_and]
  exact forall₂_congr fun _ _ => not_or.symm

theorem Entries.relocate_refuse {f : List Step → List Step} {entries : Entries}
    {fault : Key → Option Fault} (h : ∀ e ∈ entries, f [keyStep e.1] = [keyStep e.1]) :
    (entries.refuse fault).relocate f = entries.refuse fault := by
  unfold refuse
  split
  · rfl
  · refine congrArg Checked.invalid ((List.map_congr_left fun i hi => ?_).trans (List.map_id' _))
    obtain ⟨e, he, hIssue⟩ := List.mem_filterMap.mp hi
    obtain ⟨_, _, rfl⟩ := Option.map_eq_some_iff.mp hIssue
    rw [Issue.relocate, h e he]

/-! ### Records -/

namespace Layout

variable {layout : Layout} {entries others : Entries}

theorem EntryAlike.names_iff {e other : Key × Value} (h : layout.EntryAlike e other)
    {part : Spelling × Respelling} (hPart : part ∈ layout.parts) :
    part.1.Names e.1 ↔ part.1.Names other.1 := by
  cases h with
  | field hFound hKey hOther _ =>
    constructor
    · intro hName
      rwa [part_unique hPart hFound hName hKey]
    · intro hName
      rwa [part_unique hPart hFound hName hOther]
  | extra => rfl

theorem filter_extra_eq (h : List.Forall₂ layout.EntryAlike entries others) :
    (others.filter fun e => !layout.fields.any fun field => field.Names e.1) =
      entries.filter fun e => !layout.fields.any fun field => field.Names e.1 := by
  induction h with
  | nil => rfl
  | cons hHead _ ih =>
    cases hHead with
    | @field part key other _ _ hPart hKey hOther _ =>
      have hNamed : ∀ name, part.1.Names name →
          (layout.fields.any fun field => decide (field.Names name)) = true := fun name hName =>
        List.any_eq_true.mpr ⟨part.1, List.mem_map_of_mem hPart, decide_eq_true hName⟩
      rw [List.filter_cons_of_neg (by simp [hNamed other hOther]),
        List.filter_cons_of_neg (by simp [hNamed key hKey]), ih]
    | extra _ hExtra =>
      rw [List.filter_cons_of_pos (by simpa using hExtra),
        List.filter_cons_of_pos (by simpa using hExtra), ih]

/-- Objects in documents that are alike as this record. -/
structure AlikeObjects (layout : Layout) (entries others : Entries) : Prop
    extends layout.Alike entries others where
  keys : entries.HasStringKeys
  otherKeys : others.HasStringKeys
  value : ∀ e ∈ entries, e.2.IsDocument
  otherValue : ∀ e ∈ others, e.2.IsDocument

namespace AlikeObjects

variable (h : layout.AlikeObjects entries others)

include h

theorem unknown_eq : others.unknown layout.fields = entries.unknown layout.fields := by
  rw [h.once.unknown_eq, h.otherOnce.unknown_eq, filter_extra_eq h.entry]

section

variable {field : Spelling} {r : Respelling} (hPart : (field, r) ∈ layout.parts)

include hPart

theorem field?_eq_none (hField : entries.field? field = none) : others.field? field = none := by
  rw [Entries.field?_eq_none_iff_names] at hField ⊢
  intro other hMem
  obtain ⟨e, he, hEntry⟩ := exists_of_mem_of_forall₂ (List.Forall₂.flip h.entry) hMem
  exact fun hName => hField e he ((hEntry.names_iff hPart).mpr hName)

theorem exists_field? {name : String} {v : Value} (hField : entries.field? field = some (name, v)) :
    ∃ spelled w, others.field? field = some (spelled, w) ∧ r.alike v w := by
  have hMem : field ∈ layout.fields := List.mem_map_of_mem hPart
  obtain ⟨hName, hEntry⟩ := (h.once.field?_eq_some_iff hMem h.keys.nodup).mp hField
  obtain ⟨_, hOtherEntry, hAlike⟩ := exists_of_mem_of_forall₂ h.entry hEntry
  cases hAlike with
  | @field part _ key _ w hFound hKey hOtherKey hValue =>
    obtain rfl := part_unique hPart hFound hName hKey
    obtain ⟨spelled, rfl⟩ : ∃ spelled, key = .text spelled := by
      rcases hOtherKey with rfl | rfl <;> exact ⟨_, rfl⟩
    exact ⟨spelled, w, (h.otherOnce.field?_eq_some_iff hMem h.otherKeys.nodup).mpr
      ⟨hOtherKey, hOtherEntry⟩, hValue⟩
  | extra _ hExtra => exact absurd hName (hExtra field hMem)

variable {α : Type} {check : Value → Checked α} (hCheck : r.IgnoredBy check)

include hCheck

/-- A field is read as in the other spelling, with its issues below the name it has there. -/
theorem check_field {name : String} {v : Value} (hField : entries.field? field = some (name, v)) :
    ∃ spelled w, others.field? field = some (spelled, w) ∧
      (check w).under (.key spelled) =
        ((check v).under (.key name)).relocate (layout.locate others) := by
  obtain ⟨spelled, w, hOtherField, hAlike⟩ := h.exists_field? hPart hField
  have hValue : v.IsDocument :=
    h.value _ (Entries.mem_of_get? (Entries.field?_eq_some_iff.mp hField).2)
  have hOtherValue : w.IsDocument :=
    h.otherValue _ (Entries.mem_of_get? (Entries.field?_eq_some_iff.mp hOtherField).2)
  refine ⟨spelled, w, hOtherField, ?_⟩
  rw [Checked.relocate_under
      (locate_of_field? hPart (Entries.names_of_field? hField) hOtherField),
    hCheck v w hValue hOtherValue hAlike]

theorem required_eq : others.required field check =
    (entries.required field check).relocate (layout.locate others) := by
  unfold Entries.required
  cases hField : entries.field? field with
  | none =>
    have hAbsent := h.field?_eq_none hPart hField
    simp only [hAbsent]
    rw [Checked.relocate_under (locate_of_absent hPart hAbsent)]
    rfl
  | some found =>
    obtain ⟨spelled, w, hOtherField, hRead⟩ := h.check_field hPart hCheck hField
    simp only [hOtherField, hRead]

theorem defaulted_eq (default : α) : others.defaulted field default check =
    (entries.defaulted field default check).relocate (layout.locate others) := by
  unfold Entries.defaulted
  cases hField : entries.field? field with
  | none => simp only [h.field?_eq_none hPart hField, Checked.relocate_ok]
  | some found =>
    obtain ⟨spelled, w, hOtherField, hRead⟩ := h.check_field hPart hCheck hField
    simp only [hOtherField, hRead]

theorem optional_eq : others.optional field check =
    (entries.optional field check).relocate (layout.locate others) := by
  refine h.defaulted_eq hPart ?_ none
  intro v w hDocument hOther hAlike
  simp only [← r.isNull_eq hAlike, hCheck v w hDocument hOther hAlike]
  split <;> simp

end

theorem locate_unknown : ∀ e ∈ entries.unknown layout.fields,
    layout.locate others [Entries.keyStep e.1] = [Entries.keyStep e.1] := by
  intro e he
  rw [h.once.unknown_eq, List.mem_filter] at he
  exact locate_keyStep (h.keys.string e.1 (List.mem_map_of_mem he.1)) (by simpa using he.2)

theorem extras_eq : others.extras layout.fields =
    (entries.extras layout.fields).relocate (layout.locate others) := by
  simp only [Entries.extras, h.unknown_eq, Checked.relocate_map,
    Entries.relocate_refuse h.locate_unknown]

theorem noExtras_eq : others.noExtras layout.fields =
    (entries.noExtras layout.fields).relocate (layout.locate others) := by
  rw [Entries.noExtras, h.unknown_eq, Entries.noExtras, Entries.relocate_refuse h.locate_unknown]

end AlikeObjects

end Layout

namespace Respelling

variable {α : Type}

theorem ignoredBy_record {layout : Layout} {model : String} {read : Entries → Checked α}
    (h : ∀ {entries others : Entries}, layout.AlikeObjects entries others →
      read others = (read entries).relocate (layout.locate others)) :
    (record layout).IgnoredBy (Value.record model read) := by
  intro v w hDocument hOther hAlike
  cases hAlike with
  | @map entries others hEntries =>
    cases hDocument with
    | map hKeys hValues =>
      cases hOther with
      | map hOtherKeys hOtherValues =>
        simp only [Value.record, record, Value.entries?_map hValues,
          Value.entries?_map hOtherValues, Option.getD_some]
        exact h ⟨hEntries, hKeys, hOtherKeys, hValues, hOtherValues⟩
  | other hNone =>
    simp only [Value.record, hNone]
    rfl

/-! ### Lists -/

section

variable {item : Respelling} {check : Value → Checked α} (hCheck : item.IgnoredBy check)

include hCheck

theorem IgnoredBy.items {items others : List Value} (hAlike : List.Forall₂ item.alike items others)
    (hDocument : ∀ v ∈ items, v.IsDocument) (hOther : ∀ v ∈ others, v.IsDocument)
    {f : List Step → List Step} {start : Nat} (hLocate : ∀ i v, others[i]? = some v → ∀ rest,
      f (.index ↑(start + i) :: rest) = .index ↑(start + i) :: item.locate v rest) :
    Checked.items check start others = (Checked.items check start items).relocate f := by
  -- The positions are those in the whole list, so `start` moves along with the items.
  induction hAlike generalizing start with
  | nil => rfl
  | @cons v w items others hHead _ ih =>
    obtain ⟨hValue, hValues⟩ := List.forall_mem_cons.mp hDocument
    obtain ⟨hOtherValue, hOtherValues⟩ := List.forall_mem_cons.mp hOther
    have hRest : Checked.items check (start + 1) others =
        (Checked.items check (start + 1) items).relocate f := by
      refine ih hValues hOtherValues fun i v hItem rest => ?_
      rw [Nat.add_right_comm, Nat.add_assoc]
      exact hLocate (i + 1) v hItem rest
    have hFirst := Checked.relocate_under (hLocate 0 w rfl) (check v)
    rw [← hCheck v w hValue hOtherValue hHead, Nat.add_zero] at hFirst
    simp only [Checked.items, Checked.relocate_seq, Checked.relocate_map, hRest, hFirst]

theorem ignoredBy_checkList : (list item).IgnoredBy (Value.checkList check) := by
  intro v w hDocument hOther hAlike
  cases hAlike with
  | list hItems =>
    cases hDocument with
    | list hDocuments =>
      cases hOther with
      | list hOthers =>
        simp only [Value.checkList, Value.items?_list hDocuments, Value.items?_list hOthers]
        refine hCheck.items hItems hDocuments hOthers fun i v hItem rest => ?_
        simp only [list, Value.items?_list hOthers, Option.getD_some, Nat.zero_add,
          Int.toNat_natCast, hItem, Option.elim_some]
  | other hNone =>
    simp only [Value.checkList, hNone]
    rfl

end

end Respelling

/-! ### Variants -/

theorem Value.variant_eq {α : Type} (tags : List String) (read : String → Value → Checked α)
    (v : Value) : variant tags read v =
      match v.tag? with
      | none => .fail .notVariant
      | some none => .fail .tagMissing
      | some (some (.text tag)) =>
        if tags.contains tag then (read tag v).under (.key tag) else .fail (.tagUnknown tag tags)
      | some (some tag) => .fail (.tagUnknown tag.display tags) := by
  unfold variant tag?
  cases v.entries? with
  | none => rfl
  | some r =>
    dsimp only [Option.map_some]
    cases r.get? (.text "kind") with
    | none => rfl
    | some w =>
      cases w with
      | scalar s => cases s <;> rfl
      | _ => rfl

theorem Respelling.ignoredBy_variant {α : Type} {kinds : List (String × Respelling)}
    {read : String → Value → Checked α}
    (h : ∀ kind ∈ kinds, kind.2.IgnoredBy (read kind.1)) :
    (variant kinds).IgnoredBy (Value.variant (kinds.map Prod.fst) read) := by
  intro v w hDocument hOther ⟨hTag, _, hAlike⟩
  rw [Value.variant_eq, Value.variant_eq, ← hTag]
  split
  · rfl
  · rfl
  · rename_i tag hText
    have hOtherText : w.tag? = some (some (.text tag)) := hTag.symm.trans hText
    split
    · rename_i hKnown
      obtain ⟨r, hFound⟩ : ∃ r, kinds.lookup tag = some r := by
        obtain ⟨kind, hMem, hName⟩ := List.mem_map.mp (List.contains_iff_mem.mp hKnown)
        exact Option.isSome_iff_exists.mp
          (List.lookup_isSome_iff.mpr ⟨kind, hMem, beq_iff_eq.mpr hName.symm⟩)
      have hRead : r.IgnoredBy (read tag) := h (tag, r) (mem_of_lookup hFound)
      have hLocate : ∀ rest, (variant kinds).locate w (.key tag :: rest) =
          .key tag :: r.locate w rest := by
        simp [variant, ofTag?_eq hOtherText, hFound]
      rw [Checked.relocate_under hLocate,
        hRead v w hDocument hOther (hAlike r ((ofTag?_eq hText).trans hFound))]
    · rfl
  · rfl

end BuildSync
