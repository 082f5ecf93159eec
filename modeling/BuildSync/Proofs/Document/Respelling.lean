import BuildSync.Proofs.Document.Reading

/-!
# Documents in another spelling

Two documents can differ in how they spell the fields of the models they are read as. A check then
reads the same from both. Where it refuses one of them it refuses the other for the same faults, and
a location leads through each document in the spelling that this document has.
-/

set_option autoImplicit false

namespace BuildSync

/-! ### Issues at other locations -/

def Issue.relocate (f : List Step → List Step) (i : Issue) : Issue :=
  { i with location := f i.location }

def ValidationError.relocate (f : List Step → List Step) (e : ValidationError) : ValidationError :=
  { e with issues := e.issues.map (Issue.relocate f) }

namespace Checked

variable {α β : Type}

def relocate (f : List Step → List Step) : Checked α → Checked α
  | .ok a => .ok a
  | .invalid issues => .invalid (issues.map (Issue.relocate f))

@[simp]
theorem relocate_ok (f : List Step → List Step) (a : α) : (Checked.ok a).relocate f = .ok a := rfl

@[simp]
theorem relocate_map (f : List Step → List Step) (g : α → β) (a : Checked α) :
    (g <$> a).relocate f = g <$> a.relocate f := by
  cases a <;> rfl

@[simp]
theorem relocate_seq (f : List Step → List Step) (g : Checked (α → β)) (a : Checked α) :
    (g <*> a).relocate f = g.relocate f <*> a.relocate f := by
  cases g <;> cases a <;> simp [Seq.seq, ap, relocate]

theorem relocate_self {f : List Step → List Step} (h : ∀ location, f location = location)
    (a : Checked α) : a.relocate f = a := by
  cases a with
  | ok a => rfl
  | invalid issues =>
    have hIssue : ∀ i ∈ issues, Issue.relocate f i = i := fun i _ => by rw [Issue.relocate, h]
    rw [relocate, List.map_congr_left hIssue, List.map_id']

/-- Below a step the issues move as the locations behind it do. -/
theorem relocate_under {f g : List Step → List Step} {step other : Step}
    (h : ∀ rest, f (step :: rest) = other :: g rest) (a : Checked α) :
    (a.under step).relocate f = (a.relocate g).under other := by
  cases a with
  | ok a => rfl
  | invalid issues => simp [under, relocate, Issue.relocate, Function.comp_def, h]

theorem toExcept_relocate (f : List Step → List Step) (model : String) (a : Checked α) :
    (a.relocate f).toExcept model = (a.toExcept model).mapError (·.relocate f) := by
  cases a <;> rfl

end Checked

/-! ### Documents that differ in spelling -/

def Spelling.Names (field : Spelling) (key : Key) : Prop :=
  key = .text field.camel ∨ key = .text field.snake

instance (field : Spelling) (key : Key) : Decidable (field.Names key) :=
  inferInstanceAs (Decidable (_ ∨ _))

/-- The step as it is, or with another name of the same field. -/
inductive Step.Respells (fields : List Spelling) : Step → Step → Prop
  | same (step : Step) : Respells fields step step
  | field {field : Spelling} {name other : String} (hField : field ∈ fields)
    (hName : field.Names (.text name)) (hOther : field.Names (.text other)) :
    Respells fields (.key name) (.key other)

/-- How two values may differ in the spelling of fields, and a location as it is spelled in one of
them. -/
structure Respelling where
  alike : Value → Value → Prop
  locate : Value → List Step → List Step
  fields : List Spelling
  isNull_eq : ∀ {v w : Value}, alike v w → v.isNull = w.isNull
  respells : ∀ v location, List.Forall₂ (Step.Respells fields) location (locate v location)

/-- No spelling has the character in it that a location has in the place of what breaks a key. -/
def Spelling.Unbroken (field : Spelling) : Prop :=
  '\uFFFD' ∉ field.camel.toList ∧ '\uFFFD' ∉ field.snake.toList

instance (field : Spelling) : Decidable field.Unbroken := inferInstanceAs (Decidable (_ ∧ _))

/-- The fields of a record, each with how its values may differ. -/
structure Layout where
  parts : List (Spelling × Respelling)
  apart : (parts.map Prod.fst).Pairwise Spelling.Apart
  unbroken : ∀ field ∈ parts.map Prod.fst, field.Unbroken

/-- No field stands under both of its spellings. -/
def Entries.NamesOnce (fields : List Spelling) (entries : Entries) : Prop :=
  ∀ field ∈ fields, field.camel ≠ field.snake →
    .text field.camel ∉ entries.keys ∨ .text field.snake ∉ entries.keys

instance (fields : List Spelling) (entries : Entries) : Decidable (entries.NamesOnce fields) :=
  inferInstanceAs (Decidable (∀ field ∈ fields, _ → _))

namespace Layout

def fields (layout : Layout) : List Spelling := layout.parts.map Prod.fst

/-- The fields of the record and of all that it holds. -/
def allFields (layout : Layout) : List Spelling :=
  layout.fields ++ layout.parts.flatMap fun part => part.2.fields

/-- A field under one of its names and under one of them again, or an entry that is no field. -/
inductive EntryAlike (layout : Layout) : Key × Value → Key × Value → Prop
  | field {part : Spelling × Respelling} {key other : Key} {v w : Value}
    (hPart : part ∈ layout.parts) (hKey : part.1.Names key) (hOther : part.1.Names other)
    (hValue : part.2.alike v w) : EntryAlike layout (key, v) (other, w)
  | extra (e : Key × Value) (hExtra : ∀ field ∈ layout.fields, ¬field.Names e.1) :
    EntryAlike layout e e

structure Alike (layout : Layout) (entries others : Entries) : Prop where
  entry : List.Forall₂ layout.EntryAlike entries others
  once : entries.NamesOnce layout.fields
  otherOnce : others.NamesOnce layout.fields

inductive RecordAlike (layout : Layout) : Value → Value → Prop
  | map {entries others : Entries} (h : layout.Alike entries others) :
    RecordAlike layout (.map entries) (.map others)
  | other {v : Value} (h : v.entries? = none) : RecordAlike layout v v

/-- The location with its first step as the entries spell it, and so on below. -/
def locate (layout : Layout) (entries : Entries) : List Step → List Step
  | .key name :: rest =>
    match layout.parts.find? fun part => part.1.Names (.text name) with
    | some part =>
      match entries.field? part.1 with
      | some (spelled, v) => .key spelled :: part.2.locate v rest
      | none => .key name :: rest
    | none => .key name :: rest
  | location => location

end Layout

theorem Step.Respells.mono {fields more : List Spelling} (h : fields ⊆ more) {step other : Step}
    (hStep : step.Respells fields other) : step.Respells more other := by
  cases hStep with
  | same => exact .same _
  | field hField hName hOther => exact .field (h hField) hName hOther

theorem forall₂_respells_self (fields : List Spelling) (location : List Step) :
    List.Forall₂ (Step.Respells fields) location location :=
  List.forall₂_same.mpr fun step _ => .same step

theorem Entries.names_of_field? {entries : Entries} {field : Spelling} {name : String} {v : Value}
    (h : entries.field? field = some (name, v)) : field.Names (.text name) := by
  have hGives := (field?_eq_some_iff.mp h).1
  simp only [gives, Bool.or_eq_true, Bool.and_eq_true, beq_iff_eq] at hGives
  exact hGives.imp_right And.left

theorem Layout.respells (layout : Layout) (entries : Entries) (location : List Step) :
    List.Forall₂ (Step.Respells layout.allFields) location (layout.locate entries location) := by
  unfold locate
  split
  · rename_i name rest
    split
    · rename_i part hPart
      have hMem := List.mem_of_find?_eq_some hPart
      have hName : part.1.Names (.text name) := by simpa using List.find?_some hPart
      have hField : part.1 ∈ layout.allFields :=
        List.mem_append_left _ (List.mem_map_of_mem hMem)
      have hBelow : part.2.fields ⊆ layout.allFields := fun _ hInner =>
        List.mem_append_right _ (List.mem_flatMap.mpr ⟨part, hMem, hInner⟩)
      split
      · rename_i spelled v hGiven
        exact .cons (.field hField hName (Entries.names_of_field? hGiven))
          ((part.2.respells v rest).imp fun _ _ => Step.Respells.mono hBelow)
      · exact forall₂_respells_self _ _
    · exact forall₂_respells_self _ _
  · exact forall₂_respells_self _ _

inductive Value.ListAlike (item : Respelling) : Value → Value → Prop
  | list {items others : List Value} (h : List.Forall₂ item.alike items others) :
    ListAlike item (.list items) (.list others)
  | other {v : Value} (h : v.items? = none) : ListAlike item v v

/-- What stands in an object for its variant. -/
def Value.tag? (v : Value) : Option (Option Value) := v.entries?.map fun r => r.get? (.text "kind")

namespace Respelling

/-- A value with no fields in it. -/
def plain : Respelling where
  alike := Eq
  locate _ location := location
  fields := []
  isNull_eq h := h ▸ rfl
  respells _ := forall₂_respells_self _

def record (layout : Layout) : Respelling where
  alike := layout.RecordAlike
  locate v := layout.locate (v.entries?.getD [])
  fields := layout.allFields
  isNull_eq h := by cases h <;> rfl
  respells _ := layout.respells _

def list (item : Respelling) : Respelling where
  alike := Value.ListAlike item
  locate v
    | .index i :: rest =>
      .index i :: ((v.items?.getD [])[i.toNat]?).elim rest fun v => item.locate v rest
    | location => location
  fields := item.fields
  isNull_eq h := by cases h <;> rfl
  respells v location := by
    split
    · rename_i i rest
      refine .cons (.same _) ?_
      cases (v.items?.getD [])[i.toNat]? with
      | none => exact forall₂_respells_self _ _
      | some v => exact item.respells v _
    · exact forall₂_respells_self _ _

def ofTag? (kinds : List (String × Respelling)) (v : Value) : Option Respelling :=
  match v.tag? with
  | some (some (.text tag)) => kinds.lookup tag
  | _ => none

theorem ofTag?_eq {kinds : List (String × Respelling)} {v : Value} {tag : String}
    (h : v.tag? = some (some (.text tag))) : ofTag? kinds v = kinds.lookup tag := by
  rw [ofTag?, h]

theorem mem_of_lookup {kinds : List (String × Respelling)} {tag : String} {r : Respelling}
    (h : kinds.lookup tag = some r) : (tag, r) ∈ kinds := by
  obtain ⟨before, behind, rfl, _⟩ := List.lookup_eq_some_iff.mp h
  exact List.mem_append_right _ List.mem_cons_self

theorem mem_of_ofTag? {kinds : List (String × Respelling)} {v : Value} {r : Respelling}
    (h : ofTag? kinds v = some r) : ∃ tag, (tag, r) ∈ kinds := by
  unfold ofTag? at h
  split at h
  · exact ⟨_, mem_of_lookup h⟩
  · cases h

/-- Objects of a kind that is none of these are alike as any of them. -/
def variant (kinds : List (String × Respelling)) : Respelling where
  alike v w :=
    v.tag? = w.tag? ∧ (∃ kind ∈ kinds, kind.2.alike v w) ∧ ∀ r ∈ ofTag? kinds v, r.alike v w
  locate v
    | step :: rest => step :: (ofTag? kinds v).elim rest fun r => r.locate v rest
    | [] => []
  fields := kinds.flatMap fun kind => kind.2.fields
  isNull_eq h := by
    obtain ⟨_, ⟨kind, _, hAlike⟩, _⟩ := h
    exact kind.2.isNull_eq hAlike
  respells v location := by
    split
    · refine .cons (.same _) ?_
      cases hTag : ofTag? kinds v with
      | none => exact forall₂_respells_self _ _
      | some r =>
        obtain ⟨tag, hKind⟩ := mem_of_ofTag? hTag
        exact (r.respells v _).imp fun _ _ => Step.Respells.mono fun _ hField =>
          List.mem_flatMap.mpr ⟨(tag, r), hKind, hField⟩
    · exact .nil

theorem alike_of_tag {kinds : List (String × Respelling)} {v w : Value} {tag : String}
    {r : Respelling} (hTag : v.tag? = some (some (.text tag)))
    (hOther : w.tag? = some (some (.text tag))) (hKind : kinds.lookup tag = some r)
    (hAlike : r.alike v w) : (variant kinds).alike v w := by
  refine ⟨hTag.trans hOther.symm, ⟨_, mem_of_lookup hKind, hAlike⟩, ?_⟩
  intro other hFound
  rw [ofTag?_eq hTag, hKind] at hFound
  cases hFound
  exact hAlike

/-- From documents that are alike the check reads the same, or it refuses both for the same
faults. -/
def IgnoredBy {α : Type} (r : Respelling) (check : Value → Checked α) : Prop :=
  ∀ v w, v.IsDocument → w.IsDocument → r.alike v w → check w = (check v).relocate (r.locate w)

theorem ignoredBy_plain {α : Type} (check : Value → Checked α) : plain.IgnoredBy check := by
  rintro v _ _ _ rfl
  exact (Checked.relocate_self (fun _ => rfl) _).symm

theorem IgnoredBy.map {α β : Type} {r : Respelling} {check : Value → Checked α}
    (h : r.IgnoredBy check) (f : α → β) : r.IgnoredBy fun v => f <$> check v := by
  intro v w hDocument hOther hAlike
  simp only [Checked.relocate_map, h v w hDocument hOther hAlike]

end Respelling

/-! ### Fields in another spelling -/

theorem Text.mem_replaced {codes : List Nat} (h : codes.any isSurrogate = true) :
    '\uFFFD' ∈ (replaced codes).toList := by
  obtain ⟨code, hCode, hSurrogate⟩ := List.any_eq_true.mp h
  rw [replaced, String.toList_ofList, List.mem_flatMap]
  exact ⟨code, hCode, by simp [hSurrogate]⟩

theorem exists_of_mem_of_forall₂ {α β : Type} {R : α → β → Prop} {as : List α} {bs : List β}
    (h : List.Forall₂ R as bs) {a : α} (ha : a ∈ as) : ∃ b ∈ bs, R a b := by
  induction h with
  | nil => cases ha
  | cons hHead _ ih =>
    rcases List.mem_cons.mp ha with rfl | ha
    · exact ⟨_, List.mem_cons_self, hHead⟩
    · obtain ⟨b, hb, hR⟩ := ih ha
      exact ⟨b, List.mem_cons_of_mem _ hb, hR⟩

namespace Entries.NamesOnce

variable {entries : Entries} {fields : List Spelling} (h : entries.NamesOnce fields)
  {field : Spelling} (hField : field ∈ fields)

include h

include hField in
theorem gives_iff {key : Key} (hKey : key ∈ entries.keys) :
    entries.gives field key = true ↔ field.Names key := by
  rw [gives, ← isSome_get?, Bool.or_eq_true, Bool.and_eq_true, beq_iff_eq, beq_iff_eq]
  constructor
  · exact Or.imp_right And.left
  · rintro (hCamel | rfl)
    · exact .inl hCamel
    · by_cases hWord : field.camel = field.snake
      · exact .inl (hWord ▸ rfl)
      -- The camel spelling, which would be preferred, is not there as well.
      · have hCamel := (h field hField hWord).resolve_right (not_not_intro hKey)
        rw [get?_eq_none_iff.mpr hCamel]
        exact .inr ⟨rfl, rfl⟩

include hField in
theorem field?_eq_some_iff (hNodup : entries.keys.Nodup) {name : String} {v : Value} :
    entries.field? field = some (name, v) ↔
      field.Names (.text name) ∧ (.text name, v) ∈ entries := by
  rw [Entries.field?_eq_some_iff]
  constructor
  · rintro ⟨hGives, hGet⟩
    have hMem := mem_of_get? hGet
    exact ⟨(h.gives_iff hField (List.mem_map_of_mem hMem)).mp hGives, hMem⟩
  · rintro ⟨hNames, hMem⟩
    exact ⟨(h.gives_iff hField (List.mem_map_of_mem hMem)).mpr hNames, get?_of_mem hNodup hMem⟩

theorem unknown_eq : entries.unknown fields =
    entries.filter fun e => !fields.any fun field => field.Names e.1 := by
  rw [Entries.unknown_eq]
  refine List.filter_congr fun e he => ?_
  congr 1
  rw [Bool.eq_iff_iff, List.any_eq_true, List.any_eq_true]
  refine exists_congr fun field => and_congr_right fun hField => ?_
  rw [h.gives_iff hField (List.mem_map_of_mem he), decide_eq_true_iff]

end Entries.NamesOnce

namespace Layout

variable {layout : Layout}

theorem part_unique {part other : Spelling × Respelling} (hPart : part ∈ layout.parts)
    (hOther : other ∈ layout.parts) {key : Key} (hKey : part.1.Names key)
    (hOtherKey : other.1.Names key) : part = other := by
  have : Std.Symm fun a b : Spelling × Respelling => a.1.Apart b.1 := ⟨fun _ _ h => symm h⟩
  by_contra hNe
  obtain ⟨hCamel, hCamelSnake, hSnakeCamel, hSnake⟩ :=
    (List.pairwise_map.mp layout.apart).forall hPart hOther hNe
  rcases hKey with rfl | rfl <;> rcases hOtherKey with hName | hName
  all_goals
    injection hName with hName
    injection hName with hName
    contradiction

section

variable {entries others : Entries} {part : Spelling × Respelling} (hPart : part ∈ layout.parts)

include hPart

theorem find?_part {name : String} (hName : part.1.Names (.text name)) :
    (layout.parts.find? fun part => part.1.Names (.text name)) = some part := by
  cases hFound : layout.parts.find? fun part => part.1.Names (.text name) with
  | none => exact absurd hName (by simpa using List.find?_eq_none.mp hFound part hPart)
  | some found =>
    have hNames := List.find?_some hFound
    rw [part_unique (List.mem_of_find?_eq_some hFound) hPart (of_decide_eq_true hNames) hName]

theorem locate_of_field? {name spelled : String} {v : Value} (hName : part.1.Names (.text name))
    (hField : entries.field? part.1 = some (spelled, v)) (rest : List Step) :
    layout.locate entries (.key name :: rest) = .key spelled :: part.2.locate v rest := by
  simp only [locate, find?_part hPart hName, hField]

theorem locate_of_absent (hField : entries.field? part.1 = none) (rest : List Step) :
    layout.locate entries (.key part.1.camel :: rest) = .key part.1.camel :: rest := by
  simp only [locate, find?_part hPart (.inl rfl), hField]

end

theorem locate_of_extra {entries : Entries} {name : String}
    (hExtra : ∀ field ∈ layout.fields, ¬field.Names (.text name)) (rest : List Step) :
    layout.locate entries (.key name :: rest) = .key name :: rest := by
  have hNone : (layout.parts.find? fun part => part.1.Names (.text name)) = none := by
    rw [List.find?_eq_none]
    intro part hPart
    simpa using hExtra part.1 (List.mem_map_of_mem hPart)
  simp only [locate, hNone]

theorem locate_keyStep {entries : Entries} {key : Key} (hKey : key.IsString)
    (hExtra : ∀ field ∈ layout.fields, ¬field.Names key) :
    layout.locate entries [Entries.keyStep key] = [Entries.keyStep key] := by
  unfold Key.IsString at hKey
  split at hKey
  · exact locate_of_extra hExtra []
  · refine locate_of_extra (fun field hField hName => ?_) []
    have hBroken := Text.mem_replaced hKey
    obtain ⟨hCamel, hSnake⟩ := layout.unbroken field hField
    rcases hName with hName | hName <;> injection hName with hName <;> injection hName with hName
    · exact hCamel (hName ▸ hBroken)
    · exact hSnake (hName ▸ hBroken)
  · cases hKey

end Layout

end BuildSync
