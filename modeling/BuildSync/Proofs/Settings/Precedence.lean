import BuildSync.Settings.Resolve
import BuildSync.Proofs.Document.Reading

/-!
# Precedence of settings

A setting is decided by the first source that sets it. The environment is asked at two places: for a
variable of exactly the right name in front of the environment file, and behind the file for one in
any letter case.
-/

set_option autoImplicit false

namespace BuildSync

namespace Environment

variable {env : Environment} {name value : String}

/-- Up to letter case, at most one variable has the name. -/
def SpelledOnce (env : Environment) (name : String) : Prop :=
  ∀ v ∈ env, ∀ w ∈ env, Text.lower v.1 = Text.lower name → Text.lower w.1 = Text.lower name → v = w

theorem mem_of_get? (h : env.get? name = some value) : (name, value) ∈ env := by
  induction env with
  | nil => cases h
  | cons v env ih =>
    rw [get?, List.lookup_cons] at h
    split at h
    · rename_i hName
      obtain rfl : name = v.1 := eq_of_beq hName
      cases h
      exact List.mem_cons_self
    · exact List.mem_cons_of_mem v (ih h)

theorem getAnyCase?_of_get? (hSpelled : env.SpelledOnce name) (h : env.get? name = some value) :
    env.getAnyCase? name = some value := by
  have hMem := mem_of_get? h
  obtain ⟨found, hFound⟩ : ∃ found,
      env.reverse.find? (fun v => Text.lower v.1 == Text.lower name) = some found := by
    rw [← Option.isSome_iff_exists, List.find?_isSome]
    exact ⟨_, List.mem_reverse.mpr hMem, beq_self_eq_true _⟩
  have hName : Text.lower found.1 = Text.lower name := by simpa using List.find?_some hFound
  have hSame : found = (name, value) :=
    hSpelled _ (List.mem_reverse.mp (List.mem_of_find?_eq_some hFound)) _ hMem hName rfl
  rw [getAnyCase?, hFound, hSame]
  rfl

end Environment

namespace Value

variable {entries : Entries}

/-- Opening a loop makes neither a text nor a boolean. -/
theorem checkText_graft (depth : Nat) (v : Value) :
    (graft (.map entries) depth v).checkText = v.checkText := by
  cases v with
  | loop up =>
    rw [graft]
    split <;> rfl
  | _ => rfl

theorem checkNonemptyText_graft (depth : Nat) (v : Value) :
    (graft (.map entries) depth v).checkNonemptyText = v.checkNonemptyText := by
  rw [checkNonemptyText, checkText_graft, checkNonemptyText]

theorem checkBool_graft (depth : Nat) (v : Value) :
    (graft (.map entries) depth v).checkBool = v.checkBool := by
  cases v with
  | loop up =>
    rw [graft]
    split <;> rfl
  | _ => rfl

theorem get?_graftEntries (whole : Value) (depth : Nat) (entries : Entries) (key : Key) :
    Entries.get? (graftEntries whole depth entries) key =
      (entries.get? key).map (graft whole depth) := by
  rw [graftEntries_eq]
  exact Entries.get?_map key (graft whole depth) (fun _ _ => Iff.rfl) fun _ _ _ => rfl

theorem keys_graftEntries (whole : Value) (depth : Nat) (entries : Entries) :
    Entries.keys (graftEntries whole depth entries) = entries.keys := by
  rw [graftEntries_eq, Entries.keys, List.map_map]
  rfl

end Value

namespace Entries

variable {entries : Entries}

theorem noExtras_of_word {fields : List Spelling}
    (hKeys : ∀ key ∈ entries.keys, ∃ field ∈ fields, key = .text field.camel) :
    entries.noExtras fields = .ok () := by
  have hNone : entries.unknown fields = [] := by
    rw [unknown_eq, List.filter_eq_nil_iff]
    intro e he
    obtain ⟨field, hField, hKey⟩ := hKeys e.1 (List.mem_map_of_mem he)
    have hGives : (fields.any fun field => entries.gives field e.1) = true :=
      List.any_eq_true.mpr ⟨field, hField, by simp [gives, hKey]⟩
    simp [hGives]
  rw [noExtras, hNone]
  rfl

/-- The entry that sets each field under its name. -/
def ofFields (fields : List Spelling) (value? : String → Option Value) : Entries :=
  fields.filterMap fun field => (value? field.snake).map fun v => (Key.text field.snake, v)

theorem of_mem_keys_ofFields {fields : List Spelling} {value? : String → Option Value} {key : Key}
    (hKey : key ∈ (ofFields fields value?).keys) : ∃ field ∈ fields, key = .text field.snake := by
  obtain ⟨e, he, rfl⟩ := List.mem_map.mp hKey
  obtain ⟨field, hField, hValue⟩ := List.mem_filterMap.mp he
  obtain ⟨v, _, rfl⟩ := Option.map_eq_some_iff.mp hValue
  exact ⟨field, hField, rfl⟩

theorem get?_ofFields {fields : List Spelling} (hNodup : (fields.map Spelling.snake).Nodup)
    (value? : String → Option Value) {field : Spelling} (hField : field ∈ fields) :
    (ofFields fields value?).get? (.text field.snake) = value? field.snake := by
  induction fields with
  | nil => cases hField
  | cons first rest ih =>
    obtain ⟨hHead, hTail⟩ := List.nodup_cons.mp hNodup
    have hAbsent : (ofFields rest value?).get? (.text first.snake) = none := by
      rw [get?_eq_none_iff]
      intro hKey
      obtain ⟨other, hOther, hName⟩ := of_mem_keys_ofFields hKey
      have hSame : other.snake = first.snake := by simpa using hName.symm
      exact hHead (hSame ▸ List.mem_map_of_mem hOther)
    rcases List.mem_cons.mp hField with rfl | hField
    · cases hValue : value? field.snake with
      | none => simpa [ofFields, hValue] using hAbsent
      | some v => simp [ofFields, hValue, get?_cons]
    · have hOther : first.snake ≠ field.snake := fun h => hHead (h ▸ List.mem_map_of_mem hField)
      cases hValue : value? first.snake with
      | none => simpa [ofFields, hValue] using ih hTail hField
      | some v => simpa [ofFields, hValue, get?_cons, hOther] using ih hTail hField

end Entries

namespace Settings

variable {overrides : Entries} {env : Environment} {file : List (String × Option String)}
  {field : String} {value? : String → Option Value} {settings : Settings}

/-! ### The sources of a field -/

def override? (overrides : Entries) (field : String) : Option Value :=
  (overrides.get? (.text field)).filter (!·.isNull)

def spelled? (env : Environment) (field : String) : Option Value :=
  (env.get? (variableName field)).map Value.text

def anyCase? (env : Environment) (field : String) : Option Value :=
  (env.getAnyCase? (variableName field)).map Value.text

def assignment? (file : List (String × Option String)) (field : String) : Option Value :=
  (file.lookup (variableName field)).join.map Value.text

/-- The value of the first source in the order of an override, the environment in any letter case
and the environment file. -/
def ranked? (overrides : Entries) (env : Environment) (file : List (String × Option String))
    (field : String) : Option Value :=
  (override? overrides field).or ((anyCase? env field).or (assignment? file field))

/-- The value that is taken: only the exact name of a variable comes before the file. -/
def chosen? (overrides : Entries) (env : Environment) (file : List (String × Option String))
    (field : String) : Option Value :=
  (override? overrides field).or
    ((spelled? env field).or ((assignment? file field).or (anyCase? env field)))

theorem resolveField_or (overrides : Entries) (env : Environment)
    (file : List (String × Option String)) (field : String) :
    (resolveField overrides env file field).or (anyCase? env field) =
      chosen? overrides env file field := by
  have hFound : resolveField overrides env file field =
      (override? overrides field).or ((spelled? env field).or (assignment? file field)) := by
    unfold resolveField override? spelled? assignment?
    cases (overrides.get? (.text field)).filter (!·.isNull) with
    | some v => rfl
    | none =>
      dsimp only
      cases env.get? (variableName field) <;> rfl
  rw [hFound, Option.or_assoc, Option.or_assoc, chosen?]

/-! ### Checking the chosen values -/

def settled {α : Type} (default : α) (check : Value → Checked α) : Option Value → Checked α
  | none => .ok default
  | some v => check v

/-- Each field has the checked value, or its default where there is none. -/
structure SettledBy (settings : Settings) (value? : String → Option Value) : Prop where
  defaultScriptPath :
    settled defaults.defaultScriptPath Value.checkNonemptyText
      (value? defaultScriptPathField.snake) = .ok settings.defaultScriptPath
  sandbox :
    settled defaults.sandbox Value.checkBool (value? sandboxField.snake) = .ok settings.sandbox
  syncRemote :
    settled defaults.syncRemote Value.checkBool (value? syncRemoteField.snake) =
      .ok settings.syncRemote
  prefixNamespace :
    settled defaults.prefixNamespace Value.checkBool (value? prefixNamespaceField.snake) =
      .ok settings.prefixNamespace

/-- No setting comes from the value: it is no path, or no boolean where one is expected. -/
def Refused (field : Spelling) (v : Value) : Prop :=
  if field = defaultScriptPathField then ∀ path, v.checkNonemptyText ≠ .ok path
  else ∀ flag, v.checkBool ≠ .ok flag

theorem snake_nodup : (fields.map Spelling.snake).Nodup := by decide

theorem camel_eq_snake : ∀ field ∈ fields, field.camel = field.snake := by decide

/-- The arguments with the environment behind them. -/
theorem withEnvironment_eq (env : Environment) (value? : String → Option Value) :
    withEnvironment env (Entries.ofFields fields value?) =
      Entries.ofFields fields value? ++ Entries.ofFields fields fun field =>
        if (Entries.ofFields fields value?).has (.text field) then none
        else anyCase? env field := by
  refine congrArg (Entries.ofFields fields value? ++ ·) (List.filterMap_congr fun field _ => ?_)
  split
  · rename_i hSet
    simp [hSet]
  · rename_i hUnset
    simp [hUnset, anyCase?, Option.map_map, Function.comp_def]

/-- The entries that the settings are checked from. -/
def gathered (overrides : Entries) (env : Environment) (file : List (String × Option String)) :
    Entries :=
  withEnvironment env (Entries.ofFields fields (resolveField overrides env file))

theorem resolve_eq_gathered (overrides : Entries) (env : Environment)
    (file : List (String × Option String)) :
    resolve overrides env file =
      (check (.map (gathered overrides env file))).toExcept model := rfl

theorem get?_gathered {field : Spelling} (hField : field ∈ fields) :
    (gathered overrides env file).get? (.text field.snake) =
      chosen? overrides env file field.snake := by
  rw [gathered, withEnvironment_eq, Entries.get?_append, Entries.get?_ofFields snake_nodup _ hField,
    Entries.get?_ofFields snake_nodup _ hField, ← Entries.isSome_get?,
    Entries.get?_ofFields snake_nodup _ hField, ← resolveField_or]
  -- the environment is asked again only for what has no value yet
  cases resolveField overrides env file field.snake <;> rfl

theorem noExtras_gathered (whole : Value) (depth : Nat) :
    Entries.noExtras (Value.graftEntries whole depth (gathered overrides env file)) fields =
      .ok () := by
  apply Entries.noExtras_of_word
  intro key hKey
  rw [Value.keys_graftEntries, gathered, withEnvironment_eq, Entries.keys, List.map_append,
    List.mem_append] at hKey
  obtain ⟨field, hField, rfl⟩ : ∃ field ∈ fields, key = .text field.snake := by
    rcases hKey with hKey | hKey <;> exact Entries.of_mem_keys_ofFields hKey
  exact ⟨field, hField, by rw [camel_eq_snake field hField]⟩

theorem defaulted_gathered {α : Type} {field : Spelling} (hField : field ∈ fields) {default a : α}
    {fieldCheck : Value → Checked α} {whole : Value} {depth : Nat}
    (hGraft : ∀ v, fieldCheck (Value.graft whole depth v) = fieldCheck v) :
    Entries.defaulted (Value.graftEntries whole depth (gathered overrides env file)) field default
        fieldCheck = .ok a ↔
      settled default fieldCheck (chosen? overrides env file field.snake) = .ok a := by
  have hValue :
      Entries.value? (Value.graftEntries whole depth (gathered overrides env file)) field =
        (chosen? overrides env file field.snake).map (Value.graft whole depth) := by
    rw [← get?_gathered hField, ← Value.get?_graftEntries, Entries.value?, Entries.field?,
      camel_eq_snake field hField]
    cases Entries.get? (Value.graftEntries whole depth (gathered overrides env file))
      (.text field.snake) <;> rfl
  rw [Entries.defaulted_eq_ok_iff, hValue]
  cases chosen? overrides env file field.snake with
  | none => simp [settled, eq_comm]
  | some v => simp [settled, hGraft]

theorem resolve_eq_ok_iff :
    resolve overrides env file = .ok settings ↔
      settings.SettledBy (chosen? overrides env file) := by
  have hChecked : resolve overrides env file = .ok settings ↔
      check (.map (gathered overrides env file)) = .ok settings := by
    rw [resolve_eq_gathered]
    cases check (.map (gathered overrides env file)) <;> simp [Checked.toExcept]
  rw [hChecked, check, Value.record, Value.entries?]
  simp only [Checked.seq_eq_ok_iff, Checked.map_eq_ok_iff]
  constructor
  · rintro ⟨_, _, ⟨_, _, ⟨_, _, ⟨_, _, ⟨_, hPath, rfl⟩, hSandbox, rfl⟩, hRemote, rfl⟩,
      hPrefix, rfl⟩, _, rfl⟩
    exact ⟨(defaulted_gathered (by decide) (Value.checkNonemptyText_graft 0)).mp hPath,
      (defaulted_gathered (by decide) (Value.checkBool_graft 0)).mp hSandbox,
      (defaulted_gathered (by decide) (Value.checkBool_graft 0)).mp hRemote,
      (defaulted_gathered (by decide) (Value.checkBool_graft 0)).mp hPrefix⟩
  · intro h
    exact ⟨_, _, ⟨_, _, ⟨_, _, ⟨_, _, ⟨_,
      (defaulted_gathered (by decide) (Value.checkNonemptyText_graft 0)).mpr h.defaultScriptPath,
        rfl⟩,
      (defaulted_gathered (by decide) (Value.checkBool_graft 0)).mpr h.sandbox, rfl⟩,
      (defaulted_gathered (by decide) (Value.checkBool_graft 0)).mpr h.syncRemote, rfl⟩,
      (defaulted_gathered (by decide) (Value.checkBool_graft 0)).mpr h.prefixNamespace, rfl⟩,
      noExtras_gathered _ _, rfl⟩

theorem exists_settled_iff {α : Type} (default : α) {fieldCheck : Value → Checked α}
    {v? : Option Value} :
    (∃ a, settled default fieldCheck v? = .ok a) ↔ ∀ v ∈ v?, ∃ a, fieldCheck v = .ok a := by
  cases v? <;> simp [settled]

theorem not_refused_path {v : Value} :
    ¬Refused defaultScriptPathField v ↔ ∃ path, v.checkNonemptyText = .ok path := by
  rw [Refused, if_pos rfl, not_forall_not]

theorem not_refused_flag {field : Spelling} (hField : field ≠ defaultScriptPathField) {v : Value} :
    ¬Refused field v ↔ ∃ flag, v.checkBool = .ok flag := by
  rw [Refused, if_neg hField, not_forall_not]

theorem exists_settledBy_iff :
    (∃ settings : Settings, settings.SettledBy value?) ↔
      ∀ field ∈ fields, ∀ v ∈ value? field.snake, ¬Refused field v := by
  have hSandbox : sandboxField ≠ defaultScriptPathField := by decide
  have hRemote : syncRemoteField ≠ defaultScriptPathField := by decide
  have hPrefix : prefixNamespaceField ≠ defaultScriptPathField := by decide
  simp only [fields, List.forall_mem_cons, not_refused_path, not_refused_flag hSandbox,
    not_refused_flag hRemote, not_refused_flag hPrefix, ← exists_settled_iff defaults.sandbox,
    ← exists_settled_iff defaults.defaultScriptPath]
  constructor
  · rintro ⟨settings, h⟩
    exact ⟨⟨_, h.defaultScriptPath⟩, ⟨_, h.sandbox⟩, ⟨_, h.syncRemote⟩, ⟨_, h.prefixNamespace⟩,
      nofun⟩
  · rintro ⟨⟨path, hPath⟩, ⟨sandbox, hSandbox⟩, ⟨syncRemote, hRemote⟩,
      ⟨prefixNamespace, hPrefix⟩, _⟩
    exact ⟨⟨path, sandbox, syncRemote, prefixNamespace⟩, hPath, hSandbox, hRemote, hPrefix⟩

theorem resolve_eq_error_iff :
    (∃ error, resolve overrides env file = .error error) ↔
      ∃ field ∈ fields, ∃ v ∈ chosen? overrides env file field.snake, Refused field v := by
  have hEither : (∃ error, resolve overrides env file = .error error) ↔
      ¬∃ settings, resolve overrides env file = .ok settings := by
    cases resolve overrides env file <;> simp
  simp only [hEither, resolve_eq_ok_iff, exists_settledBy_iff]
  simp

/-! ### The order of the sources -/

theorem spelled?_eq_some (hSpelled : env.SpelledOnce (variableName field)) {v : Value}
    (h : spelled? env field = some v) : anyCase? env field = some v := by
  obtain ⟨text, hText, rfl⟩ := Option.map_eq_some_iff.mp h
  rw [anyCase?, Environment.getAnyCase?_of_get? hSpelled hText]
  rfl

/-- The file sets a field to another value than a variable whose name is right up to letter case. -/
structure Overtaken (overrides : Entries) (env : Environment)
    (file : List (String × Option String)) (field : String) : Prop where
  override : override? overrides field = none
  spelled : spelled? env field = none
  differs : ∃ v ∈ anyCase? env field, ∃ w ∈ assignment? file field, v ≠ w

theorem chosen?_eq_ranked?_iff (hSpelled : env.SpelledOnce (variableName field)) :
    chosen? overrides env file field = ranked? overrides env file field ↔
      ¬Overtaken overrides env file field := by
  have hOvertaken : Overtaken overrides env file field ↔ override? overrides field = none ∧
      spelled? env field = none ∧ ∃ v ∈ anyCase? env field, ∃ w ∈ assignment? file field, v ≠ w :=
    ⟨fun h => ⟨h.override, h.spelled, h.differs⟩, fun ⟨h, h', h''⟩ => ⟨h, h', h''⟩⟩
  rw [hOvertaken, chosen?, ranked?]
  cases override? overrides field with
  | some v => simp
  | none =>
    cases hExact : spelled? env field with
    | some v => simp [spelled?_eq_some hSpelled hExact]
    | none =>
      cases anyCase? env field with
      | none => simp
      | some v => cases assignment? file field <;> simp [eq_comm]

theorem chosen?_of_overtaken (h : Overtaken overrides env file field) :
    chosen? overrides env file field = assignment? file field := by
  obtain ⟨hOverride, hSpelled, v, _, w, hAssigned, _⟩ := h
  rw [chosen?, hOverride, hSpelled, hAssigned]
  rfl

theorem resolve_by_precedence
    (hSpelled : ∀ field ∈ fields, env.SpelledOnce (variableName field.snake)) :
    (∀ settings, resolve overrides env file = .ok settings ↔
        settings.SettledBy (chosen? overrides env file)) ∧
      ((∃ error, resolve overrides env file = .error error) ↔
        ∃ field ∈ fields, ∃ v ∈ chosen? overrides env file field.snake, Refused field v) ∧
      ∀ field ∈ fields,
        (chosen? overrides env file field.snake = ranked? overrides env file field.snake ↔
          ¬Overtaken overrides env file field.snake) ∧
        (Overtaken overrides env file field.snake →
          chosen? overrides env file field.snake = assignment? file field.snake) ∧
        ((spelled? env field.snake).isSome → ∀ other,
          chosen? overrides env other field.snake = chosen? overrides env file field.snake) := by
  refine ⟨fun settings => resolve_eq_ok_iff, resolve_eq_error_iff, fun field hField =>
    ⟨chosen?_eq_ranked?_iff (hSpelled field hField), chosen?_of_overtaken, fun hSet other => ?_⟩⟩
  obtain ⟨v, hSet⟩ := Option.isSome_iff_exists.mp hSet
  rw [chosen?, chosen?, hSet, Option.some_or, Option.some_or]

theorem resolve_sandbox_variable :
    let env : Environment := [("PIPELINE_SYNC_SANDBOX", "no")]
    let file := [("PIPELINE_SYNC_SANDBOX", some "yes"), ("PIPELINE_SYNC_SYNC_REMOTE", some "off")]
    resolve [(.text "sync_remote", .null)] env file = .ok ⟨"Jenkinsfile", false, false, true⟩ := by
  intro env file
  have hSpelled : ∀ field ∈ fields, env.SpelledOnce (variableName field.snake) := by
    intro field _ v hv w hw _ _
    rw [List.mem_singleton.mp hv, List.mem_singleton.mp hw]
  refine ((resolve_by_precedence hSpelled).1 _).mpr ⟨?_, ?_, ?_, ?_⟩
  all_goals rfl

theorem resolve_small_letters :
    let env : Environment := [("pipeline_sync_sandbox", "false")]
    let file := [("PIPELINE_SYNC_SANDBOX", some "true")]
    env.SpelledOnce (variableName sandboxField.snake) ∧
      ranked? [] env file sandboxField.snake = some (.text "false") ∧
      resolve [] env file = .ok defaults ∧ defaults.sandbox = true := by
  refine ⟨?_, ?_, ?_, rfl⟩
  · intro v hv w hw _ _
    rw [List.mem_singleton.mp hv, List.mem_singleton.mp hw]
  · rfl
  · rfl

end Settings

end BuildSync
