import BuildSync.Proofs.Sync.RoundTrip
import BuildSync.Proofs.Text.Lines
import BuildSync.Report

/-!
# The block of changes

A report has a line for each change between two lines in front and one behind, unless a value that
is shown in quotes holds a line break. A value with a line feed is shown by the number of its
lines; any other line break is shown as it is.
-/

set_option autoImplicit false

namespace BuildSync.Report

open Text (OnOneLine EndsInLine)

/-- A value that a report shows within a line. -/
def ShownInLine (value : Option String) : Prop :=
  ∀ s ∈ value, '\n' ∈ s.toList ∨ OnOneLine s.toList

instance (value : Option String) : Decidable (ShownInLine value) :=
  inferInstanceAs (Decidable (∀ s ∈ value, '\n' ∈ s.toList ∨ OnOneLine s.toList))

theorem onOneLine_toString (n : Nat) : OnOneLine (toString n).toList := by
  intro c hc
  rw [Nat.toString_eq_repr, Nat.toList_repr] at hc
  have hDigit := Nat.isDigit_of_mem_toDigits (by decide) (by decide) hc
  exact Text.not_lineBreak_of_isAlphanum (by simp [Char.isAlphanum, hDigit])

theorem valueText_of_lineFeed {s : String} (h : '\n' ∈ s.toList) :
    (valueText (.text s)).toList =
      '<' :: (toString (Text.lineCount s)).toList ++ " lines>".toList := by
  have hContains : s.toList.contains '\n' = true := List.contains_iff_mem.mpr h
  simp only [valueText, hContains, if_true, String.toList_append]
  rfl

theorem valueText_of_no_lineFeed {s : String} (h : '\n' ∉ s.toList) :
    (valueText (.text s)).toList = '"' :: s.toList ++ ['"'] := by
  simp [valueText, h]

theorem onOneLine_valueText_iff (value : Option String) :
    OnOneLine (valueText (.optionalText value)).toList ↔ ShownInLine value := by
  cases value with
  | none => exact iff_of_true (by decide) nofun
  | some s =>
    have hShown : ShownInLine (some s) ↔ '\n' ∈ s.toList ∨ OnOneLine s.toList := by
      simp [ShownInLine]
    rw [hShown, Value.optionalText]
    by_cases hFeed : '\n' ∈ s.toList
    · rw [valueText_of_lineFeed hFeed, List.cons_append]
      refine iff_of_true (List.forall_mem_cons.mpr ⟨rfl, ?_⟩) (Or.inl hFeed)
      exact Text.onOneLine_append_iff.mpr ⟨onOneLine_toString _, by decide⟩
    · rw [valueText_of_no_lineFeed hFeed, List.cons_append]
      have hQuote : OnOneLine ('"' :: (s.toList ++ ['"'])) ↔
          OnOneLine (s.toList ++ ['"']) := by
        simp [OnOneLine, Text.isLineBreak]
      rw [hQuote, Text.onOneLine_append_iff, or_iff_right hFeed]
      exact and_iff_left (by decide)

theorem endsInLine_valueText (value : Option String) :
    EndsInLine (valueText (.optionalText value)).toList := by
  cases value with
  | none => exact ⟨'l', rfl, rfl⟩
  | some s =>
    rw [Value.optionalText]
    by_cases hFeed : '\n' ∈ s.toList
    · rw [valueText_of_lineFeed hFeed]
      exact Text.endsInLine_append ⟨'>', rfl, rfl⟩
    · rw [valueText_of_no_lineFeed hFeed]
      exact Text.endsInLine_append ⟨'"', rfl, rfl⟩

/-! ### Rows -/

theorem collect_eq_self {β : Type} {rows : List (String × β)} (h : (rows.map Prod.fst).Nodup) :
    collect rows = rows := by
  have hPut : ∀ rows front : List (String × β), ((front ++ rows).map Prod.fst).Nodup →
      rows.foldl collect.put front = front ++ rows := by
    intro rows
    induction rows with
    | nil => simp
    | cons row rows ih =>
      intro front hKeys
      have hNew : (front.any fun r => r.1 == row.1) = false := by
        rw [List.any_eq_false]
        intro r hr hSame
        rw [List.map_append, List.nodup_append] at hKeys
        exact hKeys.2.2 r.1 (List.mem_map_of_mem hr) row.1 List.mem_cons_self (by simpa using hSame)
      rw [List.foldl_cons, collect.put, hNew]
      exact (ih (front ++ [row]) (by simpa using hKeys)).trans (by simp)
  exact hPut rows [] h

theorem length_le_widest {keys : List String} {key : String} (h : key ∈ keys) :
    key.length ≤ widest keys := by
  have hFold : ∀ (keys : List String) (width : Nat),
      width ≤ keys.foldl (fun width key => max width key.length) width ∧
        ∀ key ∈ keys, key.length ≤ keys.foldl (fun width key => max width key.length) width := by
    intro keys
    induction keys with
    | nil => simp
    | cons first keys ih =>
      intro width
      obtain ⟨hStart, hKeys⟩ := ih (max width first.length)
      rw [List.foldl_cons, List.forall_mem_cons]
      exact ⟨by omega, by omega, hKeys⟩
  exact (hFold keys 0).2 key h

theorem path_injective : Function.Injective TrackedField.path := by
  intro field other h
  cases field <;> cases other <;> first | rfl | (simp [TrackedField.path] at h)

theorem nodup_paths (before after : BuildConfig) :
    ((changesBetween before after).map fun change => change.field.path).Nodup := by
  rw [List.Nodup, List.pairwise_map, changesBetween, List.pairwise_filterMap]
  have hFields : TrackedField.all.Nodup := by decide
  refine hFields.imp fun hDiffer change hChange other hOther hPath => hDiffer ?_
  split at hChange <;> cases hChange
  split at hOther <;> cases hOther
  exact path_injective hPath

/-- The row of a change, with its path padded to a width. -/
def changeRow (width : Nat) (change : TrackedChange) : List Char :=
  ("      ~ " ++ padRight width change.field.path ++ " = " ++
    (valueText (.optionalText change.before) ++ " -> " ++
      valueText (.optionalText change.after))).toList

def pathWidth (changes : List TrackedChange) : Nat :=
  widest (changes.map fun change => change.field.path)

def titleRow (name : String) : List Char :=
  ("  # BuildConfig " ++ name ++ " will be updated in-place").toList

def openingRow (name : String) : List Char :=
  ("  ~ resource \"BuildConfig\" \"" ++ name ++ "\" \x7b").toList

def closingRow : List Char := "    \x7d".toList

def blockRows (name : String) (changes : List TrackedChange) : List (List Char) :=
  titleRow name :: openingRow name :: (changes.map (changeRow (pathWidth changes)) ++ [closingRow])

theorem toList_changeLines (name : String) {list : List TrackedChange}
    (h : (list.map fun change => change.field.path).Nodup) :
    (changeLines false name (list.map Change.ofField)).map String.toList = blockRows name list := by
  have hKeys : ((list.map Change.ofField).map fun change =>
      (change.path, valueText change.before ++ " -> " ++ valueText change.after)).map Prod.fst =
        list.map fun change => change.field.path := by
    simp [Change.ofField]
  rw [changeLines, changeRows, collect_eq_self (by rwa [hKeys]), align, hKeys]
  simp [styled, blockRows, titleRow, openingRow, closingRow, changeRow, pathWidth, Change.ofField]

theorem toList_changes {before after : BuildConfig} (name : String)
    (h : changesBetween before after ≠ []) :
    (changes false name ((changesBetween before after).map Change.ofField)).toList =
      ['\n'].intercalate (blockRows name (changesBetween before after)) := by
  rw [changes, if_neg (by simpa using h), String.toList_intercalate,
    toList_changeLines name (nodup_paths before after)]
  rfl

theorem endsInLine_blockRows (name : String) (list : List TrackedChange) :
    ∀ row ∈ blockRows name list, EndsInLine row := by
  intro row hRow
  simp only [blockRows, List.mem_cons, List.mem_append, List.mem_map, List.not_mem_nil,
    or_false] at hRow
  obtain rfl | rfl | ⟨change, _, rfl⟩ | rfl := hRow
  · rw [titleRow, String.toList_append]
    exact Text.endsInLine_append ⟨'e', rfl, rfl⟩
  · rw [openingRow, String.toList_append]
    exact Text.endsInLine_append ⟨'\x7b', rfl, rfl⟩
  · simp only [changeRow, String.toList_append]
    exact Text.endsInLine_append (Text.endsInLine_append (endsInLine_valueText change.after))
  · exact ⟨'\x7d', rfl, rfl⟩

theorem onOneLine_changeRow_iff (width : Nat) (change : TrackedChange) :
    OnOneLine (changeRow width change) ↔ ShownInLine change.before ∧ ShownInLine change.after := by
  have hBlanks : ∀ n, OnOneLine (List.replicate n ' ') := fun n c hc => by
    rw [List.eq_of_mem_replicate hc]
    rfl
  have hPath : OnOneLine change.field.path.toList := by
    cases change.field <;> decide
  have hLead : OnOneLine "      ~ ".toList := by decide
  have hEquals : OnOneLine " = ".toList := by decide
  have hArrow : OnOneLine " -> ".toList := by decide
  simp only [changeRow, padRight, String.toList_append, String.toList_ofList,
    Text.onOneLine_append_iff, onOneLine_valueText_iff, hLead, hPath, hBlanks, hEquals, hArrow,
    true_and, and_true]

theorem onOneLine_blockRows_iff {name : String} (hName : OnOneLine name.toList)
    (list : List TrackedChange) :
    (∀ row ∈ blockRows name list, OnOneLine row) ↔
      ∀ change ∈ list, ShownInLine change.before ∧ ShownInLine change.after := by
  have hTitle : OnOneLine (titleRow name) := by
    simp only [titleRow, String.toList_append, Text.onOneLine_append_iff, hName]
    decide
  have hOpening : OnOneLine (openingRow name) := by
    simp only [openingRow, String.toList_append, Text.onOneLine_append_iff, hName]
    decide
  have hClosing : OnOneLine closingRow := by decide
  simp only [blockRows, List.forall_mem_cons, List.forall_mem_append, List.forall_mem_map,
    List.not_mem_nil, hTitle, hOpening, hClosing, onOneLine_changeRow_iff, true_and, and_true,
    false_implies, implies_true]

/-- In every row the sign stands behind the widest path. -/
theorem getElem?_changeRow {list : List TrackedChange} {change : TrackedChange}
    (h : change ∈ list) : (changeRow (pathWidth list) change)[pathWidth list + 9]? = some '=' := by
  have hWidth : change.field.path.length ≤ pathWidth list :=
    length_le_widest (List.mem_map_of_mem h)
  let lead := "      ~ ".toList ++
    (change.field.path.toList ++
      List.replicate (pathWidth list - change.field.path.length) ' ') ++ [' ']
  have hRow : ∃ rest, changeRow (pathWidth list) change = lead ++ '=' :: rest := by
    simp only [changeRow, padRight, String.toList_append, String.toList_ofList, lead,
      List.append_assoc]
    exact ⟨_, rfl⟩
  have hLead : lead.length = pathWidth list + 9 := by
    simp only [lead, List.length_append, List.length_replicate, String.length_toList]
    have hMark : "      ~ ".length = 8 := rfl
    have hBlank : [' '].length = 1 := rfl
    omega
  obtain ⟨rest, hRow⟩ := hRow
  rw [hRow, ← hLead, List.getElem?_append_right (Nat.le_refl _), Nat.sub_self]
  rfl

/-- The lines of a block with changes are those of its rows. -/
theorem lines_changes_eq (before after : BuildConfig) (name : String)
    (h : changesBetween before after ≠ []) :
    Text.lines (changes false name ((changesBetween before after).map Change.ofField)) =
      (blockRows name (changesBetween before after)).flatMap (Text.linesFrom · []) := by
  rw [Text.lines, toList_changes name h,
    Text.linesFrom_intercalate (endsInLine_blockRows name _)]

section

variable (settings : Settings) (job : Job) (bc : BuildConfig)

theorem fullName_updated : (reconcile settings job bc).updated.fullName = bc.fullName := by
  have hMetadata : (reconcile settings job bc).updated.metadata = bc.metadata := by
    cases hPipeline : bc.pipeline with
    | none => rw [reconcile_of_no_pipeline settings job hPipeline]
    | some strategy =>
      rw [reconcile_of_pipeline settings job hPipeline]
      exact congrArg Prod.fst (frame_updatedBy settings job hPipeline)
  rw [BuildConfig.fullName, hMetadata, BuildConfig.fullName]

theorem changes_reconcile : (reconcile settings job bc).changes =
    changesBetween bc (reconcile settings job bc).updated := by
  cases hPipeline : bc.pipeline with
  | none =>
    rw [reconcile_of_no_pipeline settings job hPipeline]
    exact (changesBetween_eq_nil_iff.mpr rfl).symm
  | some strategy => rw [reconcile_of_pipeline settings job hPipeline]

end

/-- A block of changes has three lines more than there are changes exactly where every value is
shown in line. A change then stands on its own line, and all signs in one column. -/
theorem lines_changes {settings : Settings} {job : Job} {bc : BuildConfig}
    (hSpace : OnOneLine bc.metadata.space.toList) (hName : OnOneLine bc.metadata.name.toList)
    (hChanged : (reconcile settings job bc).changes ≠ []) :
    let outcome := reconcile settings job bc
    let lines := Text.lines
      (changes false outcome.updated.fullName (outcome.changes.map Change.ofField))
    let inLine := ∀ change ∈ outcome.changes,
      ShownInLine change.before ∧ ShownInLine change.after
    outcome.changes.length + 3 ≤ lines.length ∧
      (lines.length = outcome.changes.length + 3 ↔ inLine) ∧
      (inLine → ∃ width, ∀ i change, outcome.changes[i]? = some change →
        lines[i + 2]? = some (changeRow width change) ∧
          (changeRow width change)[width + 9]? = some '=') := by
  intro outcome lines inLine
  have hFullName : OnOneLine outcome.updated.fullName.toList := by
    rw [fullName_updated, BuildConfig.fullName]
    simp only [String.toList_append, Text.onOneLine_append_iff, hSpace, hName]
    decide
  have hBetween : outcome.changes = changesBetween bc outcome.updated :=
    changes_reconcile settings job bc
  let rows := blockRows outcome.updated.fullName outcome.changes
  have hLines : lines = rows.flatMap (Text.linesFrom · []) := by
    simp only [lines, rows, hBetween]
    exact lines_changes_eq _ _ _ (hBetween ▸ hChanged)
  have hLength : rows.length = outcome.changes.length + 3 := by simp [rows, blockRows]
  have hEnds : ∀ row ∈ rows, EndsInLine row := endsInLine_blockRows _ _
  have hInLine : (∀ row ∈ rows, OnOneLine row) ↔ inLine := onOneLine_blockRows_iff hFullName _
  obtain ⟨hLe, hEq⟩ := Text.length_le_flatMap_linesFrom hEnds
  rw [← hLines, hLength] at hLe hEq
  refine ⟨hLe, hEq.trans hInLine, fun hShown => ⟨pathWidth outcome.changes, ?_⟩⟩
  intro i change hChange
  refine ⟨?_, getElem?_changeRow (List.mem_of_getElem? hChange)⟩
  have hRows : lines = rows := by
    rw [hLines]
    exact Text.flatMap_linesFrom_eq_self hEnds (hInLine.mpr hShown)
  have hi := (List.getElem?_eq_some_iff.mp hChange).1
  rw [hRows]
  simp only [rows, blockRows, List.getElem?_cons_succ]
  rw [List.getElem?_append_left (by simpa using hi), List.getElem?_map, hChange]
  rfl

theorem lines_changes_of_fork :
    let stored := BuildConfig.ofRepository "https://example/repo.git" (some "main") none
    let bc := stored.withScriptPath "a\r\nb"
    let fork : GitCheckout :=
      ⟨[⟨some "https://example/fork.git", none, none, none⟩], [⟨"*/dev"⟩], []⟩
    let outcome := reconcile .defaults ⟨"", some (.scm (.git fork) "ci/Jenkinsfile"), none⟩ bc
    OnOneLine bc.metadata.space.toList ∧ OnOneLine bc.metadata.name.toList ∧
      outcome.changes.length = 3 ∧
      (Text.lines (changes false outcome.updated.fullName
        (outcome.changes.map Change.ofField))).length = 6 := by
  intro stored bc fork outcome
  have hSpace : OnOneLine bc.metadata.space.toList := by decide
  have hName : OnOneLine bc.metadata.name.toList := by decide
  have hChanged : outcome.changes ≠ [] := by decide
  have hShown : ∀ change ∈ outcome.changes,
      ShownInLine change.before ∧ ShownInLine change.after := by decide
  exact ⟨hSpace, hName, by decide, (lines_changes hSpace hName hChanged).2.1.mpr hShown⟩

/-- A carriage return without a line feed is shown as it is, and the change takes two lines. -/
theorem lines_changes_of_carriage_return :
    let stored := BuildConfig.ofRepository "https://example/repo.git" (some "main") none
    let bc := stored.withScript "x"
    let outcome := reconcile .defaults ⟨"", some (.inline "a\rb" true), none⟩ bc
    OnOneLine bc.metadata.space.toList ∧ OnOneLine bc.metadata.name.toList ∧
      outcome.changes.length = 1 ∧
      (Text.lines (changes false outcome.updated.fullName
        (outcome.changes.map Change.ofField))).length = 5 := by
  intro stored bc outcome
  have hLines : (Text.lines (changes false outcome.updated.fullName
      (outcome.changes.map Change.ofField))).length = 5 := by
    decide +kernel
  exact ⟨by decide, by decide, by decide, hLines⟩

end BuildSync.Report
