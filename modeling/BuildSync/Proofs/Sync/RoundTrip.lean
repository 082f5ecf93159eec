import BuildSync.Manifest.Check
import BuildSync.Proofs.Path.Context
import BuildSync.Proofs.Sync.Tracked

/-!
# Mapping and the way back

A job that was just mapped keeps every tracked field but the ref, which comes back without its
decorations, or not at all where it is blank. An edited checkout, in turn, maps to the repository,
the branch and the file that the job runs.
-/

set_option autoImplicit false

namespace BuildSync

namespace Ref

/-- The ref that a mapped job carries back. -/
def returned (ref : Option String) : Option String :=
  ref.bind fun ref => if Text.allBlank ref then none else nonempty (some (undecorated ref))

/-- A branch name as such: not blank, and without decorations in front. -/
def IsName (ref : String) : Prop :=
  Text.allBlank ref = false ∧ ∀ c ∈ ref.toList.head?, isDecoration c = false

theorem undecorated_eq_self_iff {ref : String} :
    undecorated ref = ref ↔ ∀ c ∈ ref.toList.head?, isDecoration c = false := by
  rw [← String.toList_inj, toList_undecorated]
  cases hText : ref.toList with
  | nil => simp
  | cons c cs =>
    cases hc : isDecoration c with
    | false => simp [hc]
    | true =>
      have hDrop : (c :: cs).dropWhile isDecoration ≠ c :: cs := by
        intro hSame
        rw [List.dropWhile_cons, if_pos hc] at hSame
        have hShorter := (List.dropWhile_sublist (l := cs) isDecoration).length_le
        rw [hSame, List.length_cons] at hShorter
        omega
      exact iff_of_false hDrop fun h => by simpa [hc] using h c rfl

/-- Exactly the branch names come back as they were. -/
theorem returned_eq_self_iff {ref : Option String} (hRef : nonempty ref = ref) :
    returned ref = ref ↔ ∀ name, ref = some name → IsName name := by
  cases ref with
  | none => simp [returned]
  | some ref =>
    have hne : ref ≠ "" := (nonempty_some_iff.mp hRef).2
    cases hBlank : Text.allBlank ref with
    | true => simp [returned, IsName, hBlank]
    | false =>
      have hSame : nonempty (some (undecorated ref)) = some ref ↔ undecorated ref = ref := by
        rw [nonempty_some_iff, Option.some_inj]
        exact and_iff_left hne
      simp [returned, IsName, hBlank, hSame, undecorated_eq_self_iff]

end Ref

theorem remote?_checkoutOf {uri : String} (hUri : uri ≠ "") (ref credentialsId : Option String) :
    (checkoutOf uri ref credentialsId).remote? none = some (uri, Ref.returned ref) := by
  have hUrl : (checkoutOf uri ref credentialsId).url? = some uri := nonempty_of_ne hUri
  rw [GitCheckout.remote?, hUrl, Option.map_some]
  cases ref with
  | none => rfl
  | some ref =>
    cases hBlank : Text.allBlank ref <;>
      simp [checkoutOf, branchesOf, GitCheckout.ref, GitCheckout.branch?, Ref.returned, hBlank]

/-! ### A job that was just mapped -/

/-- The definition refreshes the repository when it is reconciled. -/
def Definition.SyncsRemote (settings : Settings) (definition : Definition) : Prop :=
  settings.syncRemote = true ∧
    ∃ checkout path, definition = .scm checkout path ∧ Text.allBlank path = false

theorem pipeline_of_mapped {settings : Settings} {bridge : Option Bridge} {bc : BuildConfig}
    {definition : Definition} (h : (mapDefinition settings bridge bc).definition = some definition) :
    ∃ strategy, bc.pipeline = some strategy := by
  cases hPipeline : bc.pipeline with
  | none =>
    rw [definition_mapDefinition_of_no_pipeline settings bridge hPipeline] at h
    cases h
  | some strategy => exact ⟨strategy, rfl⟩

section Mapped

variable {settings : Settings} {bridge : Option Bridge} {bc : BuildConfig}
  {strategy : PipelineStrategy} {definition : Definition} {job : Job}

theorem tracked_strategy_of_mapped (hPipeline : bc.pipeline = some strategy)
    (h : (mapDefinition settings bridge bc).definition = some definition)
    (hJob : job.definition = some definition) :
    (updatedBy settings job bc strategy).tracked .script = bc.tracked .script ∧
      (updatedBy settings job bc strategy).tracked .scriptPath = bc.tracked .scriptPath := by
  have hStored : bc.tracked .scriptPath = nonempty strategy.scriptPath := by
    simp [BuildConfig.tracked, hPipeline]
  rw [tracked_script_updatedBy settings job hPipeline,
    tracked_scriptPath_updatedBy settings job hPipeline, hStored]
  rw [definition_mapDefinition settings bridge hPipeline] at h
  cases hScript : bc.tracked .script with
  | some script =>
    rw [hScript] at h
    cases h
    cases hBlank : Text.allBlank script <;> simp [Job.script?, Job.scriptPath, hJob, hBlank]
  | none =>
    rw [hScript] at h
    obtain ⟨uri, hUri, rfl⟩ := Option.map_eq_some_iff.mp h
    simp [Job.script?, Job.scriptPath, hJob, mappedScriptPath, scriptPathUpdate_mapped]

theorem remote?_of_mapped (hPipeline : bc.pipeline = some strategy)
    (h : (mapDefinition settings bridge bc).definition = some definition)
    (hJob : job.definition = some definition) :
    (definition.SyncsRemote settings ∧ ∃ uri, bc.tracked .uri = some uri ∧
        job.remote? settings = some (uri, Ref.returned (bc.tracked .ref))) ∨
      (¬definition.SyncsRemote settings ∧ job.remote? settings = none) := by
  rw [definition_mapDefinition settings bridge hPipeline] at h
  cases hScript : bc.tracked .script with
  | some script =>
    rw [hScript] at h
    cases h
    refine Or.inr ⟨?_, by simp [Job.remote?, hJob]⟩
    rintro ⟨_, _, _, hScm, _⟩
    cases hScm
  | none =>
    rw [hScript] at h
    obtain ⟨uri, hUri, rfl⟩ := Option.map_eq_some_iff.mp h
    by_cases hKeep : (Text.allBlank (mappedScriptPath settings bc strategy) ||
        !settings.syncRemote) = true
    · refine Or.inr ⟨?_, by simp only [Job.remote?, hJob, if_pos hKeep]⟩
      rintro ⟨hSync, _, _, hScm, hPath⟩
      cases hScm
      simp [hPath, hSync] at hKeep
    · have hne : uri ≠ "" := (nonempty_some_iff.mp hUri).2
      simp only [Bool.or_eq_true, not_or, Bool.not_eq_true, Bool.not_eq_false'] at hKeep
      refine Or.inl ⟨⟨hKeep.2, _, _, rfl, hKeep.1⟩, uri, hUri, ?_⟩
      simp [Job.remote?, hJob, hKeep, Checkout.git?, remote?_checkoutOf hne]

theorem tracked_of_mapped (hPipeline : bc.pipeline = some strategy)
    (h : (mapDefinition settings bridge bc).definition = some definition)
    (hJob : job.definition = some definition) {field : TrackedField} (hField : field ≠ .ref) :
    (updatedBy settings job bc strategy).tracked field = bc.tracked field := by
  obtain ⟨hScript, hScriptPath⟩ := tracked_strategy_of_mapped hPipeline h hJob
  cases field with
  | uri =>
    rw [tracked_uri_updatedBy settings job hPipeline]
    rcases remote?_of_mapped hPipeline h hJob with ⟨_, uri, hUri, hRemote⟩ | ⟨_, hRemote⟩
    · rw [hRemote, hUri]
      rfl
    · rw [hRemote]
      rfl
  | ref => exact absurd rfl hField
  | script => exact hScript
  | scriptPath => exact hScriptPath

theorem tracked_ref_of_mapped (hPipeline : bc.pipeline = some strategy)
    (h : (mapDefinition settings bridge bc).definition = some definition)
    (hJob : job.definition = some definition) :
    definition.SyncsRemote settings ∧
        (updatedBy settings job bc strategy).tracked .ref = Ref.returned (bc.tracked .ref) ∨
      ¬definition.SyncsRemote settings ∧
        (updatedBy settings job bc strategy).tracked .ref = bc.tracked .ref := by
  rw [tracked_ref_updatedBy settings job hPipeline]
  rcases remote?_of_mapped hPipeline h hJob with ⟨hSyncs, uri, _, hRemote⟩ | ⟨hKeeps, hRemote⟩
  · exact Or.inl ⟨hSyncs, by rw [hRemote]; rfl⟩
  · exact Or.inr ⟨hKeeps, by rw [hRemote]; rfl⟩

theorem changes_eq_nil_iff_of_mapped (hPipeline : bc.pipeline = some strategy)
    (h : (mapDefinition settings bridge bc).definition = some definition)
    (hJob : job.definition = some definition) :
    changesBetween bc (updatedBy settings job bc strategy) = [] ↔
      (definition.SyncsRemote settings → ∀ ref, bc.tracked .ref = some ref → Ref.IsName ref) := by
  rw [changesBetween_eq_nil_iff, ← Ref.returned_eq_self_iff (bc.nonempty_tracked .ref)]
  have hRef := tracked_ref_of_mapped hPipeline h hJob
  constructor
  · intro hSame hSyncs
    rcases hRef with ⟨_, hReturned⟩ | ⟨hKeeps, _⟩
    · rw [← hReturned, ← hSame]
    · exact absurd hSyncs hKeeps
  · intro hName
    funext field
    by_cases hField : field = .ref
    · subst hField
      rcases hRef with ⟨hSyncs, hReturned⟩ | ⟨_, hKept⟩
      · rw [hReturned, hName hSyncs]
      · exact hKept.symm
    · exact (tracked_of_mapped hPipeline h hJob hField).symm

end Mapped

/-- A job that was just mapped changes at most the ref, and nothing exactly when the ref is not
refreshed or is a branch name. -/
theorem changes_of_mapped {settings : Settings} {bridge : Option Bridge} {bc : BuildConfig}
    {definition : Definition} (h : (mapDefinition settings bridge bc).definition = some definition)
    (fullName : String) (branch : Option BranchProperty) :
    let outcome := reconcile settings ⟨fullName, some definition, branch⟩ bc
    ((outcome.changes = [] ∧ outcome.changed = false) ↔
      (definition.SyncsRemote settings → ∀ ref, bc.tracked .ref = some ref → Ref.IsName ref)) ∧
    ∀ change ∈ outcome.changes,
      change = ⟨.ref, bc.tracked .ref, Ref.returned (bc.tracked .ref)⟩ := by
  intro outcome
  obtain ⟨strategy, hPipeline⟩ := pipeline_of_mapped h
  have hJob : (⟨fullName, some definition, branch⟩ : Job).definition = some definition := rfl
  have hChanges : outcome.changes = changesBetween bc (updatedBy settings
      ⟨fullName, some definition, branch⟩ bc strategy) :=
    congrArg Outcome.changes (reconcile_of_pipeline _ _ hPipeline)
  constructor
  · have hChanged : outcome.changes = [] ∧ outcome.changed = false ↔ outcome.changes = [] := by
      simp [Outcome.changed]
    rw [hChanged, hChanges]
    exact changes_eq_nil_iff_of_mapped hPipeline h hJob
  · intro change hChange
    rw [hChanges, mem_changesBetween_iff] at hChange
    obtain ⟨hBefore, hAfter, hDiffer⟩ := hChange
    by_cases hField : change.field = .ref
    · rw [hField] at hBefore hAfter
      rcases tracked_ref_of_mapped hPipeline h hJob with ⟨_, hReturned⟩ | ⟨_, hKept⟩
      · obtain ⟨field, before, after⟩ := change
        rw [TrackedChange.mk.injEq]
        exact ⟨hField, hBefore, hAfter.trans hReturned⟩
      · exact absurd (hBefore.trans (hAfter.trans hKept).symm) hDiffer
    · have hKept := tracked_of_mapped hPipeline h hJob hField
      exact absurd (hBefore.trans (hAfter.trans hKept).symm) hDiffer

def BuildConfig.ofRepository (uri : String) (ref contextDir : Option String) : BuildConfig :=
  { apiVersion := BuildConfig.defaultApiVersion
    kind := BuildConfig.model
    metadata := ⟨"ci", "app", []⟩
    spec := some {
      source := some ⟨some gitSourceType, some ⟨some uri, ref, []⟩, contextDir, none, []⟩
      strategy := some ⟨some pipelineStrategyType, some ⟨none, none, []⟩, []⟩
      extras := [] }
    extras := [] }

theorem changes_of_mapped_branch_spec :
    let bc := BuildConfig.ofRepository "https://example/repo.git" (some "*/main") none
    ∃ definition, (mapDefinition .defaults none bc).definition = some definition ∧
      (reconcile .defaults ⟨"", some definition, none⟩ bc).changes =
        [⟨.ref, some "*/main", some "main"⟩] :=
  ⟨_, rfl, by decide +kernel⟩

theorem changes_of_mapped_branch_name :
    let bc := BuildConfig.ofRepository "https://example/repo.git" (some "main") (some "./src")
    ∃ definition, (mapDefinition .defaults none bc).definition = some definition ∧
      (reconcile .defaults ⟨"", some definition, none⟩ bc).changes = [] := by
  intro bc
  obtain ⟨definition, hMapped⟩ :
      ∃ definition, (mapDefinition .defaults none bc).definition = some definition := ⟨_, rfl⟩
  refine ⟨definition, hMapped, ((changes_of_mapped hMapped "" none).1.mpr ?_).1⟩
  rintro - ref hRef
  cases hRef
  exact ⟨by decide +kernel, Ref.undecorated_eq_self_iff.mp (by decide +kernel)⟩

/-! ### A checkout that was edited -/

theorem seenFrom_ne_empty {contextDir : Option String} {path : String} (hPath : path ≠ "")
    (hInside : ∀ dir, nonempty contextDir = some dir →
      (Path.ofString path).StrictlyInside (Path.ofString dir)) :
    seenFrom contextDir path ≠ "" := by
  unfold seenFrom
  cases hDir : nonempty contextDir with
  | none => exact hPath
  | some dir => exact Path.fromContext_ne_empty (nonempty_some_iff.mp hDir).2 (hInside dir hDir)

theorem normalize_underContext_seenFrom {contextDir : Option String} {path : String}
    (hInside : ∀ dir, nonempty contextDir = some dir →
      (Path.ofString path).StrictlyInside (Path.ofString dir)) :
    Path.normalize (underContext contextDir (seenFrom contextDir path)) = Path.normalize path := by
  unfold underContext seenFrom
  cases hDir : nonempty contextDir with
  | none => rfl
  | some dir =>
    simp only [Path.join_fromContext (nonempty_some_iff.mp hDir).2 (hInside dir hDir)]
    exact Path.normalize_normalize path

theorem branches_checkoutOf_ref (scm : GitCheckout) (url : String) (credentialsId : Option String) :
    (checkoutOf url (scm.ref none) credentialsId).branches =
      ((scm.branch?.map Ref.undecorated).filter fun ref => !Text.allBlank ref).toList.map
        BranchSpec.mk := by
  have hRef : scm.ref none = nonempty (scm.branch?.map Ref.undecorated) := rfl
  simp only [checkoutOf, branchesOf, hRef]
  cases scm.branch?.map Ref.undecorated with
  | none => rfl
  | some name =>
    by_cases hName : name = ""
    · subst hName
      rfl
    · rw [nonempty_of_ne hName]
      cases hBlank : Text.allBlank name <;> simp [Option.filter_some, hBlank]

theorem normalize_mappedScriptPath_of_edited {settings : Settings} {job : Job} {bc : BuildConfig}
    {strategy : PipelineStrategy} {checkout : Checkout} {path : String}
    (hPipeline : bc.pipeline = some strategy) (hJob : job.definition = some (.scm checkout path))
    (hPath : Text.allBlank path = false)
    (hInside : ∀ dir, nonempty bc.contextDir = some dir →
      (Path.ofString path).StrictlyInside (Path.ofString dir)) :
    Path.normalize (mappedScriptPath settings (updatedBy settings job bc strategy)
      (strategy.after settings job bc.contextDir)) = Path.normalize path := by
  have hDir := BuildConfig.contextDir_of_frame (frame_updatedBy settings job hPipeline)
  have hStored : (strategy.after settings job bc.contextDir).scriptPath =
      (scriptPathUpdate bc.contextDir (currentScriptPath settings strategy) path).or
        strategy.scriptPath := by
    simp [PipelineStrategy.after, Job.scriptPath, hJob, hPath]
  rw [mappedScriptPath, hDir, currentScriptPath, hStored, scriptPathUpdate_eq]
  -- The stored path is left alone where it leads to the same file.
  split
  · rename_i hSame
    exact hSame.symm
  · have hne := seenFrom_ne_empty (ne_empty_of_not_blank hPath) hInside
    rw [Option.some_or, nonempty_of_ne hne, Option.getD_some]
    exact normalize_underContext_seenFrom hInside

/-- An edited checkout maps back to the repository, the branch and the file that the job runs. -/
theorem definition_of_edited_checkout {settings : Settings} {job : Job} {bc : BuildConfig}
    {strategy : PipelineStrategy} {scm : GitCheckout} {path url : String} (bridge : Option Bridge)
    (hPipeline : bc.pipeline = some strategy) (hScript : nonempty strategy.script = none)
    (hSync : settings.syncRemote = true) (hJob : job.definition = some (.scm (.git scm) path))
    (hUrl : scm.url? = some url) (hPath : Text.allBlank path = false)
    (hInside : ∀ dir, nonempty bc.contextDir = some dir →
      (Path.ofString path).StrictlyInside (Path.ofString dir)) :
    ∃ scm' path', (mapDefinition settings bridge (reconcile settings job bc).updated).definition =
        some (.scm (.git scm') path') ∧
      scm'.url? = some url ∧
      scm'.branches =
        ((scm.branch?.map Ref.undecorated).filter fun ref => !Text.allBlank ref).toList.map
          BranchSpec.mk ∧
      Path.normalize path' = Path.normalize path := by
  have hRemote : job.remote? settings = some (url, scm.ref none) := by
    simp [Job.remote?, hJob, hPath, hSync, Checkout.git?, GitCheckout.remote?, hUrl]
  -- The tracked fields that the mapping reads, after the edit.
  have hKept : (updatedBy settings job bc strategy).tracked .script = none := by
    rw [tracked_script_updatedBy settings job hPipeline]
    simp [Job.script?, hJob, BuildConfig.tracked, hPipeline, hScript]
  have hUri : (updatedBy settings job bc strategy).tracked .uri = some url := by
    rw [tracked_uri_updatedBy settings job hPipeline, hRemote]
    rfl
  have hRef : (updatedBy settings job bc strategy).tracked .ref = scm.ref none := by
    rw [tracked_ref_updatedBy settings job hPipeline, hRemote]
    rfl
  rw [reconcile_of_pipeline settings job hPipeline,
    definition_mapDefinition settings bridge (pipeline_updatedBy settings job hPipeline), hKept, hUri,
    hRef]
  refine ⟨_, _, rfl, nonempty_of_ne (GitCheckout.url?_ne_empty hUrl), ?_, ?_⟩
  · exact branches_checkoutOf_ref scm url _
  · exact normalize_mappedScriptPath_of_edited hPipeline hJob hPath hInside

theorem definition_of_edited_checkout_below_src :
    let bc := BuildConfig.ofRepository "https://example/repo.git" (some "main") (some "./src")
    let scm : GitCheckout := ⟨[⟨some "https://example/fork.git", none, none, none⟩], [⟨"*/dev"⟩], []⟩
    let job : Job := ⟨"ci/ci-app", some (.scm (.git scm) "src//ci/Jenkinsfile"), none⟩
    ∃ scm' path', (mapDefinition .defaults none (reconcile .defaults job bc).updated).definition =
        some (.scm (.git scm') path') ∧
      scm'.url? = some "https://example/fork.git" ∧ scm'.branches = [⟨"dev"⟩] ∧
      Path.normalize path' = "src/ci/Jenkinsfile" := by
  intro bc scm job
  have hInside : ∀ dir, nonempty bc.contextDir = some dir →
      (Path.ofString "src//ci/Jenkinsfile").StrictlyInside (Path.ofString dir) := by
    intro dir hDir
    cases hDir
    exact ⟨by decide +kernel, by decide +kernel, by decide +kernel⟩
  have hPipeline : bc.pipeline = some ⟨none, none, []⟩ := rfl
  have hSync : Settings.defaults.syncRemote = true := rfl
  have hJob : job.definition = some (.scm (.git scm) "src//ci/Jenkinsfile") := rfl
  have hBlank : Text.allBlank "src//ci/Jenkinsfile" = false := by decide +kernel
  obtain ⟨scm', path', hMapped, hUrl, hBranches, hPath⟩ :=
    definition_of_edited_checkout none hPipeline rfl hSync hJob rfl hBlank hInside
  refine ⟨scm', path', hMapped, hUrl, ?_, ?_⟩
  · exact hBranches.trans (by decide +kernel)
  · exact hPath.trans (by decide +kernel)

end BuildSync
