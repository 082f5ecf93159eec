import BuildSync.Proofs.Sync.Tracked

/-!
# Reported changes as a patch

Writing the reported changes into a BuildConfig gives one that may differ from the reconciled one,
but only where mapping does not look: both have the same tracked fields and the same frame.
-/

set_option autoImplicit false

namespace BuildSync

namespace BuildConfig

/-- Rewrites the git block, and creates it and the source where there is none. -/
def modifyGit (bc : BuildConfig) (f : GitSource → GitSource) : BuildConfig :=
  bc.withSource { bc.sourceOrEmpty with git := some (f (bc.git.getD .empty)) }

/-- Writes a value where a tracked field is stored. -/
def write (bc : BuildConfig) (field : TrackedField) (value : Option String) : BuildConfig :=
  match field with
  | .uri => bc.modifyGit fun git => { git with uri := value }
  | .ref => bc.modifyGit fun git => { git with ref := value }
  | .script => bc.modifyPipeline fun strategy => { strategy with script := value }
  | .scriptPath => bc.modifyPipeline fun strategy => { strategy with scriptPath := value }

def patch (bc : BuildConfig) (changes : List TrackedChange) : BuildConfig :=
  changes.foldl (fun bc change => bc.write change.field change.after) bc

/-! ### One write -/

variable (bc : BuildConfig)

theorem git_modifyGit (f : GitSource → GitSource) :
    (bc.modifyGit f).git = some (f (bc.git.getD .empty)) := rfl

theorem pipeline_modifyGit (f : GitSource → GitSource) :
    (bc.modifyGit f).pipeline = bc.pipeline :=
  bc.pipeline_withSource _

theorem frame_modifyGit (f : GitSource → GitSource) : (bc.modifyGit f).frame = bc.frame := by
  rw [frame_eq, bc.frame_eq]
  rfl

theorem frame_write (field : TrackedField) (value : Option String) :
    (bc.write field value).frame = bc.frame := by
  cases field with
  | uri => exact bc.frame_modifyGit _
  | ref => exact bc.frame_modifyGit _
  | script => exact bc.frame_modifyPipeline _
  | scriptPath => exact bc.frame_modifyPipeline _

theorem isSome_pipeline_write (field : TrackedField) (value : Option String) :
    (bc.write field value).pipeline.isSome = bc.pipeline.isSome := by
  cases field with
  | uri => rw [write, pipeline_modifyGit]
  | ref => rw [write, pipeline_modifyGit]
  | script => rw [write, pipeline_modifyPipeline, Option.isSome_map]
  | scriptPath => rw [write, pipeline_modifyPipeline, Option.isSome_map]

theorem tracked_write {bc : BuildConfig} (h : bc.pipeline.isSome = true) (field : TrackedField)
    (value : Option String) (other : TrackedField) :
    (bc.write field value).tracked other =
      if other = field then nonempty value else bc.tracked other := by
  obtain ⟨strategy, hPipeline⟩ := Option.isSome_iff_exists.mp h
  cases field <;> cases other <;> cases hGit : bc.git <;>
    simp [write, tracked, git_modifyGit, pipeline_modifyGit, hPipeline, hGit, GitSource.empty]

/-! ### Writing all changes -/

theorem frame_patch (changes : List TrackedChange) : (bc.patch changes).frame = bc.frame := by
  induction changes generalizing bc with
  | nil => rfl
  | cons change changes ih => exact (ih _).trans (bc.frame_write change.field change.after)

theorem isSome_pipeline_patch (changes : List TrackedChange) :
    (bc.patch changes).pipeline.isSome = bc.pipeline.isSome := by
  induction changes generalizing bc with
  | nil => rfl
  | cons change changes ih =>
    exact (ih _).trans (bc.isSome_pipeline_write change.field change.after)

/-- A field has the value that all changes to it leave, if there is one or it had that value. -/
theorem tracked_patch {field : TrackedField} {value : Option String} (changes : List TrackedChange)
    (hAfter : ∀ change ∈ changes, change.field = field → nonempty change.after = value) :
    ∀ bc : BuildConfig, bc.pipeline.isSome = true →
      (bc.tracked field = value ∨ ∃ change ∈ changes, change.field = field) →
      (bc.patch changes).tracked field = value := by
  induction changes with
  | nil =>
    rintro bc - (hBefore | ⟨change, hChange, _⟩)
    · exact hBefore
    · cases hChange
  | cons change changes ih =>
    intro bc h hBefore
    have hWritten := tracked_write h change.field change.after field
    -- The first write settles the field, or does not touch it and leaves it to the others.
    apply ih fun other hOther => hAfter other (List.mem_cons_of_mem _ hOther)
    · rw [isSome_pipeline_write, h]
    · by_cases hField : field = change.field
      · rw [if_pos hField, hAfter change List.mem_cons_self hField.symm] at hWritten
        exact Or.inl hWritten
      · rw [if_neg hField] at hWritten
        rw [hWritten]
        refine hBefore.imp_right ?_
        rintro ⟨other, hOther, hAt⟩
        rcases List.mem_cons.mp hOther with rfl | hOther
        · exact absurd hAt.symm hField
        · exact ⟨other, hOther, hAt⟩

theorem tracked_patch_changesBetween {before after : BuildConfig}
    (h : before.pipeline.isSome = true) :
    (before.patch (changesBetween before after)).tracked = after.tracked := by
  funext field
  apply tracked_patch _ _ before h
  · by_cases hSame : before.tracked field = after.tracked field
    · exact Or.inl hSame
    · exact Or.inr ⟨⟨field, _, _⟩, mem_changesBetween_iff.mpr ⟨rfl, rfl, hSame⟩, rfl⟩
  · rintro change hChange rfl
    rw [(mem_changesBetween_iff.mp hChange).2.1, nonempty_tracked]

end BuildConfig

/-! ### Mapping -/

section Mapping

variable {bc bc' : BuildConfig}

theorem findCredential_congr (h : bc.frame = bc'.frame) (bridge : Option Bridge) :
    findCredential bridge bc = findCredential bridge bc' := by
  have hSecret : bc.source.bind BuildSource.sourceSecret =
      bc'.source.bind BuildSource.sourceSecret := BuildConfig.sourceSecret_of_frame h
  have hMetadata : bc.metadata = bc'.metadata := congrArg Prod.fst h
  simp only [findCredential, Bridge.consult, hSecret, hMetadata]

theorem mappedScriptPath_eq (settings : Settings) {strategy : PipelineStrategy}
    (h : bc.pipeline = some strategy) :
    mappedScriptPath settings bc strategy =
      underContext bc.contextDir ((bc.tracked .scriptPath).getD settings.defaultScriptPath) := by
  simp [mappedScriptPath, currentScriptPath, BuildConfig.tracked, h]

/-- Mapping sees the tracked fields and the frame of a pipeline build. -/
theorem mapDefinition_congr (hPipeline : bc.pipeline.isSome = bc'.pipeline.isSome)
    (hTracked : bc.tracked = bc'.tracked) (hFrame : bc.frame = bc'.frame) (settings : Settings)
    (bridge : Option Bridge) :
    mapDefinition settings bridge bc = mapDefinition settings bridge bc' := by
  have hDir := BuildConfig.contextDir_of_frame hFrame
  have hCredential := findCredential_congr hFrame bridge
  cases h : bc.pipeline with
  | none =>
    have h' : bc'.pipeline = none := by simpa [h] using hPipeline
    simp only [mapDefinition, h, h']
  | some strategy =>
    obtain ⟨strategy', h'⟩ : ∃ strategy', bc'.pipeline = some strategy' := by
      rw [← Option.isSome_iff_exists, ← hPipeline, h]
      rfl
    rw [mapDefinition_eq settings bridge h, mapDefinition_eq settings bridge h', credentialId?,
      credentialId?, mappedScriptPath_eq settings h, mappedScriptPath_eq settings h', hTracked, hDir,
      hCredential]

end Mapping

theorem mapDefinition_patch_updatedBy (settings : Settings) (job : Job) {bc : BuildConfig}
    {strategy : PipelineStrategy} (h : bc.pipeline = some strategy) (settings' : Settings)
    (bridge : Option Bridge) :
    mapDefinition settings' bridge
        (bc.patch (changesBetween bc (updatedBy settings job bc strategy))) =
      mapDefinition settings' bridge (updatedBy settings job bc strategy) := by
  have hSome : bc.pipeline.isSome = true := by
    rw [h]
    rfl
  -- The reconciled one may have a source or a source type more; neither is looked at.
  apply mapDefinition_congr
  · rw [bc.isSome_pipeline_patch, hSome, pipeline_updatedBy settings job h]
    rfl
  · exact BuildConfig.tracked_patch_changesBetween hSome
  · rw [bc.frame_patch, frame_updatedBy settings job h]

/-- Writing the reported changes into a BuildConfig is as good as the reconciled one for every
mapping, and without a reported change so is the BuildConfig itself. -/
theorem mapDefinition_patch_changes (settings : Settings) (job : Job) (bc : BuildConfig)
    (settings' : Settings) (bridge : Option Bridge) :
    let outcome := reconcile settings job bc
    mapDefinition settings' bridge (bc.patch outcome.changes) =
        mapDefinition settings' bridge outcome.updated ∧
      (outcome.changed = false →
        mapDefinition settings' bridge bc = mapDefinition settings' bridge outcome.updated) := by
  intro outcome
  have hPatched : mapDefinition settings' bridge (bc.patch outcome.changes) =
      mapDefinition settings' bridge outcome.updated := by
    cases h : bc.pipeline with
    | none =>
      have hOutcome : outcome = ⟨bc, [], none⟩ := reconcile_of_no_pipeline settings job h
      rw [hOutcome]
      rfl
    | some strategy =>
      have hOutcome : outcome = _ := reconcile_of_pipeline settings job h
      rw [hOutcome]
      exact mapDefinition_patch_updatedBy settings job h settings' bridge
  refine ⟨hPatched, ?_⟩
  intro hUnchanged
  have hNone : outcome.changes = [] := by simpa [Outcome.changed] using hUnchanged
  rw [← hPatched, hNone]
  rfl

end BuildSync
