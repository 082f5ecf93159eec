import BuildSync.Proofs.Sync.Tracked

/-!
# Reconciling twice

A reconciled BuildConfig is a fixed point of reconciling with the same job: every block that the
job replaces has been replaced already.
-/

set_option autoImplicit false

namespace BuildSync

@[simp]
theorem pointed_pointed (git : Option GitSource) (remote : Option RemoteRef) :
    pointed (pointed git remote) remote = pointed git remote := by
  cases remote <;> rfl

@[simp]
theorem BuildSource.taking_taking (source : BuildSource) (remote : Option RemoteRef) :
    (source.taking remote).taking remote = source.taking remote := by
  simp [BuildSource.taking]

namespace Job

theorem source?_eq_none {settings : Settings} {job : Job} {source : BuildSource}
    (h : job.source? settings source = none) (other : BuildSource) :
    job.source? settings other = none := by
  unfold source? at h ⊢
  split at h
  · split at h <;> cases h
  · rfl
  · cases hBranch : job.branch with
    | none => rfl
    | some branch => simpa [hBranch] using h

theorem source?_source? {settings : Settings} {job : Job} {source source' : BuildSource}
    (h : job.source? settings source = some source') :
    job.source? settings source' = some source' := by
  unfold source? at h ⊢
  split at h
  · rename_i checkout path hJob
    split at h
    · rename_i hKeep
      exact if_pos hKeep
    · rename_i hTake
      rw [if_neg hTake]
      cases checkout with
      | unsupported className => rfl
      | git scm =>
        cases h
        simp [Checkout.git?]
  · cases h
  · obtain ⟨branch, hBranch, hTaken⟩ := Option.bind_eq_some_iff.mp h
    obtain ⟨scm, hScm, rfl⟩ := Option.map_eq_some_iff.mp hTaken
    simp [hBranch, hScm]

/-- The path that a job leaves is the one it leaves again. -/
theorem scriptPath_scriptPath (settings : Settings) (job : Job) (contextDir : Option String)
    {strategy strategy' : PipelineStrategy}
    (h : strategy'.scriptPath = job.scriptPath settings contextDir strategy) :
    job.scriptPath settings contextDir strategy' = strategy'.scriptPath := by
  unfold scriptPath at h ⊢
  split at h
  · rename_i checkout path hJob
    cases hPath : Text.allBlank path with
    | true => rfl
    | false =>
      rw [hPath] at h
      simp only [Bool.false_eq_true, if_false, scriptPathUpdate_eq] at h ⊢
      -- A path that was kept is compared as before; one that was stored is stored again.
      split at h
      · have hCurrent : currentScriptPath settings strategy' = currentScriptPath settings strategy := by
          rw [currentScriptPath, h, Option.none_or, currentScriptPath]
        rename_i hSame
        rw [hCurrent, if_pos hSame, Option.none_or]
      · rw [h]
        split <;> rfl
  · rfl
  · split at h
    · split
      · exact h.symm
      · rfl
    · rename_i hKeep
      rw [h, if_neg hKeep]

end Job

theorem PipelineStrategy.after_after (settings : Settings) (job : Job) (contextDir : Option String)
    (strategy : PipelineStrategy) :
    (strategy.after settings job contextDir).after settings job contextDir =
      strategy.after settings job contextDir := by
  have hPath : job.scriptPath settings contextDir (strategy.after settings job contextDir) =
      (strategy.after settings job contextDir).scriptPath :=
    job.scriptPath_scriptPath settings contextDir rfl
  have hScript : job.script?.or (job.script?.or strategy.script) =
      job.script?.or strategy.script := by
    cases job.script? <;> rfl
  rw [PipelineStrategy.after, hPath]
  simp only [PipelineStrategy.after, hScript]

theorem updatedBy_updatedBy (settings : Settings) (job : Job) {bc : BuildConfig}
    {strategy : PipelineStrategy} (h : bc.pipeline = some strategy) :
    updatedBy settings job (updatedBy settings job bc strategy)
        (strategy.after settings job bc.contextDir) = updatedBy settings job bc strategy := by
  have hPipeline := pipeline_updatedBy settings job h
  have hDir := BuildConfig.contextDir_of_frame (frame_updatedBy settings job h)
  have hSource : (updatedBy settings job bc strategy).putSource
      (job.source? settings (updatedBy settings job bc strategy).sourceOrEmpty) =
        updatedBy settings job bc strategy := by
    cases hTouch : job.source? settings bc.sourceOrEmpty with
    | none =>
      rw [Job.source?_eq_none hTouch]
      rfl
    | some source =>
      have hStored : (updatedBy settings job bc strategy).source = some source := by
        rw [updatedBy_eq settings job h, BuildConfig.source_modifyPipeline, hTouch]
        rfl
      rw [BuildConfig.sourceOrEmpty_of_source _ hStored, Job.source?_source? hTouch]
      exact BuildConfig.withSource_eq_self _ hStored
  rw [updatedBy_eq settings job hPipeline, hSource, hDir, PipelineStrategy.after_after]
  exact BuildConfig.modifyPipeline_eq_self _ hPipeline rfl

theorem ensureSecret_congr {source source' : Option BuildSource}
    (h : source.bind BuildSource.sourceSecret = source'.bind BuildSource.sourceSecret) :
    ensureSecret source = ensureSecret source' := by
  funext scm
  rw [ensureSecret, missingSecret, h, ensureSecret, missingSecret]

/-- Reconciling with the same job again changes nothing and reports nothing. -/
theorem reconcile_updated (settings : Settings) (job : Job) (bc : BuildConfig) :
    reconcile settings job (reconcile settings job bc).updated =
      { reconcile settings job bc with changes := [] } := by
  cases h : bc.pipeline with
  | none =>
    rw [reconcile_of_no_pipeline settings job h]
    exact reconcile_of_no_pipeline settings job h
  | some strategy =>
    have hSecret := ensureSecret_congr
      (BuildConfig.sourceSecret_of_frame (frame_updatedBy settings job h))
    rw [reconcile_of_pipeline settings job h]
    rw [reconcile_of_pipeline settings job (pipeline_updatedBy settings job h),
      updatedBy_updatedBy settings job h, hSecret, changesBetween_eq_nil_iff.mpr rfl]

end BuildSync
