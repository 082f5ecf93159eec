import BuildSync.Proofs.Sync.Carried

/-!
# Building a discovered branch

After a job that was discovered for a branch, the BuildConfig maps to that branch: to the repository
it was found in, to its name, and to the script path as it was mapped before. Whether the sync
refreshes repositories does not matter.
-/

set_option autoImplicit false

namespace BuildSync

/-- The branch of a checkout that was discovered under a name, which may be empty. -/
def GitCheckout.branchNamed (scm : GitCheckout) (name : String) : String :=
  (nonempty (some name)).getD ((scm.branch?.map Ref.undecorated).getD "")

theorem nonempty_getD_empty (s : Option String) : (nonempty s).getD "" = s.getD "" := by
  unfold nonempty
  split <;> rfl

theorem GitCheckout.branchNamed_eq (scm : GitCheckout) (name : String) :
    scm.branchNamed name =
      ((nonempty (some name)).or (nonempty (scm.branch?.map Ref.undecorated))).getD "" := by
  unfold branchNamed
  cases nonempty (some name) with
  | none => rw [Option.none_or, nonempty_getD_empty, Option.getD_none]
  | some name => rfl

theorem mappedScriptPath_of_discovered {settings : Settings} {job : Job} {bc : BuildConfig}
    {strategy : PipelineStrategy} {name url : String} {scm : GitCheckout}
    (hPipeline : bc.pipeline = some strategy) (hJob : job.DiscoveredFor name scm url) :
    mappedScriptPath settings (updatedBy settings job bc strategy)
        (strategy.after settings job bc.contextDir) =
      mappedScriptPath settings bc strategy := by
  have hDir := BuildConfig.contextDir_of_frame (frame_updatedBy settings job hPipeline)
  have hStored : (strategy.after settings job bc.contextDir).scriptPath =
      if (nonempty strategy.scriptPath).isNone then some settings.defaultScriptPath
      else strategy.scriptPath := by
    simp [PipelineStrategy.after, hJob.1.scriptPath_eq, hJob.remote?_eq settings]
  rw [mappedScriptPath, mappedScriptPath, hDir, currentScriptPath, currentScriptPath, hStored]
  -- The default is filled in where the mapping takes it anyway.
  cases hPath : nonempty strategy.scriptPath with
  | none =>
    have hDefault : (nonempty (some settings.defaultScriptPath)).getD settings.defaultScriptPath =
        settings.defaultScriptPath := by
      unfold nonempty
      split <;> simp_all
    simp [hDefault]
  | some path => simp [hPath]

/-- A discovered branch is what the BuildConfig builds afterwards. -/
theorem definition_of_discovered_branch (settings : Settings) (bridge : Option Bridge) {job : Job}
    {bc : BuildConfig} {strategy : PipelineStrategy} {name url : String} {scm : GitCheckout}
    (hPipeline : bc.pipeline = some strategy) (hScript : nonempty strategy.script = none)
    (hJob : job.DiscoveredFor name scm url) :
    ∃ built, (mapDefinition settings bridge (reconcile settings job bc).updated).definition =
        some (.scm (.git built) (mappedScriptPath settings bc strategy)) ∧
      built.url? = some url ∧
      built.branches =
        if Text.allBlank (scm.branchNamed name) then [] else [⟨scm.branchNamed name⟩] := by
  have hRemote := hJob.remote?_eq settings
  have hKept : (updatedBy settings job bc strategy).tracked .script = none := by
    rw [tracked_script_updatedBy settings job hPipeline, hJob.1.script?_eq, BuildConfig.tracked,
      hPipeline]
    exact hScript
  have hUri : (updatedBy settings job bc strategy).tracked .uri = some url := by
    rw [tracked_uri_updatedBy settings job hPipeline, hRemote]
    rfl
  have hRef : ((updatedBy settings job bc strategy).tracked .ref).getD "" =
      scm.branchNamed name := by
    rw [tracked_ref_updatedBy settings job hPipeline, hRemote, scm.branchNamed_eq]
    rfl
  rw [reconcile_of_pipeline settings job hPipeline,
    definition_mapDefinition settings bridge (pipeline_updatedBy settings job hPipeline), hKept,
    hUri, mappedScriptPath_of_discovered hPipeline hJob, ← hRef]
  exact ⟨_, rfl, nonempty_of_ne (GitCheckout.url?_ne_empty hJob.2.2), rfl⟩

theorem definition_of_discovered_branch_without_source :
    let settings := { Settings.defaults with syncRemote := false }
    let strategy : PipelineStrategy := ⟨some "", some "", []⟩
    let bc : BuildConfig :=
      ⟨BuildConfig.defaultApiVersion, BuildConfig.model, ⟨"ci", "app", []⟩,
        some ⟨none, some ⟨none, some strategy, []⟩, []⟩, []⟩
    let scm : GitCheckout := ⟨[⟨some "https://example/fork.git", none, none, none⟩], [⟨"*/dev"⟩], []⟩
    let job : Job := ⟨"", some (.unsupported "binder"), some ⟨"", some (.git scm)⟩⟩
    ∃ built, (mapDefinition settings none (reconcile settings job bc).updated).definition =
        some (.scm (.git built) "Jenkinsfile") ∧
      built.url? = some "https://example/fork.git" ∧ built.branches = [⟨"dev"⟩] := by
  intro settings strategy bc scm job
  have hJob : job.DiscoveredFor "" scm "https://example/fork.git" :=
    ⟨Or.inr ⟨"binder", rfl⟩, rfl, by decide +kernel⟩
  have hPipeline : bc.pipeline = some strategy := rfl
  obtain ⟨built, hMapped, hUrl, hBranches⟩ :=
    definition_of_discovered_branch settings none hPipeline rfl hJob
  have hPath : mappedScriptPath settings bc strategy = "Jenkinsfile" := by decide +kernel
  exact ⟨built, hPath ▸ hMapped, hUrl, hBranches.trans (by decide +kernel)⟩

end BuildSync
