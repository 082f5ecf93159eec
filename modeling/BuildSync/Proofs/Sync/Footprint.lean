import BuildSync.Proofs.Sync.Tracked

/-!
# The footprint of reconciling

For each kind of job the fields that reconciling may write. Everything else stays as it is, the
other entries of every block included.
-/

set_option autoImplicit false

namespace BuildSync

namespace BuildConfig

/-- Another source and another pipeline strategy, and all else as it is. -/
def rewritten (bc : BuildConfig) (source : Option BuildSource) (strategy : PipelineStrategy) :
    BuildConfig :=
  { bc with
    spec := bc.spec.map fun spec =>
      { spec with
        source := source
        strategy := spec.strategy.map fun block => { block with pipeline := some strategy } } }

def strategyType (bc : BuildConfig) : Option String :=
  (bc.spec.bind BuildSpec.strategy).bind BuildStrategy.type

theorem modifyPipeline_putSource_eq {bc : BuildConfig} {strategy : PipelineStrategy}
    (h : bc.pipeline = some strategy) (source : Option BuildSource) (strategy' : PipelineStrategy) :
    (bc.putSource source).modifyPipeline (fun _ => strategy') =
      bc.rewritten (source.or bc.source) strategy' := by
  obtain ⟨apiVersion, kind, metadata, spec, extras⟩ := bc
  cases spec with
  | none => cases h
  | some spec =>
    obtain ⟨stored, block, extras'⟩ := spec
    cases block with
    | none => cases h
    | some block =>
      cases hPipeline : block.isPipeline with
      | false => simp [pipeline, hPipeline] at h
      | true =>
        have hBlock : block.pipeline = some strategy := by simpa [pipeline, hPipeline] using h
        cases source <;>
          simp [putSource, withSource, modifyPipeline, rewritten, hPipeline, hBlock,
            BuildConfig.source]

theorem strategyType_rewritten (bc : BuildConfig) (source : Option BuildSource)
    (strategy : PipelineStrategy) : (bc.rewritten source strategy).strategyType = bc.strategyType := by
  obtain ⟨apiVersion, kind, metadata, spec, extras⟩ := bc
  cases spec with
  | none => rfl
  | some spec =>
    obtain ⟨stored, block, extras'⟩ := spec
    cases block <;> rfl

end BuildConfig

/-- What a checkout may do to a git block: without a URL nothing, and with one the repository and
the ref are written, into a new block where there is none. -/
def GitCheckout.MayPoint (scm : GitCheckout) (before after : Option GitSource) : Prop :=
  after = before ∨
    scm.url?.isSome = true ∧
      ∃ uri ref, after = some { before.getD .empty with uri := uri, ref := ref }

/-- What a job may leave of a BuildConfig, by the kind of the job. -/
inductive Job.Footprint (settings : Settings) (job : Job) (bc : BuildConfig)
    (strategy : PipelineStrategy) : BuildConfig → Prop
  | inline {text : String} {sandbox : Bool} (hJob : job.definition = some (.inline text sandbox))
      (script : Option String) :
      Footprint settings job bc strategy
        (bc.rewritten bc.source { strategy with script := script })
  | scriptPath {checkout : Checkout} {path : String}
      (hJob : job.definition = some (.scm checkout path)) (scriptPath : Option String) :
      Footprint settings job bc strategy
        (bc.rewritten (some bc.sourceOrEmpty) { strategy with scriptPath := scriptPath })
  | checkout {scm : GitCheckout} {path : String}
      (hJob : job.definition = some (.scm (.git scm) path)) (hPath : Text.allBlank path = false)
      (hSync : settings.syncRemote = true) {git : Option GitSource} (hGit : scm.MayPoint bc.git git)
      (scriptPath : Option String) :
      Footprint settings job bc strategy
        (bc.rewritten (some { bc.sourceOrEmpty with type := some gitSourceType, git := git })
          { strategy with scriptPath := scriptPath })
  | untouched (hJob : job.FollowsBranch) : Footprint settings job bc strategy bc
  | branch {branch : BranchProperty} {scm : GitCheckout} (hJob : job.FollowsBranch)
      (hBranch : job.branch = some branch) (hScm : branch.git? = some scm)
      {git : Option GitSource} (hGit : scm.MayPoint bc.git git) {scriptPath : Option String}
      (hScriptPath : scriptPath = strategy.scriptPath ∨
        scm.url?.isSome = true ∧ nonempty strategy.scriptPath = none) :
      Footprint settings job bc strategy
        (bc.rewritten (some { bc.sourceOrEmpty with type := some gitSourceType, git := git })
          { strategy with scriptPath := scriptPath })

theorem mayPoint_taking (bc : BuildConfig) (scm : GitCheckout) (refOverride : Option String) :
    scm.MayPoint bc.git (bc.sourceOrEmpty.taking (scm.remote? refOverride)).git := by
  simp only [BuildSource.taking, bc.git_sourceOrEmpty, GitCheckout.MayPoint, GitCheckout.remote?]
  cases scm.url? with
  | none => exact Or.inl rfl
  | some url => exact Or.inr ⟨rfl, _, _, rfl⟩

section UpdatedBy

variable (settings : Settings) {job : Job} {bc : BuildConfig} {strategy : PipelineStrategy}

theorem updatedBy_eq_rewritten (h : bc.pipeline = some strategy) :
    updatedBy settings job bc strategy =
      bc.rewritten ((job.source? settings bc.sourceOrEmpty).or bc.source)
        (strategy.after settings job bc.contextDir) := by
  rw [updatedBy_eq settings job h, BuildConfig.modifyPipeline_putSource_eq h]

theorem footprint_inline {text : String} {sandbox : Bool} (h : bc.pipeline = some strategy)
    (hJob : job.definition = some (.inline text sandbox)) :
    job.Footprint settings bc strategy (updatedBy settings job bc strategy) := by
  have hSource : job.source? settings bc.sourceOrEmpty = none := by simp [Job.source?, hJob]
  have hPath : job.scriptPath settings bc.contextDir strategy = strategy.scriptPath := by
    simp [Job.scriptPath, hJob]
  rw [updatedBy_eq_rewritten settings h, hSource, PipelineStrategy.after, hPath]
  exact .inline hJob _

theorem footprint_scm {checkout : Checkout} {path : String} (h : bc.pipeline = some strategy)
    (hJob : job.definition = some (.scm checkout path)) :
    job.Footprint settings bc strategy (updatedBy settings job bc strategy) := by
  have hScript : job.script? = none := by simp [Job.script?, hJob]
  rw [updatedBy_eq_rewritten settings h, PipelineStrategy.after, hScript, Option.none_or]
  simp only [Job.source?, hJob]
  split
  · exact .scriptPath hJob _
  · rename_i hTake
    obtain ⟨hPath, hSync⟩ : Text.allBlank path = false ∧ settings.syncRemote = true := by
      simpa using hTake
    cases checkout with
    | unsupported className => exact .scriptPath hJob _
    | git scm => exact .checkout hJob hPath hSync (mayPoint_taking bc scm none) _

theorem footprint_branch (h : bc.pipeline = some strategy) (hJob : job.FollowsBranch) :
    job.Footprint settings bc strategy (updatedBy settings job bc strategy) := by
  cases hBranch : job.branch with
  | none =>
    rw [updatedBy_branch settings hJob, hBranch]
    exact .untouched hJob
  | some branch =>
    cases hScm : branch.git? with
    | none =>
      rw [updatedBy_branch settings hJob, hBranch]
      simp only [takeBranch, hScm]
      exact .untouched hJob
    | some scm =>
      have hSource : job.source? settings bc.sourceOrEmpty =
          some (bc.sourceOrEmpty.taking (scm.remote? (some branch.name))) := by
        simp [hJob.source?_eq, hBranch, hScm]
      have hRemote : (job.remote? settings).isSome = scm.url?.isSome := by
        simp [hJob.remote?_eq, hBranch, hScm, GitCheckout.remote?]
      rw [updatedBy_eq_rewritten settings h, hSource, PipelineStrategy.after, hJob.script?_eq,
        Option.none_or]
      refine .branch hJob hBranch hScm (mayPoint_taking bc scm _) ?_
      rw [hJob.scriptPath_eq, hRemote]
      split
      · rename_i hDefault
        exact Or.inr (by simpa using hDefault)
      · exact Or.inl rfl

end UpdatedBy

/-- Reconciling stays within the footprint of the job; nothing else of the BuildConfig changes. -/
theorem reconcile_footprint (settings : Settings) (job : Job) (bc : BuildConfig) :
    let after := (reconcile settings job bc).updated
    (match bc.pipeline with
      | none => after = bc
      | some strategy => job.Footprint settings bc strategy after) ∧
    after.metadata = bc.metadata ∧ after.contextDir = bc.contextDir ∧
      after.sourceSecret = bc.sourceSecret ∧ after.strategyType = bc.strategyType := by
  intro after
  cases h : bc.pipeline with
  | none =>
    have hAfter : after = bc := congrArg Outcome.updated (reconcile_of_no_pipeline settings job h)
    rw [hAfter]
    exact ⟨rfl, rfl, rfl, rfl, rfl⟩
  | some strategy =>
    have hAfter : after = updatedBy settings job bc strategy :=
      congrArg Outcome.updated (reconcile_of_pipeline settings job h)
    have hFrame := frame_updatedBy settings job h
    rw [hAfter]
    refine ⟨?_, congrArg Prod.fst hFrame, BuildConfig.contextDir_of_frame hFrame,
      BuildConfig.sourceSecret_of_frame hFrame, ?_⟩
    · rcases job.kinds with ⟨checkout, path, hJob⟩ | ⟨text, sandbox, hJob⟩ | hJob
      · exact footprint_scm settings h hJob
      · exact footprint_inline settings h hJob
      · exact footprint_branch settings h hJob
    · rw [updatedBy_eq_rewritten settings h, BuildConfig.strategyType_rewritten]

end BuildSync
