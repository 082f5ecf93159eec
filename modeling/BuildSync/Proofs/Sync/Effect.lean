import BuildSync.Proofs.Manifest.Blocks
import BuildSync.Sync.Reconcile

/-!
# What a job writes

A job carries at most a repository with its ref, an inline script and a script path. Reconciling
replaces the source and the strategy block by blocks that are computed from these, and nothing
else.
-/

set_option autoImplicit false

namespace BuildSync

/-- A repository and the ref in it. -/
abbrev RemoteRef := String × Option String

def GitCheckout.remote? (scm : GitCheckout) (refOverride : Option String) : Option RemoteRef :=
  scm.url?.map fun url => (url, scm.ref refOverride)

def pointed (git : Option GitSource) (remote : Option RemoteRef) : Option GitSource :=
  match remote with
  | none => git
  | some (url, ref) => some { git.getD .empty with uri := some url, ref := ref }

def BuildSource.taking (source : BuildSource) (remote : Option RemoteRef) : BuildSource :=
  { source with type := some gitSourceType, git := pointed source.git remote }

namespace Job

/-- The repository that a job carries. -/
def remote? (settings : Settings) (job : Job) : Option RemoteRef :=
  match job.definition with
  | some (.scm checkout path) =>
    if Text.allBlank path || !settings.syncRemote then none
    else checkout.git?.bind fun scm => scm.remote? none
  | some (.inline _ _) => none
  | _ => job.branch.bind fun branch => branch.git?.bind fun scm => scm.remote? (some branch.name)

def script? (job : Job) : Option String :=
  match job.definition with
  | some (.inline script _) => if Text.allBlank script then none else some script
  | _ => none

/-- The script path that a job leaves in a strategy. -/
def scriptPath (settings : Settings) (job : Job) (contextDir : Option String)
    (strategy : PipelineStrategy) : Option String :=
  match job.definition with
  | some (.scm _ path) =>
    if Text.allBlank path then strategy.scriptPath
    else
      (scriptPathUpdate contextDir (currentScriptPath settings strategy) path).or
        strategy.scriptPath
  | some (.inline _ _) => strategy.scriptPath
  | _ =>
    if (job.remote? settings).isSome && (nonempty strategy.scriptPath).isNone then
      some settings.defaultScriptPath
    else strategy.scriptPath

/-- The source that a job leaves, if it touches the source at all. -/
def source? (settings : Settings) (job : Job) (source : BuildSource) : Option BuildSource :=
  match job.definition with
  | some (.scm checkout path) =>
    if Text.allBlank path || !settings.syncRemote then some source
    else some (checkout.git?.elim source fun scm => source.taking (scm.remote? none))
  | some (.inline _ _) => none
  | _ =>
    job.branch.bind fun branch =>
      branch.git?.map fun scm => source.taking (scm.remote? (some branch.name))

/-- The job runs neither a checkout definition nor an inline script. -/
def FollowsBranch (job : Job) : Prop :=
  job.definition = none ∨ ∃ className, job.definition = some (.unsupported className)

theorem kinds (job : Job) :
    (∃ checkout path, job.definition = some (.scm checkout path)) ∨
      (∃ script sandbox, job.definition = some (.inline script sandbox)) ∨ job.FollowsBranch := by
  cases hDefinition : job.definition with
  | none => exact Or.inr (Or.inr (Or.inl hDefinition))
  | some definition =>
    cases definition with
    | inline script sandbox => exact Or.inr (Or.inl ⟨script, sandbox, rfl⟩)
    | scm checkout path => exact Or.inl ⟨checkout, path, rfl⟩
    | unsupported className => exact Or.inr (Or.inr (Or.inr ⟨className, hDefinition⟩))

namespace FollowsBranch

variable {job : Job} (hJob : job.FollowsBranch) (settings : Settings)

include hJob

theorem script?_eq : job.script? = none := by
  rcases hJob with h | ⟨className, h⟩ <;> simp [script?, h]

theorem remote?_eq :
    job.remote? settings = job.branch.bind fun branch =>
      branch.git?.bind fun scm => scm.remote? (some branch.name) := by
  rcases hJob with h | ⟨className, h⟩ <;> simp [remote?, h]

theorem source?_eq (source : BuildSource) :
    job.source? settings source = job.branch.bind fun branch =>
      branch.git?.map fun scm => source.taking (scm.remote? (some branch.name)) := by
  rcases hJob with h | ⟨className, h⟩ <;> simp [source?, h]

theorem scriptPath_eq (contextDir : Option String) (strategy : PipelineStrategy) :
    job.scriptPath settings contextDir strategy =
      if (job.remote? settings).isSome && (nonempty strategy.scriptPath).isNone then
        some settings.defaultScriptPath
      else strategy.scriptPath := by
  rcases hJob with h | ⟨className, h⟩ <;> simp [scriptPath, h]

end FollowsBranch

theorem git_source? (settings : Settings) (job : Job) (source : BuildSource) :
    (job.source? settings source).elim source.git BuildSource.git =
      pointed source.git (job.remote? settings) := by
  unfold source? remote?
  split
  · rename_i checkout path hJob
    cases Text.allBlank path || !settings.syncRemote with
    | true => rfl
    | false => cases checkout <;> rfl
  · rfl
  · cases job.branch with
    | none => rfl
    | some branch => cases hGit : branch.git? <;> simp [hGit, pointed, BuildSource.taking]

theorem source?_eq_some (settings : Settings) (job : Job) {source source' : BuildSource}
    (h : job.source? settings source = some source') :
    ∃ type git, source' = { source with type := type, git := git } := by
  unfold source? at h
  split at h
  · rename_i checkout path hJob
    split at h
    · exact ⟨source.type, source.git, (Option.some.inj h).symm⟩
    · cases checkout with
      | git scm => exact ⟨_, _, (Option.some.inj h).symm⟩
      | unsupported className => exact ⟨source.type, source.git, (Option.some.inj h).symm⟩
  · cases h
  · obtain ⟨branch, hBranch, hTaken⟩ := Option.bind_eq_some_iff.mp h
    obtain ⟨scm, hScm, rfl⟩ := Option.map_eq_some_iff.mp hTaken
    exact ⟨_, _, rfl⟩

end Job

def PipelineStrategy.after (settings : Settings) (job : Job) (contextDir : Option String)
    (strategy : PipelineStrategy) : PipelineStrategy :=
  { strategy with
    script := job.script?.or strategy.script
    scriptPath := job.scriptPath settings contextDir strategy }

namespace BuildConfig

def putSource (bc : BuildConfig) (source : Option BuildSource) : BuildConfig :=
  source.elim bc bc.withSource

@[simp]
theorem pipeline_putSource (bc : BuildConfig) (source : Option BuildSource) :
    (bc.putSource source).pipeline = bc.pipeline := by
  cases source with
  | none => rfl
  | some source => exact bc.pipeline_withSource source

theorem git_putSource (bc : BuildConfig) (source : Option BuildSource) :
    (bc.putSource source).git = source.elim bc.git BuildSource.git := by
  cases source <;> rfl

def putScriptPath (bc : BuildConfig) (path : Option String) : BuildConfig :=
  match path with
  | some path => bc.withScriptPath path
  | none => bc

theorem putScriptPath_eq {bc : BuildConfig} {strategy : PipelineStrategy}
    (h : bc.pipeline = some strategy) (path : Option String) :
    bc.putScriptPath path =
      bc.modifyPipeline fun _ => { strategy with scriptPath := path.or strategy.scriptPath } := by
  cases path with
  | none => exact (bc.modifyPipeline_eq_self h rfl).symm
  | some path => exact bc.modifyPipeline_congr h rfl

/-- What the mapping reads and no job writes. -/
def frame (bc : BuildConfig) : ObjectMeta × Option String × Option SecretReference :=
  (bc.metadata, bc.contextDir, bc.sourceSecret)

theorem frame_eq (bc : BuildConfig) :
    bc.frame = (bc.metadata, bc.sourceOrEmpty.contextDir, bc.sourceOrEmpty.sourceSecret) := by
  unfold frame contextDir sourceSecret sourceOrEmpty
  cases bc.source <;> rfl

theorem frame_modifyPipeline (bc : BuildConfig) (f : PipelineStrategy → PipelineStrategy) :
    (bc.modifyPipeline f).frame = bc.frame := by
  rw [frame_eq, sourceOrEmpty_modifyPipeline, frame_eq]
  rfl

theorem contextDir_of_frame {bc bc' : BuildConfig} (h : bc.frame = bc'.frame) :
    bc.contextDir = bc'.contextDir := congrArg (fun frame => frame.2.1) h

theorem sourceSecret_of_frame {bc bc' : BuildConfig} (h : bc.frame = bc'.frame) :
    bc.sourceSecret = bc'.sourceSecret := congrArg (fun frame => frame.2.2) h

theorem frame_ensureSource (bc : BuildConfig) : bc.ensureSource.frame = bc.frame := by
  rw [frame_eq, sourceOrEmpty_ensureSource, frame_eq]
  rfl

end BuildConfig

/-! ### Checkouts -/

@[simp]
theorem url?_ensureSecret (source : Option BuildSource) (scm : GitCheckout) :
    (ensureSecret source scm).url? = scm.url? := by
  unfold ensureSecret
  split
  · rfl
  · obtain ⟨remotes, branches, extensions⟩ := scm
    cases remotes <;> rfl

@[simp]
theorem ref_ensureSecret (source : Option BuildSource) (scm : GitCheckout)
    (refOverride : Option String) :
    (ensureSecret source scm).ref refOverride = scm.ref refOverride := by
  unfold ensureSecret
  split <;> rfl

@[simp]
theorem remote?_ensureSecret (source : Option BuildSource) (scm : GitCheckout)
    (refOverride : Option String) :
    (ensureSecret source scm).remote? refOverride = scm.remote? refOverride := by
  simp [GitCheckout.remote?]

theorem applyCheckout_eq (bc : BuildConfig) (scm : GitCheckout) (refOverride : Option String) :
    applyCheckout bc scm refOverride =
      bc.withSource (bc.sourceOrEmpty.taking (scm.remote? refOverride)) := by
  unfold applyCheckout GitCheckout.remote?
  cases scm.url? <;> rfl

def takeRemote (settings : Settings) (checkout : Checkout) (bc : BuildConfig) : BuildConfig :=
  match checkout.git? with
  | some scm =>
    if settings.syncRemote then applyCheckout bc (ensureSecret bc.source scm) none else bc
  | none => bc

theorem takeRemote_eq (settings : Settings) (checkout : Checkout) (bc : BuildConfig) :
    takeRemote settings checkout bc =
      bc.putSource (if settings.syncRemote then
        checkout.git?.map fun scm => bc.sourceOrEmpty.taking (scm.remote? none) else none) := by
  unfold takeRemote
  cases checkout with
  | unsupported className => cases settings.syncRemote <;> rfl
  | git scm =>
    cases settings.syncRemote with
    | false => rfl
    | true =>
      simp only [Checkout.git?, if_true, applyCheckout_eq, remote?_ensureSecret]
      rfl

/-! ### The three kinds of job -/

section Kinds

variable (settings : Settings) {bc : BuildConfig} {strategy : PipelineStrategy} {job : Job}

theorem takeScm_of_not_blank {path : String} (hPath : Text.allBlank path = false)
    (checkout : Checkout) (bc : BuildConfig) (strategy : PipelineStrategy) :
    takeScm settings checkout path bc strategy =
      takeRemote settings checkout (bc.ensureSource.putScriptPath
        (scriptPathUpdate bc.contextDir (currentScriptPath settings strategy) path)) := by
  have hDir := BuildConfig.contextDir_of_frame bc.frame_ensureSource
  simp only [takeScm, hPath, hDir, Bool.false_eq_true, if_false]
  rfl

theorem takeScm_eq {checkout : Checkout} {path : String}
    (hJob : job.definition = some (.scm checkout path)) (h : bc.pipeline = some strategy) :
    takeScm settings checkout path bc strategy =
      (bc.putSource (job.source? settings bc.sourceOrEmpty)).modifyPipeline fun _ =>
        strategy.after settings job bc.contextDir := by
  have hOpened : bc.ensureSource.pipeline = some strategy := bc.pipeline_ensureSource.trans h
  cases hPath : Text.allBlank path with
  | true =>
    have hAfter : strategy.after settings job bc.contextDir = strategy := by
      simp [PipelineStrategy.after, Job.script?, Job.scriptPath, hJob, hPath]
    have hSource : job.source? settings bc.sourceOrEmpty = some bc.sourceOrEmpty := by
      simp [Job.source?, hJob, hPath]
    rw [hAfter, hSource]
    simp only [takeScm, hPath, if_true]
    exact (BuildConfig.modifyPipeline_eq_self _ hOpened rfl).symm
  | false =>
    have hAfter : strategy.after settings job bc.contextDir =
        { strategy with
          scriptPath :=
            (scriptPathUpdate bc.contextDir (currentScriptPath settings strategy) path).or
              strategy.scriptPath } := by
      simp [PipelineStrategy.after, Job.script?, Job.scriptPath, hJob, hPath]
    rw [takeScm_of_not_blank _ hPath, takeRemote_eq, BuildConfig.putScriptPath_eq hOpened, hAfter,
      BuildConfig.sourceOrEmpty_modifyPipeline, BuildConfig.sourceOrEmpty_ensureSource]
    cases hSync : settings.syncRemote with
    | false => simp [Job.source?, hJob, hSync, BuildConfig.putSource, BuildConfig.ensureSource]
    | true =>
      cases checkout with
      | unsupported className =>
        simp [Job.source?, hJob, hPath, hSync, Checkout.git?, BuildConfig.putSource,
          BuildConfig.ensureSource]
      | git scm =>
        simp [Job.source?, hJob, hPath, hSync, Checkout.git?, BuildConfig.putSource,
          BuildConfig.withSource_modifyPipeline, BuildConfig.ensureSource]

theorem takeScript_eq {script : String} {sandbox : Bool}
    (hJob : job.definition = some (.inline script sandbox)) (h : bc.pipeline = some strategy) :
    takeScript script bc strategy =
      (bc.putSource (job.source? settings bc.sourceOrEmpty)).modifyPipeline fun _ =>
        strategy.after settings job bc.contextDir := by
  have hSource : bc.putSource (job.source? settings bc.sourceOrEmpty) = bc := by
    simp [Job.source?, hJob, BuildConfig.putSource]
  rw [hSource]
  by_cases hKeep : (Text.allBlank script || strategy.script == some script) = true
  · have hAfter : strategy.after settings job bc.contextDir = strategy := by
      simp only [PipelineStrategy.after, Job.script?, Job.scriptPath, hJob]
      rcases Bool.or_eq_true_iff.mp hKeep with hBlank | hSame
      · simp [hBlank]
      · rw [beq_iff_eq] at hSame
        cases Text.allBlank script <;> simp [← hSame]
    rw [takeScript, if_pos hKeep, hAfter, bc.modifyPipeline_eq_self h rfl]
  · have hBlank : Text.allBlank script = false := by
      cases hScript : Text.allBlank script with
      | true => exact absurd (by simp [hScript]) hKeep
      | false => rfl
    rw [takeScript, if_neg hKeep]
    apply bc.modifyPipeline_congr h
    simp [PipelineStrategy.after, Job.script?, Job.scriptPath, hJob, hBlank]

theorem takeBranch_of_git {branch : BranchProperty} {scm : GitCheckout}
    (hScm : branch.git? = some scm) (bc : BuildConfig) (strategy : PipelineStrategy) :
    takeBranch settings (some branch) bc strategy =
      (applyCheckout bc scm (some branch.name)).putScriptPath
        (if (scm.remote? (some branch.name)).isSome && (nonempty strategy.scriptPath).isNone then
          some settings.defaultScriptPath else none) := by
  simp only [takeBranch, hScm, GitCheckout.remote?, Option.isSome_map]
  split <;> rfl

theorem takeBranch_eq (hJob : job.FollowsBranch) (h : bc.pipeline = some strategy) :
    takeBranch settings job.branch bc strategy =
      (bc.putSource (job.source? settings bc.sourceOrEmpty)).modifyPipeline fun _ =>
        strategy.after settings job bc.contextDir := by
  rw [hJob.source?_eq, PipelineStrategy.after, hJob.script?_eq, hJob.scriptPath_eq,
    hJob.remote?_eq, Option.none_or]
  cases hBranch : job.branch with
  | none => exact (bc.modifyPipeline_eq_self h rfl).symm
  | some branch =>
    cases hGit : branch.git? with
    | none =>
      simp only [takeBranch, hGit, Option.bind_some]
      exact (bc.modifyPipeline_eq_self h rfl).symm
    | some scm =>
      have hApplied : (applyCheckout bc scm (some branch.name)).pipeline = some strategy := by
        rw [applyCheckout_eq, BuildConfig.pipeline_withSource, h]
      rw [takeBranch_of_git settings hGit, BuildConfig.putScriptPath_eq hApplied, applyCheckout_eq]
      simp only [Option.bind_some, hGit, Option.map_some, BuildConfig.putSource, Option.elim]
      congr 1
      funext _
      split <;> simp_all

theorem updatedBy_branch (hJob : job.FollowsBranch) :
    updatedBy settings job bc strategy = takeBranch settings job.branch bc strategy := by
  rcases hJob with hJob | ⟨className, hJob⟩ <;> simp only [updatedBy, hJob]

end Kinds

/-! ### Reconciling -/

section UpdatedBy

variable (settings : Settings) (job : Job) {bc : BuildConfig} {strategy : PipelineStrategy}

/-- Reconciling replaces the source and the strategy block only. -/
theorem updatedBy_eq (h : bc.pipeline = some strategy) :
    updatedBy settings job bc strategy =
      (bc.putSource (job.source? settings bc.sourceOrEmpty)).modifyPipeline fun _ =>
        strategy.after settings job bc.contextDir := by
  rcases job.kinds with ⟨checkout, path, hJob⟩ | ⟨script, sandbox, hJob⟩ | hJob
  · rw [← takeScm_eq settings hJob h]
    simp only [updatedBy, hJob]
  · rw [← takeScript_eq settings hJob h]
    simp only [updatedBy, hJob]
  · rw [← takeBranch_eq settings hJob h, updatedBy_branch settings hJob]

theorem pipeline_updatedBy (h : bc.pipeline = some strategy) :
    (updatedBy settings job bc strategy).pipeline =
      some (strategy.after settings job bc.contextDir) := by
  rw [updatedBy_eq settings job h, BuildConfig.pipeline_modifyPipeline,
    BuildConfig.pipeline_putSource, h]
  rfl

theorem git_updatedBy (h : bc.pipeline = some strategy) :
    (updatedBy settings job bc strategy).git = pointed bc.git (job.remote? settings) := by
  rw [updatedBy_eq settings job h, BuildConfig.git_modifyPipeline, BuildConfig.git_putSource,
    ← bc.git_sourceOrEmpty, job.git_source?]

theorem frame_updatedBy (h : bc.pipeline = some strategy) :
    (updatedBy settings job bc strategy).frame = bc.frame := by
  rw [updatedBy_eq settings job h, BuildConfig.frame_modifyPipeline]
  cases hSource : job.source? settings bc.sourceOrEmpty with
  | none => rfl
  | some source =>
    obtain ⟨type, git, rfl⟩ := job.source?_eq_some settings hSource
    rw [bc.frame_eq]
    rfl

end UpdatedBy

end BuildSync
