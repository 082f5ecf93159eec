import BuildSync.Sync.Mapping

/-!
# Reconciling a BuildConfig with its job

The job decides what it carries: a script that is not blank replaces the stored one, and a git
checkout replaces the stored repository and ref. Four fields are tracked, an empty text counting as
no text, and those that differ afterwards are the changes.
-/

set_option autoImplicit false

namespace BuildSync

inductive TrackedField
  | uri
  | ref
  | script
  | scriptPath
  deriving DecidableEq, Repr

namespace TrackedField

def all : List TrackedField := [.uri, .ref, .script, .scriptPath]

theorem mem_all (field : TrackedField) : field ∈ all := by cases field <;> decide

def path : TrackedField → String
  | .uri => "spec.source.git.uri"
  | .ref => "spec.source.git.ref"
  | .script => "spec.strategy.jenkinsPipelineStrategy.jenkinsfile"
  | .scriptPath => "spec.strategy.jenkinsPipelineStrategy.jenkinsfilePath"

end TrackedField

/-- The value of a tracked field, an empty text counting as none. -/
def BuildConfig.tracked (bc : BuildConfig) : TrackedField → Option String
  | .uri => nonempty (bc.git.bind GitSource.uri)
  | .ref => nonempty (bc.git.bind GitSource.ref)
  | .script => nonempty (bc.pipeline.bind PipelineStrategy.script)
  | .scriptPath => nonempty (bc.pipeline.bind PipelineStrategy.scriptPath)

structure TrackedChange where
  field : TrackedField
  before : Option String
  after : Option String
  deriving DecidableEq, Repr

def changesBetween (before after : BuildConfig) : List TrackedChange :=
  TrackedField.all.filterMap fun field =>
    if before.tracked field = after.tracked field then none
    else some ⟨field, before.tracked field, after.tracked field⟩

theorem mem_changesBetween_iff {before after : BuildConfig} {change : TrackedChange} :
    change ∈ changesBetween before after ↔
      change.before = before.tracked change.field ∧ change.after = after.tracked change.field ∧
        change.before ≠ change.after := by
  obtain ⟨field, old, new⟩ := change
  simp only [changesBetween, List.mem_filterMap, TrackedField.mem_all, true_and]
  constructor
  · rintro ⟨f, hf⟩
    split at hf
    · cases hf
    · rename_i h
      cases hf
      exact ⟨rfl, rfl, h⟩
  · rintro ⟨rfl, rfl, h⟩
    exact ⟨field, if_neg h⟩

def GitCheckout.carries (scm : GitCheckout) (secret : String) : Bool :=
  scm.remotes.any fun remote => remote.credentialsId == some secret

def missingSecret (source : Option BuildSource) (scm : GitCheckout) : Option String :=
  match source.bind BuildSource.sourceSecret with
  | none => none
  | some secret => if scm.carries secret.name then none else some secret.name

def ensureSecret (source : Option BuildSource) (scm : GitCheckout) : GitCheckout :=
  match missingSecret source scm with
  | none => scm
  | some secret => scm.addRemote { Remote.empty with credentialsId := some secret }

/-- The script path to store for the one that a job runs, both compared as seen from the root of
the checkout. None where they are the same file. -/
def scriptPathUpdate (contextDir : Option String) (current path : String) : Option String :=
  match nonempty contextDir with
  | some dir =>
    if Path.normalize path = Path.join dir current then none else some (Path.fromContext path dir)
  | none => if Path.normalize path = Path.normalize current then none else some path

def BuildConfig.withScriptPath (bc : BuildConfig) (path : String) : BuildConfig :=
  bc.modifyPipeline fun strategy => { strategy with scriptPath := some path }

def BuildConfig.withScript (bc : BuildConfig) (script : String) : BuildConfig :=
  bc.modifyPipeline fun strategy => { strategy with script := some script }

/-- Takes over the script path of a checkout definition that is not blank, and with `syncRemote`
the checkout. -/
def takeScm (settings : Settings) (checkout : Checkout) (path : String) (bc : BuildConfig)
    (strategy : PipelineStrategy) : BuildConfig :=
  let bc := bc.ensureSource
  if Text.allBlank path then bc
  else
    let bc :=
      match scriptPathUpdate bc.contextDir (currentScriptPath settings strategy) path with
      | some path => bc.withScriptPath path
      | none => bc
    match checkout.git? with
    | some scm =>
      if settings.syncRemote then applyCheckout bc (ensureSecret bc.source scm) none else bc
    | none => bc

def takeScript (script : String) (bc : BuildConfig) (strategy : PipelineStrategy) :
    BuildConfig :=
  if Text.allBlank script || strategy.script == some script then bc else bc.withScript script

def BranchProperty.git? (branch : BranchProperty) : Option GitCheckout :=
  branch.checkout.bind Checkout.git?

/-- Takes over the checkout and the name of a discovered branch, and the default script path where
none is stored. -/
def takeBranch (settings : Settings) (branch : Option BranchProperty) (bc : BuildConfig)
    (strategy : PipelineStrategy) : BuildConfig :=
  match branch with
  | none => bc
  | some branch =>
    match branch.git? with
    | none => bc
    | some scm =>
      let applied := applyCheckout bc scm (some branch.name)
      if scm.url?.isSome && (nonempty strategy.scriptPath).isNone then
        applied.withScriptPath settings.defaultScriptPath
      else applied

/-- A BuildConfig brought in line with its job, what changed, and the job's checkout with an entry
for the source secret. -/
structure Outcome where
  updated : BuildConfig
  changes : List TrackedChange
  scm : Option GitCheckout

def Outcome.changed (outcome : Outcome) : Bool := !outcome.changes.isEmpty

def updatedBy (settings : Settings) (job : Job) (bc : BuildConfig) (strategy : PipelineStrategy) :
    BuildConfig :=
  match job.definition with
  | some (.scm checkout path) => takeScm settings checkout path bc strategy
  | some (.inline script _) => takeScript script bc strategy
  | _ => takeBranch settings job.branch bc strategy

/-- The git checkout of a job that reads its script from one. -/
def Job.scriptCheckout (job : Job) : Option GitCheckout :=
  match job.definition with
  | some (.scm checkout _) => checkout.git?
  | _ => none

/-- Brings a BuildConfig in line with its job. Nothing happens unless it is a pipeline build. -/
def reconcile (settings : Settings) (job : Job) (bc : BuildConfig) : Outcome :=
  match bc.pipeline with
  | none => ⟨bc, [], none⟩
  | some strategy =>
    let updated := updatedBy settings job bc strategy
    { updated := updated
      changes := changesBetween bc updated
      scm := job.scriptCheckout.map (ensureSecret bc.source) }

end BuildSync
