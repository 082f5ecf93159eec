import BuildSync.Loading
import BuildSync.Sync.Journal

/-!
# Sessions

A session holds a BuildConfig and its job while one or the other is changed and they are brought in
line again. An action that fails leaves the session as it was.
-/

set_option autoImplicit false

namespace BuildSync

structure Session where
  bc : BuildConfig
  job : Job
  /-- The settings at hand; without them, those of the environment are taken at each action. -/
  settings : Option Settings
  bridge : Option Bridge
  last : Option Outcome

inductive Action
  | map
  | reconcile
  | installScm
  | setJob (job : Value)
  | setBuildConfig (bc : Value)
  | setSettings (arguments : Entries)
  | setScriptPath (path : String)
  /-- A field that is not given stays as it is. -/
  | setStrategy (script scriptPath : Option (Option String))
  | setContextDir (dir : Option String)
  | getSource
  | setRemote (url : String) (ref : Option String)
  | applyCheckout (scm : Value) (refOverride : Option String)
  | saveAndLoad
  | setJobField (field : String)

inductive Answer
  | done
  | flag (b : Bool)
  | paths (paths : List String)
  | note (text : String)
  | invalid (e : ValidationError)
  | notSaved (e : SaveError)
  | notLoaded (e : LoadError)

/-- A session after an action, with the answer and the events that were reported. -/
structure Progress where
  session : Session
  answer : Answer
  events : List Event

/-- Puts a checkout into a definition that reads its script from one. -/
def Job.install (job : Job) (scm : Option GitCheckout) : Job :=
  match scm, job.definition with
  | some scm, some (.scm _ path) => { job with definition := some (.scm (.git scm) path) }
  | _, _ => job

namespace Session

def quiet (s : Session) (answer : Answer) : Progress := ⟨s, answer, []⟩

def checked {α : Type} (s : Session) (value : Except ValidationError α) (action : α → Progress) :
    Progress :=
  match value with
  | .ok a => action a
  | .error e => s.quiet (.invalid e)

def map (env : Environment) (s : Session) : Progress :=
  s.checked (mapResolved (Settings.orAmbient env s.settings) s.bridge s.bc) fun mapped =>
    { session := { s with job := { s.job with definition := mapped.definition } }
      answer := .done
      events := mapEvents s.bridge s.bc }

def reconcile (env : Environment) (s : Session) : Progress :=
  s.checked (Settings.orAmbient env s.settings) fun settings =>
    let outcome := BuildSync.reconcile settings s.job s.bc
    { session :=
        { s with bc := if outcome.changed then outcome.updated else s.bc, last := some outcome }
      answer := .paths (outcome.changes.map fun change => change.field.path)
      events := reconcileEvents settings s.job s.bc }

/-- Installs the checkout of the last outcome, and tells whether the job takes it. -/
def installScm (s : Session) : Progress :=
  match s.last.bind Outcome.scm, s.job.definition with
  | some scm, some (.scm _ _) => quiet { s with job := s.job.install scm } (.flag true)
  | _, _ => s.quiet .done

def setScriptPath (path : String) (s : Session) : Progress :=
  match s.job.definition with
  | some (.scm checkout _) =>
    quiet { s with job := { s.job with definition := some (.scm checkout path) } } .done
  | _ => s.quiet (.note "no scm definition")

def setStrategy (script scriptPath : Option (Option String)) (s : Session) : Progress :=
  if s.bc.pipeline.isNone then s.quiet (.note "no strategy")
  else
    let edit (strategy : PipelineStrategy) : PipelineStrategy :=
      { strategy with
        script := script.getD strategy.script
        scriptPath := scriptPath.getD strategy.scriptPath }
    quiet { s with bc := s.bc.modifyPipeline edit } .done

def setContextDir (dir : Option String) (s : Session) : Progress :=
  quiet { s with bc := s.bc.withSource { s.bc.sourceOrEmpty with contextDir := dir } } .done

def applyCheckout (scm : Value) (refOverride : Option String) (s : Session) : Progress :=
  s.checked (GitCheckout.ofValue scm) fun scm =>
    { session := { s with bc := BuildSync.applyCheckout s.bc scm refOverride }
      answer := .flag scm.url?.isSome
      events := applyCheckoutEvents s.bc scm }

/-- Saves the BuildConfig and loads it again, and tells whether it is written the same. -/
def saveAndLoad (s : Session) : Progress :=
  let path := Path.ofString "bc.yaml"
  let saved := BuildConfig.save ⟨[], []⟩ path s.bc
  match saved.error, BuildConfig.load saved.disk path with
  | some e, _ => s.quiet (.notSaved e)
  | none, .ok bc =>
    { session := s
      answer := .flag (writeBuildConfig bc == writeBuildConfig s.bc)
      events := [loadedBuildConfigEvent path bc] }
  | none, .error e => s.quiet (.notLoaded e)

def setJobField (field : String) (s : Session) : Progress :=
  s.quiet (.invalid ⟨Job.model, [⟨[.key field], .frozen⟩]⟩)

def act (env : Environment) (s : Session) : Action → Progress
  | .map => s.map env
  | .reconcile => s.reconcile env
  | .installScm => s.installScm
  | .setJob job => s.checked (Job.ofValue job) fun job => quiet { s with job := job } .done
  | .setBuildConfig bc =>
    s.checked (BuildConfig.ofValue bc) fun bc => quiet { s with bc := bc } .done
  | .setSettings arguments =>
    s.checked (Settings.ofArguments env arguments) fun settings =>
      quiet { s with settings := some settings } .done
  | .setScriptPath path => s.setScriptPath path
  | .setStrategy script scriptPath => s.setStrategy script scriptPath
  | .setContextDir dir => s.setContextDir dir
  | .getSource => quiet { s with bc := s.bc.ensureSource } (.flag true)
  | .setRemote url ref => quiet { s with bc := s.bc.withRemote url ref } .done
  | .applyCheckout scm refOverride => s.applyCheckout scm refOverride
  | .saveAndLoad => s.saveAndLoad
  | .setJobField field => s.setJobField field

def run (env : Environment) (s : Session) : List Action → List Progress
  | [] => []
  | action :: rest =>
    let progress := s.act env action
    progress :: run env progress.session rest

end Session

end BuildSync
