import BuildSync.Event
import BuildSync.Sync.Reconcile

/-!
# The journal of the sync

The events of mapping and reconciling, in the order they are reported.
-/

set_option autoImplicit false

namespace BuildSync

def credentialEvents (bridge : Option Bridge) (bc : BuildConfig) : List Event :=
  match bc.source.bind BuildSource.sourceSecret with
  | none => []
  | some _ =>
    match bridge with
    | none => [.noBridge bc.fullName]
    | some bridge =>
      match (Bridge.consult bridge bc).result with
      | .resolved _ => []
      | .unavailable reason detail => [.secretUnavailable bc.fullName reason detail]

def buildCheckoutEvents (bridge : Option Bridge) (bc : BuildConfig) : List Event :=
  if bc.repository.isNone then [] else credentialEvents bridge bc

def mapEvents (bridge : Option Bridge) (bc : BuildConfig) : List Event :=
  match bc.pipeline with
  | none => []
  | some strategy =>
    .mapping bc.fullName ::
      if (nonempty strategy.script).isSome then []
      else if bc.repository.isNone then [.noRepository bc.fullName]
      else buildCheckoutEvents bridge bc

def applyCheckoutEvents (bc : BuildConfig) (scm : GitCheckout) : List Event :=
  if scm.url?.isNone then [.noRemoteUrl bc.fullName] else []

def takeScmEvents (settings : Settings) (checkout : Checkout) (path : String)
    (bc : BuildConfig) (strategy : PipelineStrategy) : List Event :=
  let scm := checkout.git?
  let secret := (scm.bind (missingSecret bc.source)).toList.map Event.secretRemote
  if Text.allBlank path then secret
  else
    let current := currentScriptPath settings strategy
    let update := (scriptPathUpdate bc.contextDir current path).toList.map fun path =>
      Event.scriptPathUpdate bc.fullName path current
    let remote :=
      match scm with
      | some scm =>
        if settings.syncRemote then applyCheckoutEvents bc (ensureSecret bc.source scm) else []
      | none => []
    secret ++ update ++ remote

def takeScriptEvents (script : String) (bc : BuildConfig) (strategy : PipelineStrategy) :
    List Event :=
  if Text.allBlank script || strategy.script == some script then [] else [.scriptUpdate bc.fullName]

def takeBranchEvents (job : Job) (bc : BuildConfig) : List Event :=
  let refusal := Event.cannotUpdate bc.fullName (definitionLabel job.definition)
  match job.branch.bind BranchProperty.git? with
  | none => [refusal]
  | some scm => if scm.url?.isSome then [] else applyCheckoutEvents bc scm ++ [refusal]

def reconcileEvents (settings : Settings) (job : Job) (bc : BuildConfig) : List Event :=
  match bc.pipeline with
  | none => [.noPipeline bc.fullName]
  | some strategy =>
    let work :=
      match job.definition with
      | some (.scm checkout path) => takeScmEvents settings checkout path bc strategy
      | some (.inline script _) => takeScriptEvents script bc strategy
      | _ => takeBranchEvents job bc
    let changes := (reconcile settings job bc).changes.map fun change =>
      Event.fieldChanged bc.fullName change.field.path
    .updating bc.fullName job.fullName :: work ++ changes

end BuildSync
